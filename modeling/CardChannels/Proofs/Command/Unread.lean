import CardChannels.Proofs.Command.OpenTable
import CardChannels.Proofs.Command.Reading
import CardChannels.Proofs.Tlv.Envelopes

/-!
# Objects that are not looked for

A command is read from the first objects with certain tags, and an open command also from the
addresses on either side of the transport. Any other object can be put in or left out, wherever it
stands.
-/
namespace CardChannels

/-- The tags that the reading of a command looks for. -/
def Command.tagsRead : List Tag :=
  [.commandDetails, .deviceIdentities, .alphaId, .textString, .eventList, .iconId,
   .bearerDescription, .channelData, .channelDataLength, .bufferSize, .transportLevel,
   .otherAddress, .networkAccessName]

example : Command.tagsRead.map Tag.code =
    [0x01, 0x02, 0x05, 0x0D, 0x19, 0x1E, 0x35, 0x36, 0x37, 0x39, 0x3C, 0x3E, 0x47] := rfl

/-- An object with none of these tags. -/
def Tlv.Unread (t : Tlv) : Prop := t.tag ∉ Command.tagsRead.map Tag.code

instance : DecidablePred Tlv.Unread := fun t =>
  inferInstanceAs (Decidable (t.tag ∉ Command.tagsRead.map Tag.code))

theorem Tlv.Unread.hasTag {t : Tlv} (h : t.Unread) {tag : Tag} (read : tag ∈ Command.tagsRead) :
    t.hasTag tag = false := by
  rw [Tlv.hasTag, decide_eq_false_iff_not]
  exact fun same => h (same ▸ List.mem_map_of_mem read)

/-- An object with another tag is passed over. -/
theorem Tlv.find?_insert {t : Tlv} {tag : Tag} (other : t.hasTag tag = false) (a b : List Tlv) :
    find? (a ++ t :: b) tag = find? (a ++ b) tag := by
  simp [find?, List.find?_append, other]

/-! The settings that parts give -/

theorem Bytes.ofWord_append_inj {w w' : UInt16} {rest rest' : Bytes}
    (same : ofWord w ++ rest = ofWord w' ++ rest') : w = w' := by
  have high := congrArg (·[0]?) same
  have low := congrArg (·[1]?) same
  simp only [ofWord, List.cons_append, List.getElem?_cons_zero, List.getElem?_cons_succ,
    Option.some.injEq] at high low
  rw [← word_ofWord w, ← word_ofWord w', high, low]

theorem TransportProtocol.ofCode?_code (p : TransportProtocol) : ofCode? p.code = some p := by
  cases p <;> decide

namespace OpenChannel

/-- The code of a protocol tells the protocol. -/
theorem protocol_inj {p q : TransportProtocol} (same : p.code = q.code) : p = q :=
  Option.some.inj ((p.ofCode?_code).symm.trans (same ▸ q.ofCode?_code))

/-- The value of a bearer tells the bearer. -/
theorem bearer_inj {b b' : BearerDescription} (same : b.toTlv.value = b'.toTlv.value) : b = b' := by
  obtain ⟨code, parameters⟩ := b
  obtain ⟨code', parameters'⟩ := b'
  obtain ⟨rfl, rfl⟩ := List.cons.inj same
  rfl

/-- The value of an address tells the address. -/
theorem address_inj {ip ip' : Ipv4} (same : ip.toTlv.value = ip'.toTlv.value) : ip = ip' := by
  obtain ⟨a, b, c, d⟩ := ip
  obtain ⟨a', b', c', d'⟩ := ip'
  simpa [Ipv4.toTlv, Tlv.known, Tlv.value] using same

variable {p : Parts} {s s' : ChannelSettings} {objects objects' a b : List Tlv} {t : Tlv}

/-- A text is told by the object that has it, and there is none without one. -/
theorem text_unique {u : Option Tlv} {x y : Option String}
    (h : (u = none → x = none) ∧ ∀ t ∈ u, TextString.decode t.value = .ok x)
    (h' : (u = none → y = none) ∧ ∀ t ∈ u, TextString.decode t.value = .ok y) : x = y := by
  cases u with
  | none => rw [h.1 rfl, h'.1 rfl]
  | some t => exact Except.ok.inj ((h.2 t rfl).symm.trans (h'.2 t rfl))

/-- A name that is not empty is told by the object that has it. -/
theorem name_unique {u : Option Tlv} {x y : Option String}
    (h : x ≠ some "" ∧ (u = none → x = none) ∧
      ∀ t ∈ u, AccessName.decode t.value = .ok (x.getD ""))
    (h' : y ≠ some "" ∧ (u = none → y = none) ∧
      ∀ t ∈ u, AccessName.decode t.value = .ok (y.getD "")) : x = y := by
  cases u with
  | none => rw [h.2.1 rfl, h'.2.1 rfl]
  | some t =>
    have same := Except.ok.inj ((h.2.2 t rfl).symm.trans (h'.2.2 t rfl))
    cases x <;> cases y <;> simp_all

/-- Parts give one settings only. -/
theorem Parts.Give.unique (h : p.Give s) (h' : p.Give s') : s = s' := by
  obtain ⟨t, ht, rest, value⟩ := h.transport
  obtain ⟨u, hu, rest', value'⟩ := h'.transport
  cases Option.some.inj (ht.symm.trans hu)
  obtain ⟨protocol, port⟩ := List.cons.inj (value.symm.trans value')
  obtain ⟨v, hv, rest₂, size⟩ := h.size
  obtain ⟨w, hw, rest₂', size'⟩ := h'.size
  cases Option.some.inj (hv.symm.trans hw)
  have bearer : s.bearer = s'.bearer :=
    Option.map_injective (fun _ _ => bearer_inj) (h.bearer.trans h'.bearer.symm)
  have destination : s.destination = s'.destination :=
    Option.map_injective (fun _ _ => address_inj) (h.destination.trans h'.destination.symm)
  have own : s.localAddress = s'.localAddress :=
    Option.map_injective (fun _ _ => address_inj) (h.localAddress.trans h'.localAddress.symm)
  have access := name_unique h.access h'.access
  have login := text_unique h.login h'.login
  have password := text_unique h.password h'.password
  cases s
  cases s'
  rw [ChannelSettings.mk.injEq]
  exact ⟨h.channel.trans h'.channel.symm, protocol_inj protocol, Bytes.ofWord_append_inj port,
    Bytes.ofWord_append_inj (size.symm.trans size'), destination, own, bearer, access, login,
    password⟩

/-- The settings, or why there are none, depend on the parts only. -/
theorem settings_congr (same : parts objects = parts objects') :
    settings objects = settings objects' := by
  have refused : Refusal.of? (settings objects) = Refusal.of? (settings objects') := by
    rw [of?_settings, of?_settings, same]
  cases h : settings objects with
  | ok s =>
    cases h' : settings objects' with
    | ok s' =>
      have give : (parts objects').Give s := same ▸ give_of_settings h
      rw [give.unique (give_of_settings h')]
    | error refusal => simp [h, h'] at refused
  | error refusal =>
    cases h' : settings objects' with
    | ok s' => simp [h, h'] at refused
    | error refusal' => simpa [h, h'] using refused

/-! Where an object stands -/

/-- In front of the transport the same address is found, whether or not another object stands
anywhere. -/
theorem own_insert (transport : t.hasTag .transportLevel = false)
    (address : t.hasTag .otherAddress = false) (a b : List Tlv) :
    Tlv.find? (front (a ++ t :: b)) .otherAddress = Tlv.find? (front (a ++ b)) .otherAddress := by
  induction a with
  | nil => simp [front, transport, Tlv.find?, address]
  | cons u a ih =>
    simp only [front, Tlv.find?, List.cons_append, List.takeWhile_cons] at ih ⊢
    split
    · rw [List.find?_cons, List.find?_cons, ih]
    · rfl

/-- Behind the transport the same address is found as well. -/
theorem partner_insert (transport : t.hasTag .transportLevel = false)
    (address : t.hasTag .otherAddress = false) (a b : List Tlv) :
    Tlv.find? (behind (a ++ t :: b)) .otherAddress = Tlv.find? (behind (a ++ b)) .otherAddress := by
  induction a with
  | nil => simp [behind, transport]
  | cons u a ih =>
    simp only [behind, List.cons_append, List.dropWhile_cons] at ih ⊢
    split
    · exact ih
    · exact Tlv.find?_insert address a b

/-- The parts are told alike with an object and without it, if the reading of an open looks for no
such object. -/
theorem parts_insert (other : ∀ tag ∈ Command.tagsRead.erase .iconId, t.hasTag tag = false)
    (a b : List Tlv) : parts (a ++ t :: b) = parts (a ++ b) := by
  have transport : t.hasTag .transportLevel = false := other _ (by decide)
  have address : t.hasTag .otherAddress = false := other _ (by decide)
  have text : t.hasTag .textString = false := other _ (by decide)
  have texts : texts (a ++ t :: b) = texts (a ++ b) := by
    simp [OpenChannel.texts, List.filter_append, text]
  rw [parts, parts, own_insert transport address, partner_insert transport address, texts,
    Tlv.find?_insert transport, Tlv.find?_insert (other .bearerDescription (by decide)),
    Tlv.find?_insert (other .bufferSize (by decide)),
    Tlv.find?_insert (other .networkAccessName (by decide))]

end OpenChannel

namespace Command

variable {t : Tlv} {details : CommandDetails}

/-- What a command asks for is read alike with an object that only an icon is read from, or nothing,
and without it. -/
theorem instructionOf_insert (other : ∀ tag ∈ tagsRead.erase .iconId, t.hasTag tag = false)
    (kind : CommandKind) (a b : List Tlv) :
    instructionOf kind (a ++ t :: b) = instructionOf kind (a ++ b) := by
  have found {tag : Tag} (read : tag ∈ tagsRead.erase .iconId) :
      Tlv.find? (a ++ t :: b) tag = Tlv.find? (a ++ b) tag :=
    Tlv.find?_insert (other tag read) a b
  have channel : channelOf (a ++ t :: b) = channelOf (a ++ b) := by
    rw [channelOf, channelOf, found (by decide)]
  cases kind with
  | setUpEventList =>
    simp only [instructionOf, found (show Tag.eventList ∈ tagsRead.erase .iconId by decide)]
  | openChannel =>
    simp only [instructionOf, OpenChannel.settings_congr (OpenChannel.parts_insert other a b)]
  | closeChannel => simp only [instructionOf, channel]
  | receiveData =>
    simp only [instructionOf, channel,
      found (show Tag.channelDataLength ∈ tagsRead.erase .iconId by decide)]
  | sendData =>
    simp only [instructionOf, channel,
      found (show Tag.channelData ∈ tagsRead.erase .iconId by decide)]
  | getChannelStatus => rfl

/-- What objects say is read alike with an object that is not looked for and without it. -/
theorem ofObjects_insert (unread : t.Unread) (details : CommandDetails) (a b : List Tlv) :
    ofObjects details (a ++ t :: b) = ofObjects details (a ++ b) := by
  have other (tag : Tag) (read : tag ∈ tagsRead.erase .iconId) : t.hasTag tag = false :=
    unread.hasTag (List.mem_of_mem_erase read)
  simp only [ofObjects, instructionOf_insert other, iconOf, Objects.optional,
    Tlv.find?_insert (unread.hasTag (show Tag.alphaId ∈ tagsRead by decide)),
    Tlv.find?_insert (unread.hasTag (show Tag.iconId ∈ tagsRead by decide))]

end Command

/-- A command is read alike with an object that is not looked for and without it, wherever between
its objects that object stands, and so it goes on alike once its images are there. -/
theorem unread_objects_ignored (reader : CommandReader) {images : List Bytes} {objects : List Tlv}
    {image back : Bytes} {t : Tlv} (front : List.Forall₂ Tlv.Image images objects)
    (whole : Tlv.Image image t) (unread : t.Unread)
    (fits : (images.flatten ++ (image ++ back)).length ≤ Tlv.maxLength) :
    ∃ raw raw', Envelope.wrap Envelope.proactiveCommand (images.flatten ++ back) = .ok raw ∧
      Envelope.wrap Envelope.proactiveCommand (images.flatten ++ (image ++ back)) = .ok raw' ∧
      reader.read raw' = reader.read raw ∧
      ∀ loaded, (reader.read raw').1.iconsLoaded loaded =
        (reader.read raw).1.iconsLoaded loaded := by
  have fits' : (images.flatten ++ back).length ≤ Tlv.maxLength := by
    simp only [List.length_append] at fits ⊢
    omega
  obtain ⟨rest, holds, -⟩ := Tlv.holds_decodeFrom back
  have same : reader.read (Envelope.bytes Envelope.proactiveCommand
      (images.flatten ++ (image ++ back))) =
        reader.read (Envelope.bytes Envelope.proactiveCommand (images.flatten ++ back)) := by
    apply CommandReader.read_congr
    rw [Command.ofBytes_of_holds (Envelope.unwrap_bytes _ fits) ((holds.cons whole).behind front),
      Command.ofBytes_of_holds (Envelope.unwrap_bytes _ fits') (holds.behind front)]
    simp only [Tlv.find?_insert (unread.hasTag (show Tag.commandDetails ∈ _ by decide)),
      Command.ofObjects_insert unread]
  exact ⟨_, _, Envelope.wrap_eq_ok fits', Envelope.wrap_eq_ok fits, same, fun _ => by rw [same]⟩

/-- The details of an open command, its devices, a buffer size and the terminal's own address. -/
def openFront : List Bytes :=
  [[0x81, 0x03, 0x01, 0x40, 0x01], [0x82, 0x02, 0x81, 0x82], [0xB9, 0x02, 0x01, 0x00],
   [0xBE, 0x05, 0x21, 0xC0, 0xA8, 0x01, 0x02]]

/-- A transport inside the terminal and an icon. -/
def openBack : Bytes := [0xBC, 0x03, 0x04, 0x00, 0x09, 0x9E, 0x02, 0x00, 0x05]

/-- An object that must be understood and whose tag nothing looks for. -/
def oddObject : Bytes := [0x7F, 0xEE, 0x6E, 0x01, 0xAA]

/-- The open command waits for its icon with the same settings, whether or not the odd object stands
between the address and the transport. -/
theorem odd_object_ignored :
    ∃ objects t raw raw' command, List.Forall₂ Tlv.Image openFront objects ∧
      Tlv.Image oddObject t ∧ t.Unread ∧
      (openFront.flatten ++ (oddObject ++ openBack)).length ≤ Tlv.maxLength ∧
      Envelope.wrap 0xD0 (openFront.flatten ++ openBack) = .ok raw ∧
      Envelope.wrap 0xD0 (openFront.flatten ++ (oddObject ++ openBack)) = .ok raw' ∧
      CommandReader.idle.read raw = (⟨some command⟩, .loadIcons [5]) ∧
      CommandReader.idle.read raw' = (⟨some command⟩, .loadIcons [5]) := by
  have front : List.Forall₂ Tlv.Image openFront
      [.leaf 0x01 true [0x01, 0x40, 0x01], .leaf 0x02 true [0x81, 0x82],
       .leaf 0x39 true [0x01, 0x00], .leaf 0x3E true [0x21, 0xC0, 0xA8, 0x01, 0x02]] :=
    .cons (Tlv.image_of_read 0 rfl) (.cons (Tlv.image_of_read 0 rfl)
      (.cons (Tlv.image_of_read 0 rfl) (.cons (Tlv.image_of_read 0 rfl) .nil)))
  have odd : Tlv.Image oddObject (.leaf 0x6E6E true [0xAA]) := Tlv.image_of_read 0 rfl
  have unread : Tlv.Unread (.leaf 0x6E6E true [0xAA]) := by decide
  have fits : (openFront.flatten ++ (oddObject ++ openBack)).length ≤ Tlv.maxLength := by decide
  obtain ⟨raw, raw', wraps, wraps', same, -⟩ :=
    unread_objects_ignored .idle front odd unread fits
  obtain rfl : 0xD0 :: 0x1D :: (openFront.flatten ++ openBack) = raw := Except.ok.inj wraps
  have waits : CommandReader.idle.read (0xD0 :: 0x1D :: (openFront.flatten ++ openBack)) =
      (⟨some ⟨⟨1, 0x40, 0x01, true⟩, none, some 5, [], false, .openChannel
        ⟨none, .udpClientLocal, 9, 0x0100, none, some ⟨192, 168, 1, 2⟩, none, none, none, none⟩⟩⟩,
        .loadIcons [5]) := by decide +kernel
  exact ⟨_, _, _, _, _, front, odd, unread, fits, wraps, wraps', waits, same.trans waits⟩

end CardChannels
