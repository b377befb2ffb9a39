import CardChannels.Proofs.Tlv.Envelopes
import CardChannels.Proofs.Tlv.Grammar
import CardChannels.Response

/-!
# Reading answers and events

Each object of an answer or event tells one thing, which its tag and value show. The main statement
is that whatever is written for an answer or an event is read to its end and tells, in order,
everything that the answer or event is made of. Only a count above `0xFF` is not told in full.
-/
namespace CardChannels

/-- What one object of an answer or event tells. -/
inductive Item where
  | details (details : CommandDetails)
  | devices (devices : DeviceIdentities)
  | result (result : ResultCode) (info : Option UInt8)
  | event (event : ChannelEvent)
  | status (word : UInt16)
  | bearer (bearer : BearerDescription)
  | bufferSize (size : UInt16)
  | data (data : Bytes)
  | count (n : Nat)
deriving DecidableEq

namespace Item

/-- The result in the value of an object, with the byte of additional information if there is
one. -/
def ofResult? : Bytes → Option Item
  | [code] => (ResultCode.ofCode? code).map (.result · none)
  | [code, info] => (ResultCode.ofCode? code).map (.result · (some info))
  | _ => none

def ofEvent? : Bytes → Option Item
  | [code] => (ChannelEvent.ofCode? code).map .event
  | _ => none

def ofStatus? : Bytes → Option Item
  | [high, low] => some (.status (Bytes.word high low))
  | _ => none

def ofCount? : Bytes → Option Item
  | [n] => some (.count n.toNat)
  | _ => none

/-- What an object tells, if its tag is one of those in answers and events. -/
def ofTlv? (t : Tlv) : Option Item :=
  match Tag.ofCode? t.tag with
  | some .commandDetails => (CommandDetails.ofTlv t).toOption.map .details
  | some .deviceIdentities => (DeviceIdentities.ofTlv t).toOption.map .devices
  | some .result => ofResult? t.value
  | some .eventList => ofEvent? t.value
  | some .channelStatus => ofStatus? t.value
  | some .bearerDescription => (BearerDescription.ofTlv t).toOption.map .bearer
  | some .bufferSize => (BufferSize.ofTlv t).toOption.map .bufferSize
  | some .channelData => some (.data t.value)
  | some .channelDataLength => ofCount? t.value
  | _ => none

end Item

/-- What a payload has to tell, in order. -/
def Payload.items : Payload → List Item
  | .openChannel status bearer bufferSize =>
    (status.map fun s => .status s.word).toList ++ (bearer.map .bearer).toList ++
      [.bufferSize bufferSize]
  | .sendData freeSpace => [.count (min freeSpace 0xFF)]
  | .receiveData data remaining => [.data data, .count (min remaining 0xFF)]
  | .channelStatus words => words.map .status

/-- What an answer has to tell, in order. -/
def TerminalResponse.items (r : TerminalResponse) : List Item :=
  .details r.details :: .devices ⟨0x82, 0x81⟩ :: .result r.result r.info ::
    (r.data.map Payload.items).getD []

/-- What an event has to tell, in order. -/
def EventDownload.items (e : EventDownload) : List Item :=
  .event e.event :: .devices ⟨0x82, 0x81⟩ ::
    match e with
    | .dataAvailable status available => [.status status.word, .count (min available 0xFF)]
    | .channelStatus status => [.status status.word]

/-- Bytes that are read to their end as objects, which tell some items in order. -/
structure Tells (bytes : Bytes) (objects : List Tlv) (items : List Item) : Prop where
  read : Tlv.decodeAll bytes = .ok objects
  whole : ∃ images, Tlv.Split bytes images objects []
  told : objects.map Item.ofTlv? = items.map some

/-! Single objects -/

namespace Item

theorem ofTlv?_details (d : CommandDetails) : ofTlv? d.toTlv = some (.details d) := rfl

theorem ofTlv?_devices (d : DeviceIdentities) : ofTlv? d.toTlv = some (.devices d) := rfl

theorem ofTlv?_result (result : ResultCode) (info : Option UInt8) :
    ofTlv? (.known .result (result.code :: info.toList)) = some (.result result info) := by
  cases result <;> cases info <;> rfl

theorem ofTlv?_event (event : ChannelEvent) :
    ofTlv? (.known .eventList [event.code]) = some (.event event) := by
  cases event <;> rfl

theorem ofTlv?_status (word : UInt16) :
    ofTlv? (ChannelStatus.tlvOfWord word) = some (.status word) :=
  congrArg (fun word => some (status word)) (Bytes.word_ofWord word)

theorem ofTlv?_bearer (b : BearerDescription) : ofTlv? b.toTlv = some (.bearer b) := rfl

theorem ofTlv?_bufferSize (size : UInt16) :
    ofTlv? (BufferSize.toTlv size) = some (.bufferSize size) :=
  congrArg (fun size => some (bufferSize size)) (Bytes.word_ofWord size)

theorem ofTlv?_data (bytes : Bytes) : ofTlv? (.known .channelData bytes) = some (.data bytes) := rfl

theorem ofTlv?_count (n : Nat) : ofTlv? (countTlv n) = some (.count (min n 0xFF)) := by
  have hn : (UInt8.ofNat (min n maxReported)).toNat = min n 0xFF := by
    rw [UInt8.toNat_ofNat', maxReported]
    omega
  exact congrArg (fun n => some (count n)) hn

end Item

/-! Objects in a row -/

theorem Payload.told (data : Payload) :
    data.objects.map Item.ofTlv? = data.items.map some := by
  cases data with
  | openChannel status bearer bufferSize =>
    cases status <;> cases bearer <;>
      simp [objects, items, Item.ofTlv?_status, Item.ofTlv?_bearer, Item.ofTlv?_bufferSize]
  | sendData freeSpace => simp [objects, items, Item.ofTlv?_count]
  | receiveData data remaining => simp [objects, items, Item.ofTlv?_data, Item.ofTlv?_count]
  | channelStatus words => simp [objects, items, Item.ofTlv?_status]

theorem TerminalResponse.told (r : TerminalResponse) :
    r.objects.map Item.ofTlv? = r.items.map some := by
  cases hdata : r.data with
  | none =>
    simp [objects, items, hdata, Item.ofTlv?_details, Item.ofTlv?_devices, Item.ofTlv?_result,
      DeviceIdentities.terminalToCard, Device.terminal, Device.card]
  | some data =>
    simp [objects, items, hdata, data.told, Item.ofTlv?_details, Item.ofTlv?_devices,
      Item.ofTlv?_result, DeviceIdentities.terminalToCard, Device.terminal, Device.card]

theorem EventDownload.told (e : EventDownload) :
    e.objects.map Item.ofTlv? = e.items.map some := by
  cases e <;>
    simp [objects, items, Item.ofTlv?_event, Item.ofTlv?_devices, Item.ofTlv?_status,
      Item.ofTlv?_count, DeviceIdentities.terminalToCard, Device.terminal, Device.card]

namespace Tlv

/-- Whether an object is one that answers and events are made of: a leaf with a known tag. -/
def Plain (t : Tlv) : Prop := t.tag ≤ 0x7FFF ∧ t.image = t

theorem plain_leaf (tag : Tag) (required : Bool) (value : Bytes) :
    Plain (.leaf tag.code required value) := by
  have small : tag.code ≤ 0x7FFF := by cases tag <;> decide
  exact ⟨small, rfl⟩

end Tlv

theorem Payload.plain (data : Payload) : ∀ t ∈ data.objects, t.Plain := by
  cases data with
  | openChannel status bearer bufferSize =>
    simp only [objects, List.forall_mem_append, List.forall_mem_singleton]
    refine ⟨⟨?_, ?_⟩, Tlv.plain_leaf ..⟩
    · cases status <;> simp [ChannelStatus.tlvOfWord, Tlv.known, Tlv.plain_leaf]
    · cases bearer <;> simp [BearerDescription.toTlv, Tlv.known, Tlv.plain_leaf]
  | sendData freeSpace => simp [objects, countTlv, Tlv.known, Tlv.plain_leaf]
  | receiveData data remaining => simp [objects, countTlv, Tlv.known, Tlv.plain_leaf]
  | channelStatus words =>
    simp [objects, ChannelStatus.tlvOfWord, Tlv.known, Tlv.plain_leaf]

theorem TerminalResponse.plain (r : TerminalResponse) : ∀ t ∈ r.objects, t.Plain := by
  simp only [objects, List.forall_mem_cons]
  refine ⟨Tlv.plain_leaf .., Tlv.plain_leaf .., Tlv.plain_leaf .., ?_⟩
  cases r.data with
  | none => simp
  | some data => exact data.plain

theorem EventDownload.plain (e : EventDownload) : ∀ t ∈ e.objects, t.Plain := by
  simp only [objects, List.forall_mem_cons]
  refine ⟨Tlv.plain_leaf .., Tlv.plain_leaf .., ?_⟩
  cases e <;> simp [ChannelStatus.tlvOfWord, countTlv, Tlv.known, Tlv.plain_leaf]

/-! Writing and reading -/

namespace Tlv

variable {t : Tlv} {ts : List Tlv} {bs : Bytes}

theorem length_le_of_oversize? (h : t.oversize? = none) : t.length ≤ maxLength := by
  by_contra long
  cases t with
  | leaf tag required value =>
    rw [length] at long
    rw [oversize?, if_pos (Nat.not_le.mp long)] at h
    cases h
  | node tag required cs =>
    rw [length] at long
    rw [oversize?, if_pos (Nat.not_le.mp long)] at h
    cases h

theorem of_encode (h : t.encode = .ok bs) : t.length ≤ maxLength ∧ bs = t.bytes := by
  unfold encode at h
  split at h
  · cases h
  · rename_i hfits
    cases h
    exact ⟨length_le_of_oversize? hfits, rfl⟩

/-- Objects in a row are written when the length of each fits. -/
theorem of_encodeAll (h : encodeAll ts = .ok bs) :
    (∀ t ∈ ts, t.length ≤ maxLength) ∧ bs = allBytes ts := by
  induction ts generalizing bs with
  | nil =>
    cases h
    exact ⟨by simp, rfl⟩
  | cons t ts ih =>
    rw [encodeAll] at h
    rcases ht : t.encode with fault | first
    · rw [ht] at h
      cases h
    · rcases hts : encodeAll ts with fault | more
      · rw [ht, hts] at h
        cases h
      · rw [ht, hts] at h
        cases h
        obtain ⟨hfits, rfl⟩ := of_encode ht
        obtain ⟨hall, rfl⟩ := ih hts
        exact ⟨List.forall_mem_cons.mpr ⟨hfits, hall⟩, rfl⟩

/-- A plain object that fits is its own image. -/
theorem Plain.image_bytes (plain : t.Plain) (fits : t.length ≤ maxLength) : Image t.bytes t := by
  have hread := read_bytes plain.1 fits 0 []
  rw [plain.2, List.append_nil] at hread
  exact image_of_read 0 hread

/-- Plain objects in a row that fit are read back from their bytes, and nothing else is there. -/
theorem split_allBytes (plain : ∀ t ∈ ts, t.Plain) (fits : ∀ t ∈ ts, t.length ≤ maxLength) :
    Split (allBytes ts) (ts.map bytes) ts [] := by
  induction ts with
  | nil => exact ⟨rfl, .nil⟩
  | cons t ts ih =>
    rw [List.forall_mem_cons] at plain fits
    exact .cons (plain.1.image_bytes fits.1) (ih plain.2 fits.2)

end Tlv

/-- Plain objects in a row that fit tell from their bytes what each of them tells. -/
theorem tells_allBytes {objects : List Tlv} {items : List Item} (plain : ∀ t ∈ objects, t.Plain)
    (fits : ∀ t ∈ objects, t.length ≤ Tlv.maxLength)
    (told : objects.map Item.ofTlv? = items.map some) :
    Tells (Tlv.allBytes objects) objects items := by
  have whole := Tlv.split_allBytes plain fits
  exact ⟨Tlv.decodeAll_eq_ok_iff.mpr ⟨_, _, whole, by simp [Tlv.EndsObjects]⟩, ⟨_, whole⟩, told⟩

/-- No event is too long. -/
theorem EventDownload.fits (e : EventDownload) :
    (∀ t ∈ e.objects, t.length ≤ Tlv.maxLength) ∧
      (Tlv.allBytes e.objects).length ≤ Tlv.maxLength := by
  have total : Tlv.totalSize e.objects ≤ Tlv.maxLength := by
    cases e <;> simp [objects, DeviceIdentities.toTlv, ChannelStatus.tlvOfWord, countTlv,
      Tlv.known, Tlv.totalSize, Tlv.length, Bytes.ofWord, Tlv.lengthFieldSize, Tlv.tagSize,
      Tlv.shortTag, Tlv.tag, Tlv.maxLength, Tag.code]
  refine ⟨fun t ht => Nat.le_trans (Nat.le_of_lt (Tlv.length_lt_totalSize ht)) total, ?_⟩
  rwa [Tlv.length_allBytes fun t _ => t.length_contents]

theorem EventDownload.encode_eq_ok (e : EventDownload) : ∃ download, e.encode = .ok download := by
  obtain ⟨fits, whole⟩ := e.fits
  rw [EventDownload.encode, Tlv.encodeAll_eq_ok fits]
  exact ⟨_, Envelope.wrap_eq_ok whole⟩

/-- Whatever is written for an answer is read to its end and tells all that the answer is made of.
Every event is written, and the envelope around it holds what tells all of the event. -/
theorem written_tells_all {r : TerminalResponse} {bytes : Bytes} (written : r.encode = .ok bytes)
    (e : EventDownload) :
    Tells bytes r.objects r.items ∧
      ∃ download contents, e.encode = .ok download ∧
        Envelope.unwrap download 0xD6 = .ok contents ∧ Tells contents e.objects e.items := by
  constructor
  · obtain ⟨fits, rfl⟩ := Tlv.of_encodeAll written
    exact tells_allBytes r.plain fits r.told
  · obtain ⟨fits, whole⟩ := e.fits
    refine ⟨_, _, ?_, Envelope.unwrap_bytes _ whole, tells_allBytes e.plain fits e.told⟩
    rw [EventDownload.encode, Tlv.encodeAll_eq_ok fits]
    exact Envelope.wrap_eq_ok whole

/-- The answer to a receive of more bytes than a length of one byte can tell, with more left than a
count can. -/
def longAnswer : TerminalResponse :=
  ⟨⟨1, CommandKind.receiveData.code, 0, false⟩, .bipError, some 0x05,
    some (.receiveData (List.replicate 200 0xAB) 1000)⟩

theorem longAnswer_tells_all :
    ∃ bytes, longAnswer.encode = .ok bytes ∧
      Tells bytes longAnswer.objects
        [.details longAnswer.details, .devices ⟨0x82, 0x81⟩, .result .bipError (some 0x05),
          .data (List.replicate 200 0xAB), .count 255] ∧
      ∃ download contents,
        (EventDownload.dataAvailable (.plain 3 .established) 300).encode = .ok download ∧
        Envelope.unwrap download 0xD6 = .ok contents ∧
        Tells contents (EventDownload.dataAvailable (.plain 3 .established) 300).objects
          [.event .dataAvailable, .devices ⟨0x82, 0x81⟩, .status 0x8300, .count 255] := by
  have fits : ∀ t ∈ longAnswer.objects, t.length ≤ Tlv.maxLength := by decide +kernel
  have written := Tlv.encodeAll_eq_ok fits
  obtain ⟨answer, download⟩ :=
    written_tells_all written (.dataAvailable (.plain 3 .established) 300)
  exact ⟨_, written, answer, download⟩

end CardChannels
