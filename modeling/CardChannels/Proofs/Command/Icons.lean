import CardChannels.Proofs.Command.Details
import CardChannels.Proofs.Command.Unread

/-!
# Commands with and without icons

An icon is the only thing that is read from an icon object. So a command that shows icons asks for
the first of them, and what it waits with is the command that its other objects give.
-/
namespace CardChannels

/-- The objects that do not show an icon. -/
def Tlv.withoutIcons (objects : List Tlv) : List Tlv := objects.filter fun t => !t.hasTag .iconId

/-- The bytes of a command hold some objects and nothing else, apart from padding. -/
def Command.Carries (raw : Bytes) (objects : List Tlv) : Prop :=
  ∃ body, Envelope.unwrap raw Envelope.proactiveCommand = .ok body ∧
    Tlv.decodeAll body = .ok objects

/-! Objects that can be carried -/

namespace Tlv

variable {image : Bytes} {t : Tlv} {objects : List Tlv}

/-- A tag that has one byte can also be spelled in the longer form. -/
theorem TagImage.marked {tagBytes : Bytes} {tag : UInt16} {required : Bool}
    (h : TagImage tagBytes tag required) : ∃ more, TagImage (0x7F :: more) tag required := by
  cases h with
  | long high low => exact ⟨[high, low], .long high low⟩
  | short b range =>
    let high : UInt8 := if 0x80 ≤ b then 0x80 else 0x00
    let low : UInt8 := UInt8.ofNat (b.toNat % 0x80)
    have hlow : low.toNat = b.toNat % 0x80 := by
      rw [UInt8.toNat_ofNat']
      omega
    have hword : (Bytes.word high low).toNat = high.toNat * 256 + low.toNat := by
      rw [Bytes.word, UInt16.toNat_ofNat']
      have := high.toNat_lt
      have := low.toNat_lt
      omega
    refine ⟨[high, low], ?_⟩
    have tagged := TagImage.long high low
    rw [hword, hlow] at tagged
    have flagged : decide (0x8000 ≤ high.toNat * 256 + b.toNat % 0x80) = decide (0x80 ≤ b) ∧
        (high.toNat * 256 + b.toNat % 0x80) % 0x8000 = b.toNat % 0x80 := by
      by_cases flag : 0x80 ≤ b
      · have hhigh : high.toNat = 0x80 := by rw [show high = 0x80 from if_pos flag]; rfl
        rw [hhigh, decide_eq_true flag, decide_eq_true_eq]
        omega
      · have hhigh : high.toNat = 0 := by rw [show high = 0x00 from if_neg flag]; rfl
        rw [hhigh, decide_eq_false flag, decide_eq_false_iff_not]
        omega
    rwa [flagged.1, flagged.2] at tagged

/-- Every object that is read has an image that does not look like an envelope. -/
theorem Image.marked (h : Image image t) : ∃ more, Image (0x7F :: more) t := by
  obtain ⟨tagged, measured⟩ := h
  obtain ⟨more, tagged⟩ := tagged.marked
  exact ⟨_, .mk tagged measured⟩

end Tlv

namespace Command

variable {raw : Bytes} {objects : List Tlv} {details : CommandDetails} {command : Command}

theorem carries_iff : Carries raw objects ↔ ∃ body rest,
    Envelope.unwrap raw Envelope.proactiveCommand = .ok body ∧ Tlv.Holds body objects rest ∧
      Tlv.EndsObjects rest := by
  constructor
  · rintro ⟨body, unwraps, decodes⟩
    obtain ⟨rest, holds, whole⟩ := Tlv.holds_decodeFrom body
    unfold Tlv.decodeAll at decodes
    split at decodes
    · rename_i hdecode
      rw [hdecode, Except.ok.inj decodes] at holds
      exact ⟨body, rest, unwraps, holds, whole.mp (by rw [hdecode])⟩
    · cases decodes
  · rintro ⟨body, rest, unwraps, holds, ends⟩
    obtain ⟨same, whole⟩ := holds.decodeFrom
    refine ⟨body, unwraps, ?_⟩
    rw [Tlv.decodeAll, ← same, show Tlv.decodeFrom body 0 = (_, none) from
      Prod.ext rfl (whole.mpr ends)]

/-- A command is read from what its bytes carry. -/
theorem ofBytes_eq_ok_iff (h : Carries raw objects) : ofBytes raw = .ok command ↔
    ∃ details, (Tlv.find? objects .commandDetails).map CommandDetails.ofTlv = some (.ok details) ∧
      ofObjects details objects = .ok command := by
  obtain ⟨body, rest, unwraps, holds, ends⟩ := carries_iff.mp h
  rw [ofBytes_of_holds unwraps holds]
  simp only [if_pos ends]
  rcases (Tlv.find? objects .commandDetails).map CommandDetails.ofTlv with _ | _ | details
  · simp
  · simp
  · rcases hobjects : ofObjects details objects with refusal | command'
    · simp [hobjects]
    · simp [hobjects]

/-- Images carry their objects, unless they look like an envelope. -/
theorem carries_of_images {images : List Bytes} (imaged : List.Forall₂ Tlv.Image images objects)
    (bare : images.flatten.head? ≠ some Envelope.proactiveCommand) :
    Carries images.flatten objects := by
  have ends : Tlv.EndsObjects [] := by simp [Tlv.EndsObjects]
  have holds := (Tlv.Split.holds ⟨rfl, .nil⟩ ends : Tlv.Holds [] [] []).behind imaged
  rw [List.append_nil, List.append_nil] at holds
  exact carries_iff.mpr ⟨_, [], Envelope.unwrap_of_head? bare, holds, ends⟩

/-- Objects that have images are carried by some bytes. -/
theorem exists_carries (imaged : ∀ t ∈ objects, ∃ image, Tlv.Image image t) :
    ∃ raw, Carries raw objects := by
  have marked : ∃ images, List.Forall₂ Tlv.Image images objects ∧
      images.flatten.head? ≠ some Envelope.proactiveCommand := by
    induction objects with
    | nil => exact ⟨[], .nil, by simp⟩
    | cons t objects ih =>
      rw [List.forall_mem_cons] at imaged
      obtain ⟨⟨image, himage⟩, imaged⟩ := imaged
      obtain ⟨more, first⟩ := himage.marked
      obtain ⟨images, rest, -⟩ := ih imaged
      exact ⟨(0x7F :: more) :: images, .cons first rest, by simp [Envelope.proactiveCommand]⟩
  obtain ⟨images, imaged, bare⟩ := marked
  exact ⟨images.flatten, carries_of_images imaged bare⟩

/-- The objects that bytes carry can be carried without the icons. -/
theorem Carries.withoutIcons (h : Carries raw objects) :
    ∃ raw', Carries raw' (Tlv.withoutIcons objects) := by
  obtain ⟨body, rest, -, holds, -⟩ := carries_iff.mp h
  obtain ⟨images, split⟩ := holds.split
  exact exists_carries fun t ht => split.image_of_mem (List.mem_of_mem_filter ht)

/-! What is read without icons -/

/-- What does not depend on any icon in front of other objects does not depend on icons. -/
theorem eq_withoutIcons {α : Type} (f : List Tlv → α)
    (insert : ∀ t a b, t.hasTag .iconId = true → f (a ++ t :: b) = f (a ++ b))
    (objects : List Tlv) : f (Tlv.withoutIcons objects) = f objects := by
  suffices same : ∀ front, f (front ++ Tlv.withoutIcons objects) = f (front ++ objects) from
    same []
  induction objects with
  | nil => exact fun front => rfl
  | cons t objects ih =>
    intro front
    by_cases icon : t.hasTag .iconId = true
    · rw [Tlv.withoutIcons, List.filter_cons_of_neg (by simp [icon]), insert t front objects icon]
      exact ih front
    · rw [Tlv.withoutIcons, List.filter_cons_of_pos (by simp [icon])]
      have same := ih (front ++ [t])
      rw [List.append_assoc, List.append_assoc] at same
      exact same

/-- An icon is nothing else that is looked for. -/
theorem other_of_icon {t : Tlv} (icon : t.hasTag .iconId = true) :
    ∀ tag ∈ tagsRead.erase .iconId, t.hasTag tag = false := by
  intro tag read
  rw [Tlv.hasTag, decide_eq_true_eq] at icon
  rw [Tlv.hasTag, icon, decide_eq_false_iff_not]
  intro same
  rw [← Tag.code_injective same] at read
  exact absurd read (by decide)

theorem find?_withoutIcons {tag : Tag} (read : tag ∈ tagsRead.erase .iconId)
    (objects : List Tlv) : Tlv.find? (Tlv.withoutIcons objects) tag = Tlv.find? objects tag :=
  eq_withoutIcons (Tlv.find? · tag)
    (fun _ a b icon => Tlv.find?_insert (other_of_icon icon tag read) a b) objects

theorem iconOf_withoutIcons (objects : List Tlv) :
    iconOf (Tlv.withoutIcons objects) = .ok none := by
  have none : Tlv.find? (Tlv.withoutIcons objects) .iconId = none := by
    simp [Tlv.find?, Tlv.withoutIcons, List.find?_filter]
  rw [iconOf, none]

/-- Without its icons a command is the same but for the icon. -/
theorem ofObjects_withoutIcons (h : ofObjects details objects = .ok command) :
    ofObjects details (Tlv.withoutIcons objects) = .ok { command with icon := none } ∧
      iconOf objects = .ok command.icon ∧ command.images = [] ∧ command.iconFailed = false := by
  obtain ⟨kind, alphaId, icon, instruction, hkind, hinstruction, halphaId, hicon, rfl⟩ :=
    ofObjects_eq_ok.mp h
  have same : instructionOf kind (Tlv.withoutIcons objects) = .ok instruction :=
    (eq_withoutIcons (instructionOf kind)
      (fun _ a b icon => instructionOf_insert (other_of_icon icon) kind a b) objects).trans
      hinstruction
  have text : Objects.optional (Tlv.withoutIcons objects) .alphaId
      (fun t => AlphaId.decode t.value) = .ok alphaId := by
    rw [Objects.optional, find?_withoutIcons (by decide)]
    exact halphaId
  have bare := ofObjects_eq_ok.mpr ⟨kind, alphaId, none, instruction, hkind, same, text,
    iconOf_withoutIcons objects, rfl⟩
  exact ⟨bare, hicon, rfl, rfl⟩

/-- The icon of objects that show one is the record that the first of them names. -/
theorem icon_of_shown {icon : Option UInt8} (shown : ∃ t ∈ objects, t.hasTag .iconId = true)
    (h : iconOf objects = .ok icon) :
    ∃ qualifier record rest, icon = some record ∧
      (Tlv.find? objects .iconId).map Tlv.value = some (qualifier :: record :: rest) := by
  obtain ⟨t, found⟩ := Option.isSome_iff_exists.mp (List.find?_isSome.mpr shown)
  rw [← Tlv.find?] at found
  rw [iconOf, found] at h
  rcases hvalue : t.value with _ | ⟨qualifier, _ | ⟨record, rest⟩⟩
  all_goals simp only [hvalue] at h
  · cases h
  · cases h
  · cases h
    exact ⟨qualifier, record, rest, rfl, by rw [found, Option.map_some, hvalue]⟩

/-- A command that shows icons and can be read, can be read from its other objects, and is the same
then but for the icon. -/
theorem ofBytes_withoutIcons {raw' : Bytes} (carries : Carries raw objects)
    (read : ofBytes raw = .ok command) (bare : Carries raw' (Tlv.withoutIcons objects)) :
    ofBytes raw' = .ok { command with icon := none } := by
  obtain ⟨details, hdetails, hobjects⟩ := (ofBytes_eq_ok_iff carries).mp read
  refine (ofBytes_eq_ok_iff bare).mpr ⟨details, ?_, (ofObjects_withoutIcons hobjects).1⟩
  rw [find?_withoutIcons (by decide), hdetails]

/-- A command that was read shows the icon that its objects name, and has no images yet. -/
theorem icon_of_ofBytes (carries : Carries raw objects) (read : ofBytes raw = .ok command) :
    iconOf objects = .ok command.icon ∧ command.images = [] ∧ command.iconFailed = false := by
  obtain ⟨details, -, hobjects⟩ := (ofBytes_eq_ok_iff carries).mp read
  exact (ofObjects_withoutIcons hobjects).2

/-! Commands that are delivered -/

/-- A command that a reader delivers from bytes, at once or when it has asked for the icons. -/
inductive Delivered (raw : Bytes) (command : Command) : Prop
  | atOnce (reader : CommandReader) (read : (reader.read raw).2 = .ready command)
  | afterIcons (reader : CommandReader) (records : List UInt8) (images : Option (List IconImage))
    (asked : (reader.read raw).2 = .loadIcons records)
    (loaded : ((reader.read raw).1.iconsLoaded images).2 = some command)

/-- Icons make no difference to what a delivered command asks for. -/
theorem Delivered.ofBytes (h : Delivered raw command) :
    ∃ read, ofBytes raw = .ok read ∧ read.instruction = command.instruction := by
  cases h with
  | atOnce reader read =>
    unfold CommandReader.read at read
    split at read
    · cases read
    · rename_i command' hread
      split at read <;> cases read
      exact ⟨command, hread, rfl⟩
  | afterIcons reader records images asked loaded =>
    unfold CommandReader.read at asked loaded
    split at asked
    · cases asked
    · rename_i command' hread
      refine ⟨command', hread, ?_⟩
      rw [hread] at loaded
      dsimp only at asked loaded
      split at asked
      · rename_i record hicon
        rw [hicon] at loaded
        cases images <;> cases loaded <;> rfl
      · cases asked

/-- A command is read from all that its bytes carry. -/
theorem carries_of_ofBytes (h : ofBytes raw = .ok command) : ∃ objects, Carries raw objects := by
  unfold ofBytes at h
  split at h
  · cases h
  · rename_i body unwraps
    dsimp only at h
    split at h
    · cases h
    · cases h
    · split at h
      · cases h
      · rename_i whole
        refine ⟨(Tlv.decodeFrom body 0).1, body, unwraps, ?_⟩
        have ended : (Tlv.decodeFrom body 0).2 = none := by simpa using whole
        rw [Tlv.decodeAll, show Tlv.decodeFrom body 0 = (_, none) from Prod.ext rfl ended]

/-- What a delivered command asks for is read from the objects that its bytes carry. -/
theorem Delivered.carries (h : Delivered raw command) :
    ∃ objects kind, Carries raw objects ∧ instructionOf kind objects = .ok command.instruction := by
  obtain ⟨read, hread, same⟩ := h.ofBytes
  obtain ⟨objects, carries⟩ := carries_of_ofBytes hread
  obtain ⟨details, -, hobjects⟩ := (ofBytes_eq_ok_iff carries).mp hread
  obtain ⟨kind, _, _, instruction, -, hinstruction, -, -, rfl⟩ := ofObjects_eq_ok.mp hobjects
  exact ⟨objects, kind, carries, same ▸ hinstruction⟩

end Command

end CardChannels
