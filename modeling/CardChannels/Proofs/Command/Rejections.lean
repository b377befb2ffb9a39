import CardChannels.Proofs.Command.OpenTable
import CardChannels.Proofs.Command.Reading

/-!
# Rejected commands

A rejection names the details of the first details object in front of any fault, and none where
those cannot be read. A fault among the objects counts before the type of the command, and the type
before all that the other objects say.
-/
namespace CardChannels.Command

variable {α β : Type} {raw raw' body rest : Bytes} {objects : List Tlv} {t : Tlv}
  {details : CommandDetails}

/-! The first details -/

/-- The first object with the tag of command details. -/
def FirstDetails (objects : List Tlv) (t : Tlv) : Prop :=
  t.tag = Tag.commandDetails.code ∧ ∃ front behind, objects = front ++ t :: behind ∧
    ∀ u ∈ front, u.tag ≠ Tag.commandDetails.code

/-- The details that the first three bytes and the flag of the first details object tell. -/
def Names (objects : List Tlv) (details : CommandDetails) : Prop :=
  ∃ t, FirstDetails objects t ∧ details.required = t.required ∧
    t.value.take 3 = [details.number, details.typeCode, details.qualifier]

/-- There is no details object, or the first one is too short. -/
def Nameless (objects : List Tlv) : Prop := ∀ t, FirstDetails objects t → t.value.length < 3

theorem find?_details : Tlv.find? objects .commandDetails = some t ↔ FirstDetails objects t := by
  rw [Tlv.find?, List.find?_eq_some_iff_append]
  simp [FirstDetails, Tlv.hasTag]

theorem ofTlv_eq_ok : CommandDetails.ofTlv t = .ok details ↔ details.required = t.required ∧
    t.value.take 3 = [details.number, details.typeCode, details.qualifier] := by
  obtain ⟨number, typeCode, qualifier, required⟩ := details
  rcases h : t.value with _ | ⟨a, _ | ⟨b, _ | ⟨c, rest⟩⟩⟩
  case cons.cons.cons => simp [CommandDetails.ofTlv, h, eq_comm]; tauto
  all_goals simp [CommandDetails.ofTlv, h]

theorem ofTlv_eq_error : (∃ fault, CommandDetails.ofTlv t = .error fault) ↔ t.value.length < 3 := by
  rcases h : t.value with _ | ⟨a, _ | ⟨b, _ | ⟨c, rest⟩⟩⟩ <;> simp [CommandDetails.ofTlv, h]

theorem names_or_nameless (objects : List Tlv) :
    (∃ details, Names objects details) ∨ Nameless objects := by
  cases found : Tlv.find? objects .commandDetails with
  | none =>
    refine .inr fun t first => ?_
    cases found.symm.trans (find?_details.mpr first)
  | some t =>
    have first := find?_details.mp found
    cases read : CommandDetails.ofTlv t with
    | ok details => exact .inl ⟨details, t, first, ofTlv_eq_ok.mp read⟩
    | error fault =>
      refine .inr fun u first' => ?_
      cases found.symm.trans (find?_details.mpr first')
      exact ofTlv_eq_error.mp ⟨fault, read⟩

/-! What becomes of a command -/

/-- Without details a command is rejected, and the type is not understood. -/
theorem ofBytes_of_nameless (unwraps : Envelope.unwrap raw Envelope.proactiveCommand = .ok body)
    (holds : Tlv.Holds body objects rest) (nameless : Nameless objects) :
    ofBytes raw = .error ⟨none, .typeNotUnderstood⟩ := by
  rw [ofBytes_of_holds unwraps holds]
  cases found : Tlv.find? objects .commandDetails with
  | none => rfl
  | some t =>
    obtain ⟨fault, short⟩ := ofTlv_eq_error.mpr (nameless t (find?_details.mp found))
    rw [Option.map_some, short]

/-- Behind its details a command is rejected for a fault among the objects, or for what they say. -/
theorem ofBytes_of_names (unwraps : Envelope.unwrap raw Envelope.proactiveCommand = .ok body)
    (holds : Tlv.Holds body objects rest) (names : Names objects details) :
    ofBytes raw = if Tlv.EndsObjects rest then
        (ofObjects details objects).mapError fun refusal => ⟨some details, refusal⟩
      else .error ⟨some details, .dataNotUnderstood⟩ := by
  obtain ⟨t, first, told⟩ := names
  rw [ofBytes_of_holds unwraps holds, find?_details.mpr first, Option.map_some,
    ofTlv_eq_ok.mpr told]
  dsimp only
  cases ofObjects details objects <;> rfl

/-- What the bytes of a command come to. -/
inductive Outcome (raw : Bytes) : Except Rejection Command → Prop
  | malformed (fault : Tlv.Error)
    (broken : Envelope.unwrap raw Envelope.proactiveCommand = .error fault) :
    Outcome raw (.error ⟨none, .dataNotUnderstood⟩)
  | nameless {body rest : Bytes} {objects : List Tlv}
    (unwraps : Envelope.unwrap raw Envelope.proactiveCommand = .ok body)
    (holds : Tlv.Holds body objects rest) (nameless : Nameless objects) :
    Outcome raw (.error ⟨none, .typeNotUnderstood⟩)
  | named {body rest : Bytes} {objects : List Tlv} {details : CommandDetails}
    {result : Except Rejection Command}
    (unwraps : Envelope.unwrap raw Envelope.proactiveCommand = .ok body)
    (holds : Tlv.Holds body objects rest) (names : Names objects details)
    (kept : ∀ rejection, result = .error rejection → rejection.details = some details) :
    Outcome raw result

theorem outcome (raw : Bytes) : Outcome raw (ofBytes raw) := by
  cases unwraps : Envelope.unwrap raw Envelope.proactiveCommand with
  | error fault =>
    rw [ofBytes, unwraps]
    exact .malformed fault unwraps
  | ok body =>
    obtain ⟨rest, holds, -⟩ := Tlv.holds_decodeFrom body
    rcases names_or_nameless (Tlv.decodeFrom body 0).1 with ⟨details, names⟩ | nameless
    · refine .named unwraps holds names fun rejection rejected => ?_
      rw [ofBytes_of_names unwraps holds names] at rejected
      split at rejected
      · cases read : ofObjects details (Tlv.decodeFrom body 0).1 with
        | ok command =>
          rw [read] at rejected
          cases rejected
        | error refusal =>
          rw [read] at rejected
          cases rejected
          rfl
      · cases rejected
        rfl
    · rw [ofBytes_of_nameless unwraps holds nameless]
      exact .nameless unwraps holds nameless

/-! The type of a command -/

/-- A result that does not deny the type of a command. -/
def Typed (x : Except Refusal α) : Prop := x ≠ .error .typeNotUnderstood

namespace Typed

variable {x : Except Refusal α} {f : α → Except Refusal β}

theorem ok (a : α) : Typed (.ok a) := nofun

theorem error {refusal : Refusal} (other : refusal ≠ .typeNotUnderstood) :
    Typed (.error refusal : Except Refusal α) :=
  fun same => other (Except.error.inj same)

theorem map (h : Typed x) (g : α → β) : Typed (x.map g) := by
  cases x with
  | ok a => exact ok (g a)
  | error refusal => exact error fun same => h (congrArg _ same)

theorem bind (h : Typed x) (hf : ∀ a, Typed (f a)) : Typed (x >>= f) := by
  cases x with
  | ok a => exact hf a
  | error refusal => exact error fun same => h (congrArg _ same)

theorem understood (r : Except Field.Error α) : Typed (Objects.understood r) := by
  cases r with
  | ok a => exact ok a
  | error fault => exact error (by decide)

theorem optional (objects : List Tlv) (tag : Tag) (read : Tlv → Except Field.Error α) :
    Typed (Objects.optional objects tag read) := by
  unfold Objects.optional
  split
  · exact (understood _).map some
  · exact ok none

/-- Among the checks of an open command none is about the type. -/
theorem settings (objects : List Tlv) : Typed (OpenChannel.settings objects) := by
  intro denied
  have refused := OpenChannel.of?_settings objects
  rw [denied, OpenChannel.of?_error, OpenChannel.Check.firstFault] at refused
  obtain ⟨check, -, same⟩ := Option.map_eq_some_iff.mp refused.symm
  revert same
  cases check <;> decide

theorem channelOf (objects : List Tlv) : Typed (Command.channelOf objects) := by
  unfold Command.channelOf
  split
  · exact error (by decide)
  · exact (understood _).map _

theorem instructionOf (kind : CommandKind) (objects : List Tlv) :
    Typed (Command.instructionOf kind objects) := by
  cases kind with
  | setUpEventList =>
    unfold Command.instructionOf
    dsimp only
    split
    · exact ok _
    · exact error (by decide)
  | openChannel => exact (settings objects).map _
  | closeChannel => exact (channelOf objects).map _
  | receiveData =>
    refine (channelOf objects).bind fun channel => ?_
    split
    · exact error (by decide)
    · split
      · exact ok _
      · exact error (by decide)
  | sendData =>
    refine (channelOf objects).bind fun channel => ?_
    split
    · exact error (by decide)
    · exact ok _
  | getChannelStatus => exact ok _

theorem iconOf (objects : List Tlv) : Typed (Command.iconOf objects) := by
  unfold Command.iconOf
  split
  · exact ok none
  · split
    · exact ok _
    · exact error (by decide)

end Typed

theorem kind?_eq_none :
    details.kind? = none ↔ ∀ kind : CommandKind, kind.code ≠ details.typeCode := by
  have all (kind : CommandKind) : kind ∈ CommandKind.all := by cases kind <;> decide
  simp [CommandDetails.kind?, CommandKind.ofCode?, all]

/-- Objects are denied as a command exactly for a type that the terminal does not carry out. -/
theorem ofObjects_eq_typeNotUnderstood (objects : List Tlv) :
    ofObjects details objects = .error .typeNotUnderstood ↔
      ∀ kind : CommandKind, kind.code ≠ details.typeCode := by
  rw [← kind?_eq_none]
  cases known : details.kind? with
  | none =>
    rw [ofObjects, known]
    exact iff_of_true rfl rfl
  | some kind =>
    have typed : Typed (ofObjects details objects) := by
      rw [ofObjects, known]
      refine (Typed.ok kind).bind fun kind => (Typed.instructionOf kind objects).bind fun _ => ?_
      refine (Typed.optional _ _ _).bind fun _ => (Typed.iconOf objects).bind fun _ => .ok _
    exact iff_of_false typed (by simp)

end CardChannels.Command

namespace CardChannels

open Command Tlv

/-- A command is rejected without details exactly when its envelope holds nothing, or when the
objects that it holds name no details. Any other rejection names the details that the objects name:
for a fault among the objects, whatever the type, for a type that the terminal does not carry out,
and only then for what the objects say. Nothing behind padding counts. -/
theorem rejections_name_their_command (reader : CommandReader) (raw : Bytes) :
    (∀ refusal, (reader.read raw).2 = .rejected ⟨none, refusal⟩ ↔
      (refusal = .dataNotUnderstood ∧
        ∃ fault, Envelope.unwrap raw Envelope.proactiveCommand = .error fault) ∨
      (refusal = .typeNotUnderstood ∧
        ∃ body objects rest, Envelope.unwrap raw Envelope.proactiveCommand = .ok body ∧
          Holds body objects rest ∧ Nameless objects)) ∧
    (∀ details refusal, (reader.read raw).2 = .rejected ⟨some details, refusal⟩ →
      ∃ body objects rest, Envelope.unwrap raw Envelope.proactiveCommand = .ok body ∧
        Holds body objects rest ∧ Names objects details) ∧
    (∀ body objects rest details, Envelope.unwrap raw Envelope.proactiveCommand = .ok body →
      Holds body objects rest → Names objects details →
        (¬EndsObjects rest →
          (reader.read raw).2 = .rejected ⟨some details, .dataNotUnderstood⟩) ∧
        (EndsObjects rest →
          ((reader.read raw).2 = .rejected ⟨some details, .typeNotUnderstood⟩ ↔
            ∀ kind : CommandKind, kind.code ≠ details.typeCode))) ∧
    ∀ raw' images objects tail tail', List.Forall₂ Image images objects →
      EndsObjects tail → EndsObjects tail' →
      Envelope.unwrap raw Envelope.proactiveCommand = .ok (images.flatten ++ tail) →
      Envelope.unwrap raw' Envelope.proactiveCommand = .ok (images.flatten ++ tail') →
        reader.read raw' = reader.read raw := by
  simp only [CommandReader.rejected_iff]
  refine ⟨fun refusal => ⟨?nameless, ?rejected⟩, ?named, ?order, ?padding⟩
  case nameless =>
    intro rejected
    have outcome := outcome raw
    rw [rejected] at outcome
    cases outcome with
    | malformed fault broken => exact .inl ⟨rfl, fault, broken⟩
    | nameless unwraps holds nameless => exact .inr ⟨rfl, _, _, _, unwraps, holds, nameless⟩
    | named unwraps holds names kept => cases kept _ rfl
  case rejected =>
    rintro (⟨rfl, fault, broken⟩ | ⟨rfl, body, objects, rest, unwraps, holds, nameless⟩)
    · rw [ofBytes, broken]
    · exact ofBytes_of_nameless unwraps holds nameless
  case named =>
    intro details refusal rejected
    have outcome := outcome raw
    rw [rejected] at outcome
    cases outcome with
    | named unwraps holds names kept =>
      obtain rfl := Option.some.inj (kept _ rfl)
      exact ⟨_, _, _, unwraps, holds, names⟩
  case order =>
    intro body objects rest details unwraps holds names
    rw [ofBytes_of_names unwraps holds names]
    refine ⟨fun faulty => if_neg faulty, fun ends => ?_⟩
    rw [if_pos ends, ← ofObjects_eq_typeNotUnderstood objects]
    cases ofObjects details objects <;> simp [Except.mapError]
  case padding =>
    intro raw' images objects tail tail' run ends ends' unwraps unwraps'
    have holds : Holds _ objects tail := Split.holds ⟨rfl, run⟩ ends
    have holds' : Holds _ objects tail' := Split.holds ⟨rfl, run⟩ ends'
    apply CommandReader.read_congr
    rw [ofBytes_of_holds unwraps holds, ofBytes_of_holds unwraps' holds']
    simp only [ends, ends', if_true]

/-- The details of a command of an unknown type, and an object whose length is not in its shortest
form. -/
def faultyUnknown : Bytes := [0x81, 0x03, 0x05, 0x99, 0x00, 0x82, 0x81, 0x01]

/-- The details of a command of an unknown type, and padding. -/
def paddedUnknown : Bytes := [0x81, 0x03, 0x05, 0x99, 0x00, 0xFF, 0x12]

/-- The fault counts before the type, and without it the type is what is told. -/
theorem faulty_and_padded_unknown_rejected :
    ∃ objects rest rest', Names objects ⟨0x05, 0x99, 0x00, true⟩ ∧
      Holds faultyUnknown objects rest ∧ ¬EndsObjects rest ∧
      (CommandReader.idle.read faultyUnknown).2 =
        .rejected ⟨some ⟨0x05, 0x99, 0x00, true⟩, .dataNotUnderstood⟩ ∧
      Holds paddedUnknown objects rest' ∧ EndsObjects rest' ∧
      (CommandReader.idle.read paddedUnknown).2 =
        .rejected ⟨some ⟨0x05, 0x99, 0x00, true⟩, .typeNotUnderstood⟩ := by
  have faulty : decodeFrom faultyUnknown 0 =
      ([.leaf 0x01 true [0x05, 0x99, 0x00]], some (.nonCanonicalLength 6 0x81 1)) := by
    rw [decodeFrom, faultyUnknown, List.drop_zero, readAll_of_read rfl, readAll]
    rfl
  have padded : decodeFrom paddedUnknown 0 = ([.leaf 0x01 true [0x05, 0x99, 0x00]], none) := by
    rw [decodeFrom, paddedUnknown, List.drop_zero, readAll_of_read rfl, readAll]
    rfl
  have names : Names [.leaf 0x01 true [0x05, 0x99, 0x00]] ⟨0x05, 0x99, 0x00, true⟩ :=
    ⟨_, ⟨rfl, [], [], rfl, by simp⟩, rfl, rfl⟩
  obtain ⟨rest, holds, whole⟩ := holds_decodeFrom faultyUnknown
  obtain ⟨rest', holds', whole'⟩ := holds_decodeFrom paddedUnknown
  rw [faulty] at holds whole
  rw [padded] at holds' whole'
  have broken : ¬EndsObjects rest := fun ends => by cases whole.mpr ends
  have ends : EndsObjects rest' := whole'.mp rfl
  have first := (rejections_name_their_command .idle faultyUnknown).2.2.1 _ _ _ _ rfl holds names
  have second := (rejections_name_their_command .idle paddedUnknown).2.2.1 _ _ _ _ rfl holds' names
  exact ⟨_, rest, rest', names, holds, broken, first.1 broken, holds', ends,
    (second.2 ends).mpr fun kind => by cases kind <;> decide⟩

end CardChannels
