import CardChannels.Command.Reader
import CardChannels.Proofs.Command.OpenTable
import CardChannels.Proofs.Tlv.RoundTrip
import CardChannels.Response

/-!
# The details of a command

Whether or not a command can be carried out, its details are those of the first details object in
front of any fault. They are what its answer repeats, and they are read back from the answer in the
same way.
-/
namespace CardChannels

/-- The kind of command that asks for something. -/
def Instruction.kind : Instruction → CommandKind
  | .setUpEventList _ => .setUpEventList
  | .openChannel _ => .openChannel
  | .closeChannel _ => .closeChannel
  | .receiveData _ => .receiveData
  | .sendData _ => .sendData
  | .getChannelStatus => .getChannelStatus

namespace Command

/-- The details in the bytes of a command, if they can be read. -/
def detailsIn (raw : Bytes) : Option CommandDetails :=
  match Envelope.unwrap raw Envelope.proactiveCommand with
  | .error _ => none
  | .ok body =>
    (Tlv.find? (Tlv.decodeFrom body 0).1 .commandDetails).bind fun t =>
      (CommandDetails.ofTlv t).toOption

/-- The details that the answer to a command repeats. -/
def repeated (raw : Bytes) : CommandDetails := (detailsIn raw).getD .unreadable

variable {raw : Bytes} {command : Command} {details : CommandDetails} {objects : List Tlv}

/-- A command that objects give has what each of its readings gives. -/
theorem ofObjects_eq_ok : ofObjects details objects = .ok command ↔
    ∃ kind alphaId icon instruction, details.kind? = some kind ∧
      instructionOf kind objects = .ok instruction ∧
      Objects.optional objects .alphaId (fun t => AlphaId.decode t.value) = .ok alphaId ∧
      iconOf objects = .ok icon ∧ command = ⟨details, alphaId, icon, [], false, instruction⟩ := by
  unfold ofObjects
  constructor
  · intro h
    rcases hkind : details.kind? with _ | kind
    · rw [hkind] at h
      cases h
    · rw [hkind] at h
      obtain ⟨_, ⟨⟩, h⟩ := OpenChannel.bind_eq_ok.mp h
      obtain ⟨instruction, hinstruction, h⟩ := OpenChannel.bind_eq_ok.mp h
      obtain ⟨alphaId, halphaId, h⟩ := OpenChannel.bind_eq_ok.mp h
      obtain ⟨icon, hicon, h⟩ := OpenChannel.bind_eq_ok.mp h
      cases h
      exact ⟨kind, alphaId, icon, instruction, rfl, hinstruction, halphaId, hicon, rfl⟩
  · rintro ⟨kind, alphaId, icon, instruction, hkind, hinstruction, halphaId, hicon, rfl⟩
    rw [hkind]
    exact OpenChannel.bind_eq_ok.mpr ⟨kind, rfl, OpenChannel.bind_eq_ok.mpr ⟨instruction,
      hinstruction, OpenChannel.bind_eq_ok.mpr ⟨alphaId, halphaId,
      OpenChannel.bind_eq_ok.mpr ⟨icon, hicon, rfl⟩⟩⟩⟩

/-- Objects are read into what their kind of command asks for. -/
theorem of_instructionOf {kind : CommandKind} {instruction : Instruction}
    (h : instructionOf kind objects = .ok instruction) :
    instruction.kind = kind ∧ ∀ settings, instruction = .openChannel settings →
      OpenChannel.settings objects = .ok settings := by
  unfold instructionOf at h
  cases kind with
  | setUpEventList =>
    dsimp only at h
    split at h
    · cases h
      exact ⟨rfl, by simp⟩
    · cases h
  | openChannel =>
    obtain ⟨settings, read, rfl⟩ := OpenChannel.map_eq_ok.mp h
    refine ⟨rfl, ?_⟩
    rintro _ ⟨⟩
    exact read
  | closeChannel =>
    obtain ⟨channel, -, rfl⟩ := OpenChannel.map_eq_ok.mp h
    exact ⟨rfl, by simp⟩
  | receiveData =>
    obtain ⟨channel, -, h⟩ := OpenChannel.bind_eq_ok.mp h
    split at h
    · cases h
    · split at h
      · cases h
        exact ⟨rfl, by simp⟩
      · cases h
  | sendData =>
    obtain ⟨channel, -, h⟩ := OpenChannel.bind_eq_ok.mp h
    split at h
    · cases h
    · cases h
      exact ⟨rfl, by simp⟩
  | getChannelStatus =>
    cases h
    exact ⟨rfl, by simp⟩

/-- Objects are read into a command under the details that go with them. -/
theorem details_ofObjects (h : ofObjects details objects = .ok command) :
    command.details = details := by
  obtain ⟨_, _, _, _, -, -, -, -, rfl⟩ := ofObjects_eq_ok.mp h
  rfl

/-- The details are found by the reading of the whole command, whatever becomes of that. -/
theorem detailsIn_eq (raw : Bytes) :
    detailsIn raw = (match ofBytes raw with
      | .ok command => some command.details
      | .error rejection => rejection.details) := by
  unfold detailsIn ofBytes
  rcases Envelope.unwrap raw Envelope.proactiveCommand with fault | body
  · rfl
  · dsimp only
    rcases Tlv.find? (Tlv.decodeFrom body 0).1 .commandDetails with _ | t
    · rfl
    · rw [Option.bind_some, Option.map_some]
      rcases CommandDetails.ofTlv t with fault | details
      · rfl
      · dsimp only
        by_cases hfault : (Tlv.decodeFrom body 0).2.isSome = true
        · rw [if_pos hfault]
          rfl
        · rw [if_neg hfault]
          rcases ho : ofObjects details (Tlv.decodeFrom body 0).1 with refusal | command
          · rfl
          · exact congrArg some (details_ofObjects ho).symm

theorem repeated_of_ok (h : ofBytes raw = .ok command) : repeated raw = command.details := by
  rw [repeated, detailsIn_eq, h]
  rfl

theorem repeated_of_error {rejection : Rejection} (h : ofBytes raw = .error rejection) :
    repeated raw = rejection.details.getD .unreadable := by
  rw [repeated, detailsIn_eq, h]

end Command

/-- The bytes of an answer show its details in the way that a command shows its own. -/
theorem TerminalResponse.detailsIn_encode {r : TerminalResponse} {bytes : Bytes}
    (h : r.encode = .ok bytes) : Command.detailsIn bytes = some r.details := by
  obtain ⟨rest, hbytes⟩ : ∃ rest, bytes = r.details.toTlv.bytes ++ rest := by
    unfold TerminalResponse.encode TerminalResponse.objects at h
    have hlength : r.details.toTlv.length ≤ Tlv.maxLength := by
      simp [CommandDetails.toTlv, Tlv.length, Tlv.maxLength]
    rw [Tlv.encodeAll, Tlv.encode_eq_ok hlength] at h
    simp only [bind, Except.bind, pure, Except.pure] at h
    split at h
    · cases h
    · cases h
      exact ⟨_, rfl⟩
  subst hbytes
  -- The first byte is the tag of the details, with or without its flag, so nothing is unwrapped.
  have hunwrap : Envelope.unwrap (r.details.toTlv.bytes ++ rest) Envelope.proactiveCommand =
      .ok (r.details.toTlv.bytes ++ rest) := by
    cases hr : r.details.required <;>
      simp [Envelope.unwrap, CommandDetails.toTlv, Tlv.bytes, Tlv.tagField, Tlv.shortTag, hr,
        Tag.code, Envelope.proactiveCommand]
  have htag : Tag.commandDetails.code ≤ 0x7FFF := by decide
  have hlength : [r.details.number, r.details.typeCode, r.details.qualifier].length ≤
      Tlv.maxLength := by simp [Tlv.maxLength]
  have hread := Tlv.read_leaf htag r.details.required hlength 0 rest
  unfold Command.detailsIn
  rw [hunwrap]
  dsimp only
  rw [Tlv.decodeFrom, List.drop_zero, CommandDetails.toTlv, Tlv.readAll_of_read hread]
  simp [Tlv.find?, Tlv.hasTag, Tlv.tag, CommandDetails.ofTlv, Tlv.value, Tlv.required,
    Except.toOption]

end CardChannels
