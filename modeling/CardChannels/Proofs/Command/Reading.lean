import CardChannels.Command.Reader
import CardChannels.Proofs.Tlv.Holds

/-!
# What a command is read from

What is made of the bytes of a command depends on what they hold only: the objects, and whether
anything but padding follows them.
-/
namespace CardChannels

instance : DecidablePred Tlv.EndsObjects := fun tail =>
  inferInstanceAs (Decidable (∀ b ∈ tail.head?, b = 0x00 ∨ b = 0x80 ∨ b = 0xFF))

variable {raw raw' body : Bytes} {objects : List Tlv} {rest : Bytes}

namespace Command

/-- Commands are read alike when what they hold is the same. -/
theorem ofBytes_congr (same : Envelope.unwrap raw Envelope.proactiveCommand =
    Envelope.unwrap raw' Envelope.proactiveCommand) : ofBytes raw = ofBytes raw' := by
  rw [ofBytes, same, ofBytes]

/-- A command is read from the objects that its bytes hold. Its details come first, and what
follows the objects second. -/
theorem ofBytes_of_holds (unwraps : Envelope.unwrap raw Envelope.proactiveCommand = .ok body)
    (holds : Tlv.Holds body objects rest) :
    ofBytes raw =
      match (Tlv.find? objects .commandDetails).map CommandDetails.ofTlv with
      | none | some (.error _) => .error ⟨none, .typeNotUnderstood⟩
      | some (.ok details) =>
        if Tlv.EndsObjects rest then
          match ofObjects details objects with
          | .ok command => .ok command
          | .error refusal => .error ⟨some details, refusal⟩
        else .error ⟨some details, .dataNotUnderstood⟩ := by
  obtain ⟨same, whole⟩ := holds.decodeFrom
  have faulty : (Tlv.decodeFrom body 0).2.isSome = !decide (Tlv.EndsObjects rest) := by
    cases fault : (Tlv.decodeFrom body 0).2 <;> simp_all
  rw [ofBytes, unwraps]
  dsimp only
  rw [same, faulty]
  rcases (Tlv.find? objects .commandDetails).map CommandDetails.ofTlv with _ | fault | details
  · rfl
  · rfl
  · dsimp only
    rcases ofObjects details objects with refusal | command
    all_goals by_cases ends : Tlv.EndsObjects rest <;> simp [ends]

end Command

/-- What a reader makes of a command does not depend on what it read before. -/
theorem CommandReader.read_congr (same : Command.ofBytes raw = Command.ofBytes raw')
    (reader reader' : CommandReader) : reader.read raw = reader'.read raw' := by
  rw [read, same, read]

theorem CommandReader.rejected_iff {reader : CommandReader} {rejection : Command.Rejection} :
    (reader.read raw).2 = .rejected rejection ↔ Command.ofBytes raw = .error rejection := by
  unfold read
  rcases Command.ofBytes raw with other | command
  · simp
  · dsimp only
    split <;> simp

/-- A reader that rejects a command leaves nothing waiting. -/
theorem CommandReader.read_of_error {rejection : Command.Rejection}
    (h : Command.ofBytes raw = .error rejection) (reader : CommandReader) :
    reader.read raw = (idle, .rejected rejection) := by
  rw [read, h]

end CardChannels
