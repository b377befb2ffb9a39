import CardChannels.Proofs.Command.Reading
import CardChannels.Proofs.Tlv.Envelopes

/-!
# Wrapped commands

A command may come wrapped or bare, and both are read alike. Of a wrapped command nothing is read
unless all of it is there.
-/
namespace CardChannels

variable {body part : Bytes}

/-- A command that was cut is rejected, and its details are not known. -/
theorem Command.ofBytes_of_cut (fits : body.length ≤ Tlv.maxLength)
    (cut : part <+: Envelope.bytes Envelope.proactiveCommand body)
    (short : part ≠ Envelope.bytes Envelope.proactiveCommand body) :
    ofBytes part = .error ⟨none, if part = [] then .typeNotUnderstood else .dataNotUnderstood⟩ := by
  by_cases empty : part = []
  · have nothing : Tlv.Holds [] [] [] := Tlv.Split.holds ⟨rfl, .nil⟩ (by simp [Tlv.EndsObjects])
    rw [empty, ofBytes_of_holds rfl nothing, if_pos rfl]
    rfl
  · obtain ⟨fault, hunwrap⟩ := Envelope.unwrap_of_cut fits cut short empty
    rw [ofBytes, hunwrap, if_neg empty]

/-- A wrapped command is read as the bare one that it holds, whatever follows the envelope. Cut
anywhere it is rejected as a command of unknown details, and nothing is left waiting. -/
theorem wrapped_read_whole_or_not (reader : CommandReader) (body : Bytes)
    (fits : body.length ≤ Tlv.maxLength) :
    ∃ wrapped, Envelope.wrap Envelope.proactiveCommand body = .ok wrapped ∧
      (body.head? ≠ some 0xD0 → ∀ behind, reader.read (wrapped ++ behind) = reader.read body) ∧
      ∀ part, part <+: wrapped → part ≠ wrapped →
        reader.read part = (.idle, .rejected
          ⟨none, if part = [] then .typeNotUnderstood else .dataNotUnderstood⟩) := by
  refine ⟨_, Envelope.wrap_eq_ok fits, fun bare behind => ?_, fun part cut short => ?_⟩
  · have whole := Envelope.unwrap_append Envelope.proactiveCommand fits behind
    have itself : Envelope.unwrap body Envelope.proactiveCommand = .ok body :=
      Envelope.unwrap_of_head? bare
    exact CommandReader.read_congr (Command.ofBytes_congr (whole.trans itself.symm)) reader reader
  · exact CommandReader.read_of_error (Command.ofBytes_of_cut fits cut short) reader

/-- A command without an envelope that reads from a channel and shows an icon. -/
def bareReceive : Bytes :=
  [0x81, 0x03, 0x01, 0x42, 0x00, 0x82, 0x02, 0x81, 0x21, 0xB7, 0x01, 0x08, 0x9E, 0x02, 0x00, 0x05]

/-- In its envelope the command is left waiting for its icon although bytes follow, and it is not
read at all when its last byte is missing. -/
theorem bareReceive_wrapped :
    ∃ wrapped command, bareReceive.length ≤ Tlv.maxLength ∧
      Envelope.wrap 0xD0 bareReceive = .ok wrapped ∧
      CommandReader.idle.read bareReceive = (⟨some command⟩, .loadIcons [5]) ∧
      CommandReader.idle.read (wrapped ++ [0xFF, 0x01]) = (⟨some command⟩, .loadIcons [5]) ∧
      CommandReader.idle.read wrapped.dropLast =
        (.idle, .rejected ⟨none, .dataNotUnderstood⟩) := by
  have fits : bareReceive.length ≤ Tlv.maxLength := by decide
  obtain ⟨wrapped, wraps, whole, cut⟩ := wrapped_read_whole_or_not .idle bareReceive fits
  have bare : CommandReader.idle.read bareReceive = (⟨some ⟨⟨1, 0x42, 0x00, true⟩, none, some 5, [],
      false, .receiveData ⟨1, 8, []⟩⟩⟩, .loadIcons [5]) := by decide +kernel
  obtain rfl : 0xD0 :: 0x10 :: bareReceive = wrapped := Except.ok.inj wraps
  refine ⟨_, _, fits, wraps, bare, (whole (by decide) _).trans bare, ?_⟩
  exact cut _ (List.dropLast_prefix _) (by decide)

end CardChannels
