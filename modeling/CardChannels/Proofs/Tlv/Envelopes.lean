import CardChannels.Proofs.Tlv.Images
import CardChannels.Tlv.Envelope

/-!
# What an envelope holds

The contents of an envelope are found exactly where the field for their length and then all of them
stand behind the tag. What follows them does not count, and an envelope that was cut anywhere holds
nothing.
-/
namespace CardChannels.Envelope

/-- The bytes of an envelope around contents. -/
def bytes (tag : UInt8) (contents : Bytes) : Bytes :=
  tag :: (Tlv.lengthField contents.length ++ contents)

variable {tag : UInt8} {data rest contents part : Bytes}

theorem wrap_eq_ok (fits : contents.length ≤ Tlv.maxLength) :
    wrap tag contents = .ok (bytes tag contents) := by
  rw [wrap, Tlv.encodeLength, if_neg (Nat.not_lt.mpr fits)]
  rfl

/-- Behind the tag the contents are what a length tells of the bytes behind it. -/
theorem unwrap_cons (tag : UInt8) (rest : Bytes) :
    unwrap (tag :: rest) tag = (match Tlv.readLength 1 rest with
      | .error fault => .error fault
      | .ok (length, used) =>
        if ((rest.drop used).take length).length < length then
          .error (.unexpectedEnd (rest.length + 1) .envelope)
        else .ok ((rest.drop used).take length)) := by
  rw [unwrap, if_pos rfl, Tlv.decodeLength, List.drop_one, List.tail_cons]
  rcases Tlv.readLength 1 rest with fault | ⟨length, used⟩
  · rfl
  · simp only [Except.map, bind, Except.bind, Nat.add_comm 1 used, List.drop_succ_cons,
      List.length_cons]

theorem unwrap_eq_ok_iff : unwrap (tag :: rest) tag = .ok contents ↔
    contents.length ≤ Tlv.maxLength ∧ bytes tag contents <+: tag :: rest := by
  rw [unwrap_cons, bytes, List.prefix_cons_inj]
  constructor
  · intro h
    rcases hlength : Tlv.readLength 1 rest with fault | ⟨length, used⟩
    · rw [hlength] at h
      cases h
    · obtain ⟨fits, rfl, behind, rfl⟩ := Tlv.readLength_eq_ok_iff.mp hlength
      rw [hlength] at h
      simp only [List.drop_left] at h
      split at h
      · cases h
      · rename_i enough
        cases h
        have whole : (behind.take length).length = length := by
          have := List.length_take_le length behind
          omega
        rw [whole]
        exact ⟨fits, (List.prefix_append_right_inj _).mpr (List.take_prefix ..)⟩
  · rintro ⟨fits, behind, rfl⟩
    rw [List.append_assoc, Tlv.readLength_eq_ok_iff.mpr ⟨fits, rfl, contents ++ behind, rfl⟩]
    simp

/-- Data that starts with another byte than the tag is all contents. -/
theorem unwrap_of_head? (other : data.head? ≠ some tag) : unwrap data tag = .ok data := by
  cases data with
  | nil => rfl
  | cons first rest => rw [unwrap, if_neg (by simpa using other)]

/-- What is wrapped is found again, whatever follows it. -/
theorem unwrap_append (tag : UInt8) (fits : contents.length ≤ Tlv.maxLength) (behind : Bytes) :
    unwrap (bytes tag contents ++ behind) tag = .ok contents :=
  unwrap_eq_ok_iff.mpr ⟨fits, List.prefix_append ..⟩

theorem unwrap_bytes (tag : UInt8) (fits : contents.length ≤ Tlv.maxLength) :
    unwrap (bytes tag contents) tag = .ok contents :=
  unwrap_eq_ok_iff.mpr ⟨fits, List.prefix_rfl⟩

/-- An envelope that was cut holds nothing, unless not even its tag is there. -/
theorem unwrap_of_cut (fits : contents.length ≤ Tlv.maxLength) (cut : part <+: bytes tag contents)
    (short : part ≠ bytes tag contents) (begun : part ≠ []) :
    ∃ fault, unwrap part tag = .error fault := by
  obtain ⟨first, rest, rfl⟩ := List.exists_cons_of_ne_nil begun
  obtain ⟨rfl, -⟩ := List.cons_prefix_cons.mp cut
  cases hunwrap : unwrap (first :: rest) first with
  | error fault => exact ⟨fault, rfl⟩
  | ok found =>
    -- Whatever the cut envelope held, the whole one would hold too.
    obtain ⟨within, whole⟩ := unwrap_eq_ok_iff.mp hunwrap
    have same := unwrap_eq_ok_iff.mpr ⟨within, whole.trans cut⟩
    cases same.symm.trans (unwrap_bytes first fits)
    exact absurd (cut.eq_of_length_le whole.length_le) short

end CardChannels.Envelope
