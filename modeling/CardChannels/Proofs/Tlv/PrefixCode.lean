import CardChannels.Proofs.Tlv.Images

/-!
# Lengths as a prefix code

The field for a length is the only spelling that is read as it, and none is shorter. The main
statement is that a length is read exactly where its field stands, that no field is the start of
another, and that a spelling whose last byte is missing is reported as too short and never read as
some other length.
-/
namespace CardChannels.Tlv

variable {data field part digits : Bytes} {index next n m : Nat}

/-! Where a field stands -/

theorem lengthField_ne_nil (n : Nat) : lengthField n ≠ [] := by
  unfold lengthField
  split_ifs <;> exact List.cons_ne_nil _ _

theorem decodeLength_eq_ok_iff : decodeLength data index = .ok (n, next) ↔
    n ≤ maxLength ∧ next = index + (lengthField n).length ∧ lengthField n <+: data.drop index := by
  rw [decodeLength]
  constructor
  · intro h
    rcases hread : readLength index (data.drop index) with fault | ⟨length, used⟩
    · rw [hread] at h
      cases h
    · rw [hread] at h
      cases h
      obtain ⟨fits, rfl, stands⟩ := readLength_eq_ok_iff.mp hread
      exact ⟨fits, rfl, stands⟩
  · rintro ⟨fits, rfl, stands⟩
    rw [readLength_eq_ok_iff.mpr ⟨fits, rfl, stands⟩]
    rfl

/-- Bytes stand at one index of data and end at another exactly if they are what lies between. -/
theorem stands_iff_extract (nonempty : field ≠ []) :
    next = index + field.length ∧ field <+: data.drop index ↔
      index ≤ next ∧ next ≤ data.length ∧ data.extract index next = field := by
  have positive : 0 < field.length := List.length_pos_iff.mpr nonempty
  rw [List.extract_eq_take_drop]
  constructor
  · rintro ⟨rfl, stands⟩
    have room := stands.length_le
    rw [List.length_drop] at room
    refine ⟨Nat.le_add_right .., by omega, ?_⟩
    rw [Nat.add_sub_cancel_left]
    exact (List.prefix_iff_eq_take.mp stands).symm
  · rintro ⟨order, inside, rfl⟩
    refine ⟨?_, List.take_prefix ..⟩
    rw [List.length_take, List.length_drop]
    omega

theorem encodeLength_eq_ok_iff :
    encodeLength n = .ok field ↔ n ≤ maxLength ∧ field = lengthField n := by
  rw [encodeLength]
  by_cases large : n > maxLength
  · rw [if_pos large]
    exact ⟨nofun, fun h => absurd h.1 (Nat.not_le.mpr large)⟩
  · rw [if_neg large, Except.ok.injEq, eq_comm]
    exact ⟨fun h => ⟨Nat.not_lt.mp large, h⟩, And.right⟩

theorem appendLength_iff :
    (∀ out, appendLength n out = (out ++ field, none)) ↔ encodeLength n = .ok field := by
  cases hencode : encodeLength n <;> simp [appendLength, hencode]

/-! One field and another -/

/-- A field that another one starts with is that other one. -/
theorem eq_of_lengthField_prefix (hm : m ≤ maxLength) (hn : n ≤ maxLength)
    (starts : lengthField m <+: lengthField n) : m = n := by
  -- The bytes of the second field are read as both lengths.
  have shorter : readLength 0 (lengthField n) = .ok (m, (lengthField m).length) :=
    readLength_eq_ok_iff.mpr ⟨hm, rfl, starts⟩
  have whole : readLength 0 (lengthField n) = .ok (n, (lengthField n).length) :=
    readLength_eq_ok_iff.mpr ⟨hn, rfl, List.prefix_rfl⟩
  cases shorter.symm.trans whole
  rfl

theorem exists_longForm? (count : 1 ≤ digits.length ∧ digits.length ≤ 3) :
    ¬UInt8.ofNat (0x80 + digits.length) < 0x80 ∧
      ∃ least, longForm? (UInt8.ofNat (0x80 + digits.length)) = some (digits.length, least) := by
  have width : digits.length = 1 ∨ digits.length = 2 ∨ digits.length = 3 := by omega
  rcases width with h | h | h
  all_goals
    rw [h]
    exact ⟨by decide, _, rfl⟩

/-- A spelling that was cut is reported as too short, at its lead if that is missing and behind it
otherwise. -/
theorem readLength_of_cut (spells : Spells field n) (cut : part <+: field) (short : part ≠ field)
    (offset : Nat) : readLength offset part =
      .error (.unexpectedEnd (if part = [] then offset else offset + 1) .length) := by
  rcases part with _ | ⟨lead, rest⟩
  · rfl
  · cases spells with
    | short b small =>
      obtain ⟨rfl, hrest⟩ := List.cons_prefix_cons.mp cut
      rw [List.prefix_nil.mp hrest] at short
      exact absurd rfl short
    | long digits count =>
      obtain ⟨rfl, hrest⟩ := List.cons_prefix_cons.mp cut
      obtain ⟨large, least, form⟩ := exists_longForm? count
      have fewer : rest.length < digits.length := by
        apply Nat.lt_of_le_of_ne hrest.length_le
        intro same
        exact short (congrArg _ (hrest.eq_of_length same))
      have taken : rest.take digits.length = rest := List.take_of_length_le (Nat.le_of_lt fewer)
      simp only [readLength, if_neg large, form, taken, if_pos fewer, List.cons_ne_nil,
        if_false]

theorem decodeLength_of_cut (spells : Spells field n) (cut : part <+: field)
    (short : part ≠ field) (front : Bytes) : decodeLength (front ++ part) front.length =
      .error (.unexpectedEnd (if part = [] then front.length else front.length + 1) .length) := by
  rw [decodeLength, List.drop_left, readLength_of_cut spells cut short]
  rfl

/-- A length is read between two indices exactly if it is not too large and what is appended for it
stands there. So each length that is not too large has one spelling that is read as it, among any
bytes, and no other spelling of it is shorter. None of these spellings is the start of another. Any
spelling that data ends in before its last byte is reported as the unexpected end. -/
theorem lengths_prefix_coded :
    (∀ data index n next, decodeLength data index = .ok (n, next) ↔
      n ≤ maxLength ∧ index ≤ next ∧ next ≤ data.length ∧
        ∀ out, appendLength n out = (out ++ data.extract index next, none)) ∧
      (∀ n, n ≤ maxLength → ∃ field, encodeLength n = .ok field ∧ LengthImage field n ∧
        ∀ front bs back, decodeLength (front ++ bs ++ back) front.length =
          .ok (n, front.length + bs.length) ↔ bs = field) ∧
      (∀ m n field longer, encodeLength m = .ok field → encodeLength n = .ok longer →
        field <+: longer → m = n) ∧
      ∀ n field part front, Spells field n → part <+: field → part ≠ field →
        decodeLength (front ++ part) front.length = .error
          (.unexpectedEnd (if part = [] then front.length else front.length + 1) .length) := by
  refine ⟨?_, ?_, ?_, ?_⟩
  · intro data index n next
    rw [decodeLength_eq_ok_iff, stands_iff_extract (lengthField_ne_nil n), appendLength_iff,
      encodeLength_eq_ok_iff]
    tauto
  · intro n fits
    refine ⟨lengthField n, encodeLength_eq_ok_iff.mpr ⟨fits, rfl⟩, lengthImage_iff.mpr ⟨fits, rfl⟩,
      ?_⟩
    intro front bs back
    rw [decodeLength_eq_ok_iff, List.append_assoc, List.drop_left]
    constructor
    · rintro ⟨-, ends, stands⟩
      have same : bs.length = (lengthField n).length := Nat.add_left_cancel ends
      exact (List.prefix_of_prefix_length_le (List.prefix_append ..) stands
        (Nat.le_of_eq same)).eq_of_length same
    · rintro rfl
      exact ⟨fits, rfl, List.prefix_append ..⟩
  · intro m n field longer hm hn starts
    obtain ⟨fitsM, rfl⟩ := encodeLength_eq_ok_iff.mp hm
    obtain ⟨fitsN, rfl⟩ := encodeLength_eq_ok_iff.mp hn
    exact eq_of_lengthField_prefix fitsM fitsN starts
  · intro n field part front spells cut short
    exact decodeLength_of_cut spells cut short front

/-- A length between other bytes, and its field without the last byte. -/
theorem lengths_prefix_coded_sample :
    decodeLength [0xAA, 0x82, 0x01, 0x00, 0x55] 1 = .ok (0x100, 4) ∧
      appendLength 0x100 [0xAA] = ([0xAA, 0x82, 0x01, 0x00], none) ∧
      LengthImage [0x82, 0x01, 0x00] 0x100 ∧
      decodeLength [0xAA, 0x82, 0x01] 1 = .error (.unexpectedEnd 2 .length) ∧
      ¬lengthField 0x80 <+: lengthField 0x100 := by
  obtain ⟨stands, coded, free, cut⟩ := lengths_prefix_coded
  have read : decodeLength [0xAA, 0x82, 0x01, 0x00, 0x55] 1 = .ok (0x100, 4) := by rfl
  have written := ((stands [0xAA, 0x82, 0x01, 0x00, 0x55] 1 0x100 4).mp read).2.2.2 [0xAA]
  obtain ⟨field, encoded, image, -⟩ := coded 0x100 (by decide)
  cases encoded
  have tooShort := cut 0x100 [0x82, 0x01, 0x00] [0x82, 0x01] [0xAA] image.spells (by decide)
    (by decide)
  refine ⟨read, written, image, tooShort, fun starts => ?_⟩
  cases free 0x80 0x100 _ _ rfl rfl starts

end CardChannels.Tlv
