import CardChannels.Tlv.Decode
import CardChannels.Tlv.Encode

/-!
# Reading back what was written

The tag and the length of an object are read back from their fields, whatever follows, and so is
the object as a leaf. A tag field never starts with padding: the tags whose byte would be padding
or the mark of the longer form are written in the longer form.
-/
namespace CardChannels.Tlv

variable {tag : UInt16} {lead : UInt8} {field : Bytes} {least n : Nat}

theorem length_lengthField (n : Nat) : (lengthField n).length = lengthFieldSize n := by
  unfold lengthField lengthFieldSize
  split
  · rfl
  · split
    · rfl
    · split <;> rfl

/-- A length in one of the longer forms is read back when the form may carry it. -/
theorem readLength_long (hlead : ¬lead < 0x80) (hform : longForm? lead = some (field.length, least))
    (hleast : least ≤ Bytes.toNat field) (offset : Nat) (rest : Bytes) :
    readLength offset (lead :: field ++ rest) = .ok (Bytes.toNat field, 1 + field.length) := by
  have htake : (field ++ rest).take field.length = field := List.take_left
  simp only [List.cons_append, readLength, if_neg hlead, hform, htake, Nat.lt_irrefl, if_false,
    if_neg (Nat.not_lt.mpr hleast)]

/-- A length is read back from its field. -/
theorem readLength_lengthField (hn : n ≤ maxLength) (offset : Nat) (rest : Bytes) :
    readLength offset (lengthField n ++ rest) = .ok (n, (lengthField n).length) := by
  have hmax : n < 0x1000000 := Nat.lt_succ_of_le hn
  -- In each longer form the bytes spell a length that the shorter forms could not carry.
  have long {lead : UInt8} {field : Bytes} {least : Nat} (hlead : ¬lead < 0x80)
      (hform : longForm? lead = some (field.length, least)) (hvalue : Bytes.toNat field = n)
      (hleast : least ≤ n) :
      readLength offset (lead :: field ++ rest) = .ok (n, (lead :: field).length) := by
    rw [readLength_long hlead hform (hvalue.symm ▸ hleast), hvalue, List.length_cons,
      Nat.add_comm]
  unfold lengthField
  split
  · rename_i h
    have hlead : (UInt8.ofNat n).toNat = n := by
      rw [UInt8.toNat_ofNat']
      omega
    have hshort : UInt8.ofNat n < 0x80 := by
      rw [UInt8.lt_iff_toNat_lt, hlead]
      exact h
    simp only [List.cons_append, readLength, if_pos hshort, hlead, List.length_singleton]
  · split
    · refine long (by decide) rfl ?_ (Nat.not_lt.mp ‹_›)
      simp only [Bytes.toNat, List.foldl_cons, List.foldl_nil, UInt8.toNat_ofNat']
      omega
    · split
      · refine long (by decide) rfl ?_ (Nat.not_lt.mp ‹_›)
        simp only [Bytes.toNat, List.foldl_cons, List.foldl_nil, UInt8.toNat_ofNat']
        omega
      · refine long (by decide) rfl ?_ (Nat.not_lt.mp ‹_›)
        simp only [Bytes.toNat, List.foldl_cons, List.foldl_nil, UInt8.toNat_ofNat']
        omega

/-- A number below the weight of a flag is the remainder of the flagged number. -/
theorem mod_flagged {weight : Nat} (hn : n < weight) (required : Bool) :
    (n + if required then weight else 0) % weight = n := by
  cases required with
  | false => exact Nat.mod_eq_of_lt hn
  | true => simp only [if_true, Nat.add_mod_right, Nat.mod_eq_of_lt hn]

/-- The flagged number reaches the weight exactly when the flag is set. -/
theorem le_flagged_iff {weight : Nat} (hn : n < weight) (required : Bool) :
    (weight ≤ n + if required then weight else 0) ↔ required = true := by
  cases required with
  | false => simpa using hn
  | true => simp

/-- The one-byte form of a tag does not start with padding or the mark of the longer form. -/
theorem toNat_shortTag (hshort : shortTag tag = true) (required : Bool) :
    let first := UInt8.ofNat (tag.toNat + if required then 0x80 else 0)
    first.toNat = tag.toNat + (if required then 0x80 else 0) ∧ tag.toNat < 0x7F ∧
      isPadding first = false ∧ first ≠ 0x7F := by
  have hrange : 1 ≤ tag.toNat ∧ tag.toNat ≤ 0x7E := by
    simpa [shortTag, UInt16.le_iff_toNat_le] using hshort
  have hfirst : (UInt8.ofNat (tag.toNat + if required then 0x80 else 0)).toNat =
      tag.toNat + if required then 0x80 else 0 := by
    rw [UInt8.toNat_ofNat']
    split <;> omega
  -- Padding and the mark leave the remainder 0 or 0x7F, which no tag of this form has.
  have hrem := mod_flagged (show tag.toNat < 0x80 by omega) required
  have other (b : UInt8) (hb : b.toNat % 0x80 = 0 ∨ b.toNat % 0x80 = 0x7F) :
      UInt8.ofNat (tag.toNat + if required then 0x80 else 0) ≠ b := by
    intro heq
    rw [← heq, hfirst, hrem] at hb
    omega
  refine ⟨hfirst, by omega, ?_, other 0x7F (.inr rfl)⟩
  simp only [isPadding, Bool.or_eq_false_iff, decide_eq_false_iff_not]
  exact ⟨⟨other 0x00 (.inl rfl), other 0x80 (.inl rfl)⟩, other 0xFF (.inr rfl)⟩

/-- The field of a tag does not start with padding, and the tag and its flag are read back. -/
theorem readTag_tagField (htag : tag ≤ 0x7FFF) (required : Bool) :
    ∃ first more, tagField tag required = first :: more ∧ isPadding first = false ∧
      ∀ offset rest,
        readTag offset first (more ++ rest) = .ok ⟨tag, required, (first :: more).length⟩ := by
  have hsmall : tag.toNat < 0x8000 := Nat.lt_succ_of_le (UInt16.le_iff_toNat_le.mp htag)
  unfold tagField
  split
  · rename_i hshort
    obtain ⟨hfirst, htag, hpadding, hmark⟩ := toNat_shortTag hshort required
    refine ⟨_, [], rfl, hpadding, fun offset rest => ?_⟩
    have hbelow : tag.toNat < 0x80 := Nat.lt_succ_of_lt htag
    have hflag : (0x80 ≤ UInt8.ofNat (tag.toNat + if required then 0x80 else 0)) ↔
        required = true := by
      rw [UInt8.le_iff_toNat_le, hfirst]
      exact le_flagged_iff hbelow required
    simp only [readTag, if_neg hmark, hfirst, mod_flagged hbelow, hflag, UInt16.ofNat_toNat,
      Bool.decide_eq_true, List.length_singleton]
  · refine ⟨0x7F, _, rfl, by decide, fun offset rest => ?_⟩
    have hword : (UInt16.ofNat (tag.toNat % 0x8000 + if required then 0x8000 else 0)).toNat =
        tag.toNat + if required then 0x8000 else 0 := by
      rw [UInt16.toNat_ofNat']
      split <;> omega
    generalize UInt16.ofNat (tag.toNat % 0x8000 + if required then 0x8000 else 0) = word at hword ⊢
    simp only [Bytes.ofWord, readTag, List.cons_append, if_true, Bytes.word_ofWord]
    simp only [hword, mod_flagged hsmall, le_flagged_iff hsmall, UInt16.ofNat_toNat,
      Bool.decide_eq_true, List.length_cons, List.length_nil]

/-- An object in front of others is read as a leaf once its tag is read from its first bytes. -/
theorem read_fields {first : UInt8} {more value : Bytes} {required : Bool}
    (padding : isPadding first = false)
    (tagged : ∀ offset rest,
      readTag offset first (more ++ rest) = .ok ⟨tag, required, (first :: more).length⟩)
    (hlength : value.length ≤ maxLength) (offset : Nat) (rest : Bytes) :
    let image := first :: more ++ (lengthField value.length ++ value)
    read offset (image ++ rest) = .ok (some (.leaf tag required value, image.length)) := by
  intro image
  let after := lengthField value.length ++ (value ++ rest)
  have hbs : image ++ rest = first :: (more ++ after) := by
    simp only [image, after, List.cons_append, List.append_assoc]
  have hsize : image.length =
      (first :: more).length + (lengthField value.length).length + value.length := by
    simp only [image, List.length_append, Nat.add_assoc]
  have hlengthAt : (first :: (more ++ after)).drop (first :: more).length = after := by
    rw [← List.cons_append, List.drop_left]
  have hvalueAt : (first :: (more ++ after)).drop
      ((first :: more).length + (lengthField value.length).length) = value ++ rest := by
    rw [← List.drop_drop, hlengthAt, List.drop_left]
  rw [hbs, hsize]
  simp only [read, padding, Bool.false_eq_true, if_false, tagged, bind, Except.bind, hlengthAt,
    after, readLength_lengthField hlength, hvalueAt, List.take_left, Nat.lt_irrefl]

/-- An object in front of others is read back as a leaf. -/
theorem read_leaf (htag : tag ≤ 0x7FFF) (required : Bool) {value : Bytes}
    (hlength : value.length ≤ maxLength) (offset : Nat) (rest : Bytes) :
    read offset ((leaf tag required value).bytes ++ rest) =
      .ok (some (.leaf tag required value, (leaf tag required value).bytes.length)) := by
  obtain ⟨first, more, hfield, hpadding, htagged⟩ := readTag_tagField htag required
  simpa only [bytes, hfield] using read_fields hpadding htagged hlength offset rest

end CardChannels.Tlv
