import CardChannels.Proofs.Tlv.Fields
import Mathlib.Algebra.Group.Nat.Defs
import Mathlib.Data.List.Basic
import Mathlib.Data.List.Induction

/-!
# Images of objects

An object in data is the bytes of its tag, the shortest bytes that spell its length, and that many
bytes of value. The main statements are that reading finds an object exactly where such an image
stands, and tells how long the image is, and that it finds nothing exactly at the end and at
padding.
-/
namespace CardChannels.Tlv

/-- The bytes of a tag: one byte that is neither padding nor the mark of the longer form, or the
mark and a word. The top bit is the flag. -/
inductive TagImage : Bytes → UInt16 → Bool → Prop
  | short (b : UInt8) (range : 0x01 ≤ b ∧ b ≤ 0x7E ∨ 0x81 ≤ b ∧ b ≤ 0xFE) :
    TagImage [b] (UInt16.ofNat (b.toNat % 0x80)) (0x80 ≤ b)
  | long (high low : UInt8) :
    TagImage [0x7F, high, low] (UInt16.ofNat ((Bytes.word high low).toNat % 0x8000))
      (0x8000 ≤ (Bytes.word high low).toNat)

/-- Bytes that spell a length: one byte, or a lead that counts the bytes behind it. -/
inductive Spells : Bytes → Nat → Prop
  | short (b : UInt8) (small : b < 0x80) : Spells [b] b.toNat
  | long (digits : Bytes) (count : 1 ≤ digits.length ∧ digits.length ≤ 3) :
    Spells (UInt8.ofNat (0x80 + digits.length) :: digits) (Bytes.toNat digits)

/-- The shortest bytes that spell a length. -/
structure LengthImage (field : Bytes) (n : Nat) : Prop where
  spells : Spells field n
  shortest : ∀ other, Spells other n → field.length ≤ other.length

/-- The bytes of one object in data, which is read as a leaf. -/
inductive Image : Bytes → Tlv → Prop
  | mk {tagBytes field value : Bytes} {tag : UInt16} {required : Bool}
    (tagged : TagImage tagBytes tag required) (measured : LengthImage field value.length) :
    Image (tagBytes ++ (field ++ value)) (.leaf tag required value)

/-- What may follow the last object: nothing, or padding and whatever comes behind it. -/
def EndsObjects (tail : Bytes) : Prop := ∀ b ∈ tail.head?, b = 0x00 ∨ b = 0x80 ∨ b = 0xFF

variable {field bs image digits : Bytes} {n used offset width least : Nat} {lead : UInt8} {t : Tlv}

/-! Lengths -/

theorem longForm?_eq_some (h : longForm? lead = some (width, least)) :
    lead = 0x81 ∧ width = 1 ∧ least = 0x80 ∨ lead = 0x82 ∧ width = 2 ∧ least = 0x100 ∨
      lead = 0x83 ∧ width = 3 ∧ least = 0x10000 := by
  by_cases h₁ : lead = 0x81
  · simp_all [longForm?, eq_comm]
  · by_cases h₂ : lead = 0x82
    · simp_all [longForm?, eq_comm]
    · by_cases h₃ : lead = 0x83
      · simp_all [longForm?, eq_comm]
      · simp_all [longForm?]

/-- The last byte of a number. -/
theorem ofNat_last (n : Nat) (b : UInt8) : UInt8.ofNat (n * 256 + b.toNat) = b := by
  apply UInt8.toNat_inj.mp
  rw [UInt8.toNat_ofNat']
  have := b.toNat_lt
  omega

/-- Bytes in a longer form are the field for the length that they spell, if no shorter form can
carry it. -/
theorem lengthField_toNat (form : longForm? lead = some (digits.length, least))
    (enough : least ≤ Bytes.toNat digits) : lengthField (Bytes.toNat digits) = lead :: digits := by
  rcases longForm?_eq_some form with ⟨rfl, hw, rfl⟩ | ⟨rfl, hw, rfl⟩ | ⟨rfl, hw, rfl⟩
  · obtain ⟨a, rfl⟩ := List.length_eq_one_iff.mp hw
    have ha := a.toNat_lt
    have hn : Bytes.toNat [a] = a.toNat := by simp [Bytes.toNat]
    rw [hn] at enough ⊢
    rw [lengthField, if_neg (by omega), if_pos (by omega), UInt8.ofNat_toNat]
  · obtain ⟨a, b, rfl⟩ := List.length_eq_two.mp hw
    have ha := a.toNat_lt
    have hb := b.toNat_lt
    have hn : Bytes.toNat [a, b] = a.toNat * 256 + b.toNat := by simp [Bytes.toNat]
    have first : (a.toNat * 256 + b.toNat) / 0x100 = a.toNat := by omega
    rw [hn] at enough ⊢
    rw [lengthField, if_neg (by omega), if_neg (by omega), if_pos (by omega), first,
      UInt8.ofNat_toNat, ofNat_last]
  · obtain ⟨a, b, c, rfl⟩ := List.length_eq_three.mp hw
    have ha := a.toNat_lt
    have hb := b.toNat_lt
    have hc := c.toNat_lt
    have hn : Bytes.toNat [a, b, c] = (a.toNat * 256 + b.toNat) * 256 + c.toNat := by
      simp [Bytes.toNat]
    have first : ((a.toNat * 256 + b.toNat) * 256 + c.toNat) / 0x10000 = a.toNat := by omega
    have second :
        ((a.toNat * 256 + b.toNat) * 256 + c.toNat) / 0x100 = a.toNat * 256 + b.toNat := by
      omega
    rw [hn] at enough ⊢
    rw [lengthField, if_neg (by omega), if_neg (by omega), if_neg (by omega), first, second,
      UInt8.ofNat_toNat, ofNat_last, ofNat_last]

theorem toNat_concat (bs : Bytes) (b : UInt8) :
    Bytes.toNat (bs ++ [b]) = Bytes.toNat bs * 256 + b.toNat := by
  simp [Bytes.toNat]

theorem toNat_lt (bs : Bytes) : Bytes.toNat bs < 256 ^ bs.length := by
  induction bs using List.reverseRecOn with
  | nil => decide
  | append_singleton bs b ih =>
    have hb := b.toNat_lt
    rw [toNat_concat, List.length_append, List.length_singleton, Nat.pow_succ]
    omega

/-- The field for a length below `0x80`. -/
theorem lengthField_short {b : UInt8} (small : b < 0x80) : lengthField b.toNat = [b] := by
  have hb : b.toNat < 0x80 := UInt8.lt_iff_toNat_lt.mp small
  rw [lengthField, if_pos hb, UInt8.ofNat_toNat]

/-- A length is read from one byte, or from bytes behind a lead that no shorter form can carry. -/
theorem readLength_eq_ok (h : readLength offset bs = .ok (n, used)) :
    (∃ b rest, bs = b :: rest ∧ b < 0x80 ∧ n = b.toNat ∧ used = 1) ∨
      ∃ lead digits rest least, bs = lead :: digits ++ rest ∧
        longForm? lead = some (digits.length, least) ∧ least ≤ Bytes.toNat digits ∧
        n = Bytes.toNat digits ∧ used = 1 + digits.length := by
  cases bs with
  | nil => cases h
  | cons lead rest =>
    by_cases small : lead < 0x80
    · rw [readLength, if_pos small] at h
      cases h
      exact .inl ⟨lead, rest, rfl, small, rfl, rfl⟩
    · rw [readLength, if_neg small] at h
      rcases hform : longForm? lead with _ | ⟨width, least⟩
      · rw [hform] at h
        cases h
      · simp only [hform] at h
        by_cases short : (rest.take width).length < width
        · rw [if_pos short] at h
          cases h
        · by_cases few : Bytes.toNat (rest.take width) < least
          · rw [if_neg short, if_pos few] at h
            cases h
          · rw [if_neg short, if_neg few] at h
            cases h
            have hwidth : (rest.take width).length = width := by
              have := List.length_take_le width rest
              omega
            refine .inr ⟨lead, rest.take width, rest.drop width, least, ?_, ?_, ?_, rfl, ?_⟩
            · rw [List.cons_append, List.take_append_drop]
            · rw [hwidth, hform]
            · exact Nat.not_lt.mp few
            · rw [hwidth]

theorem spells_of_longForm? (form : longForm? lead = some (digits.length, least)) :
    Spells (lead :: digits) (Bytes.toNat digits) := by
  rcases longForm?_eq_some form with ⟨rfl, hw, -⟩ | ⟨rfl, hw, -⟩ | ⟨rfl, hw, -⟩
  all_goals
    have h := Spells.long digits (by omega)
    rw [hw] at h
    exact h

/-- The field for a length spells it, and where a length is read there stands the field for it. -/
theorem field_of_readLength (h : readLength offset bs = .ok (n, used)) :
    Spells (lengthField n) n ∧ used = (lengthField n).length ∧ lengthField n <+: bs := by
  rcases readLength_eq_ok h with ⟨b, rest, rfl, small, rfl, rfl⟩ |
    ⟨lead, digits, rest, least, rfl, form, enough, rfl, rfl⟩
  · rw [lengthField_short small]
    exact ⟨.short b small, rfl, List.prefix_append [b] rest⟩
  · rw [lengthField_toNat form enough]
    refine ⟨spells_of_longForm? form, ?_, List.prefix_append _ rest⟩
    rw [List.length_cons, Nat.add_comm]

theorem spells_lengthField (hn : n ≤ maxLength) : Spells (lengthField n) n :=
  (field_of_readLength (readLength_lengthField hn 0 [])).1

/-- No bytes that spell a length are shorter than the field for it. -/
theorem lengthFieldSize_le (h : Spells field n) :
    n ≤ maxLength ∧ lengthFieldSize n ≤ field.length := by
  cases h with
  | short b small =>
    have hb : b.toNat < 0x80 := UInt8.lt_iff_toNat_lt.mp small
    simp only [maxLength, lengthFieldSize, hb, if_true, List.length_singleton]
    omega
  | long digits count =>
    have hlt := toNat_lt digits
    rw [List.length_cons]
    generalize Bytes.toNat digits = n at hlt
    generalize digits.length = width at hlt count
    have hwidth : width = 1 ∨ width = 2 ∨ width = 3 := by omega
    simp only [maxLength, lengthFieldSize]
    rcases hwidth with rfl | rfl | rfl <;> split_ifs <;> omega

/-- A length is read exactly where the field for it stands. -/
theorem readLength_eq_ok_iff : readLength offset bs = .ok (n, used) ↔
    n ≤ maxLength ∧ used = (lengthField n).length ∧ lengthField n <+: bs := by
  constructor
  · intro h
    obtain ⟨spells, hused, hprefix⟩ := field_of_readLength h
    exact ⟨(lengthFieldSize_le spells).1, hused, hprefix⟩
  · rintro ⟨hn, rfl, rest, rfl⟩
    exact readLength_lengthField hn offset rest

/-- The shortest bytes that spell a length are the field for it. -/
theorem lengthImage_iff : LengthImage field n ↔ n ≤ maxLength ∧ field = lengthField n := by
  constructor
  · rintro ⟨spells, shortest⟩
    have hn := (lengthFieldSize_le spells).1
    refine ⟨hn, ?_⟩
    -- The field for the length spells it too, so no shorter form could have carried it.
    have hle := shortest _ (spells_lengthField hn)
    cases spells with
    | short b small => exact (lengthField_short small).symm
    | long digits count =>
      rw [List.length_cons, length_lengthField, lengthFieldSize] at hle
      have field_eq {least : Nat} (form : longForm? (UInt8.ofNat (0x80 + digits.length)) =
          some (digits.length, least)) (enough : least ≤ Bytes.toNat digits) :
          UInt8.ofNat (0x80 + digits.length) :: digits = lengthField (Bytes.toNat digits) :=
        (lengthField_toNat form enough).symm
      have hwidth : digits.length = 1 ∨ digits.length = 2 ∨ digits.length = 3 := by omega
      rcases hwidth with hw | hw | hw
      all_goals
        apply field_eq (by rw [hw]; rfl)
        split_ifs at hle <;> omega
  · rintro ⟨hn, rfl⟩
    refine ⟨spells_lengthField hn, fun other h => ?_⟩
    rw [length_lengthField]
    exact (lengthFieldSize_le h).2

/-! Tags -/

/-- A tag is read from its bytes, whatever follows. -/
theorem readTag_of_tagImage {tagBytes : Bytes} {tag : UInt16} {required : Bool}
    (h : TagImage tagBytes tag required) :
    ∃ first more, tagBytes = first :: more ∧ isPadding first = false ∧
      ∀ offset rest,
        readTag offset first (more ++ rest) = .ok ⟨tag, required, (first :: more).length⟩ := by
  cases h with
  | short b range =>
    have notMark : b ≠ 0x7F := by
      rintro rfl
      exact absurd range (by decide)
    refine ⟨b, [], rfl, ?_, fun offset rest => if_neg notMark⟩
    simp only [isPadding, Bool.or_eq_false_iff, decide_eq_false_iff_not]
    refine ⟨⟨?_, ?_⟩, ?_⟩
    all_goals
      rintro rfl
      exact absurd range (by decide)
  | long high low => exact ⟨0x7F, [high, low], rfl, by decide, fun offset rest => rfl⟩

/-- Where a tag is read there stand its bytes, unless padding does. -/
theorem tagImage_of_readTag {first : UInt8} {rest : Bytes} {header : Header}
    (h : readTag offset first rest = .ok header) (padding : isPadding first = false) :
    ∃ more behind, rest = more ++ behind ∧ TagImage (first :: more) header.tag header.required ∧
      header.used = (first :: more).length := by
  by_cases mark : first = 0x7F
  · subst mark
    match rest with
    | high :: low :: behind =>
      cases h
      exact ⟨[high, low], behind, rfl, .long high low, rfl⟩
    | [] | [_] => cases h
  · obtain rfl : _ = header := Except.ok.inj ((if_neg mark).symm.trans h)
    refine ⟨[], rest, rfl, .short first ?_, rfl⟩
    simp only [isPadding, Bool.or_eq_false_iff, decide_eq_false_iff_not,
      ← UInt8.toNat_inj] at padding
    simp only [← UInt8.toNat_inj] at mark
    simp only [UInt8.le_iff_toNat_le]
    have := first.toNat_lt
    simp only [UInt8.toNat_zero, UInt8.reduceToNat] at padding mark ⊢
    omega

/-! Objects -/

/-- An object is read from its image, whatever follows. -/
theorem read_image (h : Image image t) (offset : Nat) (rest : Bytes) :
    read offset (image ++ rest) = .ok (some (t, image.length)) := by
  obtain ⟨tagged, measured⟩ := h
  obtain ⟨first, more, rfl, padding, hread⟩ := readTag_of_tagImage tagged
  obtain ⟨hlength, rfl⟩ := lengthImage_iff.mp measured
  exact read_fields padding hread hlength offset rest

theorem endsObjects_cons_iff {first : UInt8} {rest : Bytes} :
    EndsObjects (first :: rest) ↔ isPadding first = true := by
  simp [EndsObjects, isPadding, or_assoc]

theorem image_of_tagImage {tagBytes rest : Bytes} {tag : UInt16} {required : Bool}
    (tagged : TagImage tagBytes tag required) (hn : n ≤ maxLength) (enough : n ≤ rest.length) :
    Image (tagBytes ++ (lengthField n ++ rest.take n)) (.leaf tag required (rest.take n)) := by
  have hvalue : (rest.take n).length = n := List.length_take_of_le enough
  apply Image.mk tagged
  rw [hvalue]
  exact lengthImage_iff.mpr ⟨hn, rfl⟩

/-- What is read without a fault is nothing, where the objects may end, or an object, where its
image stands. -/
theorem read_eq_ok {found : Option (Tlv × Nat)} (h : read offset bs = .ok found) :
    found = none ∧ EndsObjects bs ∨
      ∃ t image rest, found = some (t, image.length) ∧ Image image t ∧ bs = image ++ rest := by
  match bs with
  | [] =>
    cases h
    exact .inl ⟨rfl, by simp [EndsObjects]⟩
  | first :: behind =>
    by_cases padding : isPadding first = true
    · rw [read, if_pos padding] at h
      cases h
      exact .inl ⟨rfl, endsObjects_cons_iff.mpr padding⟩
    · rw [read, if_neg padding] at h
      rcases hheader : readTag offset first behind with fault | header
      · rw [hheader] at h
        cases h
      · obtain ⟨more, after, rfl, tagged, hused⟩ :=
          tagImage_of_readTag hheader (Bool.not_eq_true _ ▸ padding)
        have hafter : (first :: (more ++ after)).drop header.used = after := by
          rw [hused, ← List.cons_append, List.drop_left]
        simp only [hheader, bind, Except.bind, ← List.drop_drop, hafter] at h
        rcases hlength : readLength (offset + header.used) after with fault | ⟨n, width⟩
        · rw [hlength] at h
          cases h
        · obtain ⟨hn, rfl, rest, rfl⟩ := readLength_eq_ok_iff.mp hlength
          simp only [hlength, List.drop_left] at h
          by_cases short : (rest.take n).length < n
          · rw [if_pos short] at h
            cases h
          · rw [if_neg short] at h
            cases h
            have enough : n ≤ rest.length :=
              Nat.le_trans (Nat.not_lt.mp short) (List.length_take_le' n rest)
            refine .inr ⟨_, _, rest.drop n, ?_, image_of_tagImage tagged hn enough, ?_⟩
            · rw [List.length_append, List.length_append, List.length_take_of_le enough, hused,
                Nat.add_assoc]
            · rw [List.append_assoc, List.append_assoc, List.take_append_drop, List.cons_append]

/-- An object is read exactly where its image stands. -/
theorem read_eq_some_iff : read offset bs = .ok (some (t, used)) ↔
    ∃ image rest, Image image t ∧ bs = image ++ rest ∧ used = image.length := by
  constructor
  · intro h
    rcases read_eq_ok h with ⟨hnone, -⟩ | ⟨t', image, rest, hsome, himage, hbs⟩
    · cases hnone
    · cases hsome
      exact ⟨image, rest, himage, hbs, rfl⟩
  · rintro ⟨image, rest, himage, rfl, rfl⟩
    exact read_image himage offset rest

/-- An object is found at an index exactly where its image stands, and it ends behind the image. -/
theorem decode_eq_some_iff {data : Bytes} {index next : Nat} :
    decode data index = .ok (some (t, next)) ↔
      ∃ image rest, Image image t ∧ data.drop index = image ++ rest ∧
        next = index + image.length := by
  rw [decode]
  constructor
  · intro h
    rcases hread : read index (data.drop index) with fault | _ | ⟨found, used⟩
    · rw [hread] at h
      cases h
    · rw [hread] at h
      cases h
    · rw [hread] at h
      cases h
      obtain ⟨image, rest, himage, hdrop, rfl⟩ := read_eq_some_iff.mp hread
      exact ⟨image, rest, himage, hdrop, rfl⟩
  · rintro ⟨image, rest, himage, hdrop, rfl⟩
    rw [hdrop, read_image himage]
    rfl

/-- Bytes that are read to their end as one object are its image. -/
theorem image_of_read (offset : Nat) (h : read offset bs = .ok (some (t, bs.length))) :
    Image bs t := by
  obtain ⟨image, rest, himage, whole, used⟩ := read_eq_some_iff.mp h
  rw [← List.append_nil bs] at whole
  rwa [List.append_inj_left whole used]

/-- Nothing is read exactly where the objects may end. -/
theorem read_eq_none_iff : read offset bs = .ok none ↔ EndsObjects bs := by
  constructor
  · intro h
    rcases read_eq_ok h with ⟨-, hends⟩ | ⟨t, image, rest, hsome, -⟩
    · exact hends
    · cases hsome
  · intro hends
    cases bs with
    | nil => rfl
    | cons first rest => rw [read, if_pos (endsObjects_cons_iff.mp hends)]

end CardChannels.Tlv
