import CardChannels.Text.Label
import Mathlib.Data.List.Forall2

/-!
# Texts in the wide codings

A character is one code unit or a surrogate pair, and a text is the bytes of its units up to the
unused ones. Over a base a character is one byte: its number in the alphabet, or how far it stands
behind the base. The main statement is that every coding gives back the text that was written in
it, whatever stands behind the text.
-/
namespace CardChannels

namespace Utf16

/-- The code units of a character. -/
def unitsOf (c : Char) : List UInt16 :=
  if c.toNat < 0x10000 then [UInt16.ofNat c.toNat]
  else [UInt16.ofNat (0xD800 + (c.toNat - 0x10000) / 0x400),
    UInt16.ofNat (0xDC00 + (c.toNat - 0x10000) % 0x400)]

/-- The bytes of a text, the more significant byte of each unit first. -/
def bytesOf (text : List Char) : Bytes := (text.flatMap unitsOf).flatMap Bytes.ofWord

variable {c : Char} {text : List Char} {u high low : UInt16} {fill : Bytes}

theorem isHigh_iff : isHigh u = true ↔ 0xD800 ≤ u.toNat ∧ u.toNat ≤ 0xDBFF := by
  simp only [isHigh, decide_eq_true_eq, UInt16.le_iff_toNat_le]
  rfl

theorem isLow_iff : isLow u = true ↔ 0xDC00 ≤ u.toNat ∧ u.toNat ≤ 0xDFFF := by
  simp only [isLow, decide_eq_true_eq, UInt16.le_iff_toNat_le]
  rfl

/-- A character is outside the surrogate range and at most the last code point. -/
theorem toNat_valid (c : Char) : c.toNat < 0xD800 ∨ 0xDFFF < c.toNat ∧ c.toNat < 0x110000 :=
  c.valid

/-- The units come back from their bytes. -/
theorem units_append (us : List UInt16) (rest : Bytes) :
    units (us.flatMap Bytes.ofWord ++ rest) = us ++ units rest := by
  induction us with
  | nil => rfl
  | cons u us ih =>
    rw [List.flatMap_cons, Bytes.ofWord, List.append_assoc, List.cons_append, List.cons_append,
      List.nil_append, units, Bytes.word_ofWord, ih, List.cons_append]

theorem chars?_unit (notHigh : ¬isHigh u = true) (notLow : ¬isLow u = true)
    (rest : List UInt16) : chars? (u :: rest) = (chars? rest).map (Char.ofNat u.toNat :: ·) := by
  cases rest with
  | nil => simp [chars?, notHigh, notLow]
  | cons next rest => rw [chars?, if_neg notHigh, if_neg notLow]

theorem chars?_pair (hhigh : isHigh high = true) (hlow : isLow low = true)
    (rest : List UInt16) :
    chars? (high :: low :: rest) = (chars? rest).map (pairChar high low :: ·) := by
  rw [chars?, if_pos hhigh, if_pos hlow]

/-- A character is read from its units. -/
theorem chars?_unitsOf (c : Char) (rest : List UInt16) :
    chars? (unitsOf c ++ rest) = (chars? rest).map (c :: ·) := by
  have valid := toNat_valid c
  by_cases single : c.toNat < 0x10000
  · have value : (UInt16.ofNat c.toNat).toNat = c.toNat := by
      rw [UInt16.toNat_ofNat']
      omega
    have notHigh : ¬isHigh (UInt16.ofNat c.toNat) = true := by
      rw [isHigh_iff, value]
      omega
    have notLow : ¬isLow (UInt16.ofNat c.toNat) = true := by
      rw [isLow_iff, value]
      omega
    rw [unitsOf, if_pos single, List.cons_append, List.nil_append, chars?_unit notHigh notLow,
      value, Char.ofNat_toNat]
  · have highValue : (UInt16.ofNat (0xD800 + (c.toNat - 0x10000) / 0x400)).toNat =
        0xD800 + (c.toNat - 0x10000) / 0x400 := by
      rw [UInt16.toNat_ofNat']
      omega
    have lowValue : (UInt16.ofNat (0xDC00 + (c.toNat - 0x10000) % 0x400)).toNat =
        0xDC00 + (c.toNat - 0x10000) % 0x400 := by
      rw [UInt16.toNat_ofNat']
      omega
    have hhigh : isHigh (UInt16.ofNat (0xD800 + (c.toNat - 0x10000) / 0x400)) = true := by
      rw [isHigh_iff, highValue]
      omega
    have hlow : isLow (UInt16.ofNat (0xDC00 + (c.toNat - 0x10000) % 0x400)) = true := by
      rw [isLow_iff, lowValue]
      omega
    have whole : 0x10000 + (0xD800 + (c.toNat - 0x10000) / 0x400 - 0xD800) * 0x400 +
        (0xDC00 + (c.toNat - 0x10000) % 0x400 - 0xDC00) = c.toNat := by
      omega
    rw [unitsOf, if_neg single, List.cons_append, List.cons_append, List.nil_append,
      chars?_pair hhigh hlow, pairChar, highValue, lowValue, whole, Char.ofNat_toNat]

theorem chars?_flatMap (text : List Char) : chars? (text.flatMap unitsOf) = some text := by
  induction text with
  | nil => rfl
  | cons c text ih => rw [List.flatMap_cons, chars?_unitsOf, ih, Option.map_some]

/-- Only one character has the unit that marks the unused end. -/
theorem ne_unused_of_mem (other : c ≠ '\uFFFF') (hu : u ∈ unitsOf c) : u ≠ unused := by
  have valid := toNat_valid c
  have code : c.toNat ≠ 0xFFFF := fun same => other (Char.toNat_inj.mp same)
  rintro rfl
  by_cases single : c.toNat < 0x10000
  · rw [unitsOf, if_pos single, List.mem_singleton] at hu
    have value := congrArg UInt16.toNat hu
    rw [UInt16.toNat_ofNat'] at value
    change 0xFFFF = _ at value
    omega
  · rw [unitsOf, if_neg single] at hu
    rcases List.mem_pair.mp hu with hu | hu
    all_goals
      have value := congrArg UInt16.toNat hu
      rw [UInt16.toNat_ofNat'] at value
      change 0xFFFF = _ at value
      omega

/-- A text is read from its bytes, up to their end or to unused units. -/
theorem text?_bytesOf (plain : '\uFFFF' ∉ text)
    (ends : fill = [] ∨ ∃ rest, fill = 0xFF :: 0xFF :: rest) :
    text? (bytesOf text ++ fill) = some (String.ofList text) := by
  have used : ∀ u ∈ text.flatMap unitsOf, decide (u ≠ unused) = true := by
    intro u hu
    obtain ⟨c, hc, hu⟩ := List.mem_flatMap.mp hu
    apply decide_eq_true
    apply ne_unused_of_mem (c := c) _ hu
    rintro rfl
    exact plain hc
  have stops : (units fill).takeWhile (· ≠ unused) = [] := by
    rcases ends with rfl | ⟨rest, rfl⟩
    · rfl
    · exact List.takeWhile_cons_of_neg (by decide)
  rw [text?, bytesOf, units_append, List.takeWhile_append_of_pos used, stops, List.append_nil,
    chars?_flatMap, Option.map_some]

end Utf16

namespace AlphaId

/-- How a character may be written over a base: by its number in the alphabet, or by how far it
stands behind the base. -/
inductive Writes (base : Nat) : Char → UInt8 → Prop
  | listed {c : Char} {b : UInt8} (small : b < 0x80)
    (named : Gsm.alphabet[b.toNat]? = some c) : Writes base c b
  | offset {c : Char} (near : base ≤ c.toNat ∧ c.toNat ≤ base + 0x7F) :
    Writes base c (UInt8.ofNat (0x80 + (c.toNat - base)))

variable {base : Nat} {c : Char} {b : UInt8} {text : List Char} {bs : Bytes}

/-- A byte with the top bit is read as the character that stands so far behind the base. -/
theorem basedChar_offset (large : ¬b < 0x80) (code : base + b.toNat % 0x80 = c.toNat) :
    basedChar base b = .ok c := by
  have valid : c.toNat.isValidChar := c.valid
  have same := Char.ofNat_toNat c
  rw [Char.ofNat, dif_pos valid] at same
  rw [basedChar, if_neg large]
  dsimp only
  generalize base + b.toNat % 0x80 = n at code ⊢
  subst code
  rw [dif_pos valid, same]

theorem basedChar_of_writes (h : Writes base c b) : basedChar base b = .ok c := by
  cases h with
  | listed small named =>
    have hb : b.toNat < 128 := UInt8.lt_iff_toNat_lt.mp small
    rw [basedChar, if_pos small, Gsm.char, Nat.mod_eq_of_lt hb, List.getD_eq_getElem?_getD, named,
      Option.getD_some]
  | offset near =>
    have value : (UInt8.ofNat (0x80 + (c.toNat - base))).toNat = 0x80 + (c.toNat - base) := by
      rw [UInt8.toNat_ofNat']
      omega
    apply basedChar_offset
    · rw [UInt8.lt_iff_toNat_lt, value]
      exact Nat.not_lt.mpr (Nat.le_add_right ..)
    · rw [value]
      omega

theorem mapM_basedChar (h : List.Forall₂ (Writes base) text bs) :
    bs.mapM (basedChar base) = .ok text := by
  induction h with
  | nil => rfl
  | cons hwrites _ ih =>
    rw [List.mapM_cons, basedChar_of_writes hwrites, ih]
    rfl

/-- A text is read from the bytes of its characters over a base, whatever follows them. -/
theorem based_append (few : text.length ≤ 255) (h : List.Forall₂ (Writes base) text bs)
    (rest : Bytes) :
    based (UInt8.ofNat text.length) base (bs ++ rest) = .ok (String.ofList text) := by
  have count : (UInt8.ofNat text.length).toNat = bs.length := by
    rw [UInt8.toNat_ofNat', ← h.length_eq]
    omega
  rw [based, count, List.take_left, mapM_basedChar h]
  rfl

theorem decode_units (bs : Bytes) : decode (0x80 :: bs) = wideText .alphaIdentifier bs := rfl

theorem decode_halfBase (count low : UInt8) (bs : Bytes) :
    decode (0x81 :: count :: low :: bs) = based count (low.toNat * 0x80) bs := rfl

theorem decode_wholeBase (count : UInt8) (word : UInt16) (bs : Bytes) :
    decode (0x82 :: count :: (Bytes.ofWord word ++ bs)) = based count word.toNat bs :=
  congrArg (fun w : UInt16 => based count w.toNat bs) (Bytes.word_ofWord word)

end AlphaId

theorem TextString.decode_units (bs : Bytes) :
    decode (0x08 :: bs) = (wideText .textString bs).map some := rfl

/-- A text is read from each of its wide codings: in UTF-16 from an alpha identifier and from a
text string, with unused units behind it, and over a base from an alpha identifier that has all of
the base or its upper bits, with anything behind it. -/
theorem wide_codings_read_back (text : String) :
    ('\uFFFF' ∉ text.toList → ∀ fill, (fill = [] ∨ ∃ rest, fill = 0xFF :: 0xFF :: rest) →
      AlphaId.decode (0x80 :: (Utf16.bytesOf text.toList ++ fill)) = .ok text ∧
        TextString.decode (0x08 :: (Utf16.bytesOf text.toList ++ fill)) = .ok (some text)) ∧
      (text.length ≤ 255 → ∀ (base : UInt16) (bs : Bytes),
        List.Forall₂ (AlphaId.Writes base.toNat) text.toList bs → ∀ rest,
          AlphaId.decode (0x82 :: UInt8.ofNat text.length :: (Bytes.ofWord base ++ (bs ++ rest))) =
              .ok text ∧
            (base.toNat % 0x80 = 0 → base.toNat < 0x8000 →
              AlphaId.decode (0x81 :: UInt8.ofNat text.length ::
                UInt8.ofNat (base.toNat / 0x80) :: (bs ++ rest)) = .ok text)) := by
  constructor
  · intro plain fill ends
    have hread (field : Field) :
        wideText field (Utf16.bytesOf text.toList ++ fill) = .ok text := by
      rw [wideText, Utf16.text?_bytesOf plain ends, String.ofList_toList]
    constructor
    · rw [AlphaId.decode_units, hread]
    · rw [TextString.decode_units, hread]
      rfl
  · intro few base bs written rest
    have hread := AlphaId.based_append (by rwa [String.length_toList]) written rest
    rw [String.length_toList, String.ofList_toList] at hread
    constructor
    · rw [AlphaId.decode_wholeBase, hread]
    · intro aligned low
      have hbase : (UInt8.ofNat (base.toNat / 0x80)).toNat * 0x80 = base.toNat := by
        rw [UInt8.toNat_ofNat']
        omega
      rw [AlphaId.decode_halfBase, hbase, hread]

/-- A pair of surrogates before unused units, and a text over a base before other bytes. -/
theorem wide_codings_read_back_samples :
    AlphaId.decode [0x80, 0x00, 0x41, 0xD8, 0x3D, 0xDE, 0x00, 0xFF, 0xFF, 0x00] = .ok "A😀" ∧
      TextString.decode [0x08, 0x00, 0x41, 0xD8, 0x3D, 0xDE, 0x00, 0xFF, 0xFF, 0x00] =
        .ok (some "A😀") ∧
      AlphaId.decode [0x82, 0x02, 0x04, 0x00, 0x41, 0x90, 0x77] = .ok "AА" ∧
      AlphaId.decode [0x81, 0x02, 0x08, 0x41, 0x90, 0x77] = .ok "AА" := by
  have plain : '\uFFFF' ∉ "A😀".toList := by decide
  have units := (wide_codings_read_back "A😀").1 plain [0xFF, 0xFF, 0x00] (.inr ⟨[0x00], rfl⟩)
  have written : List.Forall₂ (AlphaId.Writes 0x0400) "AА".toList [0x41, 0x90] :=
    .cons (.listed (by decide) rfl) (.cons (.offset (by decide)) .nil)
  have based := (wide_codings_read_back "AА").2 (by decide) 0x0400 _ written [0x77]
  exact ⟨units.1, units.2, based.1, based.2 rfl (by decide)⟩

end CardChannels
