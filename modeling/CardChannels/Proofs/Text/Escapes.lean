import CardChannels.Proofs.Text.GsmText
import CardChannels.Proofs.Text.WideText

/-!
# Escapes in alpha identifiers

A byte below `0x80` is a number in the alphabet in the plain form and in the two forms over a base.
The plain form alone takes an escape and the byte behind it for one further character. Over a base
the escape is a character of its own. The main statement is that the forms agree on such bytes
exactly when none of them is the escape.
-/
namespace CardChannels

namespace Gsm

variable {bs : Bytes} {b : UInt8}

/-- Only its own number names the escape. -/
theorem char_ne_escape (plain : b % 128 ≠ escape) : char b ≠ '\x1b' := by
  have single : ∀ n < 128, alphabet.getD n ' ' = '\x1b' → n = 0x1B := by decide
  intro named
  apply plain
  apply UInt8.toNat_inj.mp
  exact (UInt8.toNat_mod ..).trans (single (b.toNat % 128) (Nat.mod_lt _ (by decide)) named)

theorem escapedChar_ne_escape (n : UInt8) : escapedChar n ≠ '\x1b' := by
  have further : ∀ p ∈ extension, p.2 ≠ '\x1b' := by decide
  rw [escapedChar]
  split
  · rename_i listed
    exact further _ (List.mem_of_find?_eq_some listed)
  · decide

/-- The escape is never a character of its own in a text. -/
theorem escape_not_mem_chars (bs : Bytes) : '\x1b' ∉ chars bs := by
  fun_induction chars bs with
  | case1 => exact List.not_mem_nil
  | case2 b escaped => exact List.not_mem_nil
  | case3 b plain => exact fun mem => char_ne_escape plain (List.mem_singleton.mp mem).symm
  | case4 b next rest escaped ih =>
    exact List.not_mem_cons_of_ne_of_not_mem (escapedChar_ne_escape next).symm ih
  | case5 b next rest plain ih =>
    exact List.not_mem_cons_of_ne_of_not_mem (char_ne_escape plain).symm ih

/-- Each byte is a character by itself exactly when none of them is the escape. -/
theorem chars_eq_map_iff (small : ∀ b ∈ bs, b < 0x80) :
    chars bs = bs.map char ↔ escape ∉ bs := by
  constructor
  · intro same mem
    apply escape_not_mem_chars bs
    rw [same]
    exact List.mem_map.mpr ⟨escape, mem, rfl⟩
  · intro plain
    induction bs with
    | nil => rfl
    | cons b bs ih =>
      obtain ⟨first, others⟩ := List.forall_mem_cons.mp small
      obtain ⟨other, rest⟩ := not_or.mp (mt List.mem_cons.mpr plain)
      rw [chars_plain first (Ne.symm other), ih others rest, List.map_cons]

/-- A byte below `0x80` is the place of its character in the alphabet. -/
theorem getElem?_alphabet (small : b < 0x80) : alphabet[b.toNat]? = some (char b) := by
  have low : b.toNat < 128 := UInt8.lt_iff_toNat_lt.mp small
  have inside : b.toNat < alphabet.length := low
  rw [char, Nat.mod_eq_of_lt low, List.getD_eq_getElem?_getD, List.getElem?_eq_getElem inside,
    Option.getD_some]

end Gsm

namespace AlphaId

variable {bs : Bytes}

/-- Bytes below `0x80` alone are text in the plain form. -/
theorem decode_plain (small : ∀ b ∈ bs, b < 0x80) :
    decode bs = .ok (String.ofList (Gsm.chars bs)) := by
  have hread := Gsm.unpacked_append small (.inl rfl)
  rw [List.append_nil] at hread
  rw [← hread]
  cases bs with
  | nil => rfl
  | cons form rest =>
    have low : form.toNat < 0x80 := UInt8.lt_iff_toNat_lt.mp (small form List.mem_cons_self)
    have other (code : UInt8) (high : 0x80 ≤ code.toNat) : form ≠ code := by
      rintro rfl
      omega
    rw [decode.eq_def]
    simp only [if_neg (other 0x80 (by decide)), if_neg (other 0x81 (by decide)),
      if_neg (other 0x82 (by decide))]

/-- Over a base bytes below `0x80` are a character each, whatever follows them. -/
theorem based_plain (small : ∀ b ∈ bs, b < 0x80) (few : bs.length ≤ 255) (base : Nat)
    (rest : Bytes) : based (UInt8.ofNat bs.length) base (bs ++ rest) =
      .ok (String.ofList (bs.map Gsm.char)) := by
  have written : List.Forall₂ (Writes base) (bs.map Gsm.char) bs := by
    rw [List.forall₂_map_left_iff, List.forall₂_same]
    intro b hb
    exact .listed (small b hb) (Gsm.getElem?_alphabet (small b hb))
  have hread := based_append (by rwa [List.length_map]) written rest
  rwa [List.length_map] at hread

/-- The two forms over a base give the same text for bytes below `0x80`, a character for each of
them, whatever the base is and whatever follows. The plain form gives a text without the escape,
which is the same text exactly when none of the bytes is the escape. -/
theorem forms_agree_iff_no_escape (small : ∀ b ∈ bs, b < 0x80) (few : bs.length ≤ 255)
    (low : UInt8) (base : UInt16) (rest : Bytes) :
    ∃ text plain,
      decode (0x81 :: UInt8.ofNat bs.length :: low :: (bs ++ rest)) = .ok text ∧
      decode (0x82 :: UInt8.ofNat bs.length :: (Bytes.ofWord base ++ (bs ++ rest))) = .ok text ∧
      text.toList = bs.map Gsm.char ∧
      decode bs = .ok plain ∧ '\x1b' ∉ plain.toList ∧
      (plain = text ↔ Gsm.escape ∉ bs) := by
  refine ⟨String.ofList (bs.map Gsm.char), String.ofList (Gsm.chars bs), ?_, ?_,
    String.toList_ofList, decode_plain small, ?_, ?_⟩
  · rw [decode_halfBase, based_plain small few]
  · rw [decode_wholeBase, based_plain small few]
  · rw [String.toList_ofList]
    exact Gsm.escape_not_mem_chars bs
  · rw [String.ofList_inj, Gsm.chars_eq_map_iff small]

/-- Three characters in all forms, and an escape that only the plain form resolves. -/
theorem forms_agree_on_plain_text :
    decode [0x48, 0x69, 0x21] = .ok "Hi!" ∧
      decode [0x81, 0x03, 0x08, 0x48, 0x69, 0x21, 0x90] = .ok "Hi!" ∧
      decode [0x82, 0x03, 0x04, 0x00, 0x48, 0x69, 0x21, 0x90] = .ok "Hi!" ∧
      decode [0x81, 0x03, 0x08, 0x48, 0x1B, 0x65] ≠ decode [0x48, 0x1B, 0x65] := by
  have small : ∀ b ∈ ([0x48, 0x69, 0x21] : Bytes), b < 0x80 := by simp
  obtain ⟨text, plain, half, whole, spelled, alone, -, agree⟩ :=
    forms_agree_iff_no_escape small (by decide) 0x08 0x0400 [0x90]
  obtain rfl : text = "Hi!" := String.toList_injective spelled
  obtain rfl := agree.mpr (by decide)
  refine ⟨alone, half, whole, fun same => ?_⟩
  have escaped : ∀ b ∈ ([0x48, 0x1B, 0x65] : Bytes), b < 0x80 := by simp
  obtain ⟨text, plain, half, -, -, alone, -, agree⟩ :=
    forms_agree_iff_no_escape escaped (by decide) 0x08 0x0400 []
  have equal : plain = text := Except.ok.inj (alone.symm.trans (same.symm.trans half))
  exact absurd (agree.mp equal) (by decide)

/-- An escape and the byte behind it are one character in the plain form and two over a base. -/
theorem escaped_euro_unresolved_over_base :
    decode [0x1B, 0x65] = .ok "€" ∧
      decode [0x81, 0x02, 0x08, 0x1B, 0x65] = .ok "\x1be" ∧
      decode [0x82, 0x02, 0x04, 0x00, 0x1B, 0x65] = .ok "\x1be" ∧
      decode [0x81, 0x02, 0x08, 0x1B, 0x65] ≠ decode [0x1B, 0x65] ∧
      decode [0x82, 0x02, 0x04, 0x00, 0x1B, 0x65] ≠ decode [0x1B, 0x65] := by
  have plain : decode [0x1B, 0x65] = .ok "€" := by rfl
  have half : decode [0x81, 0x02, 0x08, 0x1B, 0x65] = .ok "\x1be" := by rfl
  have whole : decode [0x82, 0x02, 0x04, 0x00, 0x1B, 0x65] = .ok "\x1be" := by rfl
  rw [plain, half, whole]
  decide

end AlphaId

end CardChannels
