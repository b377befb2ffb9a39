import CardChannels.Text.Utf8
import Mathlib.Tactic.SplitIfs

/-!
# Texts in UTF-8

A text is read back from its bytes: the lead of a character promises as many bytes as are written
behind it, and the range that it names for the first of them leaves out none that can stand there.
So bytes that spell a text at all are read as that text.
-/
namespace CardChannels.Utf8

variable {a b c d : UInt8} {l : Lead} {bs : Bytes} {n : Nat}

/-! Leads -/

/-- A byte is in the range that a lead names for the byte behind it. -/
def Lead.Admits (l : Lead) (b : UInt8) : Prop := l.least ≤ b ∧ b ≤ l.greatest

theorem lead?_two (range : 0xC2 ≤ a.toNat ∧ a.toNat ≤ 0xDF)
    (next : 0x80 ≤ b.toNat ∧ b.toNat ≤ 0xBF) :
    ∃ l, lead? a = some l ∧ l.following = 1 ∧ l.Admits b := by
  simp only [lead?, Lead.Admits, UInt8.le_iff_toNat_le, UInt8.reduceToNat]
  rw [if_pos range]
  exact ⟨_, rfl, rfl, next⟩

/-- A lead of three bytes leaves out only what has a shorter form and the surrogates. -/
theorem lead?_three (range : 0xE0 ≤ a.toNat ∧ a.toNat ≤ 0xEF)
    (next : 0x80 ≤ b.toNat ∧ b.toNat ≤ 0xBF) (long : a.toNat = 0xE0 → 0xA0 ≤ b.toNat)
    (real : a.toNat = 0xED → b.toNat ≤ 0x9F) :
    ∃ l, lead? a = some l ∧ l.following = 2 ∧ l.Admits b := by
  simp only [lead?, Lead.Admits, UInt8.le_iff_toNat_le, ← UInt8.toNat_inj, UInt8.reduceToNat]
  rw [if_neg (by omega)]
  split_ifs with first surrogates between
  · exact ⟨_, rfl, rfl, long first, next.2⟩
  · exact ⟨_, rfl, rfl, next.1, real surrogates⟩
  · exact ⟨_, rfl, rfl, next⟩
  all_goals omega

/-- A lead of four bytes leaves out only what has a shorter form and what is past the last code
point. -/
theorem lead?_four (range : 0xF0 ≤ a.toNat ∧ a.toNat ≤ 0xF4)
    (next : 0x80 ≤ b.toNat ∧ b.toNat ≤ 0xBF) (long : a.toNat = 0xF0 → 0x90 ≤ b.toNat)
    (real : a.toNat = 0xF4 → b.toNat ≤ 0x8F) :
    ∃ l, lead? a = some l ∧ l.following = 3 ∧ l.Admits b := by
  simp only [lead?, Lead.Admits, UInt8.le_iff_toNat_le, ← UInt8.toNat_inj, UInt8.reduceToNat]
  rw [if_neg (by omega), if_neg (by omega), if_neg (by omega), if_neg (by omega)]
  split_ifs with first between last
  · exact ⟨_, rfl, rfl, long first, next.2⟩
  · exact ⟨_, rfl, rfl, next⟩
  · exact ⟨_, rfl, rfl, next.1, real last⟩
  · omega

theorem not_small_of_lead? (hlead : lead? a = some l) : ¬a < 0x80 := by
  intro small
  have low : a.toNat < 0x80 := UInt8.lt_iff_toNat_lt.mp small
  simp only [lead?, UInt8.le_iff_toNat_le, ← UInt8.toNat_inj, UInt8.reduceToNat] at hlead
  split_ifs at hlead <;> omega

/-! Characters -/

theorem Lead.Admits.not_or (h : l.Admits b) : ¬(b < l.least ∨ l.greatest < b) := by
  rintro (low | high)
  · exact UInt8.not_lt.mpr h.1 low
  · exact UInt8.not_lt.mpr h.2 high

theorem chars_one (small : a < 0x80) (rest : Bytes) :
    chars (a :: rest) = Char.ofNat a.toNat :: chars rest := by
  rw [chars, if_pos small]

theorem chars_two (hlead : lead? a = some l) (following : l.following = 1) (hb : l.Admits b)
    (rest : Bytes) : chars (a :: b :: rest) =
      Char.ofNat (a.toNat % 0x20 * 0x40 + six b) :: chars rest := by
  rw [chars, if_neg (not_small_of_lead? hlead)]
  simp only [hlead, if_neg hb.not_or, if_pos following]

theorem chars_three (hlead : lead? a = some l) (following : l.following = 2) (hb : l.Admits b)
    (hc : isContinuation c = true) (rest : Bytes) : chars (a :: b :: c :: rest) =
      Char.ofNat (a.toNat % 0x10 * 0x1000 + six b * 0x40 + six c) :: chars rest := by
  have more : ¬l.following = 1 := by omega
  rw [chars, if_neg (not_small_of_lead? hlead)]
  simp only [hlead, if_neg hb.not_or, if_neg more, hc, Bool.not_true, Bool.false_eq_true, if_false,
    if_pos following]

theorem chars_four (hlead : lead? a = some l) (following : l.following = 3) (hb : l.Admits b)
    (hc : isContinuation c = true) (hd : isContinuation d = true) (rest : Bytes) :
    chars (a :: b :: c :: d :: rest) =
      Char.ofNat (a.toNat % 0x08 * 0x40000 + six b * 0x1000 + six c * 0x40 + six d) ::
        chars rest := by
  have more : ¬l.following = 1 ∧ ¬l.following = 2 := by omega
  rw [chars, if_neg (not_small_of_lead? hlead)]
  simp only [hlead, if_neg hb.not_or, if_neg more.1, if_neg more.2, hc, hd, Bool.not_true,
    Bool.false_eq_true, if_false]

/-! Numbers of characters -/

/-- The byte behind a lead that carries six bits of a number. -/
theorem toNat_continuation (n : Nat) : (UInt8.ofNat (n % 64 + 128)).toNat = n % 64 + 128 := by
  rw [UInt8.toNat_ofNat']
  omega

theorem isContinuation_ofNat (n : Nat) : isContinuation (UInt8.ofNat (n % 64 + 128)) = true := by
  simp only [isContinuation, UInt8.le_iff_toNat_le, toNat_continuation, UInt8.reduceToNat]
  exact decide_eq_true (by omega)

theorem six_ofNat (n : Nat) : six (UInt8.ofNat (n % 64 + 128)) = n % 64 := by
  rw [six, toNat_continuation]
  omega

theorem chars_of_two (range : 0x80 ≤ n ∧ n ≤ 0x7FF) (rest : Bytes) :
    chars (UInt8.ofNat (n / 64 % 32 + 192) :: UInt8.ofNat (n % 64 + 128) :: rest) =
      Char.ofNat n :: chars rest := by
  have first : (UInt8.ofNat (n / 64 % 32 + 192)).toNat = n / 64 + 192 := by
    rw [UInt8.toNat_ofNat']
    omega
  have second := toNat_continuation n
  obtain ⟨l, hlead, following, admitted⟩ := lead?_two (a := UInt8.ofNat (n / 64 % 32 + 192))
    (b := UInt8.ofNat (n % 64 + 128)) (by omega) (by omega)
  rw [chars_two hlead following admitted, first, six_ofNat]
  have whole : (n / 64 + 192) % 0x20 * 0x40 + n % 64 = n := by omega
  rw [whole]

theorem chars_of_three (range : 0x800 ≤ n ∧ n ≤ 0xFFFF) (real : n < 0xD800 ∨ 0xDFFF < n)
    (rest : Bytes) :
    chars (UInt8.ofNat (n / 4096 % 16 + 224) :: UInt8.ofNat (n / 64 % 64 + 128) ::
      UInt8.ofNat (n % 64 + 128) :: rest) = Char.ofNat n :: chars rest := by
  have first : (UInt8.ofNat (n / 4096 % 16 + 224)).toNat = n / 4096 + 224 := by
    rw [UInt8.toNat_ofNat']
    omega
  have second := toNat_continuation (n / 64)
  obtain ⟨l, hlead, following, admitted⟩ := lead?_three (a := UInt8.ofNat (n / 4096 % 16 + 224))
    (b := UInt8.ofNat (n / 64 % 64 + 128)) (by omega) (by omega) (by omega) (by omega)
  rw [chars_three hlead following admitted (isContinuation_ofNat n), first, six_ofNat, six_ofNat]
  have whole : (n / 4096 + 224) % 0x10 * 0x1000 + n / 64 % 64 * 0x40 + n % 64 = n := by omega
  rw [whole]

theorem chars_of_four (range : 0x10000 ≤ n ∧ n < 0x110000) (rest : Bytes) :
    chars (UInt8.ofNat (n / 262144 % 8 + 240) :: UInt8.ofNat (n / 4096 % 64 + 128) ::
      UInt8.ofNat (n / 64 % 64 + 128) :: UInt8.ofNat (n % 64 + 128) :: rest) =
        Char.ofNat n :: chars rest := by
  have first : (UInt8.ofNat (n / 262144 % 8 + 240)).toNat = n / 262144 + 240 := by
    rw [UInt8.toNat_ofNat']
    omega
  have second := toNat_continuation (n / 4096)
  obtain ⟨l, hlead, following, admitted⟩ := lead?_four (a := UInt8.ofNat (n / 262144 % 8 + 240))
    (b := UInt8.ofNat (n / 4096 % 64 + 128)) (by omega) (by omega) (by omega) (by omega)
  rw [chars_four hlead following admitted (isContinuation_ofNat _) (isContinuation_ofNat n), first,
    six_ofNat, six_ofNat, six_ofNat]
  have whole : (n / 262144 + 240) % 0x08 * 0x40000 + n / 4096 % 64 * 0x1000 +
      n / 64 % 64 * 0x40 + n % 64 = n := by
    omega
  rw [whole]

/-- A character is read from its bytes, whatever follows. -/
theorem chars_utf8EncodeChar (c : Char) (rest : Bytes) :
    chars (String.utf8EncodeChar c ++ rest) = c :: chars rest := by
  have valid : c.toNat < 0xD800 ∨ 0xDFFF < c.toNat ∧ c.toNat < 0x110000 := c.valid
  have same : Char.ofNat c.toNat = c := Char.ofNat_toNat c
  have number : c.val.toNat = c.toNat := rfl
  simp only [String.utf8EncodeChar, number]
  split_ifs with one two three
  · have small : (UInt8.ofNat c.toNat).toNat = c.toNat := by
      rw [UInt8.toNat_ofNat']
      omega
    rw [List.singleton_append, chars_one, small, same]
    rw [UInt8.lt_iff_toNat_lt, small]
    exact Nat.lt_succ_of_le one
  · exact (chars_of_two (by omega) rest).trans (by rw [same])
  · exact (chars_of_three (by omega) (by omega) rest).trans (by rw [same])
  · exact (chars_of_four (by omega) rest).trans (by rw [same])

/-- A text is read from its bytes. -/
theorem chars_encode (text : List Char) : chars (encode text) = text := by
  induction text with
  | nil => rw [encode, List.flatMap_nil, chars]
  | cons c text ih => rw [encode, List.flatMap_cons, chars_utf8EncodeChar, ← encode, ih]

/-! Texts and their bytes -/

theorem length_encode (s : String) : (encode s.toList).length = s.utf8ByteSize := by
  have size : s.utf8ByteSize = s.toByteArray.size := rfl
  rw [size, ← String.utf8Encode_toList]
  exact List.size_toByteArray.symm

/-- Bytes in the coding are those of a text. -/
theorem exists_eq_encode (valid : bs.toByteArray.IsValidUTF8) :
    ∃ s : String, bs = encode s.toList := by
  obtain ⟨text, same⟩ := valid
  refine ⟨String.ofList text, ?_⟩
  rw [String.toList_ofList]
  exact List.toByteArray_inj.mp same

/-- The byte of a dot stands in the bytes of a text where a dot does. -/
theorem dot_mem_encode {text : List Char} (dot : '.' ∈ text) : 0x2E ∈ encode text :=
  List.mem_flatMap.mpr ⟨'.', dot, by decide⟩

end CardChannels.Utf8
