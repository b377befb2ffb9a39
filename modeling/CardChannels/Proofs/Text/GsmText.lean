import CardChannels.Proofs.Text.Septets
import CardChannels.Text.Label

/-!
# Texts over the GSM alphabet

A text is spelled in septets one character at a time: by its number in the alphabet, or by the
escape and its number in the table of further characters. The main statement is that a text string
gives the text that its septets spell, stored one per byte or packed, but for a carriage return at
the end of packed septets that leave no spare bits.
-/
namespace CardChannels.Gsm

/-- The characters of texts: those of the alphabet, without the escape, and the further ones. -/
def repertoire : List Char := alphabet.filter (· ≠ '\x1b') ++ extension.map Prod.snd

/-- The septets that spell a character. -/
def code (c : Char) : Bytes :=
  match extension.find? (·.2 = c) with
  | some (n, _) => [escape, n]
  | none => [UInt8.ofNat (alphabet.idxOf c)]

/-- The septets that spell a text. -/
def spelling (text : List Char) : Bytes := text.flatMap code

variable {c : Char} {text : List Char} {n : UInt8} {s tail : Bytes}

/-! Characters -/

theorem escapedChar_of_mem (listed : (n, c) ∈ extension) :
    escapedChar n = c ∧ n < 0x80 ∧ n ≠ filler := by
  have all : ∀ p ∈ extension, escapedChar p.1 = p.2 ∧ p.1 < 0x80 ∧ p.1 ≠ filler := by decide
  exact all (n, c) listed

/-- The number of a character that is not the escape is read as that character. -/
theorem char_idxOf (known : c ∈ alphabet) (plain : c ≠ '\x1b') :
    UInt8.ofNat (alphabet.idxOf c) < 0x80 ∧ UInt8.ofNat (alphabet.idxOf c) ≠ escape ∧
      char (UInt8.ofNat (alphabet.idxOf c)) = c := by
  have size : alphabet.length = 128 := rfl
  have inside : alphabet.idxOf c < alphabet.length := List.idxOf_lt_length_of_mem known
  have found : alphabet[alphabet.idxOf c] = c := List.getElem_idxOf inside
  have value : (UInt8.ofNat (alphabet.idxOf c)).toNat = alphabet.idxOf c := by
    rw [UInt8.toNat_ofNat']
    omega
  refine ⟨?_, ?_, ?_⟩
  · rw [UInt8.lt_iff_toNat_lt, value]
    exact Nat.lt_of_lt_of_eq inside size
  · intro same
    have index : alphabet.idxOf c = 0x1B := by
      rw [← value, same]
      rfl
    apply plain
    rw [← found]
    simp only [index]
    rfl
  · rw [char, value, Nat.mod_eq_of_lt (by omega), List.getD_eq_getElem?_getD,
      List.getElem?_eq_getElem inside, found, Option.getD_some]

/-- A character is spelled by a septet that is read as it, or by the escape and its number among
the further characters. -/
theorem code_cases (writable : c ∈ repertoire) :
    (∃ n, (n, c) ∈ extension ∧ code c = [escape, n]) ∨
      ∃ n : UInt8, code c = [n] ∧ n < 0x80 ∧ n ≠ escape ∧ char n = c := by
  rcases hfind : extension.find? (·.2 = c) with _ | ⟨n, d⟩
  · refine .inr ⟨UInt8.ofNat (alphabet.idxOf c), by rw [code, hfind], ?_⟩
    rcases List.mem_append.mp writable with plain | further
    · obtain ⟨known, other⟩ := List.mem_filter.mp plain
      exact char_idxOf known (of_decide_eq_true other)
    · obtain ⟨p, listed, rfl⟩ := List.mem_map.mp further
      exact absurd (decide_eq_true rfl) (List.find?_eq_none.mp hfind p listed)
  · have named := List.find?_some hfind
    obtain rfl : d = c := of_decide_eq_true named
    exact .inl ⟨n, List.mem_of_find?_eq_some hfind, by rw [code, hfind]⟩

theorem small_of_mem_code (writable : c ∈ repertoire) : ∀ b ∈ code c, b < 0x80 := by
  rcases code_cases writable with ⟨n, listed, hcode⟩ | ⟨n, hcode, small, -, -⟩
  · have hn := (escapedChar_of_mem listed).2.1
    rw [hcode]
    simp only [List.forall_mem_cons]
    exact ⟨by decide, hn, by simp⟩
  · rw [hcode]
    simpa using small

/-! Texts -/

theorem mod_of_small (small : n < 0x80) : n % 128 = n := by
  have hn : n.toNat < 128 := UInt8.lt_iff_toNat_lt.mp small
  apply UInt8.toNat_inj.mp
  rw [UInt8.toNat_mod]
  exact Nat.mod_eq_of_lt hn

theorem chars_plain (small : n < 0x80) (plain : n ≠ escape) (rest : Bytes) :
    chars (n :: rest) = char n :: chars rest := by
  cases rest <;> simp [chars, mod_of_small small, plain]

theorem chars_escaped (n : UInt8) (rest : Bytes) :
    chars (escape :: n :: rest) = escapedChar n :: chars rest := by
  rw [chars, if_pos (by decide)]

/-- A character is read from its septets, whatever follows. -/
theorem chars_code (writable : c ∈ repertoire) (rest : Bytes) :
    chars (code c ++ rest) = c :: chars rest := by
  rcases code_cases writable with ⟨n, listed, hcode⟩ | ⟨n, hcode, small, plain, named⟩
  · rw [hcode, List.cons_append, List.cons_append, List.nil_append, chars_escaped,
      (escapedChar_of_mem listed).1]
  · rw [hcode, List.cons_append, List.nil_append, chars_plain small plain, named]

theorem chars_spelling (writable : ∀ c ∈ text, c ∈ repertoire) : chars (spelling text) = text := by
  induction text with
  | nil => rfl
  | cons c text ih =>
    obtain ⟨first, others⟩ := List.forall_mem_cons.mp writable
    rw [spelling, List.flatMap_cons, chars_code first, ← spelling, ih others]

theorem small_of_mem_spelling (writable : ∀ c ∈ text, c ∈ repertoire) :
    ∀ b ∈ spelling text, b < 0x80 := by
  intro b hb
  obtain ⟨c, hc, hb⟩ := List.mem_flatMap.mp hb
  exact small_of_mem_code (writable c hc) b hb

/-- A carriage return at the end of the septets is the last character of the text. -/
theorem dropLast_spelling (writable : ∀ c ∈ text, c ∈ repertoire)
    (last : (spelling text).getLast? = some filler) :
    (spelling text).dropLast = spelling text.dropLast := by
  rcases List.eq_nil_or_concat text with rfl | ⟨front, c, rfl⟩
  · rfl
  · have split : spelling (front ++ [c]) = spelling front ++ code c := by
      simp [spelling]
    rw [List.concat_eq_append] at *
    rw [split] at last ⊢
    rw [List.dropLast_concat]
    rcases code_cases (writable c (by simp)) with ⟨n, listed, hcode⟩ | ⟨n, hcode, -⟩
    · rw [hcode] at last
      have same : n = filler := by simpa using last
      exact absurd same (escapedChar_of_mem listed).2.2
    · rw [hcode, List.dropLast_concat]

/-- Bytes below `0x80` are read up to their end or to unused bytes. -/
theorem unpacked_append (small : ∀ b ∈ s, b < 0x80)
    (ends : tail = [] ∨ ∃ rest, tail = unused :: rest) :
    unpacked (s ++ tail) = String.ofList (chars s) := by
  have used : ∀ b ∈ s, decide (b ≠ unused) = true := by
    intro b hb
    apply decide_eq_true
    rintro rfl
    exact absurd (small unused hb) (by decide)
  have stops : tail.takeWhile (· ≠ unused) = [] := by
    rcases ends with rfl | ⟨rest, rfl⟩
    · rfl
    · simp
  rw [unpacked, List.takeWhile_append_of_pos used, stops, List.append_nil]

/-- The septets of a text are read as the text, up to their end or to unused bytes. -/
theorem unpacked_spelling (writable : ∀ c ∈ text, c ∈ repertoire)
    (ends : tail = [] ∨ ∃ rest, tail = unused :: rest) :
    unpacked (spelling text ++ tail) = String.ofList text := by
  rw [unpacked_append (small_of_mem_spelling writable) ends, chars_spelling writable]

/-- The packed septets of a text are read as the text, but for a carriage return at the end that
leaves no spare bits. -/
theorem unpacked_packed (writable : ∀ c ∈ text, c ∈ repertoire) {fill : Nat}
    (filled : (spelling text).length % 8 = 7 → fill % 0x80 = 0x0D) :
    unpacked (septets (packed (spelling text) fill)) = String.ofList
      (if (spelling text).length % 8 = 0 ∧ (spelling text).getLast? = some filler then
        text.dropLast else text) := by
  have whole {front : List Char} (inside : ∀ c ∈ front, c ∈ text) :
      unpacked (spelling front) = String.ofList front := by
    have hread := unpacked_spelling (fun c hc => writable c (inside c hc)) (.inl rfl)
    rwa [List.append_nil] at hread
  rw [septets_packed (small_of_mem_spelling writable) filled]
  by_cases lost : (spelling text).length % 8 = 0 ∧ (spelling text).getLast? = some filler
  · rw [if_pos lost, if_pos lost, dropLast_spelling writable lost.2,
      whole fun c hc => (List.dropLast_sublist text).subset hc]
  · rw [if_neg lost, if_neg lost, whole fun c hc => hc]

end CardChannels.Gsm

namespace CardChannels.TextString

/-- A text of the alphabet and its further characters is read from its septets, whether they are
stored one per byte, with unused bytes behind them, or packed, with any spare bits but a carriage
return where seven are spare. When packed septets leave no spare bits and the last of them is a
carriage return, just that character is lost. -/
theorem gsm_read_back (text : String) (writable : ∀ c ∈ text.toList, c ∈ Gsm.repertoire) :
    let s := Gsm.spelling text.toList
    (∀ tail, (tail = [] ∨ ∃ rest, tail = 0xFF :: rest) →
        decode (0x04 :: (s ++ tail)) = .ok (some text)) ∧
      ∀ fill, (s.length % 8 = 7 → fill % 0x80 = 0x0D) →
        decode (0x00 :: Gsm.packed s fill) =
          .ok (some (if 0 < s.length ∧ s.length % 8 = 0 ∧ s.getLast? = some 0x0D then
            String.ofList text.toList.dropLast else text)) := by
  intro s
  constructor
  · intro tail ends
    have hread := Gsm.unpacked_spelling writable ends
    rw [String.ofList_toList] at hread
    exact congrArg (fun t => Except.ok (some t)) hread
  · intro fill filled
    have begun : s.getLast? = some 0x0D → 0 < s.length := by
      intro last
      apply List.length_pos_iff.mpr
      intro empty
      rw [empty] at last
      cases last
    apply congrArg (fun t => Except.ok (some t))
    rw [Gsm.unpacked_packed writable filled]
    by_cases lost : s.length % 8 = 0 ∧ s.getLast? = some 0x0D
    · have all : 0 < s.length ∧ s.length % 8 = 0 ∧ s.getLast? = some 0x0D := ⟨begun lost.2, lost⟩
      rw [if_pos all]
      exact congrArg String.ofList (if_pos lost)
    · have missing : ¬(0 < s.length ∧ s.length % 8 = 0 ∧ s.getLast? = some 0x0D) :=
        fun h => lost h.2
      rw [if_neg missing]
      exact (congrArg String.ofList (if_neg lost)).trans String.ofList_toList

/-- Seven septets and a filling, and eight septets that lose a carriage return. -/
theorem gsm_read_back_samples :
    decode [0x04, 0x68, 0x65, 0x6C, 0x6C, 0x6F, 0x1B, 0x65, 0xFF, 0x41] = .ok (some "hello€") ∧
      decode (0x00 :: Gsm.packed [0x68, 0x65, 0x6C, 0x6C, 0x6F, 0x1B, 0x65] 0x0D) =
        .ok (some "hello€") ∧
      decode (0x00 :: Gsm.packed [0x1B, 0x3C, 0x31, 0x30, 0x1B, 0x3E, 0x61, 0x0D] 0) =
        .ok (some "[10]a") := by
  have euro : "hello€".toList ⊆ Gsm.repertoire := by decide
  have septets : Gsm.spelling "hello€".toList = [0x68, 0x65, 0x6C, 0x6C, 0x6F, 0x1B, 0x65] := by
    rfl
  have bracketed : "[10]a\r".toList ⊆ Gsm.repertoire := by decide
  have returned : Gsm.spelling "[10]a\r".toList =
      [0x1B, 0x3C, 0x31, 0x30, 0x1B, 0x3E, 0x61, 0x0D] := by rfl
  have stored := (gsm_read_back "hello€" euro).1 [0xFF, 0x41] (.inr ⟨[0x41], rfl⟩)
  have filled := (gsm_read_back "hello€" euro).2 0x0D fun _ => rfl
  have lost := (gsm_read_back "[10]a\r" bracketed).2 0
  rw [septets] at stored filled
  simp only [returned] at lost
  exact ⟨stored, filled, lost (by decide)⟩

end CardChannels.TextString
