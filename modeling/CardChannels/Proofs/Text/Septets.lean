import CardChannels.Text.Gsm
import Mathlib.Algebra.Group.Nat.Defs

/-!
# Packed septets

Septets are digits in base 128 and bytes are digits in base 256. Packed they are digits of one
number, the least significant first. Reading takes the bytes apart into bits and puts each seven
of these together, which gives the digits in base 128 again. The main statement tells which
septets come back from the bytes, whatever the spare bits in the last byte are.
-/
namespace CardChannels.Gsm

/-- The lowest digits of a number in a base, least significant first. -/
def digits (base : Nat) : Nat → Nat → List Nat
  | 0, _ => []
  | count + 1, n => n % base :: digits base count (n / base)

/-- The number that has septets as its lowest digits in base 128, and `fill` above them. -/
def number (s : Bytes) (fill : Nat) : Nat := s.foldr (fun b n => b.toNat + 128 * n) fill

/-- Septets packed into as few bytes as can hold them. The spare bits of the last byte are the
lowest bits of `fill`. -/
def packed (s : Bytes) (fill : Nat) : Bytes :=
  (digits 256 ((7 * s.length + 7) / 8) (number s fill)).map UInt8.ofNat

/-- The lowest bits of a number, least significant first. -/
def lowBits (count n : Nat) : List Bool := (digits 2 count n).map (· = 1)

variable {s : Bytes} {l rest : List Bool}

/-! Digits -/

theorem digits_add (base i j n : Nat) :
    digits base (i + j) n = digits base i n ++ digits base j (n / base ^ i) := by
  induction i generalizing n with
  | zero => rw [Nat.zero_add, Nat.pow_zero, Nat.div_one, digits, List.nil_append]
  | succ i ih =>
    rw [Nat.succ_add, digits, digits, ih, Nat.div_div_eq_div_mul, Nat.pow_succ',
      List.cons_append]

theorem length_digits (base count n : Nat) : (digits base count n).length = count := by
  induction count generalizing n with
  | zero => rfl
  | succ count ih => rw [digits, List.length_cons, ih]

/-- Higher digits do not matter to the lower ones. -/
theorem digits_mod (base count n : Nat) :
    digits base count (n % base ^ count) = digits base count n := by
  induction count generalizing n with
  | zero => rfl
  | succ count ih =>
    rw [digits, digits, Nat.pow_succ', Nat.mod_mul_right_mod, Nat.mod_mul_right_div_self, ih]

theorem lowBits_add (i j n : Nat) : lowBits (i + j) n = lowBits i n ++ lowBits j (n / 2 ^ i) := by
  rw [lowBits, digits_add, List.map_append, lowBits, lowBits]

theorem lowBits_mod (count n : Nat) : lowBits count (n % 2 ^ count) = lowBits count n := by
  rw [lowBits, digits_mod, lowBits]

theorem length_lowBits (count n : Nat) : (lowBits count n).length = count := by
  rw [lowBits, List.length_map, length_digits]

/-- Bits spell the number that they are the lowest bits of, as far as they go. -/
theorem foldr_lowBits (count n : Nat) :
    (lowBits count n).foldr (fun b m => b.toNat + 2 * m) 0 = n % 2 ^ count := by
  induction count generalizing n with
  | zero => rw [Nat.pow_zero, Nat.mod_one]; rfl
  | succ count ih =>
    have first : (decide (n % 2 = 1)).toNat = n % 2 := by
      rcases Nat.mod_two_eq_zero_or_one n with h | h <;> rw [h] <;> rfl
    have split : n % (2 * 2 ^ count) = n % 2 + 2 * (n / 2 % 2 ^ count) := Nat.mod_mul
    rw [lowBits, digits, List.map_cons, List.foldr_cons, ← lowBits, ih, first, Nat.pow_succ',
      split]

/-! Bytes to bits -/

theorem bits_eq (b : UInt8) : bits b = lowBits 8 b.toNat := by
  simp [bits, lowBits, digits, List.range, List.range.loop, Nat.testBit_eq_decide_div_mod_eq,
    Nat.div_div_eq_div_mul]

/-- The bits of a number's bytes are the bits of the number. -/
theorem flatMap_bits (count n : Nat) :
    ((digits 256 count n).map UInt8.ofNat).flatMap bits = lowBits (8 * count) n := by
  induction count generalizing n with
  | zero => rfl
  | succ count ih =>
    have first : lowBits 8 (UInt8.ofNat (n % 256)).toNat = lowBits 8 n := by
      rw [UInt8.toNat_ofNat', Nat.mod_mod]
      exact lowBits_mod 8 n
    rw [digits, List.map_cons, List.flatMap_cons, ih, bits_eq, first, Nat.mul_succ, Nat.add_comm]
    exact (lowBits_add 8 (8 * count) n).symm

/-! Septets to bits -/

/-- The bits of a number in base 128 are seven for each septet, and those above them. -/
theorem lowBits_number (small : ∀ b ∈ s, b < 0x80) (spare fill : Nat) :
    lowBits (7 * s.length + spare) (number s fill) =
      s.flatMap (fun b => lowBits 7 b.toNat) ++ lowBits spare fill := by
  induction s with
  | nil => rw [List.length_nil, Nat.mul_zero, Nat.zero_add]; rfl
  | cons b s ih =>
    obtain ⟨first, others⟩ := List.forall_mem_cons.mp small
    have hb : b.toNat < 128 := UInt8.lt_iff_toNat_lt.mp first
    have count : 7 * (s.length + 1) + spare = 7 + (7 * s.length + spare) := by omega
    have lowest : (b.toNat + 128 * number s fill) % 2 ^ 7 = b.toNat := by omega
    have above : (b.toNat + 128 * number s fill) / 2 ^ 7 = number s fill := by omega
    have septet : lowBits 7 (b.toNat + 128 * number s fill) = lowBits 7 b.toNat := by
      rw [← lowBits_mod, lowest]
    rw [List.length_cons, count, number, List.foldr_cons, ← number, lowBits_add, septet, above,
      ih others, List.flatMap_cons, List.append_assoc]

/-- The bits of packed septets are seven for each septet, least significant first, and then the
spare ones. -/
theorem bits_packed (small : ∀ b ∈ s, b < 0x80) (fill : Nat) :
    (packed s fill).flatMap bits =
      s.flatMap (fun b => lowBits 7 b.toNat) ++ lowBits (s.length % 8) fill := by
  have residue : (7 * s.length + 7) % 8 = 7 - s.length % 8 := by omega
  have room : 8 * ((7 * s.length + 7) / 8) = 7 * s.length + s.length % 8 := by omega
  rw [packed, flatMap_bits, room, lowBits_number small]

/-! Bits to septets -/

theorem sevens_append (h : l.length = 7) : sevens (l ++ rest) = l :: sevens rest := by
  match l, h with
  | [_, _, _, _, _, _, _], _ => rfl

theorem sevens_of_length_lt (h : l.length < 7) : sevens l = [] := by
  match l, h with
  | [], _ | [_], _ | [_, _], _ | [_, _, _], _ | [_, _, _, _], _ | [_, _, _, _, _], _
  | [_, _, _, _, _, _], _ => rfl

theorem ofBits_lowBits (n : Nat) : ofBits (lowBits 7 n) = UInt8.ofNat (n % 128) := by
  rw [ofBits, foldr_lowBits]
  rfl

/-- Septets are read from seven bits each. -/
theorem sevens_flatMap (small : ∀ b ∈ s, b < 0x80) (rest : List Bool) :
    (sevens (s.flatMap (fun b => lowBits 7 b.toNat) ++ rest)).map ofBits =
      s ++ (sevens rest).map ofBits := by
  induction s with
  | nil => rfl
  | cons b s ih =>
    obtain ⟨first, others⟩ := List.forall_mem_cons.mp small
    have hb : b.toNat < 128 := UInt8.lt_iff_toNat_lt.mp first
    rw [List.flatMap_cons, List.append_assoc, sevens_append (length_lowBits ..), List.map_cons,
      ih others, ofBits_lowBits, Nat.mod_eq_of_lt hb, UInt8.ofNat_toNat, List.cons_append]

/-- Seven spare bits are read as a septet, and fewer are dropped. -/
theorem sevens_spare {spare : Nat} (few : spare < 8) (fill : Nat) :
    (sevens (lowBits spare fill)).map ofBits =
      if spare = 7 then [UInt8.ofNat (fill % 128)] else [] := by
  by_cases whole : spare = 7
  · subst whole
    rw [← List.append_nil (lowBits 7 fill), sevens_append (length_lowBits ..), if_pos rfl,
      List.map_cons, ofBits_lowBits]
    rfl
  · rw [sevens_of_length_lt (by rw [length_lowBits]; omega), if_neg whole]
    rfl

/-- Packed septets come back, if seven spare bits are filled with a carriage return. When there are
no spare bits, a carriage return at the end is taken for such a filling. -/
theorem septets_packed (small : ∀ b ∈ s, b < 0x80) {fill : Nat}
    (filled : s.length % 8 = 7 → fill % 0x80 = 0x0D) :
    septets (packed s fill) =
      if s.length % 8 = 0 ∧ s.getLast? = some filler then s.dropLast else s := by
  have size : (packed s fill).length = (7 * s.length + 7) / 8 := by
    rw [packed, List.length_map, length_digits]
  rw [septets, bits_packed small, sevens_flatMap small, sevens_spare (by omega), size]
  by_cases spare : s.length % 8 = 7
  · have full : (7 * s.length + 7) / 8 % 7 = 0 := by omega
    simp [spare, filled spare, full, filler]
  · have full : (7 * s.length + 7) / 8 % 7 = 0 ↔ s.length % 8 = 0 := by omega
    simp only [if_neg spare, List.append_nil, full]

example : packed [0x68, 0x65, 0x6C, 0x6C, 0x6F] 0 = [0xE8, 0x32, 0x9B, 0xFD, 0x06] ∧
    septets [0xE8, 0x32, 0x9B, 0xFD, 0x06] = [0x68, 0x65, 0x6C, 0x6C, 0x6F] := by decide

end CardChannels.Gsm
