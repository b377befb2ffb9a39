import CardChannels.Bytes

/-!
# UTF-8 text

Reading never fails: a sequence of bytes that no character starts with, taken as long as it could
still have become one, is read as one replacement character.
-/
namespace CardChannels.Utf8

/-- The character that stands for unreadable bytes. -/
def replacement : Char := '\uFFFD'

/-- What a lead byte promises: how many bytes follow and the range of the first of them. -/
structure Lead where
  following : Nat
  least : UInt8
  greatest : UInt8

/--
The promise of a lead byte above `0x7F`. The ranges leave out what a shorter form spells, the
surrogates and what lies beyond the last code point.
-/
def lead? (b : UInt8) : Option Lead :=
  if 0xC2 ≤ b ∧ b ≤ 0xDF then some ⟨1, 0x80, 0xBF⟩
  else if b = 0xE0 then some ⟨2, 0xA0, 0xBF⟩
  else if b = 0xED then some ⟨2, 0x80, 0x9F⟩
  else if 0xE1 ≤ b ∧ b ≤ 0xEF then some ⟨2, 0x80, 0xBF⟩
  else if b = 0xF0 then some ⟨3, 0x90, 0xBF⟩
  else if 0xF1 ≤ b ∧ b ≤ 0xF3 then some ⟨3, 0x80, 0xBF⟩
  else if b = 0xF4 then some ⟨3, 0x80, 0x8F⟩
  else none

def isContinuation (b : UInt8) : Bool := 0x80 ≤ b ∧ b ≤ 0xBF

/-- The bits that a continuation byte carries. -/
def six (b : UInt8) : Nat := b.toNat % 0x40

/-- The characters of the bytes. -/
def chars : Bytes → List Char
  | [] => []
  | a :: rest =>
    if a < 0x80 then Char.ofNat a.toNat :: chars rest
    else match lead? a with
      | none => replacement :: chars rest
      | some l =>
        match rest with
        | [] => [replacement]
        | b :: rest2 =>
          if b < l.least ∨ l.greatest < b then replacement :: chars (b :: rest2)
          else if l.following = 1 then
            Char.ofNat (a.toNat % 0x20 * 0x40 + six b) :: chars rest2
          else match rest2 with
            | [] => [replacement]
            | c :: rest3 =>
              if !isContinuation c then replacement :: chars (c :: rest3)
              else if l.following = 2 then
                Char.ofNat (a.toNat % 0x10 * 0x1000 + six b * 0x40 + six c) :: chars rest3
              else match rest3 with
                | [] => [replacement]
                | d :: rest4 =>
                  if !isContinuation d then replacement :: chars (d :: rest4)
                  else
                    Char.ofNat (a.toNat % 0x08 * 0x40000 + six b * 0x1000 + six c * 0x40 + six d)
                      :: chars rest4
termination_by bs => bs.length
decreasing_by all_goals (simp only [List.length_cons]; omega)

/-- The bytes of a text. -/
def encode (cs : List Char) : Bytes := cs.flatMap String.utf8EncodeChar

end CardChannels.Utf8
