import CardChannels.Bytes

/-!
# UTF-16 text

Code units are words. A unit outside the surrogate range is a character, a high surrogate and a
low one behind it are a character together, and any other surrogate makes the text unreadable.
-/
namespace CardChannels.Utf16

/-- The unit that marks the unused end of a field. -/
def unused : UInt16 := 0xFFFF

/-- The units of bytes; an odd byte at the end is dropped. -/
def units : Bytes → List UInt16
  | high :: low :: rest => Bytes.word high low :: units rest
  | _ => []

def isHigh (u : UInt16) : Bool := 0xD800 ≤ u ∧ u ≤ 0xDBFF
def isLow (u : UInt16) : Bool := 0xDC00 ≤ u ∧ u ≤ 0xDFFF

/-- The character of a surrogate pair. -/
def pairChar (high low : UInt16) : Char :=
  Char.ofNat (0x10000 + (high.toNat - 0xD800) * 0x400 + (low.toNat - 0xDC00))

/-- The characters of code units, unless a surrogate stands alone. -/
def chars? : List UInt16 → Option (List Char)
  | [] => some []
  | [u] => if isHigh u || isLow u then none else some [Char.ofNat u.toNat]
  | u :: next :: rest =>
    if isHigh u then
      if isLow next then (chars? rest).map (pairChar u next :: ·) else none
    else if isLow u then none
    else (chars? (next :: rest)).map (Char.ofNat u.toNat :: ·)

/-- The text in front of the unused units. -/
def text? (bs : Bytes) : Option String :=
  (chars? ((units bs).takeWhile (· ≠ unused))).map String.ofList

end CardChannels.Utf16
