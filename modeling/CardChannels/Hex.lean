import CardChannels.Bytes

/-!
# Hexadecimal text

Bytes are written as two digits each, in lower or upper case, and read in either case. Reading
works on the characters' UTF-8 bytes, so a fault names a byte and its position. Single numbers
are written after `0x` with a least number of digits.
-/
namespace CardChannels.Hex

def lowerDigit (n : Nat) : Char := (Nat.digitChar (n % 16)).toLower
def upperDigit (n : Nat) : Char := (Nat.digitChar (n % 16)).toUpper

def lower (bs : Bytes) : String :=
  String.ofList (bs.flatMap fun b => [lowerDigit (b.toNat / 16), lowerDigit b.toNat])

def upper (bs : Bytes) : String :=
  String.ofList (bs.flatMap fun b => [upperDigit (b.toNat / 16), upperDigit b.toNat])

private def padded (width : Nat) (digits : List Char) : String :=
  String.ofList (List.replicate (width - digits.length) '0' ++ digits)

/-- A number in lower case after `0x`, with at least `width` digits. -/
def number (width n : Nat) : String :=
  "0x" ++ padded width ((Nat.toDigits 16 n).map Char.toLower)

/-- A number in upper case after `0x`, with at least `width` digits. -/
def upperNumber (width n : Nat) : String :=
  "0x" ++ padded width ((Nat.toDigits 16 n).map Char.toUpper)

/-- Why a text is not hexadecimal. -/
inductive Fault where
  | oddLength
  | badDigit (byte : UInt8) (position : Nat)
deriving DecidableEq

/-- The value of a digit in either case. -/
def digit? (b : UInt8) : Option Nat :=
  if 0x30 ≤ b ∧ b ≤ 0x39 then some (b.toNat - 0x30)
  else if 0x41 ≤ b ∧ b ≤ 0x46 then some (b.toNat - 0x41 + 10)
  else if 0x61 ≤ b ∧ b ≤ 0x66 then some (b.toNat - 0x61 + 10)
  else none

private def digitAt (b : UInt8) (position : Nat) : Except Fault Nat :=
  match digit? b with
  | some n => .ok n
  | none => .error (.badDigit b position)

private def pairs (position : Nat) : Bytes → Except Fault Bytes
  | high :: low :: rest => do
    let h ← digitAt high position
    let l ← digitAt low (position + 1)
    let bs ← pairs (position + 2) rest
    return UInt8.ofNat (h * 16 + l) :: bs
  | [_] => .error .oddLength
  | [] => .ok []

/-- The bytes that a text spells; its length is judged before its digits. -/
def read (s : String) : Except Fault Bytes :=
  let text := s.toUTF8.toList
  if text.length % 2 = 0 then pairs 0 text else .error .oddLength

end CardChannels.Hex
