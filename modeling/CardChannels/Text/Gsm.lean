import CardChannels.Bytes

/-!
# The GSM default alphabet

A character is a number below 128. The escape `0x1B` takes the next number from a table of ten
further characters. Characters are stored one per byte, or packed seven bits each with the least
significant bit first.
-/
namespace CardChannels.Gsm

/-- The character with each number. -/
def alphabet : List Char :=
  ['@', '£', '$', '¥', 'è', 'é', 'ù', 'ì', 'ò', 'Ç', '\n', 'Ø', 'ø', '\r', 'Å', 'å',
   'Δ', '_', 'Φ', 'Γ', 'Λ', 'Ω', 'Π', 'Ψ', 'Σ', 'Θ', 'Ξ', '\x1b', 'Æ', 'æ', 'ß', 'É',
   ' ', '!', '"', '#', '¤', '%', '&', '\'', '(', ')', '*', '+', ',', '-', '.', '/',
   '0', '1', '2', '3', '4', '5', '6', '7', '8', '9', ':', ';', '<', '=', '>', '?',
   '¡', 'A', 'B', 'C', 'D', 'E', 'F', 'G', 'H', 'I', 'J', 'K', 'L', 'M', 'N', 'O',
   'P', 'Q', 'R', 'S', 'T', 'U', 'V', 'W', 'X', 'Y', 'Z', 'Ä', 'Ö', 'Ñ', 'Ü', '§',
   '¿', 'a', 'b', 'c', 'd', 'e', 'f', 'g', 'h', 'i', 'j', 'k', 'l', 'm', 'n', 'o',
   'p', 'q', 'r', 's', 't', 'u', 'v', 'w', 'x', 'y', 'z', 'ä', 'ö', 'ñ', 'ü', 'à']

def escape : UInt8 := 0x1B

/-- The byte that marks the unused end of a field. -/
def unused : UInt8 := 0xFF

/-- The numbers that have a meaning after the escape. -/
def extension : List (UInt8 × Char) :=
  [(0x0A, '\x0c'), (0x14, '^'), (0x28, '\x7b'), (0x29, '\x7d'), (0x2F, '\\'), (0x3C, '['),
   (0x3D, '~'), (0x3E, ']'), (0x40, '|'), (0x65, '€')]

/-- The character of a byte whose top bit is ignored. -/
def char (b : UInt8) : Char := alphabet.getD (b.toNat % 128) ' '

/-- The character that a byte names after the escape; one without a meaning is a space. -/
def escapedChar (b : UInt8) : Char :=
  match extension.find? (·.1 = b % 128) with
  | some (_, c) => c
  | none => ' '

/-- The text of characters stored one per byte; an escape at the end is dropped. -/
def chars : Bytes → List Char
  | [] => []
  | [b] => if b % 128 = escape then [] else [char b]
  | b :: next :: rest =>
    if b % 128 = escape then escapedChar next :: chars rest else char b :: chars (next :: rest)

/-- The text in front of the unused bytes. -/
def unpacked (bs : Bytes) : String := String.ofList (chars (bs.takeWhile (· ≠ unused)))

/-- The bits of a byte, least significant first. -/
def bits (b : UInt8) : List Bool := (List.range 8).map b.toNat.testBit

/-- The number that bits spell, least significant first. -/
def ofBits (bs : List Bool) : UInt8 := UInt8.ofNat (bs.foldr (fun b n => b.toNat + 2 * n) 0)

/-- The bits in groups of seven; what is left over is dropped. -/
def sevens : List Bool → List (List Bool)
  | a :: b :: c :: d :: e :: f :: g :: rest => [a, b, c, d, e, f, g] :: sevens rest
  | _ => []

/-- The carriage return that fills seven spare bits. -/
def filler : UInt8 := 0x0D

/--
The septets packed into bytes. When the bytes leave room for one septet more than may be meant,
a final carriage return is that room's filling and no character.
-/
def septets (bs : Bytes) : Bytes :=
  let all := (sevens (bs.flatMap bits)).map ofBits
  if bs.length % 7 = 0 ∧ all.getLast? = some filler then all.dropLast else all

end CardChannels.Gsm
