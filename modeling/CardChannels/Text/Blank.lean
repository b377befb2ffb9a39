/-!
# Blank characters

The characters with the Unicode property of white space, and text split or trimmed at them.
-/
namespace CardChannels

/-- The characters with the property, as ranges of code points. -/
def blankRanges : List (Nat × Nat) :=
  [(0x09, 0x0D), (0x20, 0x20), (0x85, 0x85), (0xA0, 0xA0), (0x1680, 0x1680), (0x2000, 0x200A),
   (0x2028, 0x2029), (0x202F, 0x202F), (0x205F, 0x205F), (0x3000, 0x3000)]

def isBlank (c : Char) : Bool := blankRanges.any fun (low, high) => low ≤ c.toNat && c.toNat ≤ high

namespace Blank

/-- The text without the blanks in front of it and behind it. -/
def trim (cs : List Char) : List Char :=
  ((cs.dropWhile isBlank).reverse.dropWhile isBlank).reverse

/-- The words between the blanks. -/
def words (cs : List Char) : List (List Char) :=
  go [] cs
where
  go (word : List Char) : List Char → List (List Char)
    | [] => if word.isEmpty then [] else [word.reverse]
    | c :: rest =>
      if isBlank c then
        if word.isEmpty then go [] rest else word.reverse :: go [] rest
      else go (c :: word) rest

end Blank

end CardChannels
