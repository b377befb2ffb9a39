import CardChannels.Hex
import CardChannels.Text.Unprintable

/-!
# Quoted text

A text for a message is put in quotes. Quotes and backslashes in it are marked, common controls
have a letter each, and a character that would not show is written as its number.
-/
namespace CardChannels.Quoted

/-- A character by its number. -/
def byNumber (c : Char) : List Char :=
  ['\\', 'u', '\x7b'] ++ (Nat.toDigits 16 c.toNat).map Char.toLower ++ ['\x7d']

/-- A character between quotes of a kind. -/
def char (quote c : Char) : List Char :=
  if c = '\x00' then ['\\', '0']
  else if c = '\t' then ['\\', 't']
  else if c = '\r' then ['\\', 'r']
  else if c = '\n' then ['\\', 'n']
  else if c = '\\' ∨ c = quote then ['\\', c]
  else if isPrintable c then [c]
  else byNumber c

/-- A text in double quotes. -/
def text (s : String) : String :=
  String.ofList ('"' :: s.toList.flatMap (char '"') ++ ['"'])

/-- A character in single quotes. -/
def letter (c : Char) : String := String.ofList ('\'' :: char '\'' c ++ ['\''])

end CardChannels.Quoted
