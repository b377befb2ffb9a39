import CardChannels.Hex

/-!
# Documents

A value of named fields and items, written over several lines with two blanks for each level. An
empty list takes no lines of its own.
-/
namespace CardChannels

inductive Document where
  | null
  | flag (value : Bool)
  | number (value : Nat)
  | text (value : String)
  | items (values : List Document)
  | fields (values : List (String × Document))

namespace Document

/-- Something or null. -/
def optional {α : Type} (write : α → Document) : Option α → Document
  | some a => write a
  | none => null

/-- A single named field. -/
def tagged (name : String) (value : Document) : Document := fields [(name, value)]

/-- A character inside a quoted text. -/
def escaped (c : Char) : List Char :=
  if c = '"' then ['\\', '"']
  else if c = '\\' then ['\\', '\\']
  else if c = '\x08' then ['\\', 'b']
  else if c = '\x0c' then ['\\', 'f']
  else if c = '\n' then ['\\', 'n']
  else if c = '\r' then ['\\', 'r']
  else if c = '\t' then ['\\', 't']
  else if c.toNat < 0x20 then
    ['\\', 'u', '0', '0', Hex.lowerDigit (c.toNat / 16), Hex.lowerDigit c.toNat]
  else [c]

def quoted (s : String) : String := String.ofList ('"' :: s.toList.flatMap escaped ++ ['"'])

/-- A new line with the blanks of its level. -/
def newLine (level : Nat) : String := "\n" ++ String.ofList (List.replicate (2 * level) ' ')

mutual

/-- The document, with its later lines at a level. -/
def write (level : Nat) : Document → String
  | null => "null"
  | flag b => if b then "true" else "false"
  | number n => toString n
  | text s => quoted s
  | items [] => "[]"
  | items (d :: ds) =>
    "[" ++ newLine (level + 1) ++ d.write (level + 1) ++ writeItems (level + 1) ds ++
      newLine level ++ "]"
  | fields [] => "\x7b\x7d"
  | fields ((name, d) :: rest) =>
    "\x7b" ++ newLine (level + 1) ++ quoted name ++ ": " ++ d.write (level + 1) ++
      writeFields (level + 1) rest ++ newLine level ++ "\x7d"

/-- The items after the first. -/
def writeItems (level : Nat) : List Document → String
  | [] => ""
  | d :: ds => "," ++ newLine level ++ d.write level ++ writeItems level ds

/-- The fields after the first. -/
def writeFields (level : Nat) : List (String × Document) → String
  | [] => ""
  | (name, d) :: rest =>
    "," ++ newLine level ++ quoted name ++ ": " ++ d.write level ++ writeFields level rest

end

/-- The document as text. -/
def render (d : Document) : String := d.write 0

end Document

end CardChannels
