import CardChannels.Tlv.Length
import CardChannels.Tlv.Tag

/-!
# Objects

An object has a tag, a flag that says whether it must be understood, and a value: raw bytes in a
leaf, the encodings of other objects in a constructed one.
-/
namespace CardChannels

inductive Tlv where
  | leaf (tag : UInt16) (required : Bool) (value : Bytes)
  | node (tag : UInt16) (required : Bool) (children : List Tlv)

namespace Tlv

/-- A leaf for a known tag that must be understood. -/
def known (tag : Tag) (value : Bytes) : Tlv := .leaf tag.code true value

def tag : Tlv → UInt16
  | leaf t _ _ => t
  | node t _ _ => t

/-- Whether the reader must understand the object. -/
def required : Tlv → Bool
  | leaf _ r _ => r
  | node _ r _ => r

/-- The raw bytes of a leaf. -/
def value : Tlv → Bytes
  | leaf _ _ v => v
  | node _ _ _ => []

/-- The objects inside a constructed object. -/
def children : Tlv → List Tlv
  | leaf _ _ _ => []
  | node _ _ cs => cs

def hasTag (t : Tlv) (tag : Tag) : Bool := t.tag = tag.code

/--
Whether a tag has the one-byte form: `0x00` is padding, `0x7F` marks the longer form, and from
`0x80` on the byte's top bit is the flag.
-/
def shortTag (tag : UInt16) : Bool := 0x01 ≤ tag ∧ tag ≤ 0x7E

def tagSize (tag : UInt16) : Nat := if shortTag tag then 1 else 3

mutual

/-- The length of the value field. -/
def length : Tlv → Nat
  | leaf _ _ v => v.length
  | node _ _ cs => totalSize cs

/-- The number of bytes that a sequence of objects takes. -/
def totalSize : List Tlv → Nat
  | [] => 0
  | c :: cs => (tagSize c.tag + lengthFieldSize c.length + c.length) + totalSize cs

end

/-- The number of bytes that the object takes. -/
def size (t : Tlv) : Nat := tagSize t.tag + lengthFieldSize t.length + t.length

/-- Whether two objects without children show the same tag, flag and value. -/
def sameLeaf (s t : Tlv) : Bool :=
  s.tag = t.tag && s.required == t.required && s.value == t.value &&
    s.children.isEmpty && t.children.isEmpty

/-- The first object with a tag. -/
def find? (objects : List Tlv) (tag : Tag) : Option Tlv := objects.find? (·.hasTag tag)

/-- The first object with a tag from a position on, and where it stands. -/
def findFrom? (objects : List Tlv) (tag : Tag) (start : Nat) : Option (Nat × Tlv) :=
  (objects.drop start).zipIdx start |>.find? (·.1.hasTag tag) |>.map fun (t, i) => (i, t)

end Tlv

end CardChannels
