import CardChannels.Field
import CardChannels.Text.Utf8

/-!
# Network access names

An access point name is written as labels, each behind a byte with its length, and read with dots
between them. Writing leaves out empty labels and cuts a label after 63 bytes.
-/
namespace CardChannels.AccessName

/-- The labels of a value, as bytes. -/
def labels : Bytes → Except Field.Error (List Bytes)
  | [] => .ok []
  | length :: rest =>
    let label := rest.take length.toNat
    if label.length < length.toNat then
      .error (.badText .networkAccessName (.labelOverrun length.toNat))
    else do
      let others ← labels (rest.drop length.toNat)
      return label :: others
termination_by bs => bs.length
decreasing_by simp only [List.length_drop, List.length_cons]; omega

/-- The name in dotted form. -/
def decode (bs : Bytes) : Except Field.Error String :=
  (labels bs).map fun ls => ".".intercalate (ls.map fun l => String.ofList (Utf8.chars l))

/-- The parts of a text between its dots. -/
def splitDots : List Char → List (List Char)
  | [] => [[]]
  | c :: rest =>
    if c = '.' then [] :: splitDots rest
    else match splitDots rest with
      | [] => [[c]]
      | part :: parts => (c :: part) :: parts

/-- The most bytes that a label is written with. -/
def maxLabel : Nat := 63

/-- A label behind its length. -/
def labelBytes (label : List Char) : Bytes :=
  let bs := (Utf8.encode label).take maxLabel
  UInt8.ofNat bs.length :: bs

/-- The value for a name in dotted form. -/
def encode (name : String) : Bytes :=
  ((splitDots name.toList).filter (!·.isEmpty)).flatMap labelBytes

end CardChannels.AccessName
