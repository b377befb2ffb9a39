import CardChannels.Tlv.Basic

/-!
# Writing objects

An object is written as tag, length and value. A tag without the one-byte form follows a `0x7F`
as a word whose top bit is the flag. An object is written whole or, when it or an object inside
it is too long, not at all.
-/
namespace CardChannels.Tlv

def tagField (tag : UInt16) (required : Bool) : Bytes :=
  if shortTag tag then [UInt8.ofNat (tag.toNat + if required then 0x80 else 0)]
  else
    let word := tag.toNat % 0x8000 + if required then 0x8000 else 0
    0x7F :: Bytes.ofWord (UInt16.ofNat word)

mutual

/-- The bytes of an object whose lengths all fit. -/
def bytes : Tlv → Bytes
  | leaf t r v => tagField t r ++ (lengthField v.length ++ v)
  | node t r cs => tagField t r ++ (lengthField (totalSize cs) ++ allBytes cs)

/-- The bytes of objects in a row. -/
def allBytes : List Tlv → Bytes
  | [] => []
  | c :: cs => c.bytes ++ allBytes cs

end

mutual

/-- The length that does not fit, looking at an object before the objects inside it. -/
def oversize? : Tlv → Option Nat
  | leaf _ _ v => if v.length > maxLength then some v.length else none
  | node _ _ cs => if totalSize cs > maxLength then some (totalSize cs) else anyOversize? cs

/-- The first length that does not fit among objects in a row. -/
def anyOversize? : List Tlv → Option Nat
  | [] => none
  | c :: cs => c.oversize? <|> anyOversize? cs

end

/-- The encoding of an object. -/
def encode (t : Tlv) : Except Error Bytes :=
  match t.oversize? with
  | some n => .error (.lengthTooLarge n)
  | none => .ok t.bytes

/-- Bytes with the encoding of an object behind them. One that has none leaves them as they are. -/
def appendTo (t : Tlv) (out : Bytes) : Bytes × Option Error :=
  match t.encode with
  | .ok bs => (out ++ bs, none)
  | .error e => (out, some e)

/-- The encodings of objects in a row, or the fault of the first that has none. -/
def encodeAll : List Tlv → Except Error Bytes
  | [] => .ok []
  | t :: ts => do return (← t.encode) ++ (← encodeAll ts)

end CardChannels.Tlv
