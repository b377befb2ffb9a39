import CardChannels.Tlv.Decode

/-!
# Objects one at a time

A cursor stands somewhere in data and gives the object there whenever it is asked. At the end, at
padding and after a fault it stops for good: from then on it gives nothing.
-/
namespace CardChannels.Tlv

structure Cursor where
  data : Bytes
  index : Nat
  /-- The cursor has met the end or a fault. -/
  stopped : Bool

namespace Cursor

/-- A cursor that has given nothing yet. -/
def start (data : Bytes) (index : Nat) : Cursor := ⟨data, index, false⟩

/-- The object or fault at the cursor, if there is one, and the cursor behind it. -/
def next (c : Cursor) : Option (Except Error Tlv) × Cursor :=
  if c.stopped then (none, c)
  else match decode c.data c.index with
    | .ok (some (t, index)) => (some (.ok t), { c with index := index })
    | .ok none => (none, { c with stopped := true })
    | .error fault => (some (.error fault), { c with stopped := true })

/-- What the cursor gives after it has been asked `n` times before. -/
def item (c : Cursor) : Nat → Option (Except Error Tlv)
  | 0 => c.next.1
  | n + 1 => c.next.2.item n

end Cursor

end CardChannels.Tlv
