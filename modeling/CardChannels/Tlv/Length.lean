import CardChannels.Tlv.Error

/-!
# The length field

A length below `0x80` is one byte. A longer one is a lead byte `0x81`, `0x82` or `0x83` and one,
two or three bytes. Only the shortest form of a length is read, so a length has one spelling.
-/
namespace CardChannels.Tlv

/-- The largest length that the longest form can carry. -/
def maxLength : Nat := 0xFFFFFF

/-- The field for a length of at most `maxLength`. -/
def lengthField (n : Nat) : Bytes :=
  if n < 0x80 then [UInt8.ofNat n]
  else if n < 0x100 then [0x81, UInt8.ofNat n]
  else if n < 0x10000 then [0x82, UInt8.ofNat (n / 0x100), UInt8.ofNat n]
  else [0x83, UInt8.ofNat (n / 0x10000), UInt8.ofNat (n / 0x100), UInt8.ofNat n]

/-- How many bytes the field for a length takes. -/
def lengthFieldSize (n : Nat) : Nat :=
  if n < 0x80 then 1 else if n < 0x100 then 2 else if n < 0x10000 then 3 else 4

/-- The field for a length, if one can carry it. -/
def encodeLength (n : Nat) : Except Error Bytes :=
  if n > maxLength then .error (.lengthTooLarge n) else .ok (lengthField n)

/-- Bytes with the field for a length behind them, or as they are if none can carry it. -/
def appendLength (n : Nat) (out : Bytes) : Bytes × Option Error :=
  match encodeLength n with
  | .ok bs => (out ++ bs, none)
  | .error e => (out, some e)

/-- For the lead byte of a longer form, how many bytes follow and the least length it may carry. -/
def longForm? (lead : UInt8) : Option (Nat × Nat) :=
  if lead = 0x81 then some (1, 0x80)
  else if lead = 0x82 then some (2, 0x100)
  else if lead = 0x83 then some (3, 0x10000)
  else none

/--
Reads the length field at the front of `bs`, which starts at `offset` of the data: the length
and how many bytes the field takes.
-/
def readLength (offset : Nat) (bs : Bytes) : Except Error (Nat × Nat) :=
  match bs with
  | [] => .error (.unexpectedEnd offset .length)
  | lead :: rest =>
    if lead < 0x80 then .ok (lead.toNat, 1)
    else match longForm? lead with
      | none => .error (.invalidLengthLead offset lead)
      | some (width, least) =>
        let length := Bytes.toNat (rest.take width)
        if (rest.take width).length < width then .error (.unexpectedEnd (offset + 1) .length)
        else if length < least then .error (.nonCanonicalLength offset lead length)
        else .ok (length, 1 + width)

/-- The length at `index` of the data and the index behind its field. -/
def decodeLength (data : Bytes) (index : Nat) : Except Error (Nat × Nat) :=
  (readLength index (data.drop index)).map fun (length, used) => (length, index + used)

end CardChannels.Tlv
