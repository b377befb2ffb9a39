import CardChannels.Hex

/-!
# Faults of the object coding

What can be wrong with the bytes of an object, and with the size of one that is to be written.
-/
namespace CardChannels.Tlv

/-- The field of an object, or of the envelope around the objects, that was being read. -/
inductive Part where
  | tag
  | length
  | value
  | envelope
deriving DecidableEq

def Part.name : Part → String
  | .tag => "tag"
  | .length => "length"
  | .value => "value"
  | .envelope => "envelope"

/-- A fault of the coding, with the offset at which it was found. -/
inductive Error where
  /-- More bytes were needed at `offset`. -/
  | unexpectedEnd (offset : Nat) (part : Part)
  /-- A length of several bytes that a shorter form could carry. -/
  | nonCanonicalLength (offset : Nat) (lead : UInt8) (value : Nat)
  /-- The first byte of a length names no form. -/
  | invalidLengthLead (offset : Nat) (lead : UInt8)
  /-- The length does not fit the longest form. -/
  | lengthTooLarge (length : Nat)
deriving DecidableEq

def Error.message : Error → String
  | .unexpectedEnd offset part =>
    s!"unexpected end of data at offset {offset} while reading " ++ part.name
  | .nonCanonicalLength offset lead value =>
    s!"non-canonical length encoding at offset {offset}: prefix " ++
      Hex.number 2 lead.toNat ++ " carries " ++ Hex.number 1 value
  | .invalidLengthLead offset lead =>
    "invalid length prefix " ++ Hex.number 2 lead.toNat ++ s!" at offset {offset}"
  | .lengthTooLarge length =>
    "length " ++ Hex.number 1 length ++ " exceeds the largest encodable length"

end CardChannels.Tlv
