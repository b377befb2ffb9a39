import CardChannels.Hex

/-!
# Faults of field values

An object can be well formed and its value still not be what its tag promises: too short, of a
kind that is not supported, or text that cannot be read.
-/
namespace CardChannels

/-- The parts of object values that reading can reject. -/
inductive Field where
  | commandDetails
  | deviceIdentities
  | bearerDescription
  | transportLevel
  | transportProtocol
  | addressLength
  | addressType
  | bufferSize
  | alphaIdentifier
  | textString
  | dataCodingScheme
  | networkAccessName
deriving DecidableEq

namespace Field

def name : Field → String
  | commandDetails => "command details"
  | deviceIdentities => "device identities"
  | bearerDescription => "bearer description"
  | transportLevel => "transport level"
  | transportProtocol => "transport protocol"
  | addressLength => "IPv4 address length"
  | addressType => "address type"
  | bufferSize => "buffer size"
  | alphaIdentifier => "alpha identifier"
  | textString => "text string"
  | dataCodingScheme => "data coding scheme"
  | networkAccessName => "network access name"

/-- Why the text of a field cannot be read. -/
inductive TextFault where
  /-- A surrogate without its partner. -/
  | loneSurrogate
  /-- A number that is no character. -/
  | notCharacter (code : Nat)
  /-- A label longer than what is left of the value. -/
  | labelOverrun (length : Nat)
deriving DecidableEq

def TextFault.message : TextFault → String
  | .loneSurrogate => "invalid utf-16: lone surrogate found"
  | .notCharacter code => "invalid code point " ++ Hex.number 4 code
  | .labelOverrun length => s!"label of {length} bytes overruns value"

/-- Why a field cannot be read. -/
inductive Error where
  | tooShort (field : Field) (expected actual : Nat)
  | unsupported (field : Field) (value : Nat)
  | badText (field : Field) (fault : TextFault)
deriving DecidableEq

def Error.message : Error → String
  | .tooShort field expected actual =>
    field.name ++ s!": expected at least {expected} bytes, got {actual}"
  | .unsupported field value => field.name ++ ": unsupported value " ++ Hex.number 2 value
  | .badText field fault => field.name ++ ": undecodable text (" ++ fault.message ++ ")"

end Field

end CardChannels
