/-!
# Results

The general results that an answer can carry, the causes that go with a channel fault, and the
refusal of a command as a result with an optional byte of additional information.
-/
namespace CardChannels

inductive ResultCode where
  | ok
  | partialComprehension
  | missingInformation
  | iconNotDisplayed
  | modified
  | terminalUnableToProcess
  | networkUnableToProcess
  | beyondTerminalCapability
  | commandTypeNotUnderstood
  | commandDataNotUnderstood
  | requiredValuesMissing
  | bipError
deriving DecidableEq

namespace ResultCode

def all : List ResultCode :=
  [ok, partialComprehension, missingInformation, iconNotDisplayed, modified,
   terminalUnableToProcess, networkUnableToProcess, beyondTerminalCapability,
   commandTypeNotUnderstood, commandDataNotUnderstood, requiredValuesMissing, bipError]

def code : ResultCode → UInt8
  | ok => 0x00
  | partialComprehension => 0x01
  | missingInformation => 0x02
  | iconNotDisplayed => 0x04
  | modified => 0x07
  | terminalUnableToProcess => 0x20
  | networkUnableToProcess => 0x21
  | beyondTerminalCapability => 0x30
  | commandTypeNotUnderstood => 0x31
  | commandDataNotUnderstood => 0x32
  | requiredValuesMissing => 0x36
  | bipError => 0x3A

def name : ResultCode → String
  | ok => "Ok"
  | partialComprehension => "PartialComprehension"
  | missingInformation => "MissingInformation"
  | iconNotDisplayed => "IconNotDisplayed"
  | modified => "Modified"
  | terminalUnableToProcess => "TerminalUnableToProcess"
  | networkUnableToProcess => "NetworkUnableToProcess"
  | beyondTerminalCapability => "BeyondTerminalCapability"
  | commandTypeNotUnderstood => "CommandTypeNotUnderstood"
  | commandDataNotUnderstood => "CommandDataNotUnderstood"
  | requiredValuesMissing => "RequiredValuesMissing"
  | bipError => "BipError"

def ofCode? (code : UInt8) : Option ResultCode := all.find? (·.code = code)

/-- Whether the command was carried out, perhaps with a caveat. -/
def isSuccess (r : ResultCode) : Bool := r.code < 0x10

end ResultCode

/-- What went wrong on a channel. -/
inductive ChannelCause where
  | noSpecificCause
  | noChannelAvailable
  | channelClosed
  | channelIdNotValid
  | bufferSizeNotAvailable
  | securityError
  | transportLevelNotAvailable
  | remoteDeviceNotReachable
deriving DecidableEq

namespace ChannelCause

def all : List ChannelCause :=
  [noSpecificCause, noChannelAvailable, channelClosed, channelIdNotValid, bufferSizeNotAvailable,
   securityError, transportLevelNotAvailable, remoteDeviceNotReachable]

def code : ChannelCause → UInt8
  | noSpecificCause => 0x00
  | noChannelAvailable => 0x01
  | channelClosed => 0x02
  | channelIdNotValid => 0x03
  | bufferSizeNotAvailable => 0x04
  | securityError => 0x05
  | transportLevelNotAvailable => 0x06
  | remoteDeviceNotReachable => 0x07

def name : ChannelCause → String
  | noSpecificCause => "NoSpecificCause"
  | noChannelAvailable => "NoChannelAvailable"
  | channelClosed => "ChannelClosed"
  | channelIdNotValid => "ChannelIdNotValid"
  | bufferSizeNotAvailable => "BufferSizeNotAvailable"
  | securityError => "SecurityError"
  | transportLevelNotAvailable => "TransportLevelNotAvailable"
  | remoteDeviceNotReachable => "RemoteDeviceNotReachable"

end ChannelCause

/-! Additional information when the terminal is unable to carry a command out. -/
namespace TerminalCause

def busyOnCall : UInt8 := 0x02

end TerminalCause

/-- Why a command is not carried out, as the answer tells it. -/
structure Refusal where
  result : ResultCode
  info : Option UInt8
deriving DecidableEq

namespace Refusal

def ofResult (result : ResultCode) : Refusal := ⟨result, none⟩
def ofCause (cause : ChannelCause) : Refusal := ⟨.bipError, some cause.code⟩
def busyOnCall : Refusal := ⟨.terminalUnableToProcess, some TerminalCause.busyOnCall⟩
def networkUnable : Refusal := ⟨.networkUnableToProcess, some 0x00⟩
def typeNotUnderstood : Refusal := ofResult .commandTypeNotUnderstood
def dataNotUnderstood : Refusal := ofResult .commandDataNotUnderstood
def valuesMissing : Refusal := ofResult .requiredValuesMissing
def beyondCapability : Refusal := ofResult .beyondTerminalCapability

def message (r : Refusal) : String :=
  let info := match r.info with
    | some b => s!"Some({b.toNat})"
    | none => "None"
  r.result.name ++ s!" (additional info {info})"

end Refusal

end CardChannels
