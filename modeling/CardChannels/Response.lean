import CardChannels.Command.Details
import CardChannels.Result
import CardChannels.Status
import CardChannels.Tlv.Envelope
import CardChannels.Transport

/-!
# Answers and events for the card

An answer repeats the command's details and gives a result, followed by what the command asked
for. An event is wrapped in an envelope. Both are sequences of objects, and both report counts in
one byte that stops at 255.
-/
namespace CardChannels

/-- The greatest count that an answer or event can report. -/
def maxReported : Nat := 0xFF

/-- The object with a count. -/
def countTlv (n : Nat) : Tlv := .known .channelDataLength [UInt8.ofNat (min n maxReported)]

/-- What an answer carries beside its result. -/
inductive Payload where
  | openChannel (status : Option ChannelStatus) (bearer : Option BearerDescription)
      (bufferSize : UInt16)
  | sendData (freeSpace : Nat)
  | receiveData (data : Bytes) (remaining : Nat)
  | channelStatus (words : List UInt16)
deriving DecidableEq

def Payload.objects : Payload → List Tlv
  | .openChannel status bearer bufferSize =>
    (status.map fun s => ChannelStatus.tlvOfWord s.word).toList ++
      (bearer.map BearerDescription.toTlv).toList ++ [BufferSize.toTlv bufferSize]
  | .sendData freeSpace => [countTlv freeSpace]
  | .receiveData data remaining => [.known .channelData data, countTlv remaining]
  | .channelStatus words => words.map ChannelStatus.tlvOfWord

/-- The terminal's answer to a command. -/
structure TerminalResponse where
  details : CommandDetails
  result : ResultCode
  info : Option UInt8
  data : Option Payload
deriving DecidableEq

namespace TerminalResponse

/-- A plain success. -/
def success (details : CommandDetails) : TerminalResponse := ⟨details, .ok, none, none⟩

def withResult (r : TerminalResponse) (result : ResultCode) : TerminalResponse :=
  { r with result := result }

def withInfo (r : TerminalResponse) (info : UInt8) : TerminalResponse :=
  { r with info := some info }

def withCause (r : TerminalResponse) (cause : ChannelCause) : TerminalResponse :=
  { r with result := .bipError, info := some cause.code }

def withData (r : TerminalResponse) (data : Payload) : TerminalResponse :=
  { r with data := some data }

def objects (r : TerminalResponse) : List Tlv :=
  r.details.toTlv :: DeviceIdentities.terminalToCard.toTlv ::
    .known .result (r.result.code :: r.info.toList) ::
    match r.data with
    | some data => data.objects
    | none => []

def encode (r : TerminalResponse) : Except Tlv.Error Bytes := Tlv.encodeAll r.objects

end TerminalResponse

/-- Something that the terminal tells the card on its own. -/
inductive EventDownload where
  | dataAvailable (status : ChannelStatus) (available : Nat)
  | channelStatus (status : ChannelStatus)
deriving DecidableEq

namespace EventDownload

def event : EventDownload → ChannelEvent
  | dataAvailable _ _ => .dataAvailable
  | channelStatus _ => .channelStatus

def objects (e : EventDownload) : List Tlv :=
  .known .eventList [e.event.code] :: DeviceIdentities.terminalToCard.toTlv ::
    match e with
    | dataAvailable status available => [ChannelStatus.tlvOfWord status.word, countTlv available]
    | channelStatus status => [ChannelStatus.tlvOfWord status.word]

def encode (e : EventDownload) : Except Tlv.Error Bytes := do
  Envelope.wrap Envelope.eventDownload (← Tlv.encodeAll e.objects)

end EventDownload

/-- How a command is to be answered. -/
structure Reply where
  details : CommandDetails
  iconNotDisplayed : Bool
deriving DecidableEq

namespace Reply

/-- The answer to a command that was carried out; a missing icon is told where nothing else is. -/
def success (r : Reply) (result : ResultCode) (data : Option Payload) : TerminalResponse :=
  let result := if result = .ok ∧ r.iconNotDisplayed then .iconNotDisplayed else result
  ⟨r.details, result, none, data⟩

/-- The answer to a command that was not carried out. -/
def failure (r : Reply) (refusal : Refusal) (data : Option Payload) : TerminalResponse :=
  ⟨r.details, refusal.result, refusal.info, data⟩

end Reply

end CardChannels
