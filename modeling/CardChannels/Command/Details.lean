import CardChannels.Field
import CardChannels.Tlv.Basic

/-!
# Command headers

Each command names itself in its details, which the answer repeats, and says who sends it to
whom. A command for a channel is addressed to that channel.
-/
namespace CardChannels

/-- The commands that the terminal carries out. -/
inductive CommandKind where
  | setUpEventList
  | openChannel
  | closeChannel
  | receiveData
  | sendData
  | getChannelStatus
deriving DecidableEq

namespace CommandKind

def all : List CommandKind :=
  [setUpEventList, openChannel, closeChannel, receiveData, sendData, getChannelStatus]

def code : CommandKind → UInt8
  | setUpEventList => 0x05
  | openChannel => 0x40
  | closeChannel => 0x41
  | receiveData => 0x42
  | sendData => 0x43
  | getChannelStatus => 0x44

def name : CommandKind → String
  | setUpEventList => "SetUpEventList"
  | openChannel => "OpenChannel"
  | closeChannel => "CloseChannel"
  | receiveData => "ReceiveData"
  | sendData => "SendData"
  | getChannelStatus => "GetChannelStatus"

/-- The name that the card's specification uses. -/
def title : CommandKind → String
  | setUpEventList => "SET_UP_EVENT_LIST"
  | openChannel => "OPEN_CHANNEL"
  | closeChannel => "CLOSE_CHANNEL"
  | receiveData => "RECEIVE_DATA"
  | sendData => "SEND_DATA"
  | getChannelStatus => "GET_CHANNEL_STATUS"

def ofCode? (code : UInt8) : Option CommandKind := all.find? (·.code = code)

end CommandKind

/-- The details that a command carries and its answer repeats. The type may be any byte. -/
structure CommandDetails where
  number : UInt8
  typeCode : UInt8
  qualifier : UInt8
  required : Bool
deriving DecidableEq

namespace CommandDetails

/-- The details in an answer to a command whose own could not be read. -/
def unreadable : CommandDetails := ⟨0, 0, 0, true⟩

def ofTlv (t : Tlv) : Except Field.Error CommandDetails :=
  match t.value with
  | number :: typeCode :: qualifier :: _ => .ok ⟨number, typeCode, qualifier, t.required⟩
  | short => .error (.tooShort .commandDetails 3 short.length)

def toTlv (d : CommandDetails) : Tlv :=
  .leaf Tag.commandDetails.code d.required [d.number, d.typeCode, d.qualifier]

/-- The command, if the terminal carries it out. -/
def kind? (d : CommandDetails) : Option CommandKind := CommandKind.ofCode? d.typeCode

/-- Whether the qualifier shares a bit with a mask. -/
def qualified (d : CommandDetails) (mask : UInt8) : Bool := d.qualifier &&& mask ≠ 0

end CommandDetails

/-! Qualifier bits of the channel commands. -/
namespace Qualifier

/-- Open: establish the link at once. -/
def immediateLink : UInt8 := 0x01
/-- Open: connect again when the link drops. -/
def automaticReconnect : UInt8 := 0x02
/-- Open: work in the background. -/
def backgroundMode : UInt8 := 0x04
/-- Send: transmit now and do not only store. -/
def sendImmediately : UInt8 := 0x01
/-- Close: give up the client and listen again. -/
def keepListening : UInt8 := 0x01

end Qualifier

/-! Codes of the devices that take part. -/
namespace Device

def card : UInt8 := 0x81
def terminal : UInt8 := 0x82
def network : UInt8 := 0x83
/-- Channels 1 to 7 follow this code. -/
def channelBase : UInt8 := 0x20

end Device

/-- The sender and the receiver of a command or answer. -/
structure DeviceIdentities where
  source : UInt8
  destination : UInt8
deriving DecidableEq

namespace DeviceIdentities

def terminalToCard : DeviceIdentities := ⟨Device.terminal, Device.card⟩

def ofTlv (t : Tlv) : Except Field.Error DeviceIdentities :=
  match t.value with
  | source :: destination :: _ => .ok ⟨source, destination⟩
  | short => .error (.tooShort .deviceIdentities 2 short.length)

def toTlv (d : DeviceIdentities) : Tlv := .known .deviceIdentities [d.source, d.destination]

/-- The channel that the receiver is, if it is one. -/
def channel? (d : DeviceIdentities) : Option UInt8 :=
  if 0x21 ≤ d.destination ∧ d.destination ≤ 0x27 then some (d.destination - Device.channelBase)
  else none

end DeviceIdentities

end CardChannels
