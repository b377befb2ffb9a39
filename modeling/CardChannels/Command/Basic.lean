import CardChannels.Command.Details
import CardChannels.Status
import CardChannels.Transport

/-!
# Commands

What the terminal is asked to do, after the objects of a command have been read.
-/
namespace CardChannels

/-- Everything needed to open one channel. -/
structure ChannelSettings where
  /-- The number of the channel, once it has one. -/
  channel : Option UInt8
  protocol : TransportProtocol
  /-- Where a server listens or a client connects. -/
  port : UInt16
  /-- The size asked for, then the size agreed on. -/
  bufferSize : UInt16
  destination : Option Ipv4
  localAddress : Option Ipv4
  /-- The bearer of a link into the network; a link inside the terminal has none. -/
  bearer : Option BearerDescription
  /-- The access point in dotted form. -/
  accessName : Option String
  login : Option String
  password : Option String
deriving DecidableEq

namespace ChannelSettings

/--
Where a client connects. A client inside the terminal that names no address means the terminal
itself; one into the network has no partner then.
-/
def partner? (s : ChannelSettings) : Option Endpoint :=
  match s.destination with
  | some ip => some ⟨ip, s.port⟩
  | none => if s.protocol.isRemote then none else some ⟨.loopback, s.port⟩

/-- The terminal's own end of the link. -/
def ownEnd (s : ChannelSettings) (port : UInt16) : Endpoint :=
  ⟨s.localAddress.getD .unspecified, port⟩

end ChannelSettings

/-- What a send or a receive is about. -/
structure Transfer where
  /-- The channel, or 0 when the command names none. -/
  channel : UInt8
  /-- How many bytes are sent or asked for. -/
  length : Nat
  /-- The bytes to send. -/
  data : Bytes
deriving DecidableEq

/-- What a command asks for, with its parameters. -/
inductive Instruction where
  | setUpEventList (events : Bytes)
  | openChannel (settings : ChannelSettings)
  | closeChannel (channel : UInt8)
  | receiveData (settings : Transfer)
  | sendData (settings : Transfer)
  | getChannelStatus
deriving DecidableEq

/-- An image that was loaded for a command. -/
structure IconImage where
  record : UInt8
  data : Bytes
deriving DecidableEq

/-- A command that has been read. -/
structure Command where
  details : CommandDetails
  /-- A text for the user. -/
  alphaId : Option String
  /-- The record of an icon for the user. -/
  icon : Option UInt8
  /-- The icon's images, once they are loaded. -/
  images : List IconImage
  /-- The icon could not be loaded. -/
  iconFailed : Bool
  instruction : Instruction
deriving DecidableEq

end CardChannels
