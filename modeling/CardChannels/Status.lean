import CardChannels.Tlv.Basic

/-!
# Channel status and events

The state of a channel's link as the two bytes of a status word, and the two events that the
terminal raises on its own.
-/
namespace CardChannels

/-- The most channels that can be in use at once; they have the numbers from 1 on. -/
def maxChannels : Nat := 7

inductive LinkState where
  | closed
  | listening
  | established
deriving DecidableEq

namespace LinkState

def all : List LinkState := [closed, listening, established]

def name : LinkState → String
  | closed => "Closed"
  | listening => "Listening"
  | established => "Established"

/-- The name in running text. -/
def word : LinkState → String
  | closed => "closed"
  | listening => "listening"
  | established => "established"

def bits : LinkState → UInt8
  | closed => 0x00
  | listening => 0x40
  | established => 0x80

end LinkState

inductive StatusNote where
  | none
  | linkDropped
deriving DecidableEq

namespace StatusNote

def name : StatusNote → String
  | none => "None"
  | linkDropped => "LinkDropped"

def code : StatusNote → UInt8
  | none => 0x00
  | linkDropped => 0x05

end StatusNote

structure ChannelStatus where
  channel : UInt8
  state : LinkState
  info : StatusNote
deriving DecidableEq

namespace ChannelStatus

/-- A status with nothing to add. -/
def plain (channel : UInt8) (state : LinkState) : ChannelStatus := ⟨channel, state, .none⟩

/-- The status of the channel after its link was dropped. -/
def dropped (s : ChannelStatus) : ChannelStatus := { s with state := .closed, info := .linkDropped }

/-- The two status bytes; the channel number takes three bits of the first. -/
def bytes (s : ChannelStatus) : Bytes := [s.state.bits ||| (s.channel &&& 0x07), s.info.code]

def word (s : ChannelStatus) : UInt16 :=
  Bytes.word (s.state.bits ||| (s.channel &&& 0x07)) s.info.code

/-- The object with a status word. -/
def tlvOfWord (word : UInt16) : Tlv := .known .channelStatus (Bytes.ofWord word)

end ChannelStatus

/-- The events that the terminal raises. -/
inductive ChannelEvent where
  | dataAvailable
  | channelStatus
deriving DecidableEq

namespace ChannelEvent

def all : List ChannelEvent := [dataAvailable, channelStatus]

def code : ChannelEvent → UInt8
  | dataAvailable => 0x09
  | channelStatus => 0x0A

def name : ChannelEvent → String
  | dataAvailable => "DataAvailable"
  | channelStatus => "ChannelStatus"

def ofCode? (code : UInt8) : Option ChannelEvent := all.find? (·.code = code)

/-- The events that a list of codes names; other codes are passed over. -/
def listed (codes : Bytes) : List ChannelEvent := codes.filterMap ofCode?

end ChannelEvent

end CardChannels
