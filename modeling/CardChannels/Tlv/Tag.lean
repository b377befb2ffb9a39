/-!
# Known object tags

The tags of the objects that channel commands, responses and events are made of, without the
comprehension flag.
-/
namespace CardChannels

inductive Tag where
  | commandDetails
  | deviceIdentities
  | result
  | alphaId
  | textString
  | eventList
  | iconId
  | itemIconIdList
  | bearerDescription
  | channelData
  | channelDataLength
  | channelStatus
  | bufferSize
  | transportLevel
  | otherAddress
  | networkAccessName
  | textAttribute
deriving DecidableEq

namespace Tag

/-- Every known tag, in ascending order of code. -/
def all : List Tag :=
  [commandDetails, deviceIdentities, result, alphaId, textString, eventList, iconId,
   itemIconIdList, bearerDescription, channelData, channelDataLength, channelStatus, bufferSize,
   transportLevel, otherAddress, networkAccessName, textAttribute]

def code : Tag → UInt16
  | commandDetails => 0x01
  | deviceIdentities => 0x02
  | result => 0x03
  | alphaId => 0x05
  | textString => 0x0D
  | eventList => 0x19
  | iconId => 0x1E
  | itemIconIdList => 0x1F
  | bearerDescription => 0x35
  | channelData => 0x36
  | channelDataLength => 0x37
  | channelStatus => 0x38
  | bufferSize => 0x39
  | transportLevel => 0x3C
  | otherAddress => 0x3E
  | networkAccessName => 0x47
  | textAttribute => 0x50

def name : Tag → String
  | commandDetails => "CommandDetails"
  | deviceIdentities => "DeviceIdentities"
  | result => "Result"
  | alphaId => "AlphaId"
  | textString => "TextString"
  | eventList => "EventList"
  | iconId => "IconId"
  | itemIconIdList => "ItemIconIdList"
  | bearerDescription => "BearerDescription"
  | channelData => "ChannelData"
  | channelDataLength => "ChannelDataLength"
  | channelStatus => "ChannelStatus"
  | bufferSize => "BufferSize"
  | transportLevel => "TransportLevel"
  | otherAddress => "OtherAddress"
  | networkAccessName => "NetworkAccessName"
  | textAttribute => "TextAttribute"

/-- The known tag with a code. -/
def ofCode? (code : UInt16) : Option Tag := all.find? (·.code = code)

theorem code_injective {s t : Tag} (h : s.code = t.code) : s = t := by
  revert h; cases s <;> cases t <;> decide

end Tag

end CardChannels
