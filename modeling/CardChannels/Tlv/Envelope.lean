import CardChannels.Tlv.Encode
import CardChannels.Tlv.Decode

/-!
# Envelopes

A command from the card and an event for the card are wrapped: a tag byte, a length, and that
many bytes of objects. Data that does not start with the tag is taken as bare objects.
-/
namespace CardChannels.Envelope

/-- The tag around a command from the card. -/
def proactiveCommand : UInt8 := 0xD0

/-- The tag around an event for the card. -/
def eventDownload : UInt8 := 0xD6

/-- The contents of an envelope with the tag, or all of the data when it has another first byte. -/
def unwrap (data : Bytes) (tag : UInt8) : Except Tlv.Error Bytes :=
  match data with
  | [] => .ok []
  | first :: _ =>
    if first = tag then do
      let (length, start) ← Tlv.decodeLength data 1
      let contents := (data.drop start).take length
      if contents.length < length then .error (.unexpectedEnd data.length .envelope)
      else .ok contents
    else .ok data

def wrap (tag : UInt8) (contents : Bytes) : Except Tlv.Error Bytes := do
  return tag :: ((← Tlv.encodeLength contents.length) ++ contents)

end CardChannels.Envelope
