import CardChannels.Command.Basic
import CardChannels.Command.Objects
import CardChannels.Text.AccessName
import CardChannels.Text.Label

/-!
# Reading an open command

An open command names a transport and, for a link into the network, a bearer. The address in
front of the transport is the terminal's own, the one behind it is the partner's.
-/
namespace CardChannels.OpenChannel

/-- The transport and where it stands among the objects. -/
def transport (objects : List Tlv) : Except Refusal (Option (Nat × TransportLevel)) :=
  match Tlv.findFrom? objects .transportLevel 0 with
  | some (i, t) => (Objects.understood (TransportLevel.ofTlv t)).map fun level => some (i, level)
  | none => .ok none

/-- A bearer that the terminal supports. -/
def supportedBearer (b : BearerDescription) : Except Refusal BearerType :=
  match b.type? with
  | some type => .ok type
  | none => .error .beyondCapability

/-- The address behind the transport; only the default bearer can do without one. -/
def destination (objects : List Tlv) (position : Nat) (type : BearerType) :
    Except Refusal (Option Ipv4) :=
  match Tlv.findFrom? objects .otherAddress (position + 1) with
  | some (_, t) => do
    match ← Objects.understood (Ipv4.ofTlv t) with
    | some ip => .ok (some ip)
    | none => .error .dataNotUnderstood
  | none => if type.isPacketSwitched then .error .valuesMissing else .ok none

/--
The transport that fits the bearer, and the partner's address. Without a bearer the link must
stay inside the terminal; with one it must leave it.
-/
def link (objects : List Tlv) (bearer : Option BearerDescription)
    (transport : Option (Nat × TransportLevel)) :
    Except Refusal (TransportLevel × Option Ipv4) :=
  match bearer, transport with
  | none, none => .error .valuesMissing
  | none, some (_, level) =>
    if level.protocol.isTerminalLocal then .ok (level, none) else .error .dataNotUnderstood
  | some b, transport => do
    let type ← supportedBearer b
    match transport with
    | none => .error .dataNotUnderstood
    | some (i, level) =>
      if level.protocol.isRemote then return (level, ← destination objects i type)
      else .error .dataNotUnderstood

def requestedSize (objects : List Tlv) : Except Refusal UInt16 :=
  match Tlv.find? objects .bufferSize with
  | some t => Objects.understood (BufferSize.ofTlv t)
  | none => .error .valuesMissing

/-- The address in front of the transport. -/
def localAddress (objects : List Tlv) (transport : Option (Nat × TransportLevel)) :
    Except Refusal (Option Ipv4) :=
  match transport with
  | some (i, _) => (Objects.optional (objects.take i) .otherAddress Ipv4.ofTlv).map (·.join)
  | none => .ok none

/-- The access point; an empty name is none. -/
def accessName (objects : List Tlv) : Except Refusal (Option String) :=
  (Objects.optional objects .networkAccessName fun t => AccessName.decode t.value).map
    fun name => name.filter (· ≠ "")

/-- The first two text strings; the second is looked at first. -/
def credentials (objects : List Tlv) : Except Refusal (Option String × Option String) :=
  match Tlv.findFrom? objects .textString 0 with
  | none => .ok (none, none)
  | some (i, t) => do
    let password ← match Tlv.findFrom? objects .textString (i + 1) with
      | some (_, t') => Objects.understood (TextString.decode t'.value)
      | none => .ok none
    return (← Objects.understood (TextString.decode t.value), password)

/-- The settings that the objects of an open command give. -/
def settings (objects : List Tlv) : Except Refusal ChannelSettings := do
  let transport ← transport objects
  let bearer ← Objects.optional objects .bearerDescription BearerDescription.ofTlv
  let (level, destination) ← link objects bearer transport
  let size ← requestedSize objects
  let own ← localAddress objects transport
  let name ← accessName objects
  let (login, password) ← credentials objects
  return {
    channel := none
    protocol := level.protocol
    port := level.port
    bufferSize := size
    destination := destination
    localAddress := own
    bearer := bearer
    accessName := name
    login := login
    password := password }

end CardChannels.OpenChannel
