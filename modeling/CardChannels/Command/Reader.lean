import CardChannels.Command.OpenChannel
import CardChannels.Tlv.Envelope

/-!
# Reading commands

A command is read from its bytes at once. One that shows an icon then waits for the icon's images
and goes on with them or without; at most one command waits, and a newer command replaces it.
-/
namespace CardChannels

namespace Command

/-- The channel that a command is addressed to, or 0. -/
def channelOf (objects : List Tlv) : Except Refusal UInt8 :=
  match Tlv.find? objects .deviceIdentities with
  | none => .error .valuesMissing
  | some t => (Objects.understood (DeviceIdentities.ofTlv t)).map (·.channel?.getD 0)

/-- The parameters of a command, from its objects. -/
def instructionOf (kind : CommandKind) (objects : List Tlv) : Except Refusal Instruction :=
  match kind with
  | .setUpEventList =>
    match Tlv.find? objects .eventList with
    | some t => .ok (.setUpEventList t.value)
    | none => .error .valuesMissing
  | .openChannel => (OpenChannel.settings objects).map .openChannel
  | .closeChannel => (channelOf objects).map .closeChannel
  | .receiveData => do
    let channel ← channelOf objects
    match Tlv.find? objects .channelDataLength with
    | none => .error .valuesMissing
    | some t =>
      match t.value with
      | length :: _ => .ok (.receiveData ⟨channel, length.toNat, []⟩)
      | [] => .error .dataNotUnderstood
  | .sendData => do
    let channel ← channelOf objects
    match Tlv.find? objects .channelData with
    | none => .error .valuesMissing
    | some t => .ok (.sendData ⟨channel, t.length, t.value⟩)
  | .getChannelStatus => .ok .getChannelStatus

/-- The icon record that a command asks for. -/
def iconOf (objects : List Tlv) : Except Refusal (Option UInt8) :=
  match Tlv.find? objects .iconId with
  | none => .ok none
  | some t =>
    match t.value with
    | _ :: record :: _ => .ok (some record)
    | _ => .error .dataNotUnderstood

/-- The command that objects give under their details. -/
def ofObjects (details : CommandDetails) (objects : List Tlv) : Except Refusal Command := do
  let kind ← match details.kind? with
    | some kind => pure kind
    | none => .error .typeNotUnderstood
  let instruction ← instructionOf kind objects
  let alphaId ← Objects.optional objects .alphaId fun t => AlphaId.decode t.value
  let icon ← iconOf objects
  return ⟨details, alphaId, icon, [], false, instruction⟩

/-- A command that cannot be read, with its details where those can. -/
structure Rejection where
  details : Option CommandDetails
  refusal : Refusal
deriving DecidableEq

/--
The command in the bytes, which may be wrapped or bare. The details are looked for among the
objects in front of a fault, so that a faulty command is still rejected under its own details.
-/
def ofBytes (raw : Bytes) : Except Rejection Command :=
  match Envelope.unwrap raw Envelope.proactiveCommand with
  | .error _ => .error ⟨none, .dataNotUnderstood⟩
  | .ok body =>
    let (objects, fault) := Tlv.decodeFrom body 0
    match (Tlv.find? objects .commandDetails).map CommandDetails.ofTlv with
    | none | some (.error _) => .error ⟨none, .typeNotUnderstood⟩
    | some (.ok details) =>
      if fault.isSome then .error ⟨some details, .dataNotUnderstood⟩
      else match ofObjects details objects with
        | .ok command => .ok command
        | .error refusal => .error ⟨some details, refusal⟩

end Command

/-- What became of a command's bytes. -/
inductive Reading where
  | ready (command : Command)
  /-- The images of these records are needed first. -/
  | loadIcons (records : List UInt8)
  | rejected (rejection : Command.Rejection)
deriving DecidableEq

/-- Reads commands and keeps the one that waits for its icon. -/
structure CommandReader where
  pending : Option Command
deriving DecidableEq

namespace CommandReader

/-- A reader with nothing waiting. -/
def idle : CommandReader := ⟨none⟩

/-- Reads a command, giving up one that still waits. -/
def read (_ : CommandReader) (raw : Bytes) : CommandReader × Reading :=
  match Command.ofBytes raw with
  | .error rejection => (idle, .rejected rejection)
  | .ok command =>
    match command.icon with
    | some record => (⟨some command⟩, .loadIcons [record])
    | none => (idle, .ready command)

/-- The waiting command, with its images or, when there are none to be had, without. -/
def iconsLoaded (r : CommandReader) (images : Option (List IconImage)) :
    CommandReader × Option Command :=
  (idle, r.pending.map fun command =>
    match images with
    | some images => { command with images := images }
    | none => { command with iconFailed := true })

/-- Gives up the waiting command, and tells whether there was one. -/
def cancel (r : CommandReader) : CommandReader × Bool := (idle, r.pending.isSome)

end CommandReader

end CardChannels
