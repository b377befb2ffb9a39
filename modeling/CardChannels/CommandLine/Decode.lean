import CardChannels.Command.Reader
import CardChannels.CommandLine.Document
import CardChannels.Text.Blank
import CardChannels.Text.Quoted

/-!
# Showing a command

A command given in hexadecimal is shown as its objects, one on a line, and then as what it asks
for, or why it is rejected.
-/
namespace CardChannels.CommandLine

/-- What a run of the program comes to. -/
structure Run where
  output : String
  /-- Why the run failed, and what lay behind that. -/
  failure : Option (String × Option String)

/-- What is written about a failure. -/
def Run.errorText (r : Run) : String :=
  match r.failure with
  | none => ""
  | some (what, none) => "Error: " ++ what ++ "\n"
  | some (what, some cause) => "Error: " ++ what ++ "\n\nCaused by:\n    " ++ cause ++ "\n"

def Run.exitCode (r : Run) : UInt32 := if r.failure.isSome then 1 else 0

def hexFault : Hex.Fault → String
  | .oddLength => "Odd number of digits"
  | .badDigit byte position =>
    "Invalid character " ++ Quoted.letter (Char.ofNat byte.toNat) ++ s!" at position {position}"

/-- The name of a tag, or its number. -/
def tagLabel (tag : UInt16) : String :=
  match Tag.ofCode? tag with
  | some known => known.name
  | none => Hex.upperNumber 2 tag.toNat

/-- The line that shows an object. -/
def objectLine (t : Tlv) : String :=
  let flag := if t.required then "CR" else "  "
  tagLabel t.tag ++ " " ++ flag ++ s!" len={t.length} " ++ Hex.upper t.value ++ "\n"

def detailsDocument (d : CommandDetails) : Document :=
  .fields [
    ("number", .number d.number.toNat),
    ("type_code", .number d.typeCode.toNat),
    ("qualifier", .number d.qualifier.toNat),
    ("comprehension_required", .flag d.required)]

def bytesDocument (bs : Bytes) : Document := .items (bs.map fun b => .number b.toNat)

def bearerDocument (b : BearerDescription) : Document :=
  .fields [("type_code", .number b.typeCode.toNat), ("parameters", bytesDocument b.parameters)]

def settingsDocument (s : ChannelSettings) : Document :=
  .fields [
    ("channel_id", .optional (fun k => .number k.toNat) s.channel),
    ("protocol", .text s.protocol.name),
    ("port", .number s.port.toNat),
    ("buffer_size", .number s.bufferSize.toNat),
    ("destination", .optional (fun ip => .text ip.text) s.destination),
    ("local_address", .optional (fun ip => .text ip.text) s.localAddress),
    ("bearer", .optional bearerDocument s.bearer),
    ("network_access_name", .optional .text s.accessName),
    ("user_login", .optional .text s.login),
    ("user_password", .optional .text s.password)]

def transferDocument (d : Transfer) : Document :=
  .fields [
    ("channel_id", .number d.channel.toNat),
    ("length", .number d.length),
    ("data", bytesDocument d.data)]

def instructionDocument : Instruction → Document
  | .setUpEventList events =>
    .tagged "SetUpEventList" (.tagged "events" (bytesDocument events))
  | .openChannel settings => .tagged "OpenChannel" (settingsDocument settings)
  | .closeChannel channel =>
    .tagged "CloseChannel" (.tagged "channel_id" (.number channel.toNat))
  | .receiveData settings => .tagged "ReceiveData" (transferDocument settings)
  | .sendData settings => .tagged "SendData" (transferDocument settings)
  | .getChannelStatus => .text "GetChannelStatus"

def imageDocument (i : IconImage) : Document :=
  .fields [("record", .number i.record.toNat), ("data", bytesDocument i.data)]

def commandDocument (c : Command) : Document :=
  .fields [
    ("details", detailsDocument c.details),
    ("alpha_id", .optional .text c.alphaId),
    ("icon", .optional (fun record => .tagged "record" (.number record.toNat)) c.icon),
    ("icons", .items (c.images.map imageDocument)),
    ("icon_load_failed", .flag c.iconFailed),
    ("params", instructionDocument c.instruction)]

/-- What is shown of the command itself; an icon is taken to have no images. -/
def commandText (raw : Bytes) : String :=
  let (reader, reading) := CommandReader.idle.read raw
  match reading with
  | .ready command => (commandDocument command).render ++ "\n"
  | .loadIcons records =>
    let numbers := ", ".intercalate (records.map fun r => toString r.toNat)
    let shown := match (reader.iconsLoaded (some [])).2 with
      | some command => (commandDocument command).render ++ "\n"
      | none => ""
    "icon records to load: [" ++ numbers ++ "]\n" ++ shown
  | .rejected rejection =>
    let details := match rejection.details with
      | some d => (detailsDocument d).render ++ "\n"
      | none => ""
    "rejected: " ++ rejection.refusal.message ++ "\n" ++ details

/-- Shows a command given in hexadecimal, blanks around it aside. -/
def decode (hex : String) : Run :=
  match Hex.read (String.ofList (Blank.trim hex.toList)) with
  | .error fault => ⟨"", some ("command is not valid hex", some (hexFault fault))⟩
  | .ok raw =>
    match Envelope.unwrap raw Envelope.proactiveCommand with
    | .error fault => ⟨"", some ("malformed envelope", some fault.message)⟩
    | .ok body =>
      match Tlv.decodeAll body with
      | .error fault => ⟨"", some ("malformed objects", some fault.message)⟩
      | .ok objects => ⟨String.join (objects.map objectLine) ++ commandText raw, none⟩

end CardChannels.CommandLine
