import CardChannels.Channel.Table
import CardChannels.Command.Reader

/-!
# The terminal

The terminal takes commands from the card and whatever else happens: the end of a session, the
card's removal, changes of the connection, images that were loaded, delays that are over, and
reports of socket tasks. Each is dealt with at once and gives messages for the card and work for
the surroundings.
-/
namespace CardChannels

/-- What can go wrong around a terminal. -/
inductive RuntimeError where
  /-- The terminal takes nothing any more. -/
  | serviceStopped
  | iconLoad (reason : String)
deriving DecidableEq

def RuntimeError.message : RuntimeError → String
  | serviceStopped => "BIP service stopped"
  | iconLoad reason => "icon load failed: " ++ reason

/-- What happens to a terminal. -/
inductive Input where
  | command (raw : Bytes)
  | sessionEnd
  | cardRemoved
  | connection (change : ConnectionChange)
  /-- The images of a request, or nothing if they could not be loaded. -/
  | iconsLoaded (request : Nat) (images : Option (List IconImage))
  /-- The delay before looking for a bearer again is over. -/
  | retryDue (channel : UInt8) (generation : Nat)
  | report (channel : UInt8) (generation : Nat) (report : Report)
  /-- A socket task has ended; what it reported before may still be on its way. -/
  | taskEnded (channel : UInt8) (generation : Nat)
deriving DecidableEq

/-- A message for the card. -/
inductive CardMessage where
  | response (response : TerminalResponse)
  | event (event : EventDownload)
deriving DecidableEq

def CardMessage.encode : CardMessage → Except Tlv.Error Bytes
  | response r => r.encode
  | event e => e.encode

/-- A look for a bearer that is due after so many milliseconds. -/
structure RetryTimer where
  channel : UInt8
  generation : Nat
  delay : Nat
deriving DecidableEq

/-- A request for the images of some icon records. -/
structure IconRequest where
  number : Nat
  records : List UInt8
deriving DecidableEq

/-- What a terminal gives out in one step. -/
structure Reaction where
  messages : List CardMessage
  timers : List RetryTimer
  icons : List IconRequest
  calls : List HostCall
  orders : List SocketOrder
deriving DecidableEq

namespace Reaction

def none : Reaction := ⟨[], [], [], [], []⟩

def respond (r : TerminalResponse) : Reaction := { none with messages := [.response r] }

end Reaction

structure Terminal where
  reader : CommandReader
  table : ChannelTable
  requireEventList : Bool
  /-- The events that the card has asked for. -/
  armed : List ChannelEvent
  /-- The number of the last request for images. -/
  iconRequest : Nat

namespace Terminal

def ofConfig (config : Config) : Terminal where
  reader := .idle
  table := .ofConfig config
  requireEventList := config.requireEventList
  armed := []
  iconRequest := 0

/-- Whether the card is to be told of an event. -/
def wants (t : Terminal) (event : ChannelEvent) : Bool := !t.requireEventList || event ∈ t.armed

/-- The messages that the effects come to, in order. -/
def messages (t : Terminal) (effects : List Effect) : List CardMessage :=
  effects.filterMap fun
    | .respond r => some (.response r)
    | .raise e => if t.wants e.event then some (.event e) else none
    | .retry .. => none

/-- The delays that the effects ask for. -/
def timers (effects : List Effect) : List RetryTimer :=
  effects.filterMap fun
    | .retry channel generation delay => some ⟨channel, generation, delay⟩
    | _ => none

/-- The terminal with a new table, and what the step that made it gives out. -/
def settle (t : Terminal) (step : ChannelTable × Output) : Terminal × Reaction :=
  ({ t with table := step.1 },
    ⟨t.messages step.2.effects, timers step.2.effects, [], step.2.calls, step.2.orders⟩)

/-- Carries a command out. -/
def execute (t : Terminal) (host : Host) (command : Command) : Terminal × Reaction :=
  let reply : Reply := ⟨command.details, command.iconFailed⟩
  match command.instruction with
  | .setUpEventList events =>
    ({ t with armed := ChannelEvent.listed events }, .respond (reply.success .ok none))
  | .openChannel settings => t.settle (t.table.openChannel host reply settings)
  | .closeChannel channel =>
    t.settle (t.table.closeChannel reply channel
      (command.details.qualified Qualifier.keepListening))
  | .receiveData data => t.settle (t.table.receiveData reply data)
  | .sendData data =>
    t.settle (t.table.sendData reply data (command.details.qualified Qualifier.sendImmediately))
  | .getChannelStatus => t.settle (t.table, t.table.channelStatus reply)

/-- Reads a command and carries it out, unless it has to wait for its icon. -/
def command (t : Terminal) (host : Host) (raw : Bytes) : Terminal × Reaction :=
  let (reader, reading) := t.reader.read raw
  let t := { t with reader := reader }
  match reading with
  | .ready command => t.execute host command
  | .loadIcons records =>
    let number := t.iconRequest + 1
    ({ t with iconRequest := number }, { Reaction.none with icons := [⟨number, records⟩] })
  | .rejected rejection =>
    let details := rejection.details.getD .unreadable
    (t, .respond ((Reply.mk details false).failure rejection.refusal none))

/-- Goes on with the command that waits, if the images are the ones it waits for. -/
def iconsLoaded (t : Terminal) (host : Host) (request : Nat) (images : Option (List IconImage)) :
    Terminal × Reaction :=
  if request ≠ t.iconRequest then (t, .none)
  else
    let (reader, command) := t.reader.iconsLoaded images
    let t := { t with reader := reader }
    match command with
    | some command => t.execute host command
    | none => (t, .none)

/-- Deals with one thing that happens. -/
def step (t : Terminal) (host : Host) : Input → Terminal × Reaction
  | .command raw => t.command host raw
  | .sessionEnd => { t with reader := t.reader.cancel.1 }.settle t.table.sessionEnd
  | .cardRemoved =>
    { t with reader := t.reader.cancel.1, armed := [] }.settle t.table.cardRemoved
  | .connection change => t.settle (t.table.connectionChanged change)
  | .iconsLoaded request images => t.iconsLoaded host request images
  | .retryDue channel generation => t.settle (t.table.bearerRetry host channel generation)
  | .report channel generation report => t.settle (t.table.report channel generation report)
  | .taskEnded channel generation =>
    ({ t with table := t.table.taskEnded channel generation }, .none)

end Terminal

end CardChannels
