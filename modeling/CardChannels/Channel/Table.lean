import CardChannels.Bearer.Registry
import CardChannels.Channel.Basic
import CardChannels.Response

/-!
# The channel table

The table holds the channels in use and the bearers they need. An open command takes the lowest
free number and goes through three phases: it waits for its bearer, then for its socket, and is
then open. Its answer, like that of a send that is under way, is kept with the channel until what
it waits for has happened.
-/
namespace CardChannels

/-- What the table wants done. -/
inductive Effect where
  | respond (response : TerminalResponse)
  /-- Tell the card, if it wants to know. -/
  | raise (event : EventDownload)
  /-- Look for the channel's bearer again after so many milliseconds. -/
  | retry (channel : UInt8) (generation : Nat) (delay : Nat)
deriving DecidableEq

/-- An order for the socket task of one channel. -/
structure SocketOrder where
  channel : UInt8
  generation : Nat
  order : Order
deriving DecidableEq

/-- Everything that a step gives out: effects, calls to the host, and orders to socket tasks. -/
structure Output where
  effects : List Effect
  calls : List HostCall
  orders : List SocketOrder
deriving DecidableEq

namespace Output

def none : Output := ⟨[], [], []⟩

def append (a b : Output) : Output :=
  ⟨a.effects ++ b.effects, a.calls ++ b.calls, a.orders ++ b.orders⟩

instance : Append Output := ⟨append⟩

def respond (r : TerminalResponse) : Output := ⟨[.respond r], [], []⟩
def raise (e : EventDownload) : Output := ⟨[.raise e], [], []⟩
def call (calls : List HostCall) : Output := ⟨[], calls, []⟩

end Output

/-- How far an open channel has come. -/
inductive Phase where
  | awaitingBearer
  | opening
  | opened
deriving DecidableEq

/-- An answer that is still to be given. -/
inductive PendingReply where
  /-- To the open command; tells whether the buffer size was changed. -/
  | opening (reply : Reply) (modified : Bool)
  /-- To a send whose bytes are under way. -/
  | sending (reply : Reply) (free : Nat)
deriving DecidableEq

/-- A channel in use. -/
structure Slot where
  channel : Channel
  phase : Phase
  pending : Option PendingReply

namespace Slot

/-- What the answer to an open that failed carries. -/
def failureData (s : Slot) : Payload :=
  .openChannel none s.channel.settings.bearer s.channel.settings.bufferSize

/-- Orders for the slot's socket task. -/
def orders (s : Slot) (orders : List Order) : Output :=
  ⟨[], [], orders.map fun o => ⟨s.channel.id, s.channel.generation, o⟩⟩

end Slot

structure ChannelTable where
  slots : ChannelMap Slot
  /-- The generation of the newest channel. -/
  generation : Nat
  maxBufferSize : UInt16
  connectTimeout : Nat
  bearers : BearerRegistry

namespace ChannelTable

def ofConfig (config : Config) : ChannelTable where
  slots := ∅
  generation := 0
  maxBufferSize := config.maxBufferSize
  connectTimeout := config.connectTimeout
  bearers := .ofConfig config

/-- The numbers that channels can have. -/
def numbers : List UInt8 := [1, 2, 3, 4, 5, 6, 7]

/-- The lowest number that no channel has. -/
def firstFree? (t : ChannelTable) : Option UInt8 := numbers.find? fun k => !t.slots.contains k

/-- How many channels can still be opened. -/
def unused (t : ChannelTable) : Nat := numbers.countP fun k => !t.slots.contains k

def available (t : ChannelTable) : Bool := 0 < t.unused

/-- The status word of every number, 0 for one that no channel has. -/
def words (t : ChannelTable) : List UInt16 :=
  numbers.map fun k =>
    match t.slots.get? k with
    | some slot => slot.channel.status.word
    | none => 0

/-- The table with a slot put back. -/
def put (t : ChannelTable) (slot : Slot) : ChannelTable :=
  { t with slots := t.slots.insert slot.channel.id slot }

/-- The table without a channel and its bearer. -/
def free (t : ChannelTable) (channel : UInt8) : ChannelTable × Output :=
  let (bearers, calls) := t.bearers.release channel
  ({ t with slots := t.slots.erase channel, bearers := bearers }, .call calls)

/-- Deals with several things in order, and puts together what each gives out. -/
def each {α : Type} (f : ChannelTable → α → ChannelTable × Output) (t : ChannelTable) :
    List α → ChannelTable × Output
  | [] => (t, .none)
  | a :: rest =>
    let (t, out) := f t a
    let (t, more) := each f t rest
    (t, out ++ more)

/-- Frees the slot of a channel whose open has failed, and answers the open. -/
def giveUpOpen (t : ChannelTable) (slot : Slot) (refusal : Refusal) : ChannelTable × Output :=
  let (t, out) := t.free slot.channel.id
  match slot.pending with
  | some (.opening reply _) =>
    (t, out ++ .respond (reply.failure refusal (some slot.failureData)))
  | _ => (t, out)

/-- Starts the socket task of a channel whose bearer is up. -/
def startSocket (t : ChannelTable) (slot : Slot) : ChannelTable × Output :=
  let slot := { slot with phase := .opening }
  match slot.channel.start t.connectTimeout with
  | .ok (channel, orders) => (t.put { slot with channel := channel }, slot.orders orders)
  | .error cause => t.giveUpOpen slot (.ofCause cause)

/-- Goes on with an open as its bearer allows. -/
def afterBearer (t : ChannelTable) (slot : Slot) (outcome : BearerAnswer) :
    ChannelTable × Output :=
  match outcome with
  | .ready => t.startSocket slot
  | .pending => (t, .none)
  | .retryAfter delay => (t, ⟨[.retry slot.channel.id slot.channel.generation delay], [], []⟩)
  | .failed refusal => t.giveUpOpen slot refusal

/-! Commands -/

/-- Refuses an open before it has a channel. -/
def refuseOpen (reply : Reply) (settings : ChannelSettings) (cause : ChannelCause) : Output :=
  .respond (reply.failure (.ofCause cause)
    (some (.openChannel none settings.bearer settings.bufferSize)))

/-- Opens a channel. -/
def openChannel (t : ChannelTable) (host : Host) (reply : Reply) (settings : ChannelSettings) :
    ChannelTable × Output :=
  if settings.bufferSize = 0 then (t, refuseOpen reply settings .bufferSizeNotAvailable)
  else match t.firstFree? with
    | none => (t, refuseOpen reply settings .noChannelAvailable)
    | some k =>
      let (size, modified) := negotiate settings.bufferSize t.maxBufferSize
      let agreed := { settings with bufferSize := size, channel := some k }
      let generation := t.generation + 1
      let slot : Slot :=
        ⟨.new k generation agreed, .awaitingBearer, some (.opening reply modified)⟩
      let t := { t with generation := generation }.put slot
      match agreed.bearer with
      | none => t.startSocket slot
      | some bearer =>
        let (bearers, outcome, calls) := t.bearers.request host k bearer agreed.accessName
        let (t, out) := { t with bearers := bearers }.afterBearer slot outcome
        (t, .call calls ++ out)

/-- Closes a channel, or only a server's client. -/
def closeChannel (t : ChannelTable) (reply : Reply) (channel : UInt8) (keepListening : Bool) :
    ChannelTable × Output :=
  match t.slots.get? channel with
  | none => (t, .respond (reply.failure (.ofCause .channelIdNotValid) none))
  | some slot =>
    let (closed, outcome, orders) := slot.channel.close keepListening
    let (t, out) := match outcome with
      | .released => t.free channel
      | .listening => (t.put { slot with channel := closed }, .none)
    (t, slot.orders orders ++ out ++ .respond (reply.success .ok none))

/-- Sends or stores bytes on a channel. -/
def sendData (t : ChannelTable) (reply : Reply) (data : Transfer) (immediate : Bool) :
    ChannelTable × Output :=
  match t.slots.get? data.channel with
  | none => (t, .respond (reply.failure (.ofCause .channelIdNotValid) none))
  | some slot =>
    if slot.phase ≠ .opened ∨ slot.pending.isSome then
      (t, .respond (reply.failure (.ofCause .channelClosed) none))
    else
      let (channel, outcome, orders) := slot.channel.send data.data immediate
      let slot := { slot with channel := channel }
      match outcome with
      | .buffered free => (t.put slot, .respond (reply.success .ok (some (.sendData free))))
      | .flushing free =>
        (t.put { slot with pending := some (.sending reply free) }, slot.orders orders)
      | .closed => (t.put slot, .respond (reply.failure (.ofCause .channelClosed) none))

/-- Fetches bytes from a channel. -/
def receiveData (t : ChannelTable) (reply : Reply) (data : Transfer) : ChannelTable × Output :=
  match t.slots.get? data.channel with
  | none => (t, .respond (reply.failure (.ofCause .channelIdNotValid) none))
  | some slot =>
    let (channel, outcome, orders) := slot.channel.receive data.length
    let answer := match outcome with
      | .data result bytes remaining =>
        reply.success result (some (.receiveData bytes remaining))
      | .closed => reply.failure (.ofCause .channelClosed) none
    (t.put { slot with channel := channel }, slot.orders orders ++ .respond answer)

/-- Tells the status of every channel. -/
def channelStatus (t : ChannelTable) (reply : Reply) : Output :=
  .respond (reply.success .ok (some (.channelStatus t.words)))

/-! What happens meanwhile -/

/-- The slot of a channel, unless another channel has its number by now. -/
def current? (t : ChannelTable) (channel : UInt8) (generation : Nat) : Option Slot :=
  (t.slots.get? channel).filter (·.channel.generation = generation)

/-- Does what the upshot of a report asks for. -/
def applyUpshot (t : ChannelTable) (slot : Slot) : Upshot → ChannelTable × Output
  | .opened status =>
    let answer : Output := match slot.pending with
      | some (.opening reply modified) =>
        .respond (reply.success (if modified then .modified else .ok)
          (some (.openChannel (some status) slot.channel.settings.bearer
            slot.channel.settings.bufferSize)))
      | _ => .none
    (t.put { slot with phase := .opened, pending := none }, answer)
  | .openFailed cause => t.giveUpOpen slot (.ofCause cause)
  | .sent =>
    let answer : Output := match slot.pending with
      | some (.sending reply free) => .respond (reply.success .ok (some (.sendData free)))
      | _ => .none
    (t.put { slot with pending := none }, answer)
  | .sendFailed =>
    let (t, out) := t.free slot.channel.id
    match slot.pending with
    | some (.sending reply _) =>
      (t, out ++ .respond (reply.failure (.ofCause .channelClosed) none))
    | _ => (t, out)
  | .dataAvailable status available => (t.put slot, .raise (.dataAvailable status available))
  | .statusChanged status =>
    if status.state = .established then (t.put slot, .raise (.channelStatus status))
    else
      let answer : Output := match slot.pending with
        | some (.sending reply _) => .respond (reply.failure (.ofCause .channelClosed) none)
        | _ => .none
      (t.put { slot with pending := none }, answer ++ .raise (.channelStatus status))
  | .ignored => (t.put slot, .none)

/-- Applies a report of a socket task. One from a channel that is gone changes nothing. -/
def report (t : ChannelTable) (channel : UInt8) (generation : Nat) (r : Report) :
    ChannelTable × Output :=
  match t.current? channel generation with
  | none => (t, .none)
  | some slot =>
    let (reported, told, orders) := slot.channel.report r
    let (t, out) := t.applyUpshot { slot with channel := reported } told
    (t, slot.orders orders ++ out)

/-- The socket task of a channel ends on its own. The channel only notices that orders no longer
reach it, until a report tells why. -/
def taskEnded (t : ChannelTable) (channel : UInt8) (generation : Nat) : ChannelTable :=
  match t.current? channel generation with
  | none => t
  | some slot => t.put { slot with channel := { slot.channel with ended := true } }

/-- Looks for a channel's bearer again, if the channel still waits for it. -/
def bearerRetry (t : ChannelTable) (host : Host) (channel : UInt8) (generation : Nat) :
    ChannelTable × Output :=
  match t.current? channel generation with
  | none => (t, .none)
  | some slot =>
    if slot.phase ≠ .awaitingBearer then (t, .none)
    else
      let (bearers, outcome, calls) := t.bearers.retry host channel
      let t := { t with bearers := bearers }
      match outcome with
      | none => (t, .call calls)
      | some outcome =>
        let (t, out) := t.afterBearer slot outcome
        (t, .call calls ++ out)

/-- Drops a channel whose bearer was lost. -/
def bearerLost (t : ChannelTable) (slot : Slot) : ChannelTable × Output :=
  let (t, out) := t.free slot.channel.id
  let out := slot.orders (slot.channel.close false).2.2 ++ out
  let status := (ChannelStatus.plain slot.channel.id .closed).dropped
  match slot.pending with
  | some (.opening reply _) =>
    (t, out ++ .respond (reply.failure .networkUnable (some slot.failureData)))
  | some (.sending reply _) =>
    (t, out ++ .respond (reply.failure (.ofCause .channelClosed) none) ++
      .raise (.channelStatus status))
  | none => (t, out ++ .raise (.channelStatus status))

/-- Does what a change of the connection means for one channel. -/
def bearerChange (t : ChannelTable) (channel : UInt8) (told : BearerChange) :
    ChannelTable × Output :=
  match t.slots.get? channel with
  | none => (t, .none)
  | some slot =>
    match told with
    | .ready => if slot.phase = .awaitingBearer then t.startSocket slot else (t, .none)
    | .failed refusal =>
      if slot.phase = .awaitingBearer then t.giveUpOpen slot refusal else (t, .none)
    | .lost => t.bearerLost slot

/-- Goes through what a change of the connection means for several channels, in order. -/
def bearerChanges (t : ChannelTable) (changes : List (UInt8 × BearerChange)) :
    ChannelTable × Output :=
  t.each (fun t (channel, told) => t.bearerChange channel told) changes

/-- Applies a change of the connection. -/
def connectionChanged (t : ChannelTable) (change : ConnectionChange) : ChannelTable × Output :=
  let (bearers, changes, calls) := t.bearers.connectionChanged change
  let (t, out) := { t with bearers := bearers }.bearerChanges changes
  (t, .call calls ++ out)

/-! The end of a session -/

/--
Ends the session for one channel. An open that is under way is given up, the answer to a send is
dropped, and an open channel goes on or not as its kind has it.
-/
def endSession (t : ChannelTable) (slot : Slot) : ChannelTable × Output :=
  if slot.phase ≠ .opened then
    let (t, out) := t.free slot.channel.id
    (t, slot.orders slot.channel.stopOrders ++ out)
  else
    let (channel, outcome, orders) := slot.channel.sessionEnd
    let (t, out) := match outcome with
      | .keep => (t.put { slot with channel := channel, pending := none }, .none)
      | .release => t.free slot.channel.id
    (t, slot.orders orders ++ out)

/-- Ends the session for several channels, in order. -/
def endSessions (t : ChannelTable) (slots : List Slot) : ChannelTable × Output :=
  t.each endSession slots

/-- Ends the session. Nothing is answered any more. -/
def sessionEnd (t : ChannelTable) : ChannelTable × Output :=
  let (bearers, _, calls) := t.bearers.dropUnready
  let (t, out) := { t with bearers := bearers }.endSessions t.slots.values
  (t, .call calls ++ out)

/-- Closes every channel after the card has gone. -/
def cardRemoved (t : ChannelTable) : ChannelTable × Output :=
  let (bearers, calls) := t.bearers.releaseAll
  let stops := t.slots.values.flatMap fun slot => (slot.orders slot.channel.stopOrders).orders
  ({ t with slots := ∅, bearers := bearers }, ⟨[], calls, stops⟩)

end ChannelTable

end CardChannels
