import CardChannels.Channel.Table
import CardChannels.Session.Host

/-!
# Runs of the channel table

A table carries out commands, hears from socket tasks and from the host, and is told when a
session is over. A run is any sequence of that from an empty table on in which the socket tasks
report only what such tasks can. Its history keeps every input with what was given out, the newest
first.
-/
namespace CardChannels

namespace Order

/-- Whether an order makes a task begin. -/
def starts : Order → Bool
  | .listen _ | .connect .. | .exchange .. => true
  | .write _ | .resume | .dropClient | .stop => false

/-- Whether an order makes a task serve one client after another. -/
def listens : Order → Bool
  | .listen _ => true
  | _ => false

/-- Whether an order sends bytes, which the task will report. -/
def writes : Order → Bool
  | .write _ => true
  | _ => false

end Order

/-- Whether a report tells that a write is over. -/
def Report.tellsSent : Report → Bool
  | .sent _ => true
  | _ => false

/-- What a channel table has to deal with. -/
inductive TableInput where
  | openChannel (host : Host) (reply : Reply) (settings : ChannelSettings)
  | closeChannel (reply : Reply) (channel : UInt8) (keepListening : Bool)
  | sendData (reply : Reply) (data : Transfer) (immediate : Bool)
  | receiveData (reply : Reply) (data : Transfer)
  | channelStatus (reply : Reply)
  | report (channel : UInt8) (generation : Nat) (r : Report)
  | bearerRetry (host : Host) (channel : UInt8) (generation : Nat)
  | connectionChanged (change : ConnectionChange)
  | taskEnded (channel : UInt8) (generation : Nat)
  | sessionEnd
  | cardRemoved

namespace TableInput

/-- What the task of a channel reports by an input. -/
def heard (k : UInt8) (g : Nat) : TableInput → Option Report
  | .report channel generation r => if channel = k ∧ generation = g then some r else none
  | _ => none

/-- Whether an input ends everything that waits for an answer. -/
def endsSession : TableInput → Bool
  | .sessionEnd | .cardRemoved => true
  | _ => false

end TableInput

/-- The orders for the task of one channel. -/
def Output.told (out : Output) (k : UInt8) (g : Nat) : List Order :=
  (out.orders.filter fun o => o.channel = k ∧ o.generation = g).map (·.order)

namespace ChannelTable

/-- The table after an input, and what is given out. -/
def step (t : ChannelTable) : TableInput → ChannelTable × Output
  | .openChannel host reply settings => t.openChannel host reply settings
  | .closeChannel reply channel keepListening => t.closeChannel reply channel keepListening
  | .sendData reply data immediate => t.sendData reply data immediate
  | .receiveData reply data => t.receiveData reply data
  | .channelStatus reply => (t, t.channelStatus reply)
  | .report channel generation r => t.report channel generation r
  | .bearerRetry host channel generation => t.bearerRetry host channel generation
  | .connectionChanged change => t.connectionChanged change
  | .taskEnded channel generation => (t.taskEnded channel generation, .none)
  | .sessionEnd => t.sessionEnd
  | .cardRemoved => t.cardRemoved

end ChannelTable

/-- The inputs of a run with what each gave out, the newest first. -/
abbrev TableHistory := List (TableInput × Output)

/-- Whether a socket task that was given some orders and has made some reports can make one more.
It reports first, and only once, whether it came up; after a failure it reports no more, and
neither does a client's after its partner has gone. -/
structure CanReport (told : List Order) (heard : List Report) (r : Report) : Prop where
  started : told.any Order.starts = true
  first : heard = [] ↔ r = .ready ∨ r = .openFailed
  up : .openFailed ∉ heard
  partner : .readFailed ∈ heard → told.any Order.listens = true

instance (told : List Order) (heard : List Report) (r : Report) :
    Decidable (CanReport told heard r) :=
  decidable_of_iff
    (told.any Order.starts = true ∧ (heard = [] ↔ r = .ready ∨ r = .openFailed) ∧
      .openFailed ∉ heard ∧ (.readFailed ∈ heard → told.any Order.listens = true))
    ⟨fun ⟨a, b, c, d⟩ => ⟨a, b, c, d⟩, fun ⟨a, b, c, d⟩ => ⟨a, b, c, d⟩⟩

namespace TableHistory

/-- The orders that a channel's task was given. -/
def told (past : TableHistory) (k : UInt8) (g : Nat) : List Order :=
  past.flatMap fun event => event.2.told k g

/-- What a channel's task has reported. -/
def heard (past : TableHistory) (k : UInt8) (g : Nat) : List Report :=
  past.filterMap fun event => event.1.heard k g

/-- Whether an input can come next: a report must be one that its task can make. -/
def Admits (past : TableHistory) : TableInput → Prop
  | .report channel generation r =>
    CanReport (past.told channel generation) (past.heard channel generation) r
  | _ => True

instance (past : TableHistory) : DecidablePred past.Admits
  | .report channel generation r => inferInstanceAs (Decidable
      (CanReport (past.told channel generation) (past.heard channel generation) r))
  | .openChannel .. | .closeChannel .. | .sendData .. | .receiveData .. | .channelStatus _
  | .bearerRetry .. | .connectionChanged _ | .taskEnded .. | .sessionEnd | .cardRemoved =>
    .isTrue trivial

@[simp] theorem told_cons (input : TableInput) (out : Output) (past : TableHistory) (k : UInt8)
    (g : Nat) : told ((input, out) :: past) k g = out.told k g ++ past.told k g := rfl

@[simp] theorem heard_cons (input : TableInput) (out : Output) (past : TableHistory) (k : UInt8)
    (g : Nat) :
    heard ((input, out) :: past) k g = (input.heard k g).toList ++ past.heard k g := by
  unfold heard
  cases h : input.heard k g <;> simp [h]

end TableHistory

/-- A table that a run leads to, by the history of the run. -/
inductive TableRun (config : Config) : TableHistory → ChannelTable → Prop
  | start : TableRun config [] (.ofConfig config)
  | step {past : TableHistory} {t : ChannelTable} (run : TableRun config past t)
      (input : TableInput) (admitted : past.Admits input) :
      TableRun config ((input, (t.step input).2) :: past) (t.step input).1

/-- The history and the table that inputs lead to, the newest input first. -/
def replay (config : Config) : List TableInput → TableHistory × ChannelTable
  | [] => ([], .ofConfig config)
  | input :: earlier =>
    let (past, t) := replay config earlier
    ((input, (t.step input).2) :: past, (t.step input).1)

/-- Whether every input can come after the earlier ones. -/
def Admissible (config : Config) : List TableInput → Prop
  | [] => True
  | input :: earlier => (replay config earlier).1.Admits input ∧ Admissible config earlier

def Admissible.decide (config : Config) :
    (inputs : List TableInput) → Decidable (Admissible config inputs)
  | [] => .isTrue trivial
  | _ :: earlier =>
    have := Admissible.decide config earlier
    inferInstanceAs (Decidable (_ ∧ Admissible config earlier))

instance (config : Config) : DecidablePred (Admissible config) := Admissible.decide config

theorem Admissible.run {config : Config} {inputs : List TableInput}
    (h : Admissible config inputs) :
    TableRun config (replay config inputs).1 (replay config inputs).2 := by
  induction inputs with
  | nil => exact .start
  | cons input earlier ih => exact .step (ih h.2) input h.1

/-- A client that exchanges datagrams inside the terminal. -/
def ChannelSettings.loopback : ChannelSettings where
  channel := none
  protocol := .udpClientLocal
  port := 9
  bufferSize := 256
  destination := none
  localAddress := none
  bearer := none
  accessName := none
  login := none
  password := none

/-- The way to answer a command that has no icon. -/
def Reply.toCommand (number : UInt8) (kind : CommandKind) (qualifier : UInt8) : Reply :=
  ⟨⟨number, kind.code, qualifier, true⟩, false⟩

/-- The way to answer a send of a number whose bytes are to be sent at once. -/
def Reply.toFlush (number : UInt8) : Reply :=
  .toCommand number .sendData Qualifier.sendImmediately

/-- A send of three bytes at once on the first channel. -/
def TableInput.flush (number : UInt8) : TableInput :=
  .sendData (.toFlush number) ⟨1, 3, [1, 2, 3]⟩ true

/-- The first channel is opened inside the terminal, and bytes are sent on it. -/
def flushOnLoopback : List TableInput :=
  [.flush 2, .report 1 1 .ready,
    .openChannel SteadyHost.connected.answers
      (.toCommand 1 .openChannel Qualifier.immediateLink) .loopback]

end CardChannels
