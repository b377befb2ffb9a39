import CardChannels.Session.Host
import CardChannels.Session.Network
import CardChannels.Terminal.Basic

/-!
# Sessions

A terminal in its surroundings: a host, a network, a clock that moves only when told to, and a
store of icons. Whatever a step sets off is run until nothing is left to do, so a session goes
from one quiet state to the next.
-/
namespace CardChannels

/-- A look for a bearer and the time from which it is due. -/
structure DueTimer where
  due : Nat
  timer : RetryTimer
deriving DecidableEq

/-- What a session has given out since it was last asked. -/
structure Transcript where
  /-- Encoded messages for the card; one that cannot be encoded is left out. -/
  messages : List (CardMessage × Bytes)
  calls : List HostCall
  /-- Requests for icon images that wait to be answered. -/
  icons : List IconRequest

def Transcript.empty : Transcript := ⟨[], [], []⟩

structure Session where
  terminal : Terminal
  host : SteadyHost
  network : Network
  clock : Nat
  timers : List DueTimer
  /-- Icon requests wait to be answered; otherwise no icon can be loaded. -/
  holdsIcons : Bool
  /-- A bound on how often a bearer is looked for. -/
  retryLimit : Nat
  transcript : Transcript

namespace Session

def start (config : Config) (host : SteadyHost) (network : Network) (holdsIcons : Bool) :
    Session where
  terminal := .ofConfig config
  host := host
  network := network
  clock := 0
  timers := []
  holdsIcons := holdsIcons
  retryLimit := config.retryLimit
  transcript := .empty

/-- Carries out orders to socket tasks, and gives what those report. -/
def orders (n : Network) : List SocketOrder → Network × List Input
  | [] => (n, [])
  | o :: rest =>
    let (n, reports) := n.order o
    let (n, more) := orders n rest
    (n, reports.map (.report o.channel o.generation) ++ more)

/-- The encoded form of the messages that have one. -/
def encoded (messages : List CardMessage) : List (CardMessage × Bytes) :=
  messages.filterMap fun m =>
    match m.encode with
    | .ok bytes => some (m, bytes)
    | .error _ => none

/-- Carries out what a step gave out, and gives what that sets off. -/
def absorb (s : Session) (terminal : Terminal) (r : Reaction) : Session × List Input :=
  let (network, reports) := orders s.network r.orders
  let failed := if s.holdsIcons then [] else r.icons.map fun i => .iconsLoaded i.number none
  let held := if s.holdsIcons then r.icons else []
  let transcript : Transcript :=
    ⟨s.transcript.messages ++ encoded r.messages, s.transcript.calls ++ r.calls,
      s.transcript.icons ++ held⟩
  ({ s with
      terminal := terminal
      host := s.host.afterAll r.calls
      network := network
      timers := s.timers ++ r.timers.map fun t => ⟨s.clock + t.delay, t⟩
      transcript := transcript },
    failed ++ reports)

/-- The timer that is due first, if one is due by a time, and the others. -/
def nextDue (timers : List DueTimer) (time : Nat) : Option (DueTimer × List DueTimer) :=
  match timers.filter (·.due ≤ time) with
  | [] => none
  | first :: rest =>
    let next := rest.foldl (fun best t => if t.due < best.due then t else best) first
    some (next, timers.erase next)

/-- Deals with inputs and with timers that are due, at most `fuel` of them. -/
def runFor (s : Session) : Nat → List Input → Session
  | 0, _ => s
  | fuel + 1, input :: rest =>
    let (terminal, reaction) := s.terminal.step s.host.answers input
    let (s, more) := s.absorb terminal reaction
    s.runFor fuel (rest ++ more)
  | fuel + 1, [] =>
    match nextDue s.timers s.clock with
    | none => s
    | some (due, timers) =>
      { s with timers := timers }.runFor fuel
        [.retryDue due.timer.channel due.timer.generation]

/-- Deals with inputs until nothing is left to do. -/
def run (s : Session) (inputs : List Input) : Session :=
  s.runFor (inputs.length + 2 * s.timers.length + 4 * maxChannels * (s.retryLimit + 4)) inputs

/-- Moves the clock, and deals with the timers that are due by then. -/
def advance (s : Session) (milliseconds : Nat) : Session :=
  { s with clock := s.clock + milliseconds }.run []

/-- Takes what the session has given out. -/
def take (s : Session) : Session × Transcript :=
  ({ s with transcript := .empty }, s.transcript)

end Session

end CardChannels
