import CardChannels.CommandLine.Decode
import CardChannels.Session.Basic

/-!
# Replaying a script

A script has one entry on a line: a command in hexadecimal, the end of the session, the card's
removal, or a wait. Blank lines and lines that start with `#` are passed over. After each entry
the card's messages are collected until none has come for a while.
-/
namespace CardChannels

namespace Session

/-- Lets time pass up to a moment, dealing with each timer when it is due, at most `fuel` times. -/
def passFor (s : Session) (moment : Nat) : Nat → Session
  | 0 => s
  | fuel + 1 =>
    match nextDue s.timers moment with
    | none => { s with clock := max s.clock moment }
    | some (due, _) => ({ s with clock := max s.clock due.due }.run []).passFor moment fuel

/-- A bound on the timers that can be dealt with one after another. -/
def timerBound (s : Session) : Nat := s.timers.length + maxChannels * (s.retryLimit + 2)

/-- Lets time pass. -/
def pass (s : Session) (milliseconds : Nat) : Session :=
  s.passFor (s.clock + milliseconds) (s.timerBound + 1)

/--
Collects messages until none has come for `quiet` milliseconds: those that are there at `since`,
and then those of each timer that is due before the quiet has lasted.
-/
def collectFor (s : Session) (quiet since : Nat) :
    Nat → List (CardMessage × Bytes) → Session × List (CardMessage × Bytes)
  | 0, collected => (s, collected)
  | fuel + 1, collected =>
    let (s, given) := s.take
    let since := if given.messages.isEmpty then since else s.clock
    let collected := collected ++ given.messages
    match nextDue s.timers (since + quiet) with
    | none => ({ s with clock := max s.clock (since + quiet) }, collected)
    | some (due, _) =>
      ({ s with clock := max s.clock due.due }.run []).collectFor quiet since fuel collected

/-- Collects messages until none has come for a while. -/
def collect (s : Session) (quiet : Nat) : Session × List (CardMessage × Bytes) :=
  s.collectFor quiet s.clock (s.timerBound + 1) []

end Session

namespace CommandLine

/-- An entry of a script. -/
inductive Entry where
  | command (raw : Bytes)
  | sessionEnd
  | cardRemoved
  | wait (milliseconds : Nat)
deriving DecidableEq

/-- The lines of a text; a line's end may be written with a carriage return in front. -/
def lines (cs : List Char) : List (List Char) :=
  go [] cs
where
  /-- A finished line, which was gathered backwards. -/
  finish : List Char → List Char
    | '\r' :: line => line.reverse
    | line => line.reverse
  go (line : List Char) : List Char → List (List Char)
    | [] => if line.isEmpty then [] else [line.reverse]
    | c :: rest => if c = '\n' then finish line :: go [] rest else go (c :: line) rest

/-- The entry on a line without blanks around it, or what is wrong with it. -/
def Entry.read (number : Nat) (line : List Char) : Except (String × Option String) Entry :=
  let place := s!"line {number}: "
  match Blank.words line with
  | [word] =>
    if word = "session-end".toList then .ok .sessionEnd
    else if word = "card-removed".toList then .ok .cardRemoved
    else match Hex.read (String.ofList word) with
      | .ok raw => .ok (.command raw)
      | .error fault => .error (place ++ "not hex", some (hexFault fault))
  | [word, count] =>
    if word = "wait".toList then
      match Decimal.read (UInt64.size - 1) count with
      | .ok n => .ok (.wait n)
      | .error fault => .error (place ++ "bad wait", some fault.message)
    else unrecognised place
  | _ => unrecognised place
where
  unrecognised (place : String) : Except (String × Option String) Entry :=
    .error (place ++ "unrecognised entry " ++ Quoted.text (String.ofList line), none)

/-- Whether a line holds an entry. -/
def holdsEntry (line : List Char) : Bool := !line.isEmpty && line.head? ≠ some '#'

def messageLine : CardMessage × Bytes → String
  | (.response _, bytes) => "<- TR  " ++ Hex.upper bytes ++ "\n"
  | (.event _, bytes) => "<- ENV " ++ Hex.upper bytes ++ "\n"

/-- Carries an entry out, and gives what is shown of it. -/
def perform (s : Session) : Entry → Session × String
  | .command raw => (s.run [.command raw], "-> " ++ Hex.upper raw ++ "\n")
  | .sessionEnd => (s.run [.sessionEnd], "")
  | .cardRemoved => (s.run [.cardRemoved], "")
  | .wait milliseconds => (s.pass milliseconds, "")

/-- Replays the numbered lines of a script, up to the first that cannot be read. -/
def replayLines (s : Session) (quiet : Nat) : List (Nat × List Char) → Run
  | [] => ⟨"", none⟩
  | (number, line) :: rest =>
    let line := Blank.trim line
    if !holdsEntry line then replayLines s quiet rest
    else match Entry.read number line with
      | .error failure => ⟨"", some failure⟩
      | .ok entry =>
        let (s, shown) := perform s entry
        let (s, messages) := s.collect quiet
        let later := replayLines s quiet rest
        ⟨shown ++ String.join (messages.map messageLine) ++ later.output, later.failure⟩

/-- A host that is always connected and does not keep access points. -/
def replayHost : SteadyHost := { SteadyHost.connected with hidesInserts := true }

/-- Replays a script against a terminal without icons, configured by the environment. -/
def replay (script : String) (env : List (String × String)) (quiet : Nat) : Run :=
  let s := Session.start (.ofEnvironment env) replayHost .empty false
  replayLines s quiet ((lines script.toList).zipIdx 1 |>.map fun (line, i) => (i, line))

end CommandLine

end CardChannels
