import CardChannels.Terminal.Basic

/-!
# Runs of the terminal

A run is any sequence of inputs from the start on, in any order and with any answers of the host at
each of them. Its history keeps every input with the reaction to it, the newest first; the events of
a run are numbered from 0 on.
-/
namespace CardChannels

/-- The bytes of a command from the card. -/
def Input.command? : Input → Option Bytes
  | .command raw => some raw
  | _ => none

/-- The answer that a message is. -/
def CardMessage.response? : CardMessage → Option TerminalResponse
  | .response r => some r
  | .event _ => none

/-- The answers among the messages for the card, in order. -/
def Reaction.responses (r : Reaction) : List TerminalResponse := r.messages.filterMap (·.response?)

/-- The inputs of a run with the reaction to each, the newest first. -/
abbrev TerminalHistory := List (Input × Reaction)

namespace TerminalHistory

/-- The command that the event of a number was. -/
def command? : TerminalHistory → Nat → Option Bytes
  | [], _ => none
  | (input, _) :: past, n => if n = past.length then input.command? else command? past n

/-- All answers, the oldest first, each with the number of the event in which it was given. -/
def answers : TerminalHistory → List (Nat × TerminalResponse)
  | [] => []
  | (_, reaction) :: past => answers past ++ reaction.responses.map fun r => (past.length, r)

theorem lt_length_of_command? {past : TerminalHistory} {n : Nat} {raw : Bytes}
    (h : past.command? n = some raw) : n < past.length := by
  induction past with
  | nil => cases h
  | cons event past ih =>
    unfold command? at h
    rw [List.length_cons]
    split at h
    · omega
    · exact Nat.lt_succ_of_lt (ih h)

end TerminalHistory

/-- A terminal that a run leads to, by the history of the run. -/
inductive TerminalRun (config : Config) : TerminalHistory → Terminal → Prop
  | start : TerminalRun config [] (.ofConfig config)
  | step {past : TerminalHistory} {t : Terminal} (run : TerminalRun config past t) (host : Host)
      (input : Input) :
      TerminalRun config ((input, (t.step host input).2) :: past) (t.step host input).1

end CardChannels
