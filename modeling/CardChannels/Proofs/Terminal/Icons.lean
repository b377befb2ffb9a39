import CardChannels.Proofs.Terminal.Silence

/-!
# Loaded icons go to the command that waits for them

A command that shows an icon waits for its images. The wait ends when the images are there, and also
when another command comes, the session ends or the card is removed; the images are then still
loaded, and come too late. The main statement says that images go to the command that they were
requested for if it still waits, and that otherwise nothing happens when they come.
-/
namespace CardChannels

/-- A command after its icon was loaded, or could not be. -/
def Command.withIcons (command : Command) : Option (List IconImage) → Command
  | some images => { command with images := images }
  | none => { command with iconFailed := true }

/-- Whether an input ends the wait for the images of a request. -/
def Input.endsWait (request : Nat) : Input → Bool
  | .command _ | .sessionEnd | .cardRemoved => true
  | .iconsLoaded number _ => number = request
  | .connection _ | .retryDue .. | .report .. | .taskEnded .. => false

/-- An event is a command with an icon, and the icon's images are requested under a number. -/
def Requests (event : Input × Reaction) (request : Nat) (command : Command) : Prop :=
  ∃ raw record, event.1 = .command raw ∧ Command.ofBytes raw = .ok command ∧
    command.icon = some record ∧ event.2.icons = [⟨request, [record]⟩]

namespace TerminalHistory

/-- A command waits for the images of a request: they were requested for it, and nothing has ended
the wait since. -/
def Awaits (request : Nat) (command : Command) : TerminalHistory → Prop
  | [] => False
  | event :: past =>
    Requests event request command ∨ event.1.endsWait request = false ∧ Awaits request command past

/-- All requests for images, the newest first. -/
def iconRequests (past : TerminalHistory) : List IconRequest := past.flatMap (·.2.icons)

end TerminalHistory

namespace Terminal

variable {t : Terminal} {host : Host} {input : Input} {request : Nat} {command : Command}

/-- The command that a terminal keeps, and the number of the request for it. -/
structure Waits (t : Terminal) (request : Nat) (command : Command) : Prop where
  number : t.iconRequest = request
  pending : t.reader.pending = some command

/-! Carrying out a command leaves alone what waits -/

@[simp]
theorem reader_execute (t : Terminal) (host : Host) (command : Command) :
    (t.execute host command).1.reader = t.reader := by
  unfold execute
  cases command.instruction <;> rfl

@[simp]
theorem iconRequest_execute (t : Terminal) (host : Host) (command : Command) :
    (t.execute host command).1.iconRequest = t.iconRequest := by
  unfold execute
  cases command.instruction <;> rfl

@[simp]
theorem icons_execute (t : Terminal) (host : Host) (command : Command) :
    (t.execute host command).2.icons = [] := by
  unfold execute
  cases command.instruction <;> rfl

/-! Steps -/

/-- A command from the card cannot be read, or is carried out at once, or has to wait for its icon.
In each case nothing else waits any longer. -/
theorem step_command_cases (t : Terminal) (host : Host) (raw : Bytes) :
    (∃ rejection, Command.ofBytes raw = .error rejection ∧
        t.step host (.command raw) = ({ t with reader := .idle },
          .respond ((Reply.mk (rejection.details.getD .unreadable) false).failure
            rejection.refusal none))) ∨
      (∃ command, Command.ofBytes raw = .ok command ∧ command.icon = none ∧
        t.step host (.command raw) = { t with reader := .idle }.execute host command) ∨
      ∃ command record, Command.ofBytes raw = .ok command ∧ command.icon = some record ∧
        t.step host (.command raw) =
          ({ t with reader := ⟨some command⟩, iconRequest := t.iconRequest + 1 },
            { Reaction.none with icons := [⟨t.iconRequest + 1, [record]⟩] }) := by
  rcases hread : Command.ofBytes raw with rejection | command
  · exact .inl ⟨rejection, rfl, by simp only [step, Terminal.command, CommandReader.read, hread]⟩
  · right
    rcases hicon : command.icon with _ | record
    · left
      exact ⟨command, rfl, hicon, by
        simp only [step, Terminal.command, CommandReader.read, hread, hicon]⟩
    · right
      exact ⟨command, record, rfl, hicon, by
        simp only [step, Terminal.command, CommandReader.read, hread, hicon]⟩

/-- Images that a command waits for have it carried out. -/
theorem Waits.step_iconsLoaded (h : t.Waits request command) (host : Host)
    (images : Option (List IconImage)) :
    t.step host (.iconsLoaded request images) =
      { t with reader := .idle }.execute host (command.withIcons images) := by
  obtain ⟨rfl, pending⟩ := h
  simp only [step, Terminal.iconsLoaded, CommandReader.iconsLoaded, pending, Option.map_some]
  cases images with
  | some images => rw [if_neg (by simp)]; rfl
  | none => rw [if_neg (by simp)]; rfl

/-- Images that no command waits for change nothing. -/
theorem step_iconsLoaded_of_not_waits (h : ∀ command, ¬t.Waits request command) (host : Host)
    (images : Option (List IconImage)) :
    t.step host (.iconsLoaded request images) = (t, .none) := by
  simp only [step, Terminal.iconsLoaded, CommandReader.iconsLoaded]
  split
  · rfl
  · next same =>
    rcases hpending : t.reader.pending with _ | command
    · obtain ⟨⟨pending⟩, table, require, armed, number⟩ := t
      cases hpending
      rfl
    · exact absurd ⟨(not_not.mp same).symm, hpending⟩ (h command)

/-- Images have the command that waits for them carried out, or change nothing. -/
theorem step_iconsLoaded_cases (t : Terminal) (host : Host) (request : Nat)
    (images : Option (List IconImage)) :
    (∃ command, t.Waits request command ∧ t.step host (.iconsLoaded request images) =
        { t with reader := .idle }.execute host (command.withIcons images)) ∨
      (∀ command, ¬t.Waits request command) ∧
        t.step host (.iconsLoaded request images) = (t, .none) := by
  by_cases h : ∃ command, t.Waits request command
  · obtain ⟨command, waits⟩ := h
    exact .inl ⟨command, waits, waits.step_iconsLoaded host images⟩
  · have none := not_exists.mp h
    exact .inr ⟨none, step_iconsLoaded_of_not_waits none host images⟩

/-- A step requests nothing and numbers nothing, or requests something under the next number. -/
theorem icons_step (t : Terminal) (host : Host) (input : Input) :
    ((t.step host input).2.icons = [] ∧ (t.step host input).1.iconRequest = t.iconRequest) ∨
      ∃ records, (t.step host input).2.icons = [⟨t.iconRequest + 1, records⟩] ∧
        (t.step host input).1.iconRequest = t.iconRequest + 1 := by
  cases input with
  | command raw =>
    rcases t.step_command_cases host raw with
      ⟨_, -, hstep⟩ | ⟨_, -, -, hstep⟩ | ⟨_, record, -, -, hstep⟩
    · exact .inl (by simp [hstep, Reaction.respond, Reaction.none])
    · exact .inl (by simp [hstep])
    · exact .inr ⟨[record], by simp [hstep]⟩
  | iconsLoaded number images =>
    rcases t.step_iconsLoaded_cases host number images with ⟨_, -, hstep⟩ | ⟨-, hstep⟩
    · exact .inl (by simp [hstep])
    · exact .inl (by simp [hstep, Reaction.none])
  | sessionEnd | cardRemoved | connection | retryDue | report | taskEnded => exact .inl ⟨rfl, rfl⟩

/-- After a command from the card just that command waits, if it shows an icon. -/
theorem waits_command (t : Terminal) (host : Host) (raw : Bytes) :
    (t.step host (.command raw)).1.Waits request command ↔
      Requests (.command raw, (t.step host (.command raw)).2) request command := by
  have read_eq : Requests (.command raw, (t.step host (.command raw)).2) request command →
      ∃ record, Command.ofBytes raw = .ok command ∧ command.icon = some record := by
    rintro ⟨_, record, ⟨⟩, hread, hicon, -⟩
    exact ⟨record, hread, hicon⟩
  rcases t.step_command_cases host raw with
    ⟨_, hread, hstep⟩ | ⟨_, hread, hicon, hstep⟩ | ⟨read, record, hread, hicon, hstep⟩
  · rw [hstep] at read_eq ⊢
    constructor
    · rintro ⟨-, ⟨⟩⟩
    · intro requested
      obtain ⟨_, hread', -⟩ := read_eq requested
      cases hread.symm.trans hread'
  · rw [hstep] at read_eq ⊢
    constructor
    · rintro ⟨-, pending⟩
      rw [reader_execute] at pending
      cases pending
    · intro requested
      obtain ⟨_, hread', hicon'⟩ := read_eq requested
      cases hread.symm.trans hread'
      cases hicon.symm.trans hicon'
  · rw [hstep]
    constructor
    · rintro ⟨rfl, ⟨⟩⟩
      exact ⟨raw, record, rfl, hread, hicon, rfl⟩
    · rintro ⟨_, _, ⟨⟩, hread', -, hrequest⟩
      cases hread.symm.trans hread'
      cases hrequest
      exact ⟨rfl, rfl⟩

/-- Once the images of a request have come nothing waits for that request, and what waits for
another one goes on waiting. -/
theorem waits_iconsLoaded (t : Terminal) (host : Host) (number : Nat)
    (images : Option (List IconImage)) :
    (t.step host (.iconsLoaded number images)).1.Waits request command ↔
      number ≠ request ∧ t.Waits request command := by
  rcases t.step_iconsLoaded_cases host number images with ⟨resumed, waits, hstep⟩ | ⟨none, hstep⟩
  · rw [hstep]
    constructor
    · rintro ⟨-, pending⟩
      rw [reader_execute] at pending
      cases pending
    · rintro ⟨other, still⟩
      exact absurd (waits.number.symm.trans still.number) other
  · rw [hstep]
    constructor
    · intro still
      refine ⟨?_, still⟩
      rintro rfl
      exact none command still
    · exact fun still => still.2

/-- What waits after a step has just been requested, or it waited before and the step did not end
that. -/
theorem waits_step (t : Terminal) (host : Host) (input : Input) :
    (t.step host input).1.Waits request command ↔
      Requests (input, (t.step host input).2) request command ∨
        input.endsWait request = false ∧ t.Waits request command := by
  -- Only a command from the card is ever requested for.
  have requested (h : input.command? = none) :
      ¬Requests (input, (t.step host input).2) request command := by
    rintro ⟨raw, -, rfl, -⟩
    cases h
  have idle {t' : Terminal} (h : t'.reader = .idle) : ¬t'.Waits request command := by
    rintro ⟨-, pending⟩
    rw [h] at pending
    cases pending
  cases input with
  | command raw => simp [waits_command, Input.endsWait]
  | sessionEnd => simpa [requested rfl, Input.endsWait] using idle rfl
  | cardRemoved => simpa [requested rfl, Input.endsWait] using idle rfl
  | iconsLoaded number images => simp [requested rfl, waits_iconsLoaded, Input.endsWait]
  | connection | retryDue | report | taskEnded =>
    simp only [requested rfl, Input.endsWait, false_or, true_and]
    exact ⟨fun h => ⟨h.number, h.pending⟩, fun h => ⟨h.number, h.pending⟩⟩

end Terminal

/-! Runs -/

variable {config : Config} {past : TerminalHistory} {t : Terminal} {request : Nat}
  {command : Command}

/-- The command that a terminal keeps is the one that waits by the history. -/
theorem TerminalRun.awaits_iff (run : TerminalRun config past t) :
    past.Awaits request command ↔ t.Waits request command := by
  induction run with
  | start =>
    constructor
    · rintro ⟨⟩
    · rintro ⟨-, ⟨⟩⟩
  | @step past t run host input ih => rw [TerminalHistory.Awaits, ih, Terminal.waits_step]

/-- Requests are numbered from 1 on. -/
theorem TerminalRun.numbers (run : TerminalRun config past t) :
    past.iconRequests.map (·.number) = (List.range' 1 t.iconRequest).reverse := by
  induction run with
  | start => rfl
  | @step past t run host input ih =>
    rw [TerminalHistory.iconRequests, List.flatMap_cons, List.map_append]
    rw [TerminalHistory.iconRequests] at ih
    rw [ih]
    rcases t.icons_step host input with ⟨icons, number⟩ | ⟨records, icons, number⟩
    · rw [icons, number]
      rfl
    · rw [icons, number, List.range'_concat, List.reverse_append]
      simp [Nat.add_comm]

/-- When images come in a run, the command that waits for them by the history is carried out, with
the images or as one whose icon failed, and when none waits nothing happens. Every request for
images has a number of its own. -/
theorem icons_resume_their_own_command (run : TerminalRun config past t) (host : Host)
    (request : Nat) (images : Option (List IconImage)) :
    (past.iconRequests.map (·.number)).Nodup ∧
      (∀ command, past.Awaits request command → t.step host (.iconsLoaded request images) =
        { t with reader := .idle }.execute host (command.withIcons images)) ∧
      ((∀ command, ¬past.Awaits request command) →
        t.step host (.iconsLoaded request images) = (t, .none)) := by
  refine ⟨?_, fun command awaits => ?_, fun nothing => ?_⟩
  · rw [run.numbers, List.nodup_reverse]
    exact List.nodup_range'
  · exact (run.awaits_iff.mp awaits).step_iconsLoaded host images
  · refine Terminal.step_iconsLoaded_of_not_waits (fun command waits => ?_) host images
    exact nothing command (run.awaits_iff.mpr waits)

/-- A command that opens a client inside the terminal and shows an icon. -/
def openWithIcon : Bytes := openCommand ++ [0x9E, 0x02, 0x00, 0x05]

/-- The command for the status of all channels, once it was read. -/
def statusRead : Command := ⟨⟨2, 0x44, 0x00, true⟩, none, some 5, [], false, .getChannelStatus⟩

/-- A command for the status of all channels comes while an open waits for its icon. The images for
the open come too late, and those for the status command cannot be loaded. -/
theorem icons_of_superseded_open :
    ∃ past t, TerminalRun .standard past t ∧
      past.map (·.1) = [.command statusWithIcon, .command openWithIcon] ∧
      past.iconRequests.map (·.number) = [2, 1] ∧ past.Awaits 2 statusRead ∧
      (let host := SteadyHost.connected.answers
       t.step host (.iconsLoaded 1 (some [])) = (t, .none) ∧
        t.step host (.iconsLoaded 2 none) =
          { t with reader := .idle }.execute host { statusRead with iconFailed := true }) := by
  let host := SteadyHost.connected.answers
  have run := (TerminalRun.start : TerminalRun .standard _ _)
    |>.step host (.command openWithIcon)
    |>.step host (.command statusWithIcon)
  have waits := run.awaits_iff.mpr
    (⟨by decide +kernel, by decide +kernel⟩ : Terminal.Waits _ 2 statusRead)
  have late := (icons_resume_their_own_command run host 1 (some [])).2.2
  have inTime := (icons_resume_their_own_command run host 2 none).2.1
  refine ⟨_, _, run, rfl, by decide +kernel, waits, late fun command awaits => ?_,
    inTime statusRead waits⟩
  have number := (run.awaits_iff.mp awaits).number
  exact absurd number (by decide +kernel)

end CardChannels
