import CardChannels.Proofs.Response.ReadBack
import CardChannels.Proofs.Terminal.Icons
import CardChannels.Proofs.Terminal.Timers

/-!
# The event list decides what the card is told

A card can list the events that it wants to hear of. The list that counts is the one that was set up
last since the card was put in, and a list is set up when its command is carried out, which may be
later than the command came. The main statement says that the card hears of just the events that are
listed there, or of all events if no list is required, each in its place between the answers.
-/
namespace CardChannels

/-- An input has a command carried out: the one that it brings if that shows no icon, or the one
that waits for the images that it brings. -/
inductive TerminalHistory.Executes (past : TerminalHistory) : Input → Command → Prop
  | atOnce {raw : Bytes} {command : Command} (read : Command.ofBytes raw = .ok command)
      (plain : command.icon = none) : Executes past (.command raw) command
  | resumed {request : Nat} {waiting : Command} (awaits : past.Awaits request waiting)
      (images : Option (List IconImage)) :
      Executes past (.iconsLoaded request images) (waiting.withIcons images)

namespace TerminalHistory

/-- An input sets up a list of events. -/
def SetsUp (past : TerminalHistory) (input : Input) (codes : Bytes) : Prop :=
  ∃ command, past.Executes input command ∧ command.instruction = .setUpEventList codes

/-- The codes of the events in the list that was set up last, if there was one since the card was
removed. -/
def Lists (codes : Bytes) : TerminalHistory → Prop
  | [] => False
  | (input, _) :: past =>
    SetsUp past input codes ∨
      (∀ other, ¬SetsUp past input other) ∧ input ≠ .cardRemoved ∧ Lists codes past

end TerminalHistory

/-- What an effect has the card told. -/
def Effect.message? : Effect → Option CardMessage
  | .respond r => some (.response r)
  | .raise e => some (.event e)
  | .retry .. => none

/-- Whether a message is an answer, or an event of those that pass. -/
def CardMessage.passes (told : EventDownload → Bool) : CardMessage → Bool
  | .response _ => true
  | .event e => told e

theorem ChannelEvent.mem_listed {event : ChannelEvent} {codes : Bytes} :
    event ∈ listed codes ↔ event.code ∈ codes := by
  have found {code : UInt8} : ofCode? code = some event ↔ code = event.code := by
    constructor
    · intro h
      have := List.find?_some h
      exact (of_decide_eq_true this).symm
    · rintro rfl
      cases event <;> rfl
  simp [listed, found]

namespace Terminal

variable {t : Terminal} {host : Host} {input : Input}

theorem messages_eq_filter (t : Terminal) (effects : List Effect) :
    t.messages effects =
      (effects.filterMap (·.message?)).filter (·.passes fun e => t.wants e.event) := by
  unfold messages
  induction effects with
  | nil => rfl
  | cons effect rest ih =>
    cases effect with
    | respond r => simpa [Effect.message?, CardMessage.passes] using ih
    | raise e =>
      cases h : t.wants e.event <;> simpa [Effect.message?, CardMessage.passes, h] using ih
    | retry channel generation delay => simpa [Effect.message?] using ih

/-- The messages of a step: those of what the table does, if it has something to do, and otherwise
no events. -/
structure Speaks (t : Terminal) (input : Option TableInput) (result : Terminal × Reaction) :
    Prop where
  table : ∀ i, input = some i → result.2.messages = t.messages (t.table.step i).2.effects
  alone : input = none → ∀ e, .event e ∉ result.2.messages

theorem speaks_settle (t : Terminal) (i : TableInput) :
    t.Speaks (some i) (t.settle (t.table.step i)) := by
  constructor
  · rintro _ ⟨⟩
    rfl
  · rintro ⟨⟩

theorem speaks_alone {result : Terminal × Reaction} (h : ∀ e, .event e ∉ result.2.messages) :
    t.Speaks none result := by
  constructor
  · rintro _ ⟨⟩
  · exact fun _ => h

theorem speaks_execute (t : Terminal) (host : Host) (command : Command) :
    t.Speaks (command.tableInput? host) (t.execute host command) := by
  unfold Command.tableInput? execute
  dsimp only
  cases command.instruction with
  | setUpEventList codes => exact speaks_alone (by simp [Reaction.respond])
  | openChannel settings => exact t.speaks_settle (.openChannel ..)
  | closeChannel channel => exact t.speaks_settle (.closeChannel ..)
  | receiveData data => exact t.speaks_settle (.receiveData ..)
  | sendData data => exact t.speaks_settle (.sendData ..)
  | getChannelStatus => exact t.speaks_settle (.channelStatus _)

theorem speaks_step (t : Terminal) (host : Host) (input : Input) :
    t.Speaks (t.tableInput? host input) (t.step host input) := by
  have silent {i : TableInput} {result : Terminal × Reaction} (quiet : result.2.messages = [])
      (h : (t.table.step i).2.effects = []) : t.Speaks (some i) result := by
    constructor
    · rintro _ ⟨⟩
      rw [quiet, h]
      rfl
    · rintro ⟨⟩
  cases input with
  | command raw =>
    rcases hread : t.reader.read raw with ⟨reader, reading⟩
    simp only [step, command, tableInput?, hread]
    cases reading with
    | ready command =>
      have said := speaks_execute { t with reader := reader } host command
      exact ⟨said.table, said.alone⟩
    | loadIcons => exact speaks_alone (by simp [Reaction.none])
    | rejected => exact speaks_alone (by simp [Reaction.respond])
  | iconsLoaded request images =>
    simp only [step, iconsLoaded, tableInput?]
    split
    · exact speaks_alone (by simp [Reaction.none])
    · rcases t.reader.iconsLoaded images with ⟨reader, _ | command⟩
      · exact speaks_alone (by simp [Reaction.none])
      · have said := speaks_execute { t with reader := reader } host command
        exact ⟨said.table, said.alone⟩
  | sessionEnd =>
    exact silent (messages_settle t.table.effects_sessionEnd) t.table.effects_sessionEnd
  | cardRemoved => exact silent (messages_settle rfl) rfl
  | taskEnded k g => exact silent rfl rfl
  | connection change => exact t.speaks_settle (.connectionChanged change)
  | retryDue k g => exact t.speaks_settle (.bearerRetry host k g)
  | report k g r => exact t.speaks_settle (.report k g r)

/-! The list that is kept -/

@[simp]
theorem requireEventList_execute (t : Terminal) (host : Host) (command : Command) :
    (t.execute host command).1.requireEventList = t.requireEventList := by
  unfold execute
  cases command.instruction <;> rfl

theorem armed_execute_list {command : Command} {codes : Bytes}
    (h : command.instruction = .setUpEventList codes) :
    (t.execute host command).1.armed = ChannelEvent.listed codes := by
  unfold execute
  rw [h]

theorem armed_execute_other {command : Command}
    (h : ∀ codes, command.instruction ≠ .setUpEventList codes) :
    (t.execute host command).1.armed = t.armed := by
  unfold execute
  cases hinstruction : command.instruction with
  | setUpEventList codes => exact absurd hinstruction (h codes)
  | openChannel | closeChannel | receiveData | sendData | getChannelStatus => rfl

theorem requireEventList_step (t : Terminal) (host : Host) (input : Input) :
    (t.step host input).1.requireEventList = t.requireEventList := by
  cases input with
  | command raw =>
    rcases t.step_command_cases host raw with
      ⟨_, -, hstep⟩ | ⟨_, -, -, hstep⟩ | ⟨_, _, -, -, hstep⟩
    · rw [hstep]
    · rw [hstep, requireEventList_execute]
    · rw [hstep]
  | iconsLoaded request images =>
    rcases t.step_iconsLoaded_cases host request images with ⟨_, -, hstep⟩ | ⟨-, hstep⟩
    · rw [hstep, requireEventList_execute]
    · rw [hstep]
  | sessionEnd | cardRemoved | connection | retryDue | report | taskEnded => rfl

end Terminal

/-! Runs -/

variable {config : Config} {past : TerminalHistory} {t : Terminal} {input : Input}
  {command : Command} {codes : Bytes}

/-- An input that has a command carried out does just that. -/
theorem TerminalRun.step_of_executes (run : TerminalRun config past t)
    (executes : past.Executes input command) (host : Host) :
    t.step host input = { t with reader := .idle }.execute host command := by
  cases executes with
  | @atOnce raw _ read plain =>
    rcases t.step_command_cases host raw with
      ⟨_, hread, -⟩ | ⟨_, hread, -, hstep⟩ | ⟨_, _, hread, hicon, -⟩
    · cases read.symm.trans hread
    · cases read.symm.trans hread
      exact hstep
    · cases read.symm.trans hread
      cases plain.symm.trans hicon
  | resumed awaits images => exact (run.awaits_iff.mp awaits).step_iconsLoaded host images

/-- An input that has no command carried out leaves the list alone, unless it takes the card
away. -/
theorem TerminalRun.armed_of_not_executes (run : TerminalRun config past t)
    (nothing : ∀ command, ¬past.Executes input command) (host : Host) :
    (t.step host input).1.armed = if input = .cardRemoved then [] else t.armed := by
  cases input with
  | command raw =>
    rw [if_neg (by simp)]
    rcases t.step_command_cases host raw with
      ⟨_, -, hstep⟩ | ⟨command, hread, hicon, -⟩ | ⟨_, _, -, -, hstep⟩
    · rw [hstep]
    · exact absurd (.atOnce hread hicon) (nothing command)
    · rw [hstep]
  | iconsLoaded request images =>
    rw [if_neg (by simp), Terminal.step_iconsLoaded_of_not_waits]
    exact fun waiting waits => nothing _ (.resumed (run.awaits_iff.mpr waits) images)
  | cardRemoved => rfl
  | sessionEnd | connection | retryDue | report | taskEnded =>
    rw [if_neg (by simp)]
    rfl

/-- An input has at most one command carried out. -/
theorem TerminalRun.executes_unique (run : TerminalRun config past t) {other : Command}
    (executes : past.Executes input command) (executes' : past.Executes input other) :
    command = other := by
  cases executes with
  | atOnce read plain =>
    cases executes' with
    | atOnce read' plain' => exact Except.ok.inj (read.symm.trans read')
  | @resumed request waiting awaits images =>
    cases executes' with
    | @resumed _ waiting' awaits' images =>
      have pending := (run.awaits_iff.mp awaits).pending
      cases pending.symm.trans (run.awaits_iff.mp awaits').pending
      rfl

/-- The list after a step is the one that the step sets up, or the one from before unless the card
was taken away. -/
theorem TerminalRun.armed_step (run : TerminalRun config past t) (host : Host) (input : Input) :
    (∃ codes, past.SetsUp input codes ∧ (∀ other, past.SetsUp input other → other = codes) ∧
        (t.step host input).1.armed = ChannelEvent.listed codes) ∨
      (∀ codes, ¬past.SetsUp input codes) ∧
        (t.step host input).1.armed = if input = .cardRemoved then [] else t.armed := by
  by_cases h : ∃ command, past.Executes input command
  · obtain ⟨command, executes⟩ := h
    have unique {codes : Bytes} (sets : past.SetsUp input codes) :
        command.instruction = .setUpEventList codes := by
      obtain ⟨other, executes', instruction⟩ := sets
      rwa [run.executes_unique executes executes']
    by_cases hlist : ∃ codes, command.instruction = .setUpEventList codes
    · obtain ⟨codes, instruction⟩ := hlist
      refine .inl ⟨codes, ⟨command, executes, instruction⟩, fun other sets => ?_, ?_⟩
      · cases instruction.symm.trans (unique sets)
        rfl
      · rw [run.step_of_executes executes host, Terminal.armed_execute_list instruction]
    · have noCard : input ≠ .cardRemoved := by
        rintro rfl
        cases executes
      refine .inr ⟨fun codes sets => hlist ⟨codes, unique sets⟩, ?_⟩
      rw [run.step_of_executes executes host, if_neg noCard,
        Terminal.armed_execute_other (not_exists.mp hlist)]
  · refine .inr ⟨?_, run.armed_of_not_executes (not_exists.mp h) host⟩
    rintro codes ⟨command, executes, -⟩
    exact h ⟨command, executes⟩

/-- The events that a terminal keeps as listed are those of the list that was set up last. -/
theorem TerminalRun.mem_armed_iff (run : TerminalRun config past t) (event : ChannelEvent) :
    event ∈ t.armed ↔ ∃ codes, past.Lists codes ∧ event.code ∈ codes := by
  induction run with
  | start => simp [Terminal.ofConfig, TerminalHistory.Lists]
  | @step past t run host input ih =>
    rcases run.armed_step host input with ⟨codes, sets, only, armed⟩ | ⟨none, armed⟩
    · rw [armed, ChannelEvent.mem_listed]
      constructor
      · exact fun listed => ⟨codes, .inl sets, listed⟩
      · rintro ⟨other, sets' | ⟨none, -⟩, listed⟩
        · rwa [only other sets'] at listed
        · exact absurd sets (none codes)
    · rw [armed]
      by_cases card : input = .cardRemoved
      · subst card
        simp [TerminalHistory.Lists, none]
      · simp [card, TerminalHistory.Lists, none, ih]

theorem TerminalRun.requireEventList (run : TerminalRun config past t) :
    t.requireEventList = config.requireEventList := by
  induction run with
  | start => rfl
  | @step past t run host input ih => rw [t.requireEventList_step, ih]

/-- In every run an event is told just when no list is required or the event is in the list that was
set up last since the card was removed. What the table says in a step comes in its order then, the
events that are told between the answers, and where the table has nothing to do no event is told.
Every event can be written. -/
theorem events_told_as_listed (run : TerminalRun config past t) (host : Host) (input : Input) :
    ∃ told : EventDownload → Bool,
      (∀ e, told e ↔ config.requireEventList = false ∨
        ∃ codes, past.Lists codes ∧ e.event.code ∈ codes) ∧
      (∀ i, t.tableInput? host input = some i → (t.step host input).2.messages =
        ((t.table.step i).2.effects.filterMap (·.message?)).filter (·.passes told)) ∧
      (t.tableInput? host input = none → ∀ e, .event e ∉ (t.step host input).2.messages) ∧
      ∀ e : EventDownload, ∃ download, e.encode = .ok download := by
  have said := t.speaks_step host input
  refine ⟨fun e => t.wants e.event, fun e => ?_, fun i h => ?_, said.alone,
    fun e => e.encode_eq_ok⟩
  · simp [Terminal.wants, run.requireEventList, run.mem_armed_iff]
  · rw [said.table i h, Terminal.messages_eq_filter]

/-- A command that lists the event of a changed channel status, and shows an icon. -/
def listWithIcon : Bytes :=
  [0x81, 0x03, 0x03, 0x05, 0x00, 0x82, 0x02, 0x81, 0x82, 0x99, 0x01, 0x0A, 0x9E, 0x02, 0x00, 0x05]

/-- The command with the list, once it was read. -/
def listRead : Command :=
  ⟨⟨3, 0x05, 0x00, true⟩, none, some 5, [], false, .setUpEventList [0x0A]⟩

/-- A list with the changes of channel status alone is set up when its icon turns out to be missing.
After that the loss of a link is told, and the arrival of data is not. -/
theorem loss_told_and_data_not :
    ∃ past t, TerminalRun .standard past t ∧
      past.map (·.1) = [.iconsLoaded 1 none, .command listWithIcon, .report 1 1 .ready,
        .command openCommand] ∧
      past.Lists [0x0A] ∧
      (t.table.step (.report 1 1 (.data [0xAB]))).2.effects =
        [.raise (.dataAvailable (.plain 1 .established) 1)] ∧
      ∀ host, (t.step host (.report 1 1 (.data [0xAB]))).2.messages = [] ∧
        (t.step host (.report 1 1 .readFailed)).2.messages =
          [.event (.channelStatus ⟨1, .closed, .linkDropped⟩)] := by
  obtain ⟨past, t, run, inputs, lists, armed, arrived, lost⟩ :
      ∃ past t, TerminalRun .standard past t ∧
        past.map (·.1) = [.iconsLoaded 1 none, .command listWithIcon, .report 1 1 .ready,
          .command openCommand] ∧
        past.Lists [0x0A] ∧ t.armed = [.channelStatus] ∧
        (t.table.step (.report 1 1 (.data [0xAB]))).2.effects =
          [.raise (.dataAvailable (.plain 1 .established) 1)] ∧
        (t.table.step (.report 1 1 .readFailed)).2.effects =
          [.raise (.channelStatus ⟨1, .closed, .linkDropped⟩)] := by
    let host := SteadyHost.connected.answers
    have waiting := (TerminalRun.start : TerminalRun .standard _ _)
      |>.step host (.command openCommand)
      |>.step host (.report 1 1 .ready)
      |>.step host (.command listWithIcon)
    have awaits := waiting.awaits_iff.mpr
      (⟨by decide +kernel, by decide +kernel⟩ : Terminal.Waits _ 1 listRead)
    have executes := TerminalHistory.Executes.resumed awaits none
    exact ⟨_, _, waiting.step host (.iconsLoaded 1 none), rfl, .inl ⟨_, executes, rfl⟩,
      by decide +kernel, by decide +kernel, by decide +kernel⟩
  refine ⟨past, t, run, inputs, lists, arrived, fun host => ⟨?_, ?_⟩⟩
  · obtain ⟨told, listed, said, -⟩ := events_told_as_listed run host (.report 1 1 (.data [0xAB]))
    have unlisted : told (.dataAvailable (.plain 1 .established) 1) = false := by
      rw [Bool.eq_false_iff, ne_eq, listed, ← run.mem_armed_iff, armed]
      decide
    rw [said _ rfl, arrived]
    simp [Effect.message?, CardMessage.passes, unlisted]
  · obtain ⟨told, listed, said, -⟩ := events_told_as_listed run host (.report 1 1 .readFailed)
    have passes := (listed (.channelStatus ⟨1, .closed, .linkDropped⟩)).mpr
      (.inr ⟨_, lists, by decide⟩)
    rw [said _ rfl, lost]
    simp [Effect.message?, CardMessage.passes, passes]

end CardChannels
