import CardChannels.Proofs.Command.Icons
import CardChannels.Proofs.Table.Verdicts
import CardChannels.Proofs.Terminal.Icons

/-!
# An icon only delays a command

A command that shows icons waits for the first of them, and then it is the command that its other
objects give, with the icon and its images or with the note that there are none. What comes of it
later is the same in either case, at once and with everything that happens afterwards, but for one
thing: where the command would be answered with a plain success, the answer tells that its icon was
not displayed.
-/
namespace CardChannels

/-- The answer to the same command when its icon could not be loaded. -/
def TerminalResponse.withoutIcon (r : TerminalResponse) : TerminalResponse :=
  if r.result = .ok then r.withResult .iconNotDisplayed else r

/-- The same answer under another number. -/
def TerminalResponse.numbered (r : TerminalResponse) (number : UInt8) : TerminalResponse :=
  { r with details := { r.details with number := number } }

/-- The same command under another number, which its answer has to repeat. -/
def Command.numbered (command : Command) (number : UInt8) : Command :=
  { command with details := { command.details with number := number } }

/-- The command with an icon, after the icon was loaded or could not be. -/
def Command.resumed (command : Command) (record : UInt8) (loaded : Option (List IconImage)) :
    Command :=
  ({ command with icon := some record } : Command).withIcons loaded

namespace Terminal

/-- The terminal when it carries a command out that it has read: no other command waits. -/
def ready (t : Terminal) : Terminal := { t with reader := .idle }

/-- What a terminal gives out for some inputs, with the host's answers at each of them. -/
def reactions (t : Terminal) : List (Host × Input) → List Reaction
  | [] => []
  | (host, input) :: later => (t.step host input).2 :: (t.step host input).1.reactions later

/-- What a terminal gives out when it carries a command out, and for some inputs afterwards. -/
def executed (t : Terminal) (host : Host) (command : Command) (later : List (Host × Input)) :
    List Reaction :=
  let (t, reaction) := t.execute host command
  reaction :: t.reactions later

end Terminal

/-- What a terminal gives out for a command and after it, by the command's number: with the icon or
without one, and when the icon could not be loaded. Nothing differs but a plain success of the
command. -/
inductive OnlyIconTold (command : Command) (plain failed : UInt8 → List Reaction) : Prop
  /-- The command is not answered: nothing that is given out repeats its number. -/
  | unanswered (reactions : List Reaction) (plain : ∀ number, plain number = reactions)
    (failed : ∀ number, failed number = reactions)
  /-- Nothing but one answer repeats its number. -/
  | answered (before after : List Reaction) (reaction : Reaction) (first last : List CardMessage)
    (answer : TerminalResponse) (details : answer.details = command.details)
    (plain : ∀ number, plain number = before ++
      { reaction with messages := first ++ .response (answer.numbered number) :: last } :: after)
    (failed : ∀ number, failed number = before ++
      { reaction with
        messages := first ++ .response (answer.withoutIcon.numbered number) :: last } :: after)

namespace Terminal

variable {t : Terminal} {k : UInt8} {results : Reply → Terminal × Reaction}

/-- The terminal with another way to give the answer that a channel keeps, if it keeps one. -/
def owing (t : Terminal) (k : UInt8) (reply : Reply) : Terminal :=
  { t with table := t.table.owing k reply }

@[simp] theorem reader_owing (t : Terminal) (k : UInt8) (reply : Reply) :
    (t.owing k reply).reader = t.reader := rfl

@[simp] theorem iconRequest_owing (t : Terminal) (k : UInt8) (reply : Reply) :
    (t.owing k reply).iconRequest = t.iconRequest := rfl

/-- What comes of a step of a terminal for each way in which the answer of one channel can be
given. -/
inductive Uniform (k : UInt8) : (Reply → Terminal × Reaction) → Prop
  | kept (t : Terminal) (keyed : t.table.Keyed) (reaction : Reaction) :
    Uniform k fun reply => (t.owing k reply, reaction)
  | settled (t : Terminal) (reaction : Reaction) : Uniform k fun _ => (t, reaction)
  | answered (t : Terminal) (reaction : Reaction) (first last : List CardMessage)
    (verdict : Verdict) :
    Uniform k fun reply =>
      (t, { reaction with messages := first ++ .response (reply.tell verdict) :: last })

/-- What a terminal makes of a table's step depends on the way to answer like that step. -/
theorem uniform_settle {step : Reply → ChannelTable × Output} (h : ChannelTable.Uniform k step)
    (t : Terminal) : Uniform k fun reply => t.settle (step reply) := by
  cases h with
  | kept table keyed out => exact .kept (t.settle (table, out)).1 keyed (t.settle (table, out)).2
  | settled table out => exact .settled (t.settle (table, out)).1 (t.settle (table, out)).2
  | answered table first verdict last =>
    have told := Uniform.answered (k := k) (t.settle (table, first ++ last)).1
      (t.settle (table, first ++ last)).2 (t.messages first.effects) (t.messages last.effects)
      verdict
    have same (reply : Reply) :
        t.settle (table, first ++ .respond (reply.tell verdict) ++ last) =
          ((t.settle (table, first ++ last)).1, { (t.settle (table, first ++ last)).2 with
            messages := t.messages first.effects ++
              .response (reply.tell verdict) :: t.messages last.effects }) := by
      simp [settle, messages, timers]
    simpa only [same] using told

theorem uniform_execute (keyed : t.table.Keyed) (k : UInt8) (host : Host) (command : Command) :
    Uniform k fun reply => (t.owing k reply).execute host command := by
  unfold execute
  rcases command.instruction with events | settings | channel | data | data
  all_goals dsimp only
  · exact .kept { t with armed := ChannelEvent.listed events } keyed _
  · exact uniform_settle (t.table.uniform_step keyed k (.openChannel host _ settings)) t
  · exact uniform_settle (t.table.uniform_step keyed k (.closeChannel _ channel _)) t
  · exact uniform_settle (t.table.uniform_step keyed k (.receiveData _ data)) t
  · exact uniform_settle (t.table.uniform_step keyed k (.sendData _ data _)) t
  · exact uniform_settle (t.table.uniform_step keyed k (.channelStatus _)) t

theorem uniform_step (keyed : t.table.Keyed) (k : UInt8) (host : Host) (input : Input) :
    Uniform k fun reply => (t.owing k reply).step host input := by
  have table (input : TableInput) := t.table.uniform_step keyed k input
  cases input with
  | command raw =>
    simp only [step, Terminal.command, reader_owing, iconRequest_owing]
    rcases hread : t.reader.read raw with ⟨reader, command | records | rejection⟩
    · exact uniform_execute (t := { t with reader := reader }) keyed k host command
    · exact .kept { t with reader := reader, iconRequest := t.iconRequest + 1 } keyed _
    · exact .kept { t with reader := reader } keyed _
  | sessionEnd => exact uniform_settle (table .sessionEnd) { t with reader := t.reader.cancel.1 }
  | cardRemoved =>
    exact uniform_settle (table .cardRemoved) { t with reader := t.reader.cancel.1, armed := [] }
  | connection change => exact uniform_settle (table (.connectionChanged change)) t
  | iconsLoaded request images =>
    by_cases awaited : ∃ command, t.Waits request command
    · obtain ⟨command, number, pending⟩ := awaited
      have resumed (reply : Reply) :=
        Waits.step_iconsLoaded (t := t.owing k reply) ⟨number, pending⟩ host images
      simp only [resumed]
      exact uniform_execute (t := { t with reader := .idle }) keyed k host _
    · have none (reply : Reply) (command : Command) :
          ¬(t.owing k reply).Waits request command :=
        fun waits => awaited ⟨command, waits.number, waits.pending⟩
      simp only [step_iconsLoaded_of_not_waits (none _)]
      exact .kept t keyed .none
  | retryDue j g => exact uniform_settle (table (.bearerRetry host j g)) t
  | report j g r => exact uniform_settle (table (.report j g r)) t
  | taskEnded j g => exact uniform_settle (table (.taskEnded j g)) t

/-! Runs -/

/-- What a terminal gives out for each way in which one answer can be given: the same for all of
them, or the same but for that answer. -/
inductive OneAnswer : (Reply → List Reaction) → Prop
  | none (reactions : List Reaction) : OneAnswer fun _ => reactions
  | one (before after : List Reaction) (reaction : Reaction) (first last : List CardMessage)
    (verdict : Verdict) : OneAnswer fun reply => before ++
      { reaction with messages := first ++ .response (reply.tell verdict) :: last } :: after

theorem OneAnswer.behind {given : Reply → List Reaction} (h : OneAnswer given)
    (reaction : Reaction) : OneAnswer fun reply => reaction :: given reply := by
  cases h with
  | none reactions => exact .none (reaction :: reactions)
  | one before after answering first last verdict =>
    exact .one (reaction :: before) after answering first last verdict

/-- Whatever happens after a step, it depends on the way to answer in the answer only. -/
theorem oneAnswer_of_uniform (h : Uniform k results) (later : List (Host × Input)) :
    OneAnswer fun reply => (results reply).2 :: (results reply).1.reactions later := by
  induction later generalizing results with
  | nil =>
    cases h with
    | kept t keyed reaction => exact .none [reaction]
    | settled t reaction => exact .none [reaction]
    | answered t reaction first last verdict => exact .one [] [] reaction first last verdict
  | cons event later ih =>
    cases h with
    | kept t keyed reaction => exact (ih (t.uniform_step keyed k event.1 event.2)).behind reaction
    | settled t reaction => exact .none _
    | answered t reaction first last verdict =>
      exact .one [] (t.reactions (event :: later)) reaction first last verdict

/-- A command that is carried out is answered in one way or another, or the way is kept. What else
comes of it depends on what it asks for and on its qualifier. -/
theorem uniform_of_execute (keyed : t.table.Keyed) (host : Host) (instruction : Instruction)
    (qualifier : UInt8) :
    ∃ k results, Uniform k results ∧ ∀ command : Command, command.instruction = instruction →
      command.details.qualifier = qualifier →
        t.execute host command = results ⟨command.details, command.iconFailed⟩ := by
  cases instruction with
  | setUpEventList events =>
    refine ⟨0, _, .answered { t with armed := ChannelEvent.listed events } .none [] []
      ⟨.ok, none, none⟩, fun command asks _ => ?_⟩
    simp only [execute, asks]
    rfl
  | openChannel settings =>
    obtain ⟨k, opens⟩ := t.table.uniform_of_openChannel keyed host settings
    refine ⟨k, _, uniform_settle opens t, fun command asks _ => ?_⟩
    simp only [execute, asks]
  | closeChannel channel =>
    have closes := t.table.uniform_of_closeChannel 0 channel
      (decide (qualifier &&& Qualifier.keepListening ≠ 0))
    refine ⟨0, _, uniform_settle closes t, fun command asks qualified => ?_⟩
    simp only [execute, asks, CommandDetails.qualified, qualified]
  | receiveData data =>
    have receives := t.table.uniform_of_receiveData 0 data
    refine ⟨0, _, uniform_settle receives t, fun command asks _ => ?_⟩
    simp only [execute, asks]
  | sendData data =>
    have sends := t.table.uniform_of_sendData keyed data
      (decide (qualifier &&& Qualifier.sendImmediately ≠ 0))
    refine ⟨data.channel, _, uniform_settle sends t, fun command asks qualified => ?_⟩
    simp only [execute, asks, CommandDetails.qualified, qualified]
  | getChannelStatus =>
    have shown := ChannelTable.Uniform.succeeds (k := 0) t.table .none .ok
      (some (.channelStatus t.table.words))
    refine ⟨0, _, uniform_settle shown t, fun command asks _ => ?_⟩
    simp only [execute, asks]
    rfl

/-- A command with a failed icon is told of as the same command without an icon, but for a plain
success. -/
theorem onlyIconTold (keyed : t.table.Keyed) (host : Host) (command failed : Command)
    (instruction : failed.instruction = command.instruction)
    (details : failed.details = command.details) (plain : command.iconFailed = false)
    (fails : failed.iconFailed = true) (later : List (Host × Input)) :
    OnlyIconTold command (fun number => t.executed host (command.numbered number) later)
      (fun number => t.executed host (failed.numbered number) later) := by
  obtain ⟨k, results, uniform, carried⟩ :=
    t.uniform_of_execute keyed host command.instruction command.details.qualifier
  let details' (number : UInt8) : CommandDetails := { command.details with number := number }
  let given (reply : Reply) : List Reaction :=
    (results reply).2 :: (results reply).1.reactions later
  have plainly (number : UInt8) :
      t.executed host (command.numbered number) later = given ⟨details' number, false⟩ := by
    rw [executed, carried (command.numbered number) rfl rfl]
    simp only [given, details', Command.numbered, plain]
  have failing (number : UInt8) :
      t.executed host (failed.numbered number) later = given ⟨details' number, true⟩ := by
    rw [executed, carried (failed.numbered number) instruction (by rw [← details]; rfl)]
    simp only [given, details', Command.numbered, fails, details]
  have once : OneAnswer given := oneAnswer_of_uniform uniform later
  generalize given = given at once plainly failing
  cases once with
  | none reactions => exact .unanswered reactions plainly failing
  | one before after reaction first last verdict =>
    let answer : TerminalResponse :=
      ⟨command.details, verdict.result, verdict.info, verdict.data⟩
    have told (number : UInt8) :
        Reply.tell ⟨details' number, false⟩ verdict = answer.numbered number := by
      simp [Reply.tell, Reply.success, answer, TerminalResponse.numbered, details']
    have toldFailed (number : UInt8) :
        Reply.tell ⟨details' number, true⟩ verdict = answer.withoutIcon.numbered number := by
      by_cases ok : verdict.result = .ok
      · simp [Reply.tell, Reply.success, answer, TerminalResponse.numbered, details',
          TerminalResponse.withoutIcon, TerminalResponse.withResult, ok]
      · simp [Reply.tell, Reply.success, answer, TerminalResponse.numbered, details',
          TerminalResponse.withoutIcon, ok]
    refine .answered before after reaction first last answer rfl (fun number => ?_)
      fun number => ?_
    · simp only [plainly, told]
    · simp only [failing, toldFailed]

end Terminal

/-- For every command that can be read and shows icons there is the command that its other objects
give. The reader asks for the icon that is named first, and whether or not that can be loaded, it
goes on with the same command, to which the icon is added; and it does so once, unless it is told to
give up. A terminal tells of the command with its icon as of the one without, and if the icon could
not be loaded, it tells that in place of a plain success, whenever the answer is given. -/
theorem icon_only_delays {raw : Bytes} {objects : List Tlv} (carries : Command.Carries raw objects)
    (shown : ∃ t ∈ objects, t.hasTag .iconId = true) (reader : CommandReader)
    (accepted : ∀ rejection, (reader.read raw).2 ≠ .rejected rejection) :
    ∃ (plain : Command) (qualifier record : UInt8) (rest : Bytes),
      (Tlv.find? objects .iconId).map Tlv.value = some (qualifier :: record :: rest) ∧
      (∃ raw', Command.Carries raw' (Tlv.withoutIcons objects)) ∧
      (∀ raw', Command.Carries raw' (Tlv.withoutIcons objects) →
        ∀ reader : CommandReader, reader.read raw' = (.idle, .ready plain)) ∧
      (reader.read raw).2 = .loadIcons [record] ∧
      (∀ loaded, (reader.read raw).1.iconsLoaded loaded =
        (.idle, some (plain.resumed record loaded))) ∧
      (∀ loaded again, ((reader.read raw).1.iconsLoaded loaded).1.iconsLoaded again =
        (.idle, none)) ∧
      (∀ loaded, (reader.read raw).1.cancel.1.iconsLoaded loaded = (.idle, none)) ∧
      ∀ {config past t}, TerminalRun config past t →
        ∀ (host : Host) (later : List (Host × Input)),
          (∀ images, t.ready.executed host (plain.resumed record (some images)) later =
            t.ready.executed host plain later) ∧
          OnlyIconTold plain
            (fun number => t.ready.executed host (plain.numbered number) later)
            (fun number =>
              t.ready.executed host ((plain.resumed record none).numbered number) later) := by
  rcases hread : Command.ofBytes raw with rejection | command
  · exact absurd (CommandReader.rejected_iff.mpr hread) (accepted rejection)
  · obtain ⟨hicon, images, iconFailed⟩ := Command.icon_of_ofBytes carries hread
    obtain ⟨qualifier, record, rest, icon, named⟩ := Command.icon_of_shown shown hicon
    have waits : reader.read raw = (⟨some command⟩, .loadIcons [record]) := by
      rw [CommandReader.read, hread]
      simp only [icon]
    have goesOn (loaded : Option (List IconImage)) : command.withIcons loaded =
        ({ command with icon := none } : Command).resumed record loaded := by
      obtain ⟨details, alphaId, icon', images', iconFailed', instruction⟩ := command
      cases icon
      rfl
    refine ⟨{ command with icon := none }, qualifier, record, rest, named, carries.withoutIcons,
      fun raw' bare reader => ?_, ?_, fun loaded => ?_, fun loaded again => ?_, fun loaded => ?_,
      fun run host later => ⟨fun images => rfl, ?_⟩⟩
    · rw [CommandReader.read, Command.ofBytes_withoutIcons carries hread bare]
    · rw [waits]
    · rw [waits, ← goesOn]
      cases loaded <;> rfl
    · rw [waits]
      rfl
    · rw [waits]
      rfl
    · exact Terminal.onlyIconTold (t := Terminal.ready _) run.ledger.1 host
        { command with icon := none } (Command.resumed { command with icon := none } record none)
        rfl rfl iconFailed rfl later

/-- The images of the objects of a command that opens a client inside the terminal. -/
def openImages : List Bytes :=
  [[0x81, 0x03, 0x01, 0x40, 0x01], [0x82, 0x02, 0x81, 0x82], [0xB9, 0x02, 0x01, 0x00],
   [0xBC, 0x03, 0x04, 0x00, 0x09]]

/-- The objects of that command. -/
def openObjects : List Tlv :=
  [.leaf 0x01 true [0x01, 0x40, 0x01], .leaf 0x02 true [0x81, 0x82], .leaf 0x39 true [0x01, 0x00],
   .leaf 0x3C true [0x04, 0x00, 0x09]]

/-- The same command between two icons. -/
def iconsAround : List Bytes := [0x9E, 0x02, 0x00, 0x07] :: openImages ++ [[0x9E, 0x02, 0x00, 0x05]]

/-- Between its icons the open waits for the first. It goes on as without them, and when its socket
is ready it is answered with a plain success, or with the note that its icon was not displayed. -/
theorem open_delayed_by_first_icon :
    ∃ (objects : List Tlv) (plain : Command),
      Command.Carries iconsAround.flatten objects ∧ (∃ t ∈ objects, t.hasTag .iconId = true) ∧
      (∀ rejection, (CommandReader.idle.read iconsAround.flatten).2 ≠ .rejected rejection) ∧
      CommandReader.idle.read openCommand = (.idle, .ready plain) ∧
      (CommandReader.idle.read iconsAround.flatten).2 = .loadIcons [7] ∧
      (∀ loaded, (CommandReader.idle.read iconsAround.flatten).1.iconsLoaded loaded =
        (.idle, some (plain.resumed 7 loaded))) ∧
      (let host := SteadyHost.connected.answers
       let t := (Terminal.ofConfig .standard).ready
       let later := [(host, Input.report 1 1 .ready)]
       OnlyIconTold plain (fun number => t.executed host (plain.numbered number) later)
          (fun number => t.executed host ((plain.resumed 7 none).numbered number) later) ∧
        (t.executed host plain later).map (fun r => r.responses.map (·.result)) = [[], [.ok]] ∧
        (t.executed host (plain.resumed 7 none) later).map (fun r => r.responses.map (·.result)) =
          [[], [.iconNotDisplayed]]) := by
  have imaged : List.Forall₂ Tlv.Image openImages openObjects :=
    .cons (Tlv.image_of_read 0 rfl) (.cons (Tlv.image_of_read 0 rfl)
      (.cons (Tlv.image_of_read 0 rfl) (.cons (Tlv.image_of_read 0 rfl) .nil)))
  have around : List.Forall₂ Tlv.Image iconsAround
      (.leaf 0x1E true [0x00, 0x07] :: openObjects ++ [.leaf 0x1E true [0x00, 0x05]]) :=
    .cons (Tlv.image_of_read 0 rfl) (List.rel_append imaged (.cons (Tlv.image_of_read 0 rfl) .nil))
  have carries := Command.carries_of_images around (by decide)
  have bare : Command.Carries openCommand openObjects :=
    Command.carries_of_images imaged (by decide)
  have shown : ∃ t ∈ (.leaf 0x1E true [0x00, 0x07] :: openObjects ++
      [.leaf 0x1E true [0x00, 0x05]] : List Tlv), t.hasTag .iconId = true :=
    ⟨.leaf 0x1E true [0x00, 0x07], List.mem_cons_self .., rfl⟩
  have asks : (CommandReader.idle.read iconsAround.flatten).2 = .loadIcons [7] := by decide +kernel
  have accepted (rejection : Command.Rejection) :
      (CommandReader.idle.read iconsAround.flatten).2 ≠ .rejected rejection := by
    rw [asks]
    exact Reading.noConfusion
  have opens : CommandReader.idle.read openCommand = (.idle, .ready ⟨⟨1, 0x40, 0x01, true⟩, none,
      none, [], false, .openChannel
        ⟨none, .udpClientLocal, 9, 0x0100, none, none, none, none, none, none⟩⟩) := by
    decide +kernel
  obtain ⟨plain, _, record, _, -, -, reads, waits, goesOn, -, -, tells⟩ :=
    icon_only_delays carries shown .idle accepted
  have read : CommandReader.idle.read openCommand = (.idle, .ready plain) := reads _ bare .idle
  obtain rfl : record = 7 := by simpa using waits.symm.trans asks
  have told := (tells (TerminalRun.start : TerminalRun .standard _ _) SteadyHost.connected.answers
    [(SteadyHost.connected.answers, .report 1 1 .ready)]).2
  refine ⟨_, plain, carries, shown, accepted, read, asks, goesOn, told, ?_, ?_⟩
  all_goals
    cases opens.symm.trans read
    decide +kernel

end CardChannels
