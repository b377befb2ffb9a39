import CardChannels.Proofs.Table.Waits

/-!
# No open gets stuck

A terminal is surrounded by socket tasks and by timers. A run is orderly when tasks report only what
such tasks can and a delay is over only once for each time that it was set. The main statement says
that then every open that waits for its bearer will be woken: by a change of the connection, or by
exactly one timer that carries the number and the generation of its channel. Every open that waits
for its socket has a socket task. Timers of channels that are gone may still run, and do nothing.
-/
namespace CardChannels

/-! Orderly runs -/

namespace Input

/-- What the task of a channel reports by an input. -/
def heard (k : UInt8) (g : Nat) : Input → Option Report
  | .report channel generation r => if channel = k ∧ generation = g then some r else none
  | _ => none

/-- Whether an input is the end of a delay of a channel. -/
def isDue (k : UInt8) (g : Nat) : Input → Bool
  | .retryDue channel generation => channel = k ∧ generation = g
  | _ => false

end Input

/-- Whether a timer is one of a channel. -/
def RetryTimer.isOf (k : UInt8) (g : Nat) (timer : RetryTimer) : Bool :=
  timer.channel = k ∧ timer.generation = g

/-- The orders for the task of one channel. -/
def Reaction.told (reaction : Reaction) (k : UInt8) (g : Nat) : List Order :=
  (reaction.orders.filter fun o => o.channel = k ∧ o.generation = g).map (·.order)

namespace TerminalHistory

/-- The orders that a channel's task was given. -/
def told (past : TerminalHistory) (k : UInt8) (g : Nat) : List Order :=
  past.flatMap fun event => event.2.told k g

/-- What a channel's task has reported. -/
def heard (past : TerminalHistory) (k : UInt8) (g : Nat) : List Report :=
  past.filterMap fun event => event.1.heard k g

/-- How many timers of a channel were set. -/
def timersSet (past : TerminalHistory) (k : UInt8) (g : Nat) : Nat :=
  (past.flatMap (·.2.timers)).countP (·.isOf k g)

/-- How many timers of a channel have come due. -/
def timersDue (past : TerminalHistory) (k : UInt8) (g : Nat) : Nat :=
  past.countP (·.1.isDue k g)

/-- How many timers of a channel are still running. -/
def outstanding (past : TerminalHistory) (k : UInt8) (g : Nat) : Nat :=
  past.timersSet k g - past.timersDue k g

/-- Whether an input can come next: a report must be one that its task can make, and a delay must
have been set and not be over yet. -/
def Admits (past : TerminalHistory) : Input → Prop
  | .report channel generation r =>
    CanReport (past.told channel generation) (past.heard channel generation) r
  | .retryDue channel generation => 0 < past.outstanding channel generation
  | _ => True

instance (past : TerminalHistory) : DecidablePred past.Admits
  | .report channel generation r => inferInstanceAs (Decidable
      (CanReport (past.told channel generation) (past.heard channel generation) r))
  | .retryDue channel generation =>
    inferInstanceAs (Decidable (0 < past.outstanding channel generation))
  | .command _ | .sessionEnd | .cardRemoved | .connection _ | .iconsLoaded .. | .taskEnded .. =>
    .isTrue trivial

end TerminalHistory

/-- A terminal that an orderly run leads to, by the history of the run. -/
inductive OrderlyRun (config : Config) : TerminalHistory → Terminal → Prop
  | start : OrderlyRun config [] (.ofConfig config)
  | step {past : TerminalHistory} {t : Terminal} (run : OrderlyRun config past t) (host : Host)
      (input : Input) (admitted : past.Admits input) :
      OrderlyRun config ((input, (t.step host input).2) :: past) (t.step host input).1

/-! What the table has to deal with -/

/-- What a command has the table deal with, if it is about channels. -/
def Command.tableInput? (command : Command) (host : Host) : Option TableInput :=
  let reply : Reply := ⟨command.details, command.iconFailed⟩
  match command.instruction with
  | .setUpEventList _ => none
  | .openChannel settings => some (.openChannel host reply settings)
  | .closeChannel channel =>
    some (.closeChannel reply channel (command.details.qualified Qualifier.keepListening))
  | .receiveData data => some (.receiveData reply data)
  | .sendData data =>
    some (.sendData reply data (command.details.qualified Qualifier.sendImmediately))
  | .getChannelStatus => some (.channelStatus reply)

/-- What an input of the terminal has its table deal with, if anything. -/
def Terminal.tableInput? (t : Terminal) (host : Host) : Input → Option TableInput
  | .command raw =>
    match (t.reader.read raw).2 with
    | .ready command => command.tableInput? host
    | .loadIcons _ | .rejected _ => none
  | .sessionEnd => some .sessionEnd
  | .cardRemoved => some .cardRemoved
  | .connection change => some (.connectionChanged change)
  | .iconsLoaded request images =>
    if request ≠ t.iconRequest then none
    else (t.reader.iconsLoaded images).2.bind (·.tableInput? host)
  | .retryDue channel generation => some (.bearerRetry host channel generation)
  | .report channel generation r => some (.report channel generation r)
  | .taskEnded channel generation => some (.taskEnded channel generation)

/-- A table after it has dealt with something, if there was anything. -/
def ChannelTable.stepIf (t : ChannelTable) : Option TableInput → ChannelTable × Output
  | none => (t, .none)
  | some input => t.step input

namespace Terminal

variable {t : Terminal} {host : Host} {input : Input}

/-- The result of a step in which the table deals with something, if anything, and nothing else sets
timers or gives orders. -/
structure Passes (t : Terminal) (input : Option TableInput) (result : Terminal × Reaction) :
    Prop where
  table : result.1.table = (t.table.stepIf input).1
  timers : result.2.timers = timers (t.table.stepIf input).2.effects
  orders : result.2.orders = (t.table.stepIf input).2.orders

theorem passes_execute (t : Terminal) (host : Host) (command : Command) :
    t.Passes (command.tableInput? host) (t.execute host command) := by
  unfold Command.tableInput? execute
  dsimp only
  cases command.instruction with
  | setUpEventList | openChannel | closeChannel | receiveData | sendData | getChannelStatus =>
    exact ⟨rfl, rfl, rfl⟩

theorem passes_step (t : Terminal) (host : Host) (input : Input) :
    t.Passes (t.tableInput? host input) (t.step host input) := by
  cases input with
  | command raw =>
    rcases hread : t.reader.read raw with ⟨reader, reading⟩
    simp only [step, command, tableInput?, hread]
    cases reading with
    | ready command =>
      have executed := passes_execute { t with reader := reader } host command
      exact ⟨executed.table, executed.timers, executed.orders⟩
    | loadIcons | rejected => exact ⟨rfl, rfl, rfl⟩
  | iconsLoaded request images =>
    simp only [step, iconsLoaded, tableInput?]
    split
    · exact ⟨rfl, rfl, rfl⟩
    · rcases t.reader.iconsLoaded images with ⟨reader, _ | command⟩
      · exact ⟨rfl, rfl, rfl⟩
      · have executed := passes_execute { t with reader := reader } host command
        exact ⟨executed.table, executed.timers, executed.orders⟩
  | sessionEnd | cardRemoved | connection | retryDue | report | taskEnded => exact ⟨rfl, rfl, rfl⟩

/-- A command brings no report and ends no delay. -/
theorem quiet_tableInput? {command : Command} {i : TableInput}
    (h : command.tableInput? host = some i) (k : UInt8) (g : Nat) :
    i.heard k g = none ∧ i.isLook k g = false := by
  unfold Command.tableInput? at h
  dsimp only at h
  split at h <;> cases h <;> exact ⟨rfl, rfl⟩

/-- What the table has to deal with reports what the input reports, and is a look that comes due
when the input ends a delay. -/
theorem heard_tableInput? (t : Terminal) (host : Host) (input : Input) (k : UInt8) (g : Nat) :
    (t.tableInput? host input).bind (·.heard k g) = input.heard k g ∧
      (t.tableInput? host input).any (·.isLook k g) = input.isDue k g := by
  have commanded (command : Command) :
      (command.tableInput? host).bind (·.heard k g) = none ∧
        (command.tableInput? host).any (·.isLook k g) = false := by
    rcases h : command.tableInput? host with _ | i
    · exact ⟨rfl, rfl⟩
    · exact quiet_tableInput? h k g
  cases input with
  | command raw =>
    simp only [tableInput?]
    cases (t.reader.read raw).2 with
    | ready command => exact commanded command
    | loadIcons | rejected => exact ⟨rfl, rfl⟩
  | iconsLoaded request images =>
    simp only [tableInput?]
    split
    · exact ⟨rfl, rfl⟩
    · rcases (t.reader.iconsLoaded images).2 with _ | command
      · exact ⟨rfl, rfl⟩
      · exact commanded command
  | sessionEnd | cardRemoved | connection | retryDue | report | taskEnded => exact ⟨rfl, rfl⟩

/-- The timers that are set are the looks that were put off. -/
theorem countP_timers (effects : List Effect) (k : UInt8) (g : Nat) :
    (timers effects).countP (·.isOf k g) = effects.countP (·.putsOff k g) := by
  induction effects with
  | nil => rfl
  | cons effect rest ih =>
    cases effect with
    | respond r => simpa [timers, Effect.putsOff] using ih
    | raise e => simpa [timers, Effect.putsOff] using ih
    | retry channel generation delay =>
      simpa [timers, Effect.putsOff, RetryTimer.isOf, List.countP_cons] using ih

end Terminal

/-! Orderly runs of the terminal and of its table -/

namespace TerminalHistory

variable {past : TerminalHistory} {tablePast : TableHistory} {config : Config} {t : Terminal}
  {host : Host} {input : Input}

/-- A history of the table in which the socket tasks are told and report the same. -/
structure Mirrors (past : TerminalHistory) (tablePast : TableHistory) : Prop where
  told : ∀ k g, tablePast.told k g = past.told k g
  heard : ∀ k g, tablePast.heard k g = past.heard k g

theorem Mirrors.admits (mirrors : past.Mirrors tablePast) (admitted : past.Admits input)
    {i : TableInput} (h : t.tableInput? host input = some i) : tablePast.Admits i := by
  cases i with
  | report k g r =>
    have reported := (t.heard_tableInput? host input k g).1
    rw [h, Option.bind_some] at reported
    cases input with
    | report channel generation r' =>
      cases h
      change CanReport (tablePast.told k g) (tablePast.heard k g) r
      rw [mirrors.told, mirrors.heard]
      exact admitted
    | _ => simp [TableInput.heard, Input.heard] at reported
  | _ => trivial

/-- The table goes on when it has something to deal with, and in either case hears and tells what
the terminal hears and tells. -/
theorem Mirrors.step (mirrors : past.Mirrors tablePast) (admitted : past.Admits input)
    (run : TableRun config tablePast t.table) (host : Host) :
    ∃ tablePast', TableRun config tablePast' (t.step host input).1.table ∧
      Mirrors ((input, (t.step host input).2) :: past) tablePast' := by
  have passes := t.passes_step host input
  have reported (k : UInt8) (g : Nat) := (t.heard_tableInput? host input k g).1
  have toldStep (k : UInt8) (g : Nat) :
      TerminalHistory.told ((input, (t.step host input).2) :: past) k g =
        (t.table.stepIf (t.tableInput? host input)).2.told k g ++ past.told k g := by
    simp only [TerminalHistory.told, List.flatMap_cons, Reaction.told, passes.orders, Output.told]
  have heardStep (k : UInt8) (g : Nat) :
      TerminalHistory.heard ((input, (t.step host input).2) :: past) k g =
        (input.heard k g).toList ++ past.heard k g := by
    unfold TerminalHistory.heard
    cases h : input.heard k g <;> simp [h]
  rcases h : t.tableInput? host input with _ | i
  · rw [h] at passes toldStep reported
    refine ⟨tablePast, passes.table ▸ run, fun k g => ?_, fun k g => ?_⟩
    · rw [toldStep, mirrors.told]
      rfl
    · rw [heardStep, ← reported, mirrors.heard]
      rfl
  · rw [h] at passes toldStep reported
    refine ⟨(i, (t.table.step i).2) :: tablePast, ?_, fun k g => ?_, fun k g => ?_⟩
    · rw [passes.table]
      exact .step run i (mirrors.admits admitted h)
    · rw [toldStep, TableHistory.told_cons, mirrors.told]
      rfl
    · rw [heardStep, ← reported, TableHistory.heard_cons, mirrors.heard]
      rfl

/-! The account of timers -/

theorem timersSet_cons (input : Input) (reaction : Reaction) (past : TerminalHistory) (k : UInt8)
    (g : Nat) : timersSet ((input, reaction) :: past) k g =
      reaction.timers.countP (·.isOf k g) + past.timersSet k g := by
  simp [timersSet]

theorem timersDue_cons (input : Input) (reaction : Reaction) (past : TerminalHistory) (k : UInt8)
    (g : Nat) : timersDue ((input, reaction) :: past) k g =
      past.timersDue k g + (input.isDue k g).toNat := by
  cases h : input.isDue k g <;> simp [timersDue, h]

/-- A delay that is over was set, and its timer was still running. -/
theorem Admits.running {k : UInt8} {g : Nat} (admitted : past.Admits input)
    (due : input.isDue k g = true) : past.timersDue k g < past.timersSet k g := by
  cases input with
  | retryDue channel generation =>
    obtain ⟨rfl, rfl⟩ : channel = k ∧ generation = g := by simpa [Input.isDue] using due
    have running : 0 < past.timersSet channel generation - past.timersDue channel generation :=
      admitted
    omega
  | _ => cases due

/-- A history whose timers fit a table: a channel that is there has one timer running when its
request waits to look again and none otherwise, and a channel that is still to come has had none. -/
structure Timed (past : TerminalHistory) (t : ChannelTable) : Prop where
  due : ∀ k g, past.timersDue k g ≤ past.timersSet k g
  fresh : ∀ k g, t.generation < g → past.timersSet k g = 0
  current : ∀ k s, t.slots.get? k = some s → past.timersSet k s.channel.generation =
    past.timersDue k s.channel.generation + (t.bearers.isLooking k).toNat

/-- The timers go on fitting when the table deals with something. -/
theorem Timed.stepTable {tablePast : TableHistory} {t : ChannelTable} (timed : past.Timed t)
    (tracks : tablePast.Tracks config t) {i : TableInput} (admitted' : tablePast.Admits i)
    (admitted : past.Admits input) (looks : ∀ k g, i.isLook k g = input.isDue k g)
    {reaction : Reaction}
    (putOff : ∀ k g, reaction.timers.countP (·.isOf k g) = (t.step i).2.putOff k g) :
    Timed ((input, reaction) :: past) (t.step i).1 := by
  have newer := (tracks.fits.stepped admitted').generation
  constructor
  · intro k g
    rw [timersDue_cons, timersSet_cons]
    have hle := timed.due k g
    cases hdue : input.isDue k g with
    | false =>
      rw [Bool.toNat_false]
      omega
    | true =>
      have running := admitted.running hdue
      rw [Bool.toNat_true]
      omega
  · intro k g hg
    rw [timersSet_cons, putOff, tracks.putOff_of_unmade admitted' hg,
      timed.fresh k g (Nat.lt_of_le_of_lt newer hg)]
  · intro k s' hs'
    rw [timersSet_cons, timersDue_cons, putOff]
    rcases hs : t.slots.get? k with _ | s
    · obtain ⟨new, account⟩ := tracks.accounts_new admitted' hs hs'
      have none := timed.fresh k _ new
      have hle := timed.due k s'.channel.generation
      have notDue : input.isDue k s'.channel.generation = false := by
        by_contra hdue
        have running := admitted.running (by simpa using hdue)
        omega
      rw [account, notDue, Bool.toNat_false]
      omega
    · have current := timed.current k s hs
      have account := tracks.accounts admitted' hs hs' fun hlook => by
        have running := admitted.running ((looks k _).symm.trans hlook)
        by_contra looking
        rw [Bool.not_eq_true] at looking
        rw [looking, Bool.toNat_false] at current
        omega
      rw [ChannelTable.Accounts, looks] at account
      rw [(tracks.kept admitted' hs hs').1]
      omega

theorem Timed.step (timed : past.Timed t.table) (mirrors : past.Mirrors tablePast)
    (admitted : past.Admits input) (run : TableRun config tablePast t.table) :
    Timed ((input, (t.step host input).2) :: past) (t.step host input).1.table := by
  have passes := t.passes_step host input
  have looks (k : UInt8) (g : Nat) := (t.heard_tableInput? host input k g).2
  rcases h : t.tableInput? host input with _ | i
  · rw [h] at passes looks
    rw [passes.table]
    have same (k : UInt8) (g : Nat) :
        timersSet ((input, (t.step host input).2) :: past) k g = past.timersSet k g ∧
          timersDue ((input, (t.step host input).2) :: past) k g = past.timersDue k g := by
      rw [timersSet_cons, timersDue_cons, passes.timers, ← looks]
      exact ⟨Nat.zero_add _, Nat.add_zero _⟩
    refine ⟨fun k g => ?_, fun k g hg => ?_, fun k s hs => ?_⟩
    · rw [(same k g).1, (same k g).2]
      exact timed.due k g
    · rw [(same k g).1]
      exact timed.fresh k g hg
    · rw [(same k _).1, (same k _).2]
      exact timed.current k s hs
  · rw [h] at passes looks
    rw [passes.table]
    refine timed.stepTable run.tracks (mirrors.admits admitted h) admitted
      (fun k g => looks k g) fun k g => ?_
    rw [passes.timers, Terminal.countP_timers]
    rfl

end TerminalHistory

variable {config : Config} {past : TerminalHistory} {t : Terminal}

/-- Along every orderly run the table has a run of its own, and the timers fit it. -/
theorem OrderlyRun.timed (run : OrderlyRun config past t) :
    ∃ tablePast, TableRun config tablePast t.table ∧ past.Mirrors tablePast ∧
      past.Timed t.table := by
  induction run with
  | start =>
    refine ⟨[], .start, ⟨fun _ _ => rfl, fun _ _ => rfl⟩, fun _ _ => Nat.le_refl _,
      fun _ _ _ => rfl, fun k s hs => ?_⟩
    cases hs
  | step run host input admitted ih =>
    obtain ⟨tablePast, tableRun, mirrors, timed⟩ := ih
    obtain ⟨tablePast', tableRun', mirrors'⟩ := mirrors.step admitted tableRun host
    exact ⟨tablePast', tableRun', mirrors', timed.step mirrors admitted tableRun⟩

/-- A request that waits for its type is over with when the type is connected. -/
theorem TableHistory.Tracks.settled_by_connected {tablePast : TableHistory} {t : ChannelTable}
    (tracks : tablePast.Tracks config t) {k : UInt8} {r : BearerRequest}
    (hr : t.bearers.requests.get? k = some r) (waiting : r.state = .waiting) (failover : Bool)
    {s' : Slot} (hs' : (t.connectionChanged ⟨r.type, .connected, failover⟩).1.slots.get? k =
      some s') : s'.phase ≠ .awaitingBearer := by
  intro waits
  let change : ConnectionChange := ⟨r.type, .connected, failover⟩
  let told := t.bearers.connectionChanged change
  have ready : t.bearers.changeOf change k = some .ready := by
    simp [BearerRegistry.changeOf, hr, BearerRegistry.changeFor, change, waiting]
  have keyed : t.Keyed := fun k s hs => (tracks.inStep.slot k s hs).id
  have stays := (ChannelTable.Keeps.bearerChanges (t := { t with bearers := told.1 }) keyed told.2.1
    k s' hs').2
  have admitted : tablePast.Admits (.connectionChanged change) := trivial
  have up := (tracks.step admitted).inStep.upOf k
  have same : (t.step (.connectionChanged change)).1.bearers.up? k = told.1.up? k :=
    congrArg (Option.map BearerRequest.isUp) stays
  have slot : (t.step (.connectionChanged change)).1.slots.get? k = some s' := hs'
  rw [same, slot, Option.bind_some, Slot.wanted?_of_waiting waits,
    BearerRegistry.up?_connectionChanged, ready] at up
  cases up

/-- In every orderly run, an open that waits for its bearer has a request that waits for its type,
which is over with as soon as that is connected, or one that waits to look for its access point
again, and then exactly one timer is running for it. An open that waits for its socket has a socket
task. Timers of channels that do not have their number any more do nothing when they come due. -/
theorem no_open_gets_stuck (run : OrderlyRun config past t) :
    (∀ k s, t.table.slots.get? k = some s →
      (s.phase = .awaitingBearer → ∃ r, t.table.bearers.requests.get? k = some r ∧
        (r.state = .waiting ∧ past.outstanding k s.channel.generation = 0 ∧
            (∀ host failover s', (t.step host (.connection
              ⟨r.type, .connected, failover⟩)).1.table.slots.get? k = some s' →
                s'.phase ≠ .awaitingBearer) ∨
          (∃ attempts, r.state = .provisioning attempts) ∧
            past.outstanding k s.channel.generation = 1)) ∧
      (s.phase = .opening → s.channel.attached = true)) ∧
    ∀ k g, ¬t.table.Holds k g → ∀ host, t.step host (.retryDue k g) = (t, .none) := by
  obtain ⟨tablePast, tableRun, -, timed⟩ := run.timed
  have tracks := tableRun.tracks
  refine ⟨fun k s hs => ⟨fun waits => ?_, tableRun.attended k s hs⟩, fun k g gone host => ?_⟩
  · have up := tracks.inStep.upOf k
    rw [hs, Option.bind_some, Slot.wanted?_of_waiting waits] at up
    obtain ⟨r, hr, stage⟩ := BearerRegistry.up?_eq_false_iff.mp up
    have current := timed.current k s hs
    refine ⟨r, hr, ?_⟩
    rw [TerminalHistory.outstanding]
    rcases stage with ⟨attempts, provisioning⟩ | waiting
    · have looking : t.table.bearers.isLooking k = true :=
        BearerRegistry.isLooking_eq_true_iff.mpr ⟨r, attempts, hr, provisioning⟩
      rw [looking, Bool.toNat_true] at current
      exact .inr ⟨⟨attempts, provisioning⟩, by omega⟩
    · have looking : t.table.bearers.isLooking k = false := by
        simp [BearerRegistry.isLooking, hr, BearerRequest.isEnabled, waiting]
      rw [looking, Bool.toNat_false] at current
      refine .inl ⟨waiting, by omega, fun host failover s' hs' => ?_⟩
      exact tracks.settled_by_connected hr waiting failover hs'
  · have idle := (ChannelTable.ignores_of_not_holds gone).retry host
    change t.table.bearerRetry host k g = _ at idle
    simp only [Terminal.step, idle]
    rfl

/-- A command that opens a client over an access point in the network. -/
def openOverPoint : Bytes :=
  [0x81, 0x03, 0x01, 0x40, 0x01, 0x82, 0x02, 0x81, 0x82, 0xB5, 0x01, 0x02, 0xB9, 0x02, 0x01, 0x00,
    0xC7, 0x04, 0x03, 0x62, 0x69, 0x70, 0xBC, 0x03, 0x01, 0x00, 0x09, 0xBE, 0x05, 0x21, 0x0A, 0x00,
    0x00, 0x01]

/-- An open is abandoned with its session while it waits to look again. The next one gets its number
and has looked twice. -/
def reopenedOverPoint : Terminal :=
  [.command openOverPoint, .sessionEnd, .command openOverPoint, .retryDue 1 2].foldl
    (fun t input => (t.step SteadyHost.secretive.answers input).1) (.ofConfig .standard)

/-- One timer is still running for the channel that is gone and does nothing when it comes due, and
one for the channel that waits. -/
theorem reopenedOverPoint_not_stuck :
    ∃ past s, OrderlyRun .standard past reopenedOverPoint ∧
      reopenedOverPoint.table.slots.get? 1 = some s ∧ s.phase = .awaitingBearer ∧
      s.channel.generation = 2 ∧
      (∃ r, reopenedOverPoint.table.bearers.requests.get? 1 = some r ∧
        r.state = .provisioning 2 ∧ past.outstanding 1 2 = 1) ∧
      past.outstanding 1 1 = 1 ∧
      ∀ host, reopenedOverPoint.step host (.retryDue 1 1) = (reopenedOverPoint, .none) := by
  have run : OrderlyRun .standard _ reopenedOverPoint := OrderlyRun.start
    |>.step SteadyHost.secretive.answers (.command openOverPoint) trivial
    |>.step SteadyHost.secretive.answers .sessionEnd trivial
    |>.step SteadyHost.secretive.answers (.command openOverPoint) trivial
    |>.step SteadyHost.secretive.answers (.retryDue 1 2) (by decide +kernel)
  have slot : (reopenedOverPoint.table.slots.get? 1).map (fun s =>
      (s.phase, s.channel.generation)) = some (.awaitingBearer, 2) := by decide +kernel
  have request : reopenedOverPoint.table.bearers.requests.get? 1 =
      some ⟨"bip", some "bip", .provisioning 2⟩ := by decide +kernel
  obtain ⟨s, hs, heq⟩ := Option.map_eq_some_iff.mp slot
  obtain ⟨waits, generation⟩ := Prod.mk.inj heq
  have gone : ¬reopenedOverPoint.table.Holds 1 1 := by
    rintro ⟨s', hs', hg⟩
    cases hs.symm.trans hs'
    omega
  obtain ⟨opens, stale⟩ := no_open_gets_stuck run
  obtain ⟨r, hr, ⟨waiting, -⟩ | ⟨-, one⟩⟩ := (opens 1 s hs).1 waits
  · rw [request] at hr
    cases hr
    cases waiting
  · rw [request] at hr
    cases hr
    exact ⟨_, s, run, hs, waits, generation, ⟨_, request, rfl, generation ▸ one⟩,
      by decide +kernel, stale 1 1 gone⟩

end CardChannels
