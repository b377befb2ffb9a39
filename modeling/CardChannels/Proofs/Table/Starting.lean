import CardChannels.Proofs.Command.Partners
import CardChannels.Proofs.Table.LateBearer

/-!
# Opens whose bearer comes up

When the bearer of an open has come up, at once or late, the socket task of its channel is started,
and the task of a client is told where the partner is. Only an open without a partner is refused
then. The main statement is about the opens that are read from bytes: the ones without a partner are
those that name the default bearer and give no address behind the transport.
-/
namespace CardChannels

/-- The end that an order has a task go to. -/
def Order.target? : Order → Option Endpoint
  | .connect target _ | .exchange _ target => some target
  | .listen _ | .write _ | .resume | .dropClient | .stop => none

namespace Channel

variable {c : Channel} {timeout : Nat} {order : Order}

theorem Begins.starts (h : c.Begins timeout order) : order.starts = true := by
  cases h with
  | listens | connects | exchanges => rfl

theorem Begins.target?_eq (h : c.Begins timeout order) (client : c.kind ≠ .tcpServer) :
    order.target? = c.settings.partner? := by
  cases h with
  | listens server => exact absurd server client
  | connects _ partner | exchanges _ partner => exact partner.symm

/-- A channel that has a partner can be started. -/
theorem start_of_partner (h : c.settings.partner? ≠ none) (timeout : Nat) :
    ∃ orders, c.start timeout = .ok ({ c with attached := true, ended := false }, orders) := by
  have starts := c.starts_start timeout
  generalize c.start timeout = started at starts ⊢
  cases starts with
  | begun => exact ⟨_, rfl⟩
  | nowhere _ none => exact absurd none h

/-- A channel without a partner is not a server, and cannot be started. -/
theorem start_of_no_partner (h : c.settings.partner? = none) (timeout : Nat) :
    c.start timeout = .error .remoteDeviceNotReachable := by
  have client : c.kind ≠ .tcpServer := by
    have remote := (ChannelSettings.partner?_eq_none_iff.mp h).2
    rw [kind]
    cases protocol : c.settings.protocol with
    | tcpServer =>
      rw [protocol] at remote
      cases remote
    | tcpClientRemote | tcpClientLocal | udpClientRemote | udpClientLocal =>
      simp [TransportProtocol.kind]
  have starts := c.starts_start timeout
  generalize c.start timeout = started at starts ⊢
  cases starts with
  | begun begins =>
    cases begins with
    | listens server => exact absurd server client
    | connects _ partner | exchanges _ partner => cases h.symm.trans partner
  | nowhere => rfl

end Channel

namespace ChannelView

variable {v : ChannelView} {s : Slot}

theorem slot_started_of_ok {channel : Channel} {orders : List Order}
    (start : s.channel.start v.connectTimeout = .ok (channel, orders)) :
    (v.started s).slot = some ⟨channel, .opening, s.pending⟩ := by
  rw [started, start]

theorem slot_started_of_error {cause : ChannelCause}
    (start : s.channel.start v.connectTimeout = .error cause) : (v.started s).slot = none := by
  rw [started, start]
  rfl

end ChannelView

variable {config : Config} {before inputs : List TableInput} {reply : Reply}
  {settings : ChannelSettings} {k : UInt8} {g : Nat}

/-- A channel that waited, or was not there, and whose socket task is to begin now, has given its
task the order for it, a client's to go to the partner. -/
theorem Slot.Origin.begun {t : ChannelTable} {input : TableInput} {told : Nat → List Order}
    {found : Option Slot} {s' : Slot} (origin : s'.Origin t k input told found)
    (opening : s'.phase = .opening)
    (waited : ∀ s, found = some s → s.phase = .awaitingBearer) :
    ∃ order ∈ told s'.channel.generation, order.starts = true ∧
      (s'.channel.kind ≠ .tcpServer → order.target? = s'.channel.settings.partner?) := by
  have ordered {c channel : Channel} {orders : List Order}
      (start : c.start t.connectTimeout = .ok (channel, orders))
      (given : ∀ o ∈ orders, o ∈ told c.generation) :
      ∃ order ∈ told channel.generation, order.starts = true ∧
        (channel.kind ≠ .tcpServer → order.target? = channel.settings.partner?) := by
    have starts := c.starts_start t.connectTimeout
    rw [start] at starts
    cases starts with
    | begun begins => exact ⟨_, given _ (by simp), begins.starts, begins.target?_eq⟩
  have idle {s : Slot} (hs : found = some s) (same : s'.phase = s.phase) : False := by
    cases (opening.symm.trans same).trans (waited s hs)
  cases origin with
  | started uncommanded waits start given => exact ordered start given
  | newStarted asked start given => exact ordered start given
  | new => cases opening
  | sent | outlived => cases opening
  | stays | kept | fetched | ended => exact (idle rfl rfl).elim
  | reported heard report left =>
    rcases Upshot.phase_of_slot? left with opened | ⟨same, -⟩
    · cases opening.symm.trans opened
    · exact (idle rfl same).elim

/-- The inputs by which an open of some settings has its bearer up. A host has the bearer up at
once; or the channel waits, whatever else happens, until a look or a change of the connection brings
the bearer up. The newest input is the first. -/
inductive BearerUp (config : Config) (before : List TableInput) (reply : Reply)
    (settings : ChannelSettings) (k : UInt8) (g : Nat) : List TableInput → Prop
  | atOnce {host : Host}
    (ready : ((replay config before).2.bearers.ask host k settings).2.1 = .ready) :
    BearerUp config before reply settings k g [.openChannel host reply settings]
  | late {host : Host} {later : List TableInput} {last : TableInput}
    (admissible : Admissible config (later ++ .openChannel host reply settings :: before))
    (waits : (replay config (later ++ .openChannel host reply settings :: before)).2.Waits k g)
    (ready : (replay config
      (later ++ .openChannel host reply settings :: before)).2.BringsUp k g last) :
    BearerUp config before reply settings k g
      (last :: (later ++ [.openChannel host reply settings]))

/-- The open of a channel has got as far as its socket task: the task has been told to begin, a
client's at the partner that the settings name, and the open is still to be answered. -/
structure TaskBegun (config : Config) (before : List TableInput) (settings : ChannelSettings)
    (k : UInt8) (g : Nat) (inputs : List TableInput) : Prop where
  slot : ∃ s, (replay config (inputs ++ before)).2.slots.get? k = some s ∧
    s.channel.generation = g ∧ s.phase = .opening ∧ s.owesOpen = true
  ordered : ∃ order ∈ (replay config (inputs ++ before)).1.told k g, order.starts = true ∧
    (settings.protocol.kind ≠ .tcpServer →
      ∃ target, settings.partner? = some target ∧ order.target? = some target)
  unanswered : openAnswers config before k inputs = []

/-- The open of a channel has been refused because it has no partner, and its number is free. -/
structure TurnedAway (config : Config) (before : List TableInput) (reply : Reply)
    (settings : ChannelSettings) (k : UInt8) (inputs : List TableInput) : Prop where
  freed : (replay config (inputs ++ before)).2.slots.get? k = none
  answered : openAnswers config before k inputs =
    [reply.failure (.ofCause .remoteDeviceNotReachable) (some (.openChannel none settings.bearer
      (negotiate settings.bufferSize (replay config before).2.maxBufferSize).1))]

namespace BearerUp

/-- When the bearer is up, the table has the channel started as it was made, and the open is told
what comes of the start. -/
theorem started (up : BearerUp config before reply settings k g inputs)
    (made : settings.bufferSize ≠ 0 ∧ (replay config before).2.firstFree? = some k ∧
      g = (replay config before).2.generation + 1) :
    let t := (replay config before).2
    let s := t.newSlot k reply settings
    (∃ v : ChannelView, v.connectTimeout = t.connectTimeout ∧
        (replay config (inputs ++ before)).2.slots.get? k = (v.started s).slot) ∧
      openAnswers config before k inputs =
        (s.startedTold t.connectTimeout).filterMap Effect.response? := by
  intro t s
  have asked (host : Host) : t.made? (.openChannel host reply settings) = some (k, g) :=
    ChannelTable.made?_openChannel_iff.mpr made
  obtain ⟨size, free, rfl⟩ := made
  cases up with
  | @atOnce host ready =>
    have view := ChannelTable.view_openChannel size free host reply k
    rw [if_pos rfl, ready] at view
    refine ⟨⟨_, rfl, congrArg ChannelView.slot view⟩, ?_⟩
    · have effects := ChannelTable.effects_openChannel size free host reply
      rw [ready] at effects
      rw [openAnswers, openAnswers, List.nil_append]
      exact congrArg (List.filterMap Effect.response? ·)
        ((ChannelTable.openEffects_of_made (asked host)).trans effects)
  | @late host later last admissible waits ready =>
    obtain ⟨-, new, unanswered⟩ := isNew_replay (asked host) admissible waits
    obtain ⟨view, effects⟩ :=
      ChannelTable.view_bringsUp (among_replay config _).keyed new rfl rfl ready
    have delayed : later ++ [.openChannel host reply settings] ++ before =
        later ++ .openChannel host reply settings :: before := by simp
    refine ⟨⟨{ t.view k with request := some (t.bearers.target settings) }, rfl, ?_⟩, ?_⟩
    · rw [List.cons_append, delayed]
      exact congrArg ChannelView.slot view
    · rw [openAnswers, unanswered, List.nil_append, delayed]
      exact congrArg (List.filterMap Effect.response? ·) effects

/-- Before the bearer comes up the channel waits for it, or is not there. -/
theorem waited (up : BearerUp config before reply settings k g inputs)
    (free : (replay config before).2.firstFree? = some k) :
    ∃ last earlier, inputs = last :: earlier ∧
      ∀ s, (replay config (earlier ++ before)).2.slots.get? k = some s →
        s.phase = .awaitingBearer := by
  cases up with
  | @atOnce host ready =>
    refine ⟨_, _, rfl, fun s hs => ?_⟩
    cases (ChannelTable.get?_of_firstFree? free).symm.trans hs
  | @late host later last admissible waits ready =>
    refine ⟨_, _, rfl, fun s hs => ?_⟩
    obtain ⟨s', hs', -, phase⟩ := waits
    rw [List.append_assoc, List.singleton_append, hs'] at hs
    exact Option.some.inj hs ▸ phase

theorem taskBegun (up : BearerUp config before reply settings k g inputs)
    (made : settings.bufferSize ≠ 0 ∧ (replay config before).2.firstFree? = some k ∧
      g = (replay config before).2.generation + 1)
    (somewhere : settings.partner? ≠ none) : TaskBegun config before settings k g inputs := by
  let t := (replay config before).2
  let s := t.newSlot k reply settings
  obtain ⟨⟨v, timeout, slot⟩, answers⟩ := up.started made
  obtain ⟨orders, start⟩ :=
    Channel.start_of_partner (c := s.channel) somewhere t.connectTimeout
  have slot := slot.trans (ChannelView.slot_started_of_ok (timeout ▸ start))
  obtain ⟨last, earlier, rfl, waited⟩ := up.waited made.2.1
  obtain ⟨-, -, rfl⟩ := made
  have origin := ChannelTable.origin_step (among_replay config (earlier ++ before)).keyed last slot
  obtain ⟨order, told, starts, goes⟩ := origin.begun rfl waited
  obtain ⟨target, partner⟩ := Option.ne_none_iff_exists'.mp somewhere
  have unanswered : openAnswers config before k (last :: earlier) = [] := by
    rw [answers, Slot.startedTold, start]
    rfl
  exact ⟨⟨_, slot, rfl, rfl, rfl⟩, ⟨order, List.mem_append_left _ told, starts,
    fun client => ⟨target, partner, (goes client).trans partner⟩⟩, unanswered⟩

theorem turnedAway (up : BearerUp config before reply settings k g inputs)
    (made : settings.bufferSize ≠ 0 ∧ (replay config before).2.firstFree? = some k ∧
      g = (replay config before).2.generation + 1)
    (nowhere : settings.partner? = none) :
    TurnedAway config before reply settings k inputs := by
  let t := (replay config before).2
  let s := t.newSlot k reply settings
  have start := Channel.start_of_no_partner (c := s.channel) nowhere t.connectTimeout
  obtain ⟨⟨v, timeout, slot⟩, answers⟩ := up.started made
  refine ⟨slot.trans (ChannelView.slot_started_of_error (timeout ▸ start)), ?_⟩
  rw [answers, Slot.startedTold, start]
  rfl

end BearerUp

/-- Every command that is delivered and opens a channel has settings that were read from the objects
in its bytes, and these have no partner exactly when the objects name the default bearer and give no
address of a partner. Whenever there is a number for the channel, some buffer is asked for and the
bearer comes up, the socket task is started, and a client's task goes to the partner. Without a
partner the open is refused instead, always. -/
theorem delivered_open_begins_unless_nowhere {raw : Bytes} {command : Command}
    (delivered : Command.Delivered raw command)
    (opens : command.instruction = .openChannel settings) :
    ∃ objects, Command.Carries raw objects ∧ OpenChannel.settings objects = .ok settings ∧
      (settings.partner? = none ↔ (OpenChannel.parts objects).Nowhere) ∧
      ∀ config before reply k g inputs, settings.bufferSize ≠ 0 →
        (replay config before).2.firstFree? = some k →
        g = (replay config before).2.generation + 1 →
        BearerUp config before reply settings k g inputs →
          (¬(OpenChannel.parts objects).Nowhere → TaskBegun config before settings k g inputs) ∧
          ((OpenChannel.parts objects).Nowhere →
            TurnedAway config before reply settings k inputs) := by
  obtain ⟨objects, kind, carries, read⟩ := delivered.carries
  have read := (Command.of_instructionOf read).2 settings opens
  have nowhere := OpenChannel.partner?_eq_none_iff_nowhere read
  refine ⟨objects, carries, read, nowhere, ?_⟩
  intro config before reply k g inputs size free current up
  rw [← nowhere]
  exact ⟨up.taskBegun ⟨size, free, current⟩, up.turnedAway ⟨size, free, current⟩⟩

/-- The bytes of an open for a client over the default bearer, with what stands behind the
transport. -/
def openByDefault (behind : Bytes) : Bytes :=
  [0x81, 0x03, 0x01, 0x40, 0x00, 0x82, 0x02, 0x81, 0x82, 0x35, 0x01, 0x03,
    0x39, 0x02, 0x01, 0x00, 0x3C, 0x03, 0x01, 0x00, 0x35] ++ behind

/-- What is read from them. -/
def settingsByDefault (destination : Option Ipv4) : ChannelSettings :=
  { ChannelSettings.loopback with
    protocol := .udpClientRemote, port := 53, destination := destination, bearer := some .plain }

/-- The open with these settings. -/
def openTo (host : SteadyHost) (destination : Option Ipv4) : TableInput :=
  .openChannel host.answers (.toCommand 1 .openChannel 0) (settingsByDefault destination)

/-- With an address behind the transport the open gets as far as its socket task when its bearer,
which was still coming up, is there. -/
theorem openByDefault_begins :
    ∃ command, Command.Delivered (openByDefault [0x3E, 0x05, 0x21, 10, 1, 2, 3]) command ∧
      command.instruction = .openChannel (settingsByDefault (some ⟨10, 1, 2, 3⟩)) ∧
      TaskBegun .standard [] (settingsByDefault (some ⟨10, 1, 2, 3⟩)) 1 1
        [.connectionChanged ⟨AccessType.default, .connected, false⟩,
          openTo { SteadyHost.connected with state := .connecting } (some ⟨10, 1, 2, 3⟩)] := by
  let settings := settingsByDefault (some ⟨10, 1, 2, 3⟩)
  let host : SteadyHost := { SteadyHost.connected with state := .connecting }
  let waiting := (replay .standard [openTo host (some ⟨10, 1, 2, 3⟩)]).2
  have delivered : Command.Delivered (openByDefault [0x3E, 0x05, 0x21, 10, 1, 2, 3])
      ⟨⟨1, 0x40, 0, true⟩, none, none, [], false, .openChannel settings⟩ :=
    .atOnce .idle (by decide +kernel)
  obtain ⟨objects, -, -, nowhere, comesTo⟩ := delivered_open_begins_unless_nowhere delivered rfl
  have waits : waiting.Waits 1 1 := by decide +kernel
  have ready : waiting.bearers.changeOf ⟨AccessType.default, .connected, false⟩ 1 =
      some .ready := by decide +kernel
  have admissible : Admissible .standard ([] ++ openTo host (some ⟨10, 1, 2, 3⟩) :: []) := by
    decide +kernel
  have up : BearerUp .standard [] (.toCommand 1 .openChannel 0) settings 1 1
      [.connectionChanged ⟨AccessType.default, .connected, false⟩,
        openTo host (some ⟨10, 1, 2, 3⟩)] := .late admissible waits ready
  have somewhere : ¬(OpenChannel.parts objects).Nowhere := by
    rw [← nowhere]
    decide
  exact ⟨_, delivered, rfl,
    (comesTo .standard [] _ 1 1 _ (by decide) (by decide +kernel) rfl up).1 somewhere⟩

/-- Without an address the same open is delivered too. But its client has nowhere to connect to, so
it is refused although the bearer is up, and its socket task is told nothing. -/
theorem openByDefault_turned_away :
    ∃ command, Command.Delivered (openByDefault []) command ∧
      command.instruction = .openChannel (settingsByDefault none) ∧
      (settingsByDefault none).bufferSize ≠ 0 ∧
      (settingsByDefault none).protocol.kind = .udpClient ∧
      (settingsByDefault none).partner? = none ∧
      (replay .standard []).2.firstFree? = some 1 ∧
      ((replay .standard []).2.bearers.ask SteadyHost.connected.answers 1
        (settingsByDefault none)).2.1 = .ready ∧
      TurnedAway .standard [] (.toCommand 1 .openChannel 0) (settingsByDefault none) 1
        [openTo .connected none] ∧
      (replay .standard [openTo .connected none]).1.told 1 1 = [] := by
  have delivered : Command.Delivered (openByDefault [])
      ⟨⟨1, 0x40, 0, true⟩, none, none, [], false, .openChannel (settingsByDefault none)⟩ :=
    .atOnce .idle (by decide +kernel)
  have freed : ((replay .standard [openTo .connected none]).2.slots.get? 1).isNone = true := by
    decide +kernel
  exact ⟨_, delivered, rfl, by decide, rfl, rfl, by decide +kernel, by decide +kernel,
    ⟨Option.isNone_iff_eq_none.mp freed, by decide +kernel⟩, by decide +kernel⟩

end CardChannels
