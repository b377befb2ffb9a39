import CardChannels.Proofs.Table.Opening

/-!
# Refused commands

A command can be refused late: an open when it has a number and a bearer already, a send or a
receive when the channel has been found. The main statement is that a command whose answer tells of
a failure has undone whatever it did. The table is as it was before, no socket task is given an
order, and of a refused open at most the generation is left.
-/
namespace CardChannels

/-- Whether an input is a command from the card. -/
def TableInput.isCommand : TableInput → Bool
  | .openChannel .. | .closeChannel .. | .sendData .. | .receiveData .. | .channelStatus _ => true
  | .report .. | .bearerRetry .. | .connectionChanged _ | .taskEnded .. | .sessionEnd
  | .cardRemoved => false

/-- Whether an input is an open. -/
def TableInput.isOpen : TableInput → Bool
  | .openChannel .. => true
  | _ => false

namespace Output

variable {a b : Output}

/-- Some answer tells that a command was not carried out. -/
def Refuses (out : Output) : Prop :=
  ∃ r, .respond r ∈ out.effects ∧ r.result.isSuccess = false

theorem not_refuses_of_nil (h : a.effects = []) : ¬a.Refuses := by
  simp [Refuses, h]

theorem not_refuses_of_respond {r : TerminalResponse} (h : a.effects = [.respond r])
    (success : r.result.isSuccess = true) : ¬a.Refuses := by
  simp [Refuses, h, success]

/-- Only the effects have a part in it. -/
theorem Refuses.of_effects_eq (refuses : a.Refuses) (h : a.effects = b.effects) : b.Refuses := by
  rwa [Refuses, ← h]

end Output

/-! Answers to commands that were carried out -/

theorem ResultCode.isSuccess_ok : ResultCode.ok.isSuccess = true := rfl

theorem isSuccess_fetchPlan (requested available : Nat) :
    (fetchPlan requested available).2.isSuccess = true := by
  unfold fetchPlan
  split
  · rfl
  · split <;> rfl

theorem Reply.isSuccess_success (reply : Reply) {result : ResultCode}
    (h : result.isSuccess = true) (data : Option Payload) :
    (reply.success result data).result.isSuccess = true := by
  unfold success
  dsimp only
  split
  · rfl
  · exact h

/-! Channels that refuse -/

namespace Channel

variable {c : Channel}

/-- A send for which there is no link stores nothing, as long as the task takes its orders. -/
theorem send_of_closed (takes : c.attached = true → c.takesOrders = true) (data : Bytes)
    (immediate : Bool) (h : (c.send data immediate).2.1 = .closed) :
    c.send data immediate = (c, .closed, []) := by
  unfold send at h ⊢
  split
  · rfl
  · rename_i up
    have attached : c.attached = true := by simpa using (not_or.mp up).2
    simp only [if_neg up, takes attached, if_true] at h
    split at h <;> cases h

/-- A receive gets nothing when there is no link and nothing is left, and is answered well
otherwise. -/
theorem receive_cases (c : Channel) (requested : Nat) :
    c.receive requested = (c, .closed, []) ∨
      ∃ channel result bytes remaining orders, result.isSuccess = true ∧
        c.receive requested = (channel, .data result bytes remaining, orders) := by
  unfold receive
  split
  · exact .inl rfl
  · exact .inr ⟨_, _, _, _, _, isSuccess_fetchPlan .., rfl⟩

end Channel

namespace ChannelTable

variable {t : ChannelTable} {k : UInt8} {s : Slot} {most : UInt16} {last : Nat}

/-- Every task that the table knows to be there takes its orders. -/
def TasksTakeOrders (t : ChannelTable) : Prop :=
  ∀ k s, t.slots.get? k = some s → s.channel.attached = true → s.channel.takesOrders = true

/-! An open that is refused -/

theorem free_fst (t : ChannelTable) (k : UInt8) :
    (t.free k).1 = { t with slots := t.slots.erase k, bearers := t.bearers.forget k } := by
  unfold free
  dsimp only
  rw [BearerRegistry.release_fst]

/-- The result of an operation that has taken a channel away and has given no orders. -/
structure Undone (t : ChannelTable) (k : UInt8) (result : ChannelTable × Output) : Prop where
  table : result.1 = (t.free k).1
  orders : result.2.orders = []

theorem undone_giveUpOpen (t : ChannelTable) (s : Slot) (refusal : Refusal) :
    t.Undone s.channel.id (t.giveUpOpen s refusal) := by
  refine ⟨giveUpOpen_fst t s refusal, ?_⟩
  unfold giveUpOpen
  dsimp only
  split <;> rfl

/-- Only an open whose socket task cannot be started is answered at that point. -/
theorem undone_startSocket (refuses : (t.startSocket s).2.Refuses) :
    t.Undone s.channel.id (t.startSocket s) := by
  unfold startSocket at refuses ⊢
  dsimp only at refuses ⊢
  split
  · rename_i hstart
    rw [hstart] at refuses
    exact absurd refuses (Output.not_refuses_of_nil rfl)
  · exact undone_giveUpOpen t { s with phase := .opening } _

theorem undone_afterBearer {outcome : BearerAnswer}
    (refuses : (t.afterBearer s outcome).2.Refuses) :
    t.Undone s.channel.id (t.afterBearer s outcome) := by
  cases outcome with
  | ready => exact undone_startSocket refuses
  | pending => exact absurd refuses (Output.not_refuses_of_nil rfl)
  | retryAfter delay => simp [afterBearer, Output.Refuses] at refuses
  | failed refusal => exact undone_giveUpOpen t s refusal

/-- Whatever a new channel has asked for, all but the generation is as before once the channel is
gone. -/
theorem free_enroll (slot : t.slots.get? k = none) (request : t.bearers.requests.get? k = none)
    (id : s.channel.id = k) {bearers : BearerRegistry}
    (same : bearers.forget k = t.bearers.forget k) :
    (free { t.enroll s with bearers := bearers } k).1 =
      { t with generation := t.generation + 1 } := by
  rw [free_fst, same, BearerRegistry.forget_of_none request]
  dsimp only [enroll, put]
  rw [id, ChannelMap.erase_insert, ChannelMap.erase_of_none slot]

/-- A refused open has taken its channel and its request away again. -/
theorem openChannel_refused
    (requests : ∀ k, t.slots.get? k = none → t.bearers.requests.get? k = none)
    {host : Host} {reply : Reply} {settings : ChannelSettings}
    (refuses : (t.openChannel host reply settings).2.Refuses) :
    ((t.openChannel host reply settings).1 = t ∨
        (t.openChannel host reply settings).1 = { t with generation := t.generation + 1 }) ∧
      (t.openChannel host reply settings).2.orders = [] := by
  rcases t.openChannel_cases host reply settings with ⟨cause, h⟩ | ⟨k, hfree, h⟩
  · rw [h]
    exact ⟨.inl rfl, rfl⟩
  · rw [h] at refuses ⊢
    have hk := get?_of_firstFree? hfree
    obtain ⟨table, orders⟩ := undone_afterBearer (refuses.of_effects_eq rfl)
    refine ⟨.inr (table.trans ?_), orders⟩
    exact free_enroll hk (requests k hk) rfl (t.bearers.forget_ask host k settings)

/-! Other commands that are refused -/

theorem put_self (hs : t.slots.get? s.channel.id = some s) : t.put s = t := by
  have slots : t.slots.insert s.channel.id s = t.slots := by
    apply ChannelMap.eq_of_get?_eq
    intro j
    rw [ChannelMap.get?_insert]
    split
    · rename_i hj
      rw [hj, hs]
    · rfl
  rw [put, slots]

/-- A close is refused for a number that no channel has. -/
theorem closeChannel_refused {reply : Reply} {keepListening : Bool}
    (id : ∀ s, t.slots.get? k = some s → s.channel.id = k)
    (refuses : (t.closeChannel reply k keepListening).2.Refuses) :
    (t.closeChannel reply k keepListening).1 = t ∧
      (t.closeChannel reply k keepListening).2.orders = [] := by
  rcases hs : t.slots.get? k with _ | s
  · simp only [closeChannel, hs]
    exact ⟨trivial, rfl⟩
  · obtain rfl := id s hs
    obtain ⟨after, -, h⟩ := closeChannel_onSlot reply keepListening hs
    exact absurd refuses (Output.not_refuses_of_respond h.effects
      (reply.isSuccess_success ResultCode.isSuccess_ok none))

theorem sendData_refused {reply : Reply} {data : Transfer} {immediate : Bool}
    (id : ∀ s, t.slots.get? data.channel = some s → s.channel.id = data.channel)
    (takes : t.TasksTakeOrders) (refuses : (t.sendData reply data immediate).2.Refuses) :
    (t.sendData reply data immediate).1 = t ∧
      (t.sendData reply data immediate).2.orders = [] := by
  rcases hs : t.slots.get? data.channel with _ | s
  · simp only [sendData, hs]
    exact ⟨trivial, rfl⟩
  · simp only [sendData, hs] at refuses ⊢
    split
    · exact ⟨rfl, rfl⟩
    · rename_i hopen
      rw [if_neg hopen] at refuses
      have closed := Channel.send_of_closed (takes _ s hs) data.data immediate
      rcases hsend : s.channel.send data.data immediate with ⟨channel, outcome, orders⟩
      rw [hsend] at closed refuses
      cases outcome with
      | buffered free =>
        exact absurd refuses (Output.not_refuses_of_respond rfl
          (reply.isSuccess_success ResultCode.isSuccess_ok _))
      | flushing free => exact absurd refuses (Output.not_refuses_of_nil rfl)
      | closed =>
        obtain ⟨rfl, -⟩ := Prod.mk.inj (closed rfl)
        exact ⟨put_self (id s hs ▸ hs), rfl⟩

theorem receiveData_refused {reply : Reply} {data : Transfer}
    (id : ∀ s, t.slots.get? data.channel = some s → s.channel.id = data.channel)
    (refuses : (t.receiveData reply data).2.Refuses) :
    (t.receiveData reply data).1 = t ∧ (t.receiveData reply data).2.orders = [] := by
  rcases hs : t.slots.get? data.channel with _ | s
  · simp only [receiveData, hs]
    exact ⟨trivial, rfl⟩
  · simp only [receiveData, hs] at refuses ⊢
    rcases s.channel.receive_cases data.length with h |
      ⟨channel, result, bytes, remaining, orders, success, h⟩
    · rw [h]
      exact ⟨put_self (id s hs ▸ hs), rfl⟩
    · rw [h] at refuses
      exact absurd refuses
        (Output.not_refuses_of_respond rfl (reply.isSuccess_success success _))

/-- A refused command leaves the table as it was, the generation of an open aside, and gives no
orders. -/
theorem step_refused (inStep : t.InStep most last []) (takes : t.TasksTakeOrders)
    {input : TableInput} (command : input.isCommand = true) (refuses : (t.step input).2.Refuses) :
    ((t.step input).1 = t ∨
        input.isOpen = true ∧ (t.step input).1 = { t with generation := t.generation + 1 }) ∧
      (t.step input).2.orders = [] := by
  have id (k : UInt8) (s : Slot) (hs : t.slots.get? k = some s) := (inStep.slot k s hs).id
  cases input with
  | openChannel host reply settings =>
    have requests (k : UInt8) (hk : t.slots.get? k = none) : t.bearers.requests.get? k = none := by
      rw [← BearerRegistry.up?_eq_none_iff, inStep.upOf, hk, Option.bind_none]
    obtain ⟨table, orders⟩ := openChannel_refused requests refuses
    exact ⟨table.imp_right fun h => ⟨rfl, h⟩, orders⟩
  | closeChannel reply k keepListening =>
    exact (closeChannel_refused (id k) refuses).imp_left .inl
  | sendData reply data immediate =>
    exact (sendData_refused (id data.channel) takes refuses).imp_left .inl
  | receiveData reply data => exact (receiveData_refused (id data.channel) refuses).imp_left .inl
  | channelStatus reply => exact ⟨.inl rfl, rfl⟩
  | report | bearerRetry | connectionChanged | taskEnded | sessionEnd | cardRemoved => cases command

end ChannelTable

/-- In every run, when all socket tasks take their orders, a command that is refused at once leaves
every slot and every bearer request exactly as it was, and gives no orders. Only the newest
generation has gone on when an open was refused after it had got a number. -/
theorem refused_leaves_no_trace {config : Config} {past : TableHistory} {t : ChannelTable}
    {input : TableInput} (run : TableRun config past t) (takes : t.TasksTakeOrders)
    (command : input.isCommand = true) (refuses : (t.step input).2.Refuses) :
    (t.step input).1.slots = t.slots ∧
      (t.step input).1.bearers.requests = t.bearers.requests ∧
      ((t.step input).1 = t ∨
        input.isOpen = true ∧ (t.step input).1 = { t with generation := t.generation + 1 }) ∧
      (t.step input).2.orders = [] := by
  obtain ⟨table, orders⟩ := t.step_refused run.tracks.inStep takes command refuses
  refine ⟨?_, ?_, table, orders⟩
  all_goals rcases table with same | ⟨-, same⟩ <;> rw [same]

/-- An open to a partner in the network that does not say which. -/
def openNowhere : TableInput :=
  .openChannel SteadyHost.connected.answers (.toCommand 3 .openChannel 0)
    { ChannelSettings.loopback with protocol := .udpClientRemote, bearer := some .plain }

/-- While bytes are on their way on the first channel, an open is refused when its bearer is up
already and its socket task turns out to have nowhere to connect to. -/
theorem openNowhere_leaves_no_trace :
    ∃ past t, TableRun .standard past t ∧ t.TasksTakeOrders ∧ openNowhere.isCommand = true ∧
      (t.step openNowhere).2.Refuses ∧ t.slots.keys = [1] ∧
      (t.step openNowhere).1.slots = t.slots ∧
      (t.step openNowhere).1.bearers.requests = t.bearers.requests ∧
      (t.step openNowhere).2.orders = [] := by
  have run := Admissible.run (show Admissible .standard flushOnLoopback by decide +kernel)
  have takes : (replay .standard flushOnLoopback).2.TasksTakeOrders := by
    have all : (replay .standard flushOnLoopback).2.slots.values.all
        (fun s => !s.channel.attached || s.channel.takesOrders) = true := by decide +kernel
    intro k s hs attached
    have own := List.all_eq_true.mp all s (ChannelMap.mem_values_iff.mpr ⟨k, hs⟩)
    simpa [attached] using own
  have refuses : ((replay .standard flushOnLoopback).2.step openNowhere).2.Refuses := by
    refine ⟨(Reply.toCommand 3 .openChannel 0).failure (.ofCause .remoteDeviceNotReachable)
      (some (.openChannel none (some .plain) 256)), ?_, by decide⟩
    decide +kernel
  obtain ⟨slots, requests, -, orders⟩ := refused_leaves_no_trace run takes rfl refuses
  exact ⟨_, _, run, takes, rfl, refuses, by decide +kernel, slots, requests, orders⟩

end CardChannels
