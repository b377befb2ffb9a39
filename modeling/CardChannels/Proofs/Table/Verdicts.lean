import CardChannels.Proofs.Table.Replies

/-!
# What depends on the way to answer

Nothing that the table does depends on the way to answer a command but the answer itself. So a step
of tables that differ in one such way leads to tables that again differ in it alone, or to one table
for all of them, and then at most one thing that is given out differs: the answer.
-/
namespace CardChannels

/-- What an answer says, apart from the details that it repeats. -/
structure Verdict where
  result : ResultCode
  info : Option UInt8
  data : Option Payload

namespace Reply

/-- The answer that says so; a missing icon is told where nothing else is. -/
def tell (reply : Reply) (v : Verdict) : TerminalResponse :=
  { reply.success v.result v.data with info := v.info }

theorem success_eq_tell (reply : Reply) (result : ResultCode) (data : Option Payload) :
    reply.success result data = reply.tell ⟨result, none, data⟩ := rfl

/-- A failure is told alike with an icon and without it. -/
theorem failure_eq_tell {refusal : Refusal} (fails : refusal.result ≠ .ok) (reply : Reply)
    (data : Option Payload) :
    reply.failure refusal data = reply.tell ⟨refusal.result, refusal.info, data⟩ := by
  simp [failure, tell, success, fails]

end Reply

theorem Refusal.result_ofCause (cause : ChannelCause) : (ofCause cause).result ≠ .ok :=
  ResultCode.noConfusion

theorem Refusal.result_of_bearer {refusal : Refusal}
    (h : refusal = .beyondCapability ∨ refusal = .busyOnCall) : refusal.result ≠ .ok := by
  rcases h with rfl | rfl
  · decide
  · decide

namespace ChannelTable

variable {t : ChannelTable} {k : UInt8} {s : Slot} {refusal : Refusal}
  {f : ChannelTable → ChannelTable × Output}

/-! Steps of tables that differ in one way to answer -/

/-- What comes of a step of a table for each way in which the answer of one channel can be given. -/
inductive Uniform (k : UInt8) : (Reply → ChannelTable × Output) → Prop
  /-- The answer is not given yet. -/
  | kept (t : ChannelTable) (keyed : t.Keyed) (out : Output) :
    Uniform k fun reply => (t.owing k reply, out)
  /-- The answer is not given, and will not be given. -/
  | settled (t : ChannelTable) (out : Output) : Uniform k fun _ => (t, out)
  | answered (t : ChannelTable) (first : Output) (verdict : Verdict) (last : Output) :
    Uniform k fun reply => (t, first ++ .respond (reply.tell verdict) ++ last)

namespace Uniform

variable {results : Reply → ChannelTable × Output}

theorem succeeds (t : ChannelTable) (first : Output) (result : ResultCode)
    (data : Option Payload) :
    Uniform k fun reply => (t, first ++ .respond (reply.success result data)) := by
  have told := Uniform.answered (k := k) t first ⟨result, none, data⟩ .none
  simpa only [Output.append_none, Reply.success_eq_tell] using told

theorem fails (t : ChannelTable) (first : Output) (refused : refusal.result ≠ .ok)
    (data : Option Payload) :
    Uniform k fun reply => (t, first ++ .respond (reply.failure refusal data)) := by
  have told := Uniform.answered (k := k) t first ⟨refusal.result, refusal.info, data⟩ .none
  simpa only [Output.append_none, Reply.failure_eq_tell refused] using told

/-- What is given out first makes no difference. -/
theorem behind (h : Uniform k results) (first : Output) :
    Uniform k fun reply => ((results reply).1, first ++ (results reply).2) := by
  cases h with
  | kept t keyed out => exact .kept t keyed (first ++ out)
  | settled t out => exact .settled t (first ++ out)
  | answered t before verdict last =>
    have told := Uniform.answered (k := k) t (first ++ before) verdict last
    simpa only [Output.append_assoc] using told

/-- A step behind a step; the answer is given in one of them at most. -/
theorem andThen (h : Uniform k results)
    (next : ∀ t : ChannelTable, t.Keyed → Uniform k fun reply => f (t.owing k reply)) :
    Uniform k fun reply =>
      ((f (results reply).1).1, (results reply).2 ++ (f (results reply).1).2) := by
  cases h with
  | kept t keyed out => exact (next t keyed).behind out
  | settled t out => exact .settled (f t).1 (out ++ (f t).2)
  | answered t first verdict last =>
    have told := Uniform.answered (k := k) (f t).1 first verdict (last ++ (f t).2)
    simpa only [Output.append_assoc] using told

end Uniform

/-- What does not look at the way to answer keeps it. -/
theorem Blind.uniform (h : t.Blind k f) (keyed : (f t).1.Keyed) :
    Uniform k fun reply => f (t.owing k reply) := by
  simp only [h _]
  exact .kept (f t).1 keyed (f t).2

/-! What is done to the channel itself -/

section Own

variable (keyed : t.Keyed) (hk : s.channel.id = k)
include hk

theorem uniform_giveUpOpen (t : ChannelTable) (refused : refusal.result ≠ .ok) :
    Uniform k fun reply => (t.owing k reply).giveUpOpen (s.owing reply) refusal := by
  subst hk
  simp only [giveUpOpen, free_owing_self, Slot.owing, Slot.failureData]
  rcases s.pending with _ | ⟨other, modified⟩ | ⟨other, free⟩
  all_goals simp only [Option.map_none, Option.map_some, PendingReply.toReply]
  · exact .settled _ _
  · exact .fails _ _ refused _
  · exact .settled _ _

theorem uniform_bearerLost (t : ChannelTable) :
    Uniform k fun reply => (t.owing k reply).bearerLost (s.owing reply) := by
  subst hk
  simp only [bearerLost, free_owing_self, Slot.owing, Slot.failureData, Slot.orders]
  rcases s.pending with _ | ⟨other, modified⟩ | ⟨other, free⟩
  all_goals simp only [Option.map_none, Option.map_some, PendingReply.toReply]
  · exact .settled _ _
  · exact .fails _ _ (show Refusal.networkUnable.result ≠ .ok by decide) _
  · simp only [Reply.failure_eq_tell (Refusal.result_ofCause .channelClosed)]
    exact .answered _ _ _ _

include keyed

theorem uniform_put (phase : Phase) (out : Output) :
    Uniform k fun reply =>
      ((t.owing k reply).put ⟨s.channel, phase, (s.owing reply).pending⟩, out) := by
  have same (reply : Reply) :
      (t.owing k reply).put ⟨s.channel, phase, (s.owing reply).pending⟩ =
        (t.put ⟨s.channel, phase, s.pending⟩).owing k reply :=
    put_owing_self (s := ⟨s.channel, phase, s.pending⟩) hk t reply
  simp only [same]
  exact .kept _ (keyed.put _) out

theorem uniform_startSocket :
    Uniform k fun reply => (t.owing k reply).startSocket (s.owing reply) := by
  simp only [startSocket]
  rcases hstart : s.channel.start t.connectTimeout with cause | ⟨channel, orders⟩
  · simp only [Slot.channel_owing, connectTimeout_owing, hstart]
    exact uniform_giveUpOpen (s := { s with phase := .opening }) hk t (Refusal.result_ofCause cause)
  · have hk' : channel.id = k := (Channel.start_continues hstart).id.trans hk
    simp only [Slot.channel_owing, connectTimeout_owing, hstart, Slot.orders]
    exact uniform_put (s := ⟨channel, s.phase, s.pending⟩) keyed hk' .opening _

theorem uniform_afterBearer {outcome : BearerAnswer}
    (refused : ∀ refusal, outcome = .failed refusal → refusal.result ≠ .ok) :
    Uniform k fun reply => (t.owing k reply).afterBearer (s.owing reply) outcome := by
  cases outcome with
  | ready => exact uniform_startSocket keyed hk
  | pending => exact .kept t keyed .none
  | retryAfter delay =>
    exact .kept t keyed ⟨[.retry s.channel.id s.channel.generation delay], [], []⟩
  | failed refusal => exact uniform_giveUpOpen hk t (refused refusal rfl)

theorem uniform_applyUpshot (told : Upshot) :
    Uniform k fun reply => (t.owing k reply).applyUpshot (s.owing reply) told := by
  have discharged (reply : Reply) (phase : Phase) :
      (t.owing k reply).put ⟨s.channel, phase, none⟩ = t.put ⟨s.channel, phase, none⟩ :=
    put_owing_settled (s := ⟨s.channel, phase, none⟩) hk t reply
  have kept (out : Output) := uniform_put keyed hk s.phase out
  cases told with
  | opened status =>
    simp only [applyUpshot, discharged, Slot.owing]
    rcases s.pending with _ | ⟨other, modified⟩ | ⟨other, free⟩
    all_goals simp only [Option.map_none, Option.map_some, PendingReply.toReply]
    · exact .settled _ _
    · exact .succeeds _ .none _ _
    · exact .settled _ _
  | openFailed cause => exact uniform_giveUpOpen hk t (Refusal.result_ofCause cause)
  | sent =>
    simp only [applyUpshot, discharged, Slot.owing]
    rcases s.pending with _ | ⟨other, modified⟩ | ⟨other, free⟩
    all_goals simp only [Option.map_none, Option.map_some, PendingReply.toReply]
    · exact .settled _ _
    · exact .settled _ _
    · exact .succeeds _ .none _ _
  | sendFailed =>
    subst hk
    simp only [applyUpshot, free_owing_self, Slot.owing]
    rcases s.pending with _ | ⟨other, modified⟩ | ⟨other, free⟩
    all_goals simp only [Option.map_none, Option.map_some, PendingReply.toReply]
    · exact .settled _ _
    · exact .settled _ _
    · exact .fails _ _ (Refusal.result_ofCause _) _
  | dataAvailable status available => exact kept _
  | statusChanged status =>
    simp only [applyUpshot]
    split
    · exact kept _
    · simp only [discharged, Slot.owing]
      rcases s.pending with _ | ⟨other, modified⟩ | ⟨other, free⟩
      all_goals simp only [Option.map_none, Option.map_some, PendingReply.toReply,
        Reply.failure_eq_tell (Refusal.result_ofCause .channelClosed)]
      · exact .settled _ _
      · exact .settled _ _
      · exact .answered _ .none _ _
  | ignored => exact kept _

end Own

/-! Steps -/

section Steps

variable (keyed : t.Keyed) (hs : t.slots.get? k = some s)
include hs

theorem current?_owing_self (reply : Reply) (g : Nat) :
    (t.owing k reply).current? k g = (t.current? k g).map (·.owing reply) := by
  by_cases hg : s.channel.generation = g
  · simp [current?, hs, Option.filter, hg]
  · simp [current?, hs, Option.filter, hg]

include keyed

theorem uniform_report (g : Nat) (r : Report) :
    Uniform k fun reply => (t.owing k reply).report k g r := by
  simp only [report, current?_owing_self hs]
  rcases hc : t.current? k g with _ | s
  · exact .kept t keyed .none
  · have continues := Channel.report_continues (c := s.channel) r
    rcases hr : s.channel.report r with ⟨channel, told, orders⟩
    rw [hr] at continues
    have hk : channel.id = k := continues.id.trans (keyed k s (of_current? hc).1)
    simp only [Option.map_some, Slot.channel_owing, hr, Slot.orders_owing]
    exact (uniform_applyUpshot (s := { s with channel := channel }) keyed hk told).behind
      (s.orders orders)

theorem uniform_taskEnded (g : Nat) :
    Uniform k fun reply => ((t.owing k reply).taskEnded k g, .none) := by
  simp only [taskEnded, current?_owing_self hs]
  rcases hc : t.current? k g with _ | s
  · exact .kept t keyed .none
  · have hk : s.channel.id = k := keyed k s (of_current? hc).1
    exact uniform_put (s := { s with channel := { s.channel with ended := true } }) keyed hk
      s.phase .none

theorem uniform_bearerRetry (host : Host) (g : Nat) :
    Uniform k fun reply => (t.owing k reply).bearerRetry host k g := by
  simp only [bearerRetry, current?_owing_self hs]
  rcases hc : t.current? k g with _ | s
  · exact .kept t keyed .none
  · have hk : s.channel.id = k := keyed k s (of_current? hc).1
    by_cases waits : s.phase = .awaitingBearer
    · have refused (refusal : Refusal)
          (h : (t.bearers.retry host k).2.1 = some (.failed refusal)) : refusal.result ≠ .ok :=
        Refusal.result_of_bearer (BearerRegistry.refusal_of_retry h)
      rcases hr : t.bearers.retry host k with ⟨bearers, _ | outcome, calls⟩
      · simp only [Option.map_some, Slot.phase_owing, waits, bearers_owing, hr]
        exact .kept { t with bearers := bearers } keyed (.call calls)
      · simp only [hr, Option.some.injEq] at refused
        simp only [Option.map_some, Slot.phase_owing, waits, bearers_owing, hr]
        exact (uniform_afterBearer (t := { t with bearers := bearers }) keyed hk refused).behind
          (.call calls)
    · simp only [Option.map_some, Slot.phase_owing, ne_eq, waits, not_false_eq_true, if_true]
      exact .kept t keyed .none

theorem uniform_bearerChange {told : BearerChange}
    (refused : ∀ refusal, told = .failed refusal → refusal.result ≠ .ok) :
    Uniform k fun reply => (t.owing k reply).bearerChange k told := by
  simp only [bearerChange, get?_owing_self, hs, Option.map_some]
  have hk := keyed k s hs
  cases told with
  | ready =>
    by_cases waits : s.phase = .awaitingBearer
    · simp only [Slot.phase_owing, waits, if_true]
      exact uniform_startSocket keyed hk
    · simp only [Slot.phase_owing, waits, if_false]
      exact .kept t keyed .none
  | failed refusal =>
    by_cases waits : s.phase = .awaitingBearer
    · simp only [Slot.phase_owing, waits, if_true]
      exact uniform_giveUpOpen hk t (refused refusal rfl)
    · simp only [Slot.phase_owing, waits, if_false]
      exact .kept t keyed .none
  | lost => exact uniform_bearerLost hk t

theorem uniform_closeChannel (new : Reply) (keepListening : Bool) :
    Uniform k fun reply => (t.owing k reply).closeChannel new k keepListening := by
  simp only [closeChannel, get?_owing_self, hs, Option.map_some, Slot.channel_owing]
  have continues := Channel.close_continues (c := s.channel) keepListening
  rcases hclose : s.channel.close keepListening with ⟨closed, outcome, orders⟩
  rw [hclose] at continues
  cases outcome with
  | released =>
    simp only [free_owing_self, Slot.orders_owing]
    exact .settled _ _
  | listening =>
    have hk : closed.id = k := continues.id.trans (keyed k s hs)
    simp only [Slot.orders_owing]
    exact uniform_put (s := { s with channel := closed }) keyed hk s.phase _

end Steps

theorem uniform_sendData {data : Transfer} (keyed : t.Keyed)
    (hs : t.slots.get? data.channel = some s) (new : Reply) (immediate : Bool) :
    Uniform data.channel fun reply => (t.owing data.channel reply).sendData new data immediate := by
  rcases hp : s.pending with _ | pending
  · have settled : ∀ s', t.slots.get? data.channel = some s' → s'.pending = none := by
      intro s' hs'
      cases hs.symm.trans hs'
      exact hp
    simp only [owing_of_settled settled]
    exact .settled _ _
  · -- A channel that has an answer to give takes no other send.
    have busy (reply : Reply) : (s.owing reply).phase ≠ .opened ∨
        (s.owing reply).pending.isSome = true := .inr (by simp [hp])
    simp only [sendData, get?_owing_self, hs, Option.map_some, if_pos (busy _)]
    exact .kept t keyed _

theorem uniform_receiveData {data : Transfer} (keyed : t.Keyed)
    (hs : t.slots.get? data.channel = some s) (new : Reply) :
    Uniform data.channel fun reply => (t.owing data.channel reply).receiveData new data := by
  simp only [receiveData, get?_owing_self, hs, Option.map_some, Slot.channel_owing]
  have continues := Channel.receive_continues (c := s.channel) data.length
  rcases hreceive : s.channel.receive data.length with ⟨channel, outcome, orders⟩
  rw [hreceive] at continues
  have hk : channel.id = data.channel := continues.id.trans (keyed _ s hs)
  simp only [Slot.orders_owing]
  exact uniform_put (s := { s with channel := channel }) keyed hk s.phase _

theorem uniform_each {α : Type} {f : ChannelTable → α → ChannelTable × Output} {l : List α}
    (h : ∀ a ∈ l, ∀ t : ChannelTable, t.Keyed → Uniform k fun reply => f (t.owing k reply) a)
    (keyed : t.Keyed) : Uniform k fun reply => (t.owing k reply).each f l := by
  induction l generalizing t with
  | nil => exact .kept t keyed .none
  | cons a l ih =>
    rw [List.forall_mem_cons] at h
    exact (h.1 t keyed).andThen (f := fun t => t.each f l) fun t keyed => ih h.2 keyed

theorem uniform_connectionChanged (keyed : t.Keyed) (k : UInt8) (change : ConnectionChange) :
    Uniform k fun reply => (t.owing k reply).connectionChanged change := by
  have changed : ∀ told ∈ t.bearers.changes change, ∀ t : ChannelTable, t.Keyed →
      Uniform k fun reply => (t.owing k reply).bearerChange told.1 told.2 := by
    rintro ⟨j, told⟩ listed t keyed
    by_cases hj : j = k
    · subst hj
      rcases hs : t.slots.get? j with _ | s
      · simp only [owing_of_settled (k := j) (t := t) (by simp [hs])]
        exact .settled _ _
      · refine uniform_bearerChange keyed hs fun refusal fails => ?_
        obtain ⟨request, -, means⟩ :=
          Option.bind_eq_some_iff.mp (BearerRegistry.mem_changes_iff.mp listed)
        rw [BearerRegistry.refusal_of_changeFor (means.trans (congrArg some fails))]
        decide
    · exact (blind_bearerChange keyed hj told).uniform (balanced_bearerChange keyed j told).keyed
  have each := uniform_each
    (f := fun t (told : UInt8 × BearerChange) => t.bearerChange told.1 told.2) changed
    (t := { t with bearers := (t.bearers.connectionChanged change).1 }) keyed
  exact each.behind (.call (t.bearers.connectionChanged change).2.2)

/-- A step with tables that differ in one way to answer at most. -/
theorem uniform_step (keyed : t.Keyed) (k : UInt8) (input : TableInput) :
    Uniform k fun reply => (t.owing k reply).step input := by
  rcases hs : t.slots.get? k with _ | s
  · simp only [owing_of_settled (k := k) (t := t) (by simp [hs])]
    exact .settled _ _
  · cases input with
    | openChannel host new settings =>
      exact (blind_openChannel hs host new settings).uniform
        (balanced_openChannel keyed host new settings).keyed
    | closeChannel new j keepListening =>
      by_cases hj : j = k
      · subst hj
        exact uniform_closeChannel keyed hs new keepListening
      · exact (blind_closeChannel keyed hj new keepListening).uniform
          (balanced_closeChannel keyed new j keepListening).keyed
    | sendData new data immediate =>
      by_cases hj : data.channel = k
      · subst hj
        exact uniform_sendData keyed hs new immediate
      · exact (blind_sendData keyed hj new immediate).uniform
          (balanced_sendData keyed new data immediate).keyed
    | receiveData new data =>
      by_cases hj : data.channel = k
      · subst hj
        exact uniform_receiveData keyed hs new
      · exact (blind_receiveData keyed hj new).uniform (balanced_receiveData keyed new data).keyed
    | channelStatus new =>
      simp only [step, channelStatus, words_owing]
      exact .kept t keyed _
    | report j g r =>
      by_cases hj : j = k
      · subst hj
        exact uniform_report keyed hs g r
      · exact (blind_report keyed hj g r).uniform (balanced_report keyed j g r).keyed
    | bearerRetry host j g =>
      by_cases hj : j = k
      · subst hj
        exact uniform_bearerRetry keyed hs host g
      · exact (blind_bearerRetry keyed hj host g).uniform
          (balanced_bearerRetry keyed host j g).keyed
    | connectionChanged change => exact uniform_connectionChanged keyed k change
    | taskEnded j g =>
      by_cases hj : j = k
      · subst hj
        exact uniform_taskEnded keyed hs g
      · exact (blind_taskEnded keyed hj g).uniform (balanced_taskEnded keyed j g).keyed
    | sessionEnd => exact (t.blind_sessionEnd k).uniform (balanced_sessionEnd keyed).keyed
    | cardRemoved =>
      simp only [step, cardRemoved_owing]
      exact .settled _ _

/-! Commands that are answered in one way or another -/

/-- An open is refused, fails, or waits, and the way to answer it is kept. -/
theorem uniform_of_openChannel (keyed : t.Keyed) (host : Host) (settings : ChannelSettings) :
    ∃ k, Uniform k fun reply => t.openChannel host reply settings := by
  by_cases size : settings.bufferSize = 0
  · simp only [openChannel, if_pos size, refuseOpen]
    exact ⟨0, .fails t .none (Refusal.result_ofCause _) _⟩
  · rcases hfree : t.firstFree? with _ | k
    · simp only [openChannel, if_neg size, hfree, refuseOpen]
      exact ⟨0, .fails t .none (Refusal.result_ofCause _) _⟩
    · refine ⟨k, ?_⟩
      let s := t.newSlot k ⟨.unreadable, false⟩ settings
      let asked := t.bearers.ask host k settings
      have keyed' : ({ t.enroll s with bearers := asked.1 } : ChannelTable).Keyed :=
        Keyed.put (t := { t with generation := t.generation + 1 }) keyed s
      have refused (refusal : Refusal) (h : asked.2.1 = .failed refusal) :
          refusal.result ≠ .ok :=
        Refusal.result_of_bearer (BearerRegistry.refusal_of_ask h)
      have enrolled (reply : Reply) :
          t.enroll (t.newSlot k reply settings) = (t.enroll s).owing k reply := by
        have free : ∀ s, t.slots.get? k = some s → s.pending = none := by
          simp [get?_of_firstFree? hfree]
        exact put_owing_of_settled (t := { t with generation := t.generation + 1 }) (s := s) free
          rfl reply
      simp only [openChannel_of_firstFree? size hfree, enrolled]
      exact (uniform_afterBearer (s := s) keyed' rfl refused).behind (.call asked.2.2)

/-- A send is answered at once, or waits for its bytes to be sent. -/
theorem uniform_of_sendData (keyed : t.Keyed) (data : Transfer) (immediate : Bool) :
    Uniform data.channel fun reply => t.sendData reply data immediate := by
  simp only [sendData]
  rcases hs : t.slots.get? data.channel with _ | s
  · exact .fails t .none (Refusal.result_ofCause _) none
  · by_cases busy : s.phase ≠ .opened ∨ s.pending.isSome = true
    · simp only [if_pos busy]
      exact .fails t .none (Refusal.result_ofCause _) none
    · have continues := Channel.send_continues (c := s.channel) data.data immediate
      rcases hsend : s.channel.send data.data immediate with ⟨channel, _ | free | _, orders⟩
      · simp only [if_neg busy, hsend]
        exact .succeeds _ .none _ _
      · rw [hsend] at continues
        have idle : ∀ s', t.slots.get? data.channel = some s' → s'.pending = none := by
          intro s' hs'
          cases hs.symm.trans hs'
          simpa using (not_or.mp busy).2
        let flushing : Slot := ⟨channel, s.phase, some (.sending ⟨.unreadable, false⟩ free)⟩
        have kept (reply : Reply) : t.put ⟨channel, s.phase, some (.sending reply free)⟩ =
            (t.put flushing).owing data.channel reply :=
          put_owing_of_settled (s := flushing) idle (continues.id.trans (keyed _ s hs)) reply
        simp only [if_neg busy, hsend, kept, Slot.orders]
        exact .kept _ (keyed.put flushing) _
      · simp only [if_neg busy, hsend]
        exact .fails _ .none (Refusal.result_ofCause _) none

theorem uniform_of_receiveData (t : ChannelTable) (k : UInt8) (data : Transfer) :
    Uniform k fun reply => t.receiveData reply data := by
  simp only [receiveData]
  rcases t.slots.get? data.channel with _ | s
  · exact .fails t .none (Refusal.result_ofCause _) none
  · rcases hreceive : s.channel.receive data.length with ⟨channel, _ | _, orders⟩
    · simp only [hreceive]
      exact .succeeds _ _ _ _
    · simp only [hreceive]
      exact .fails _ _ (Refusal.result_ofCause _) none

theorem uniform_of_closeChannel (t : ChannelTable) (k j : UInt8) (keepListening : Bool) :
    Uniform k fun reply => t.closeChannel reply j keepListening := by
  simp only [closeChannel]
  rcases t.slots.get? j with _ | s
  · exact .fails t .none (Refusal.result_ofCause _) none
  · exact .succeeds _ _ _ _

end ChannelTable

end CardChannels
