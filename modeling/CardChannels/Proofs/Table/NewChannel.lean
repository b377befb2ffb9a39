import CardChannels.Proofs.Table.Refusal
import CardChannels.Proofs.Table.View
import CardChannels.Proofs.Table.Waits

/-!
# Channels that wait for their first bearer

A channel that is made has a slot that says all about its open, and a request for the bearer that
its settings name. While it waits, nothing that happens changes either, but for how far the request
has come and for the news that an earlier task has ended; and its open is not answered.
-/
namespace CardChannels

/-! Answers to one open -/

/-- The response that an effect gives, if it gives one. -/
def Effect.response? : Effect → Option TerminalResponse
  | .respond r => some r
  | .raise _ | .retry .. => none

/-- Whether the open of a channel is still to be answered. -/
def Slot.owesOpen (s : Slot) : Bool :=
  match s.pending with
  | some (.opening ..) => true
  | some (.sending ..) | none => false

/-- A channel whose socket task has ended on its own, or not. -/
def Slot.withEnded (s : Slot) (ended : Bool) : Slot :=
  { s with channel := { s.channel with ended := ended } }

namespace ChannelTable

/-- Whether the channel of a number is there and its open is still to be answered. -/
def owesOpen (t : ChannelTable) (k : UInt8) : Bool := (t.slots.get? k).any Slot.owesOpen

/-- What an input gives out for the open that made the channel of a number: all that this open does
itself, and, as long as it is to be answered, what happens to the channel. Other commands are
answered for themselves. -/
def openEffects (t : ChannelTable) (k : UInt8) (input : TableInput) : List Effect :=
  match input with
  | .openChannel .. =>
    if (t.made? input).any (·.1 = k) then (t.step input).2.effects else []
  | .report j _ _ | .bearerRetry _ j _ =>
    if j = k ∧ t.owesOpen k then (t.step input).2.effects else []
  | .connectionChanged change =>
    if t.owesOpen k then t.changeEffects change k else []
  | .closeChannel .. | .sendData .. | .receiveData .. | .channelStatus _ | .taskEnded ..
  | .sessionEnd | .cardRemoved => []

/-- Whether the channel of a generation has a number and waits for its bearer. -/
def Waits (t : ChannelTable) (k : UInt8) (g : Nat) : Prop :=
  ∃ s, t.slots.get? k = some s ∧ s.channel.generation = g ∧ s.phase = .awaitingBearer

theorem waits_iff {t : ChannelTable} {k : UInt8} {g : Nat} : t.Waits k g ↔
    (t.slots.get? k).map (fun s => (s.channel.generation, s.phase)) = some (g, .awaitingBearer) := by
  simp only [Waits, Option.map_eq_some_iff, Prod.mk.injEq]

instance (t : ChannelTable) (k : UInt8) (g : Nat) : Decidable (t.Waits k g) :=
  decidable_of_iff _ waits_iff.symm

end ChannelTable

/-! Channels that wait -/

namespace Slot

/-- A start does not mind whether an earlier task has ended. -/
theorem start_withEnded (s : Slot) (ended : Bool) (timeout : Nat) :
    (s.withEnded ended).channel.start timeout = s.channel.start timeout := by
  have horder : (s.withEnded ended).channel.startOrder timeout = s.channel.startOrder timeout :=
    rfl
  unfold Channel.start
  rw [horder]
  rcases s.channel.startOrder timeout with cause | order
  all_goals rfl

theorem startedTold_withEnded (s : Slot) (ended : Bool) (timeout : Nat) :
    (s.withEnded ended).startedTold timeout = s.startedTold timeout := by
  unfold startedTold
  rw [s.start_withEnded]
  rfl

end Slot

namespace ChannelView

variable {v : ChannelView} {s s' : Slot}

theorem started_withEnded (v : ChannelView) (s : Slot) (ended : Bool) :
    v.started (s.withEnded ended) = v.started s := by
  unfold started
  rw [s.start_withEnded]
  rfl

/-- An open whose channel still waits has been told to wait, and has not been answered. -/
theorem wentOn_of_waits {outcome : BearerAnswer} (h : (v.wentOn s outcome).slot = some s')
    (waits : s'.phase = .awaitingBearer) (timeout : Nat) :
    v.wentOn s outcome = v ∧ outcome.upAfter = some false ∧
      (s.wentOnTold timeout outcome).filterMap Effect.response? = [] := by
  cases outcome with
  | ready => exact absurd waits (not_waits_started h)
  | pending | retryAfter => exact ⟨rfl, rfl, rfl⟩
  | failed refusal => cases h

/-- A channel that is told of its bearer waits no more. -/
theorem not_waits_afterChange {told : BearerChange} (hs : v.slot = some s)
    (waits : s.phase = .awaitingBearer) (h : (v.afterChange told).slot = some s') :
    s'.phase ≠ .awaitingBearer := by
  unfold afterChange at h
  rw [hs] at h
  cases told with
  | ready => exact not_waits_started (by simpa [waits] using h)
  | failed refusal => simp [waits, freed] at h
  | lost => cases h

/-- What is left of a new channel while it waits: its slot, but for the news that a task has ended,
and a request that is for its bearer. -/
def IsNew (v₀ : ChannelView) (s : Slot) (r : BearerRequest) (v : ChannelView) : Prop :=
  ∃ ended r', v = { v₀ with slot := some (s.withEnded ended), request := some r' } ∧
    r'.broughtUp = r

end ChannelView

namespace BearerRegistry

variable {c : BearerRegistry} {k : UInt8} {r : BearerRequest} {settings : ChannelSettings}
  {up : Bool}

/-- The request for the bearer that some settings name, once that bearer is up. -/
def target (c : BearerRegistry) (settings : ChannelSettings) : BearerRequest :=
  match settings.accessName, settings.bearer.bind (·.type?) with
  | some name, some type =>
    if type.isPacketSwitched then ⟨c.channelType, some name, .active⟩
    else ⟨.default, none, .active⟩
  | _, _ => ⟨.default, none, .active⟩

theorem of_up? (h : c.up? k = some up) : ∃ r, c.requests.get? k = some r ∧ r.isUp = up :=
  Option.map_eq_some_iff.mp h

/-- A look that does not fail leaves the request for the same bearer. -/
theorem get?_check (hr : c.requests.get? k = some r) (he : r.isEnabled = false) (host : Host)
    (h : (c.check host k r).2.1.upAfter = some up) :
    ∃ r', (c.check host k r).1.requests.get? k = some r' ∧ r'.isUp = up ∧
      r'.broughtUp = r.broughtUp := by
  have hup := (c.up?_check host k k r).trans ((if_pos rfl).trans h)
  obtain ⟨r', hr', hup⟩ := of_up? hup
  exact ⟨r', hr', hup, (looked_check host hr he).broughtUp_eq hr'⟩

theorem broughtUp_askDefault (fresh : c.requests.get? k = none) {host : Host}
    (hr : (c.askDefault host k).1.requests.get? k = some r) :
    r.broughtUp = ⟨.default, none, .active⟩ := by
  unfold askDefault at hr
  dsimp only at hr
  split at hr
  · rw [get?_put, if_pos rfl] at hr
    cases hr
    rfl
  · rw [get?_put, if_pos rfl] at hr
    cases hr
    rfl
  · cases fresh.symm.trans hr
  · cases fresh.symm.trans hr

/-- A channel that asks for its bearer and does not fail has a request for that bearer. -/
theorem get?_ask (fresh : c.requests.get? k = none) (needs : settings.bearer.isSome = true)
    (host : Host) (h : (c.ask host k settings).2.1.upAfter = some up) :
    ∃ r, (c.ask host k settings).1.requests.get? k = some r ∧ r.isUp = up ∧
      r.broughtUp = c.target settings := by
  obtain ⟨bearer, hb⟩ := Option.isSome_iff_exists.mp needs
  have hask : c.ask host k settings = c.request host k bearer settings.accessName := by
    rw [ask, hb]
  rw [hask] at h ⊢
  have hup := (up?_request (up?_eq_none_iff.mpr fresh) host bearer settings.accessName k).trans
    ((if_pos rfl).trans h)
  obtain ⟨r, hr, hup⟩ := of_up? hup
  refine ⟨r, hr, hup, ?_⟩
  rw [target, hb, Option.bind_some]
  unfold request at hr
  rcases hname : settings.accessName with _ | name
  · rw [hname] at hr
    exact broughtUp_askDefault fresh hr
  · rw [hname] at hr
    rcases htype : bearer.type? with _ | type
    · rw [htype] at hr
      exact broughtUp_askDefault fresh hr
    · rw [htype] at hr
      dsimp only at hr ⊢
      by_cases hp : type.isPacketSwitched = true
      · rw [if_pos hp] at hr ⊢
        have hlooked := looked_check (c := c.put k ⟨c.channelType, some name, .provisioning 0⟩)
          (k := k) host (by rw [get?_put, if_pos rfl]) rfl
        exact hlooked.broughtUp_eq hr
      · rw [if_neg hp] at hr ⊢
        exact broughtUp_askDefault fresh hr

end BearerRegistry

namespace ChannelTable

variable {t t' : ChannelTable} {k : UInt8} {g : Nat} {s : Slot} {reply : Reply}
  {settings : ChannelSettings}

theorem made?_openChannel_iff {host : Host} :
    t.made? (.openChannel host reply settings) = some (k, g) ↔
      settings.bufferSize ≠ 0 ∧ t.firstFree? = some k ∧ g = t.generation + 1 := by
  unfold made?
  by_cases size : settings.bufferSize = 0
  · simp [size]
  · rcases t.firstFree? with _ | j
    · simp [size]
    · simp [size, eq_comm]

/-- An open that makes a channel gives out everything for itself. -/
theorem openEffects_of_made {host : Host}
    (made : t.made? (.openChannel host reply settings) = some (k, g)) :
    t.openEffects k (.openChannel host reply settings) =
      (t.openChannel host reply settings).2.effects := by
  rw [openEffects, made]
  simp [step]

/-- What an open that gets a number leaves of each channel. -/
theorem view_openChannel (size : settings.bufferSize ≠ 0) (hfree : t.firstFree? = some k)
    (host : Host) (reply : Reply) (j : UInt8) :
    (t.openChannel host reply settings).1.view j =
      if j = k then
        { t.view j with
          slot := some (t.newSlot k reply settings)
          request := (t.bearers.ask host k settings).1.requests.get? k }.wentOn
          (t.newSlot k reply settings) (t.bearers.ask host k settings).2.1
      else t.view j := by
  have hbearers : (t.bearers.ask host k settings).1.forget k =
      (t.enroll (t.newSlot k reply settings)).bearers.forget k :=
    t.bearers.forget_ask host k settings
  have henroll : (t.enroll (t.newSlot k reply settings)).view j =
      if j = k then { t.view j with slot := some (t.newSlot k reply settings) }
      else t.view j := view_put { t with generation := t.generation + 1 } _ j
  rw [openChannel_of_firstFree? size hfree host reply]
  refine (view_afterBearer ..).trans ?_
  rw [view_of_forget_eq hbearers, henroll]
  by_cases hj : j = k
  · simp only [if_pos hj, newSlot, Channel.new]
  · simp only [if_neg hj, newSlot, Channel.new]

theorem effects_openChannel (size : settings.bufferSize ≠ 0) (hfree : t.firstFree? = some k)
    (host : Host) (reply : Reply) :
    (t.openChannel host reply settings).2.effects =
      (t.newSlot k reply settings).wentOnTold t.connectTimeout
        (t.bearers.ask host k settings).2.1 := by
  rw [openChannel_of_firstFree? size hfree host reply]
  exact effects_afterBearer ..

/-- Other channels take no notice of an open. -/
theorem view_openChannel_of_held (hs : t.slots.get? k = some s) (host : Host) (reply : Reply)
    (settings : ChannelSettings) : (t.openChannel host reply settings).1.view k = t.view k := by
  by_cases size : settings.bufferSize = 0
  · rw [openChannel, if_pos size]
  · rcases hfree : t.firstFree? with _ | j
    · rw [openChannel, if_neg size, hfree]
    · have hk : k ≠ j := by
        rintro rfl
        cases (get?_of_firstFree? hfree).symm.trans hs
      rw [view_openChannel size hfree, if_neg hk]

/-- A channel that has just been made and waits for its bearer is new, and its open has not been
answered. -/
theorem isNew_openChannel (fresh : t.bearers.requests.get? k = none)
    (size : settings.bufferSize ≠ 0) (hfree : t.firstFree? = some k) (host : Host)
    (waits : (t.openChannel host reply settings).1.Waits k g) :
    settings.bearer.isSome = true ∧
      (t.view k).IsNew (t.newSlot k reply settings) (t.bearers.target settings)
        ((t.openChannel host reply settings).1.view k) ∧
      (t.openChannel host reply settings).2.effects.filterMap Effect.response? = [] := by
  obtain ⟨s', hs', -, waits⟩ := waits
  have hview := view_openChannel size hfree host reply k
  rw [if_pos rfl] at hview
  have hslot := congrArg ChannelView.slot hview
  obtain ⟨hsame, hup, hquiet⟩ :=
    ChannelView.wentOn_of_waits (hslot.symm.trans hs') waits t.connectTimeout
  have needs : settings.bearer.isSome = true := by
    by_contra hnone
    have hask : t.bearers.ask host k settings = (t.bearers, .ready, []) := by
      rw [BearerRegistry.ask, Option.not_isSome_iff_eq_none.mp hnone]
    rw [hask] at hup
    cases hup
  obtain ⟨r, hr, -, htarget⟩ := BearerRegistry.get?_ask fresh needs host hup
  refine ⟨needs, ⟨false, r, ?_, htarget⟩, ?_⟩
  · rw [hview, hsame, hr]
    rfl
  · rw [effects_openChannel size hfree host reply]
    exact hquiet

/-! Inputs while a channel waits -/

/-- An open gives nothing out for the open of another channel. -/
theorem openEffects_of_held (hs : t.slots.get? k = some s) (host : Host) (reply : Reply)
    (settings : ChannelSettings) : t.openEffects k (.openChannel host reply settings) = [] := by
  refine if_neg fun hany => ?_
  obtain ⟨⟨j, n⟩, hmade, hj⟩ := (Option.any_eq_true ..).mp hany
  obtain rfl : j = k := of_decide_eq_true hj
  have hfree := (made?_openChannel_iff.mp hmade).2.1
  cases (get?_of_firstFree? hfree).symm.trans hs

/-- A channel that has no socket task is taken away by a close. -/
theorem closeChannel_of_unattached (hs : t.slots.get? k = some s)
    (unattached : s.channel.attached = false) (reply : Reply) (keepListening : Bool) :
    (t.closeChannel reply k keepListening).1.slots.get? k = none := by
  have hclose : (s.channel.close keepListening).2.1 = .released := by
    rw [Channel.close, if_neg (by simp [unattached])]
  unfold closeChannel
  rw [hs]
  rcases h : s.channel.close keepListening with ⟨closed, outcome, orders⟩
  rw [h] at hclose
  obtain rfl : outcome = .released := hclose
  dsimp only
  rw [h]
  simp

theorem sendData_of_waits (hs : t.slots.get? k = some s) (waits : s.phase = .awaitingBearer)
    (reply : Reply) {data : Transfer} (hk : data.channel = k) (immediate : Bool) :
    (t.sendData reply data immediate).1 = t := by
  unfold sendData
  rw [hk, hs]
  dsimp only
  rw [if_pos (.inl (by simp [waits]))]

/-- There is nothing to receive on a channel that has no link and has stored nothing. -/
theorem receiveData_of_empty (id : s.channel.id = k) (hs : t.slots.get? k = some s)
    (empty : s.channel.received.isEmpty = true) (link : s.channel.link ≠ .established)
    (reply : Reply) {data : Transfer} (hk : data.channel = k) :
    (t.receiveData reply data).1 = t := by
  have hreceive : s.channel.receive data.length = (s.channel, .closed, []) := by
    rw [Channel.receive, if_pos ⟨empty, link⟩]
  unfold receiveData
  rw [hk, hs]
  dsimp only
  rw [hreceive]
  exact put_self (id.symm ▸ hs)

/-- That a task has ended is all that is noticed. -/
theorem slot_taskEnded {ended : Bool} (id : s.channel.id = k)
    (hs : t.slots.get? k = some (s.withEnded ended)) (n : Nat) :
    ∃ ended', (t.taskEnded k n).view k =
      { t.view k with slot := some (s.withEnded ended') } := by
  by_cases hn : s.channel.generation = n
  · have hcurrent : t.current? k n = some (s.withEnded ended) := by
      simp [current?, hs, hn, Slot.withEnded]
    refine ⟨true, ?_⟩
    rw [taskEnded, hcurrent]
    exact (view_put t (s.withEnded true) k).trans (if_pos id.symm)
  · have stale : t.taskEnded k n = t := taskEnded_stale fun s' hs' => by
      cases hs.symm.trans hs'
      exact hn
    refine ⟨ended, ?_⟩
    rw [stale, ← hs]
    rfl

/-- A look after which a channel still waits has left its request for the same bearer, and has not
answered its open. -/
theorem view_bearerRetry_of_waits {host : Host} {n : Nat} {r : BearerRequest} (keyed : t.Keyed)
    (hs : t.slots.get? k = some s) (hr : t.bearers.requests.get? k = some r)
    (waits : (t.bearerRetry host k n).1.Waits k g) :
    (∃ r', (t.bearerRetry host k n).1.view k = { t.view k with request := some r' } ∧
        r'.broughtUp = r.broughtUp) ∧
      (t.bearerRetry host k n).2.effects.filterMap Effect.response? = [] := by
  obtain ⟨s', hs', -, waits⟩ := waits
  rcases t.bearerRetry_cases host k n with ⟨idle, -⟩ | ⟨s₁, r₁, hs₁, -, -, hr₁, he, looked⟩
  · rw [idle]
    refine ⟨⟨r, ?_, rfl⟩, rfl⟩
    rw [← hr]
    rfl
  · obtain rfl : s₁ = s := Option.some.inj (hs₁.symm.trans hs)
    obtain rfl : r₁ = r := Option.some.inj (hr₁.symm.trans hr)
    have hview : (t.bearerRetry host k n).1.view k =
        { t.view k with request := (t.bearers.check host k r₁).1.requests.get? k }.wentOn s₁
          (t.bearers.check host k r₁).2.1 := by
      rw [looked]
      refine (view_afterBearer ..).trans ?_
      rw [if_pos (keyed k s₁ hs).symm, view_of_forget_eq (t.bearers.forget_check host k r₁),
        if_pos rfl]
    have hslot := congrArg ChannelView.slot hview
    obtain ⟨hsame, hup, hquiet⟩ :=
      ChannelView.wentOn_of_waits (hslot.symm.trans hs') waits t.connectTimeout
    obtain ⟨r', hr', -, hfor⟩ := BearerRegistry.get?_check hr he host hup
    refine ⟨⟨r', ?_, hfor⟩, ?_⟩
    · rw [hview, hsame, hr']
    · rw [looked, Output.effects_append, Output.effects_call, List.nil_append, effects_afterBearer]
      exact hquiet

/-- A change of the connection after which a channel still waits was not for that channel. -/
theorem connectionChanged_of_waits {change : ConnectionChange} (keyed : t.Keyed)
    (hs : t.slots.get? k = some s) (waited : s.phase = .awaitingBearer)
    (waits : (t.connectionChanged change).1.Waits k g) :
    (t.connectionChanged change).1.view k = t.view k ∧ t.changeEffects change k = [] := by
  obtain ⟨s', hs', -, waits⟩ := waits
  have hview := view_connectionChanged keyed change k
  have hslot := congrArg ChannelView.slot hview
  rw [ChannelView.connectionChanged] at hview hslot
  rcases htold : (t.view k).changeOf change with _ | told
  · rw [hview, changeEffects_eq, ChannelView.connectionTold, ChannelView.requestAfter, htold]
    exact ⟨rfl, rfl⟩
  · rw [htold] at hslot
    exact absurd waits (ChannelView.not_waits_afterChange (v := { t.view k with
      request := (t.view k).requestAfter change }) hs waited (hslot.symm.trans hs'))

end ChannelTable

namespace TableHistory.Tracks

variable {config : Config} {past : TableHistory} {t : ChannelTable} {input : TableInput}
  {k : UInt8} {g : Nat} {s : Slot} {v₀ : ChannelView} {r : BearerRequest}
  {settings : ChannelSettings}

/-- A step of a run after which a channel still waits for its bearer has left it new, and has not
answered its open. -/
theorem isNew_step (h : past.Tracks config t) (admitted : past.Admits input)
    (hnew : s.channel = .new k g settings) (phase : s.phase = .awaitingBearer)
    (new : v₀.IsNew s r (t.view k)) (waits : (t.step input).1.Waits k g) :
    v₀.IsNew s r ((t.step input).1.view k) ∧
      (t.openEffects k input).filterMap Effect.response? = [] := by
  obtain ⟨ended, r', hview, hr'⟩ := id new
  have hs : t.slots.get? k = some (s.withEnded ended) := congrArg ChannelView.slot hview
  have hr : t.bearers.requests.get? k = some r' := congrArg ChannelView.request hview
  have keyed : t.Keyed := fun k s hs => (h.inStep.slot k s hs).id
  have waited : (s.withEnded ended).phase = .awaitingBearer := phase
  have hid : s.channel.id = k := by rw [hnew]; rfl
  have same (hview : (t.step input).1.view k = t.view k) (quiet : t.openEffects k input = []) :
      v₀.IsNew s r ((t.step input).1.view k) ∧
        (t.openEffects k input).filterMap Effect.response? = [] := by
    rw [hview, quiet]
    exact ⟨new, rfl⟩
  have aboutOther {j : UInt8} (hj : input.subject? = some j) (hk : k ≠ j) :
      (t.step input).1.view k = t.view k :=
    ChannelTable.view_actsOn_of_ne (ChannelTable.actsOn_step hj (keyed j)) hk
  cases input with
  | openChannel host reply settings =>
    exact same (ChannelTable.view_openChannel_of_held hs host reply settings)
      (ChannelTable.openEffects_of_held hs host reply settings)
  | closeChannel reply j keepListening =>
    by_cases hk : k = j
    · subst hk
      have unattached : (s.withEnded ended).channel.attached = false := by
        rw [Slot.withEnded, hnew]; rfl
      obtain ⟨s', hs', -⟩ := waits
      cases (ChannelTable.closeChannel_of_unattached hs unattached reply keepListening).symm.trans
        hs'
    · exact same (aboutOther rfl hk) rfl
  | sendData reply data immediate =>
    by_cases hk : k = data.channel
    · exact same (congrArg (·.view k)
        (ChannelTable.sendData_of_waits hs waited reply hk.symm immediate)) rfl
    · exact same (aboutOther rfl hk) rfl
  | receiveData reply data =>
    by_cases hk : k = data.channel
    · have empty : (s.withEnded ended).channel.received.isEmpty = true := by
        rw [Slot.withEnded, hnew]; rfl
      have link : (s.withEnded ended).channel.link ≠ .established := by
        rw [Slot.withEnded, hnew]; simp [Channel.new]
      exact same (congrArg (·.view k)
        (ChannelTable.receiveData_of_empty (s := s.withEnded ended) hid hs empty link reply
          hk.symm)) rfl
    · exact same (aboutOther rfl hk) rfl
  | channelStatus reply => exact same rfl rfl
  | report j n q =>
    by_cases hk : k = j
    · subst hk
      -- The channel has no task yet, so the report is from an earlier one.
      have stale : ∀ s, t.slots.get? k = some s → s.channel.generation ≠ n := by
        rintro s₁ hs₁ rfl
        cases hs.symm.trans hs₁
        exact h.started admitted k _ q hs (by simp [TableInput.heard]) waited
      have idle := ChannelTable.report_stale stale q
      refine same (congrArg (·.1.view k) idle) ?_
      rw [ChannelTable.openEffects, ChannelTable.step, idle]
      exact ite_self _
    · exact same (aboutOther rfl hk) (if_neg (by simp [Ne.symm hk]))
  | bearerRetry host j n =>
    by_cases hk : k = j
    · subst hk
      obtain ⟨⟨q, hview', hfor⟩, quiet⟩ :=
        ChannelTable.view_bearerRetry_of_waits keyed hs hr waits
      refine ⟨⟨ended, q, ?_, hfor.trans hr'⟩, ?_⟩
      · exact hview'.trans (by rw [hview])
      · rw [ChannelTable.openEffects]
        split
        · exact quiet
        · rfl
    · exact same (ChannelTable.view_bearerRetry_of_ne keyed host n hk)
        (if_neg (by simp [Ne.symm hk]))
  | connectionChanged change =>
    obtain ⟨hview', quiet⟩ := ChannelTable.connectionChanged_of_waits keyed hs waited waits
    refine same hview' ?_
    rw [ChannelTable.openEffects, quiet]
    exact ite_self _
  | taskEnded j n =>
    by_cases hk : k = j
    · subst hk
      obtain ⟨ended', hview'⟩ := ChannelTable.slot_taskEnded hid hs n
      exact ⟨⟨ended', r', hview'.trans (by rw [hview]), hr'⟩, rfl⟩
    · exact same (aboutOther rfl hk) rfl
  | sessionEnd =>
    obtain ⟨s', hs', -⟩ := waits
    have opened := ChannelTable.opened_of_sessionEnd keyed hs hs'
    rw [waited] at opened
    cases opened
  | cardRemoved =>
    obtain ⟨s', hs', -⟩ := waits
    cases hs'

end TableHistory.Tracks

end CardChannels
