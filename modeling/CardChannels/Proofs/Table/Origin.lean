import CardChannels.Proofs.Table.View

/-!
# Where a slot comes from

The slot that a channel has after a step is the one from before, the slot of a new channel, or one
of these two after exactly one thing was done to its channel. Every fact about single channels along
a run follows from this list.
-/
namespace CardChannels

/-- The answer that is kept after a send. -/
def Delivery.pending? (reply : Reply) : Delivery → Option PendingReply
  | .flushing free => some (.sending reply free)
  | .buffered _ | .closed => none

/-- The slot that a report leaves, by what it means. -/
def Upshot.slot? (s : Slot) (channel : Channel) : Upshot → Option Slot
  | .opened _ => some ⟨channel, .opened, none⟩
  | .openFailed _ | .sendFailed => none
  | .sent => some ⟨channel, s.phase, none⟩
  | .dataAvailable .. | .ignored => some ⟨channel, s.phase, s.pending⟩
  | .statusChanged status =>
    some ⟨channel, s.phase, if status.state = .established then s.pending else none⟩

/-- A report opens the channel or leaves its phase. -/
theorem Upshot.phase_of_slot? {s s' : Slot} {channel : Channel} {upshot : Upshot}
    (h : upshot.slot? s channel = some s') :
    s'.phase = .opened ∨ s'.phase = s.phase ∧ ∀ status, upshot ≠ .opened status := by
  cases upshot with
  | opened status =>
    cases h
    exact .inl rfl
  | openFailed | sendFailed => cases h
  | sent | dataAvailable | ignored | statusChanged =>
    cases h
    exact .inr ⟨rfl, by simp⟩

/-- What the end of the session leaves of a slot: an open client, which owes no answer any more. -/
def Slot.outlasting? (s : Slot) : Option Slot :=
  if s.phase = .opened ∧ s.channel.kind ≠ .tcpServer then
    some ⟨s.channel.resume.1, .opened, none⟩
  else none

theorem Slot.outlasting?_eq_some_iff {s s' : Slot} :
    s.outlasting? = some s' ↔ (s.phase = .opened ∧ s.channel.kind ≠ .tcpServer) ∧
      ⟨s.channel.resume.1, .opened, none⟩ = s' := by
  rw [outlasting?, Option.ite_none_right_eq_some, Option.some.injEq]

/-- Where the slot of a channel after a step comes from, given the slot that there was and the
orders for the task of each of the channel's generations. -/
inductive Slot.Origin (t : ChannelTable) (k : UInt8) (input : TableInput)
    (told : Nat → List Order) : Option Slot → Slot → Prop
  | stays {s : Slot} (unclosed : ∀ reply keepListening,
      input ≠ .closeChannel reply k keepListening) : Origin t k input told (some s) s
  /-- The bearer is up, and the socket task is started. -/
  | started {s : Slot} {channel : Channel} {orders : List Order}
    (uncommanded : input.subject? = none) (waits : s.phase = .awaitingBearer)
    (start : s.channel.start t.connectTimeout = .ok (channel, orders))
    (given : ∀ o ∈ orders, o ∈ told s.channel.generation) :
    Origin t k input told (some s) ⟨channel, .opening, s.pending⟩
  | new {host : Host} {reply : Reply} {settings : ChannelSettings}
    (asked : input = .openChannel host reply settings) :
    Origin t k input told none (t.newSlot k reply settings)
  /-- The bearer of a new channel is up at once. -/
  | newStarted {host : Host} {reply : Reply} {settings : ChannelSettings} {channel : Channel}
    {orders : List Order} (asked : input = .openChannel host reply settings)
    (start : (t.newSlot k reply settings).channel.start t.connectTimeout = .ok (channel, orders))
    (given : ∀ o ∈ orders, o ∈ told (t.generation + 1)) :
    Origin t k input told none ⟨channel, .opening, (t.newSlot k reply settings).pending⟩
  /-- A server has given up its client only. -/
  | kept {s : Slot} {reply : Reply} {channel : Channel} {orders : List Order}
    (asked : input = .closeChannel reply k true)
    (closed : s.channel.close true = (channel, .listening, orders)) :
    Origin t k input told (some s) { s with channel := channel }
  | sent {s : Slot} {reply : Reply} {data : Transfer} {immediate : Bool} {channel : Channel}
    {outcome : Delivery} {orders : List Order} (asked : input = .sendData reply data immediate)
    (about : data.channel = k) (opened : s.phase = .opened) (free : s.pending = none)
    (send : s.channel.send data.data immediate = (channel, outcome, orders)) :
    Origin t k input told (some s) ⟨channel, .opened, outcome.pending? reply⟩
  | fetched {s : Slot} {reply : Reply} {data : Transfer}
    (asked : input = .receiveData reply data) (about : data.channel = k) :
    Origin t k input told (some s) { s with channel := (s.channel.receive data.length).1 }
  | reported {s s' : Slot} {r : Report} {channel : Channel} {upshot : Upshot}
    {orders : List Order} (heard : input = .report k s.channel.generation r)
    (report : s.channel.report r = (channel, upshot, orders))
    (left : upshot.slot? s channel = some s') : Origin t k input told (some s) s'
  | ended {s : Slot} (heard : input = .taskEnded k s.channel.generation) :
    Origin t k input told (some s) { s with channel := { s.channel with ended := true } }
  /-- A client outlives the session. -/
  | outlived {s : Slot} (ending : input = .sessionEnd) (opened : s.phase = .opened)
    (client : s.channel.kind ≠ .tcpServer) :
    Origin t k input told (some s) ⟨s.channel.resume.1, .opened, none⟩

/-- A report leaves the channel that it was applied to. -/
theorem Upshot.channel_of_slot? {s s' : Slot} {channel : Channel} {upshot : Upshot}
    (h : upshot.slot? s channel = some s') : s'.channel = channel := by
  cases upshot with
  | openFailed | sendFailed => cases h
  | opened | sent | dataAvailable | ignored | statusChanged =>
    cases h
    rfl

/-- What holds of a channel before a step, or of a new one, and is kept by whatever can be done to
a channel, holds of the channel after the step. -/
theorem Slot.Origin.channel_induction {t : ChannelTable} {k : UInt8} {input : TableInput}
    {told : Nat → List Order} {before : Option Slot} {s' : Slot} {P : Channel → Prop}
    (origin : s'.Origin t k input told before)
    (new : ∀ host reply settings, input = .openChannel host reply settings → before = none →
      P (t.newSlot k reply settings).channel)
    (old : ∀ s, before = some s → P s.channel)
    (step : ∀ c done, P c → (∀ r, done = .report r → (∃ s, before = some s ∧ s.channel = c) ∧
      input = .report k c.generation r) → P (c.step done)) : P s'.channel := by
  have started {c channel : Channel} {orders : List Order}
      (start : c.start t.connectTimeout = .ok (channel, orders)) (h : P c) : P channel := by
    have same : c.step (.start t.connectTimeout) = channel := by
      rw [Channel.step, Channel.started, start]
    exact same ▸ step c (.start t.connectTimeout) h (by simp)
  cases origin with
  | stays unclosed => exact old _ rfl
  | started uncommanded waits start given => exact started start (old _ rfl)
  | new asked => exact new _ _ _ asked rfl
  | newStarted asked start given => exact started start (new _ _ _ asked rfl)
  | @kept s reply channel orders asked closed =>
    have same : s.channel.step (.close true) = channel := congrArg (·.1) closed
    exact same ▸ step s.channel (.close true) (old s rfl) (by simp)
  | @sent s reply data immediate channel outcome orders asked about opened free send =>
    have same : s.channel.step (.send data.data immediate) = channel := congrArg (·.1) send
    exact same ▸ step s.channel (.send data.data immediate) (old s rfl) (by simp)
  | @fetched s reply data asked about =>
    exact step s.channel (.receive data.length) (old s rfl) (by simp)
  | @reported s s' r channel upshot orders heard report left =>
    have same : s.channel.step (.report r) = s'.channel :=
      (congrArg (·.1) report).trans (Upshot.channel_of_slot? left).symm
    refine same ▸ step s.channel (.report r) (old s rfl) ?_
    rintro r' ⟨⟩
    exact ⟨⟨s, rfl, rfl⟩, heard⟩
  | @ended s heard => exact step s.channel .taskEnded (old s rfl) (by simp)
  | @outlived s ending opened client =>
    have same : s.channel.step .sessionEnd = s.channel.resume.1 := by
      rw [Channel.step, Channel.sessionEnd, if_neg client]
    exact same ▸ step s.channel .sessionEnd (old s rfl) (by simp)

namespace ChannelTable

variable {t : ChannelTable} {j k : UInt8} {g : Nat} {s s' : Slot} {input : TableInput}
  {told : Nat → List Order}

theorem of_get?_put (hs' : (t.put s).slots.get? k = some s') :
    k = s.channel.id ∧ s' = s ∨ k ≠ s.channel.id ∧ t.slots.get? k = some s' := by
  rw [get?_put] at hs'
  split at hs'
  · rename_i hk
    exact .inl ⟨hk, (Option.some.inj hs').symm⟩
  · rename_i hk
    exact .inr ⟨hk, hs'⟩

theorem of_get?_free (hs' : (t.free j).1.slots.get? k = some s') : t.slots.get? k = some s' := by
  rw [get?_free] at hs'
  split at hs'
  · cases hs'
  · exact hs'

/-- A slot is left alone, or its socket task is started. -/
def Goes (t : ChannelTable) (told : List Order) (s s' : Slot) : Prop :=
  s' = s ∨ s.phase = .awaitingBearer ∧ ∃ channel orders,
    s.channel.start t.connectTimeout = .ok (channel, orders) ∧ (∀ o ∈ orders, o ∈ told) ∧
    s' = ⟨channel, .opening, s.pending⟩

theorem goes_startSocket (hs : t.slots.get? s.channel.id = some s)
    (waits : s.phase = .awaitingBearer) (hs' : (t.startSocket s).1.slots.get? k = some s') :
    ∃ s₀, t.slots.get? k = some s₀ ∧
      t.Goes ((t.startSocket s).2.told k s₀.channel.generation) s₀ s' := by
  unfold startSocket at hs' ⊢
  dsimp only at hs' ⊢
  rcases hstart : s.channel.start t.connectTimeout with cause | ⟨channel, orders⟩
  · rw [hstart] at hs'
    dsimp only at hs'
    rw [giveUpOpen_fst] at hs'
    exact ⟨s', of_get?_free hs', .inl rfl⟩
  · rw [hstart] at hs'
    rcases of_get?_put hs' with ⟨rfl, rfl⟩ | ⟨-, hs'⟩
    · have continues := Channel.start_continues hstart
      refine ⟨s, continues.id ▸ hs, .inr ⟨waits, channel, orders, hstart, fun o ho => ?_, rfl⟩⟩
      simp [Output.told, Slot.orders, ho, continues.id]
    · exact ⟨s', hs', .inl rfl⟩

theorem goes_afterBearer (hs : t.slots.get? s.channel.id = some s)
    (waits : s.phase = .awaitingBearer) {outcome : BearerAnswer}
    (hs' : (t.afterBearer s outcome).1.slots.get? k = some s') :
    ∃ s₀, t.slots.get? k = some s₀ ∧
      t.Goes ((t.afterBearer s outcome).2.told k s₀.channel.generation) s₀ s' := by
  cases outcome with
  | ready => exact goes_startSocket hs waits hs'
  | pending | retryAfter => exact ⟨s', hs', .inl rfl⟩
  | failed refusal =>
    rw [afterBearer, giveUpOpen_fst] at hs'
    exact ⟨s', of_get?_free hs', .inl rfl⟩

/-- A change of the connection leaves a channel alone, or starts its socket task. -/
theorem goes_bearerChange (keyed : t.Keyed) (change : BearerChange)
    (hs' : (t.bearerChange j change).1.slots.get? k = some s') :
    ∃ s, t.slots.get? k = some s ∧
      t.Goes ((t.bearerChange j change).2.told k s.channel.generation) s s' := by
  unfold bearerChange at hs' ⊢
  rcases hs : t.slots.get? j with _ | sj
  · rw [hs] at hs'
    exact ⟨s', hs', .inl rfl⟩
  · rw [hs] at hs'
    dsimp only at hs' ⊢
    cases change with
    | ready =>
      dsimp only at hs' ⊢
      split at hs'
      · rename_i waits
        rw [if_pos waits]
        exact goes_startSocket ((keyed j sj hs).symm ▸ hs) waits hs'
      · exact ⟨s', hs', .inl rfl⟩
    | failed refusal =>
      dsimp only at hs'
      split at hs'
      · rw [giveUpOpen_fst] at hs'
        exact ⟨s', of_get?_free hs', .inl rfl⟩
      · exact ⟨s', hs', .inl rfl⟩
    | lost =>
      dsimp only at hs'
      rw [bearerLost_fst] at hs'
      exact ⟨s', of_get?_free hs', .inl rfl⟩

theorem connectTimeout_startSocket (t : ChannelTable) (s : Slot) :
    (t.startSocket s).1.connectTimeout = t.connectTimeout := by
  unfold startSocket
  dsimp only
  split
  · rfl
  · rw [giveUpOpen_fst]
    rfl

theorem connectTimeout_bearerChange (t : ChannelTable) (j : UInt8) (change : BearerChange) :
    (t.bearerChange j change).1.connectTimeout = t.connectTimeout := by
  unfold bearerChange
  split
  · rfl
  · cases change with
    | ready =>
      dsimp only
      split
      · exact connectTimeout_startSocket ..
      · rfl
    | failed refusal =>
      dsimp only
      split
      · rw [giveUpOpen_fst]
        rfl
      · rfl
    | lost =>
      dsimp only
      rw [bearerLost_fst]
      rfl

theorem Goes.mono {less more : List Order} (h : t.Goes less s s') (sub : less ⊆ more) :
    t.Goes more s s' := by
  rcases h with same | ⟨waits, channel, orders, start, given, hs'⟩
  · exact .inl same
  · exact .inr ⟨waits, channel, orders, start, fun o ho => sub (given o ho), hs'⟩

theorem goes_bearerChanges (keyed : t.Keyed) (changes : List (UInt8 × BearerChange))
    (hs' : (t.bearerChanges changes).1.slots.get? k = some s') :
    ∃ s, t.slots.get? k = some s ∧
      t.Goes ((t.bearerChanges changes).2.told k s.channel.generation) s s' := by
  induction changes generalizing t with
  | nil => exact ⟨s', hs', .inl rfl⟩
  | cons first rest ih =>
    obtain ⟨s₁, hs₁, second⟩ := ih (keyed_bearerChange keyed first.1 first.2) hs'
    obtain ⟨s, hs, begun⟩ := goes_bearerChange keyed first.2 hs₁
    have told : (t.bearerChanges (first :: rest)).2.told k s.channel.generation =
        (t.bearerChange first.1 first.2).2.told k s.channel.generation ++
          ((t.bearerChange first.1 first.2).1.bearerChanges rest).2.told k s.channel.generation :=
      Output.told_append ..
    refine ⟨s, hs, ?_⟩
    rw [told]
    -- A socket task is started once: after that the channel waits for its bearer no more.
    rcases begun with rfl | ⟨waits, channel, orders, start, given, rfl⟩
    · rcases second with rfl | ⟨waits, channel, orders, start, given, rfl⟩
      · exact .inl rfl
      · rw [connectTimeout_bearerChange] at start
        exact .inr ⟨waits, channel, orders, start,
          fun o ho => List.mem_append_right _ (given o ho), rfl⟩
    · rcases second with rfl | ⟨waits', -⟩
      · exact .inr ⟨waits, channel, orders, start,
          fun o ho => List.mem_append_left _ (given o ho), rfl⟩
      · cases waits'

/-! The end of a session -/

theorem get?_endSession (t : ChannelTable) (s : Slot) (k : UInt8) :
    (t.endSession s).1.slots.get? k =
      if k = s.channel.id then s.outlasting? else t.slots.get? k := by
  unfold endSession Slot.outlasting?
  by_cases opened : s.phase = .opened
  · by_cases server : s.channel.kind = .tcpServer
    · simp [opened, server, Channel.sessionEnd, get?_free]
    · have id : s.channel.resume.1.id = s.channel.id := Channel.resume_continues.id
      simp [opened, server, Channel.sessionEnd, get?_put, id]
  · simp [opened, get?_free]

theorem get?_each_endSession_other (t : ChannelTable) {ended : List Slot}
    (other : ∀ s ∈ ended, s.channel.id ≠ k) :
    (t.each endSession ended).1.slots.get? k = t.slots.get? k := by
  induction ended generalizing t with
  | nil => rfl
  | cons first rest ih =>
    obtain ⟨own, others⟩ := List.forall_mem_cons.mp other
    exact (ih _ others).trans ((get?_endSession ..).trans (if_neg (Ne.symm own)))

/-- Ending the session for a slot leaves what it leaves of it alone, whatever the other slots
are. -/
theorem get?_each_endSession_own (t : ChannelTable) {ended : List Slot} (mem : s ∈ ended)
    (alone : ∀ s' ∈ ended, s'.channel.id = s.channel.id → s' = s) :
    (t.each endSession ended).1.slots.get? s.channel.id = s.outlasting? := by
  induction ended generalizing t with
  | nil => cases mem
  | cons first rest ih =>
    obtain ⟨-, others⟩ := List.forall_mem_cons.mp alone
    by_cases later : s ∈ rest
    · exact ih _ later others
    · obtain rfl : s = first := (List.mem_cons.mp mem).resolve_right later
      have other : ∀ s' ∈ rest, s'.channel.id ≠ s.channel.id := fun s' hs' same =>
        later (others s' hs' same ▸ hs')
      exact (get?_each_endSession_other _ other).trans ((get?_endSession ..).trans (if_pos rfl))

/-- The slots after the end of the session. -/
theorem get?_sessionEnd (keyed : t.Keyed) (k : UInt8) :
    t.sessionEnd.1.slots.get? k = (t.slots.get? k).bind Slot.outlasting? := by
  let rest := { t with bearers := t.bearers.dropUnready.1 }
  have listed {s : Slot} (mem : s ∈ t.slots.values) : t.slots.get? s.channel.id = some s := by
    obtain ⟨j, hj⟩ := ChannelMap.mem_values_iff.mp mem
    exact keyed j s hj ▸ hj
  rcases hs : t.slots.get? k with _ | s
  · refine (rest.get?_each_endSession_other fun s mem same => ?_).trans hs
    cases hs.symm.trans (same ▸ listed mem)
  · obtain rfl := keyed k s hs
    refine rest.get?_each_endSession_own (ChannelMap.mem_values_iff.mpr ⟨_, hs⟩) ?_
    intro s' mem same
    exact Option.some.inj ((same ▸ listed mem).symm.trans hs)

/-- Only open clients outlast the end of the session. -/
theorem of_sessionEnd (keyed : t.Keyed) (hs' : t.sessionEnd.1.slots.get? k = some s') :
    ∃ s, t.slots.get? k = some s ∧ s.phase = .opened ∧ s.channel.kind ≠ .tcpServer ∧
      s' = ⟨s.channel.resume.1, .opened, none⟩ := by
  rw [get?_sessionEnd keyed] at hs'
  obtain ⟨s, hs, outlasts⟩ := Option.bind_eq_some_iff.mp hs'
  obtain ⟨⟨opened, client⟩, rfl⟩ := Slot.outlasting?_eq_some_iff.mp outlasts
  exact ⟨s, hs, opened, client, rfl⟩

theorem origin_sessionEnd (keyed : t.Keyed) (hs' : t.sessionEnd.1.slots.get? k = some s') :
    s'.Origin t k .sessionEnd told (t.slots.get? k) := by
  obtain ⟨s, hs, opened, client, rfl⟩ := of_sessionEnd keyed hs'
  rw [hs]
  exact .outlived rfl opened client

theorem origin_stays (unclosed : ∀ reply keepListening,
      input ≠ .closeChannel reply k keepListening) (hs' : t.slots.get? k = some s') :
    s'.Origin t k input told (t.slots.get? k) := by
  rw [hs']
  exact .stays unclosed

theorem origin_openChannel (host : Host) (reply : Reply) (settings : ChannelSettings)
    (hs' : (t.openChannel host reply settings).1.slots.get? k = some s') :
    s'.Origin t k (.openChannel host reply settings)
      (fun g => (t.openChannel host reply settings).2.told k g) (t.slots.get? k) := by
  have unclosed : ∀ reply' keepListening,
      TableInput.openChannel host reply settings ≠ .closeChannel reply' k keepListening := by simp
  rcases t.openChannel_cases host reply settings with ⟨cause, hopen⟩ | ⟨j, hfree, hopen⟩
  · rw [hopen] at hs'
    exact origin_stays unclosed hs'
  · rw [hopen] at hs'
    have hnone := get?_of_firstFree? hfree
    have enrolled : (t.enroll (t.newSlot j reply settings)).slots.get?
        (t.newSlot j reply settings).channel.id = some (t.newSlot j reply settings) := by
      rw [enroll, get?_put, if_pos rfl]
    obtain ⟨s, hs, goes⟩ := goes_afterBearer
      (t := { t.enroll (t.newSlot j reply settings) with
        bearers := (t.bearers.ask host j settings).1 }) enrolled rfl hs'
    have given {s : Slot} {orders : List Order}
        (h : ∀ o ∈ orders, o ∈ ({ t.enroll (t.newSlot j reply settings) with
            bearers := (t.bearers.ask host j settings).1 }.afterBearer (t.newSlot j reply settings)
          (t.bearers.ask host j settings).2.1).2.told k s.channel.generation) :
        ∀ o ∈ orders, o ∈ (t.openChannel host reply settings).2.told k s.channel.generation := by
      intro o ho
      rw [hopen, Output.told_append]
      exact List.mem_append_right _ (h o ho)
    rcases of_get?_put hs with ⟨hk, rfl⟩ | ⟨-, hs⟩
    · obtain rfl : k = j := hk
      rw [hnone]
      rcases goes with rfl | ⟨-, channel, orders, start, told, rfl⟩
      · exact .new rfl
      · exact .newStarted rfl start (given told)
    · have hs : t.slots.get? k = some s := hs
      rw [hs]
      rcases goes with rfl | ⟨waits, channel, orders, start, told, rfl⟩
      · exact .stays unclosed
      · exact .started rfl waits start (given told)

/-- The slot of a channel whose bearer may be up goes on accordingly. -/
theorem Goes.origin (h : t.Goes (told s.channel.generation) s s')
    (uncommanded : input.subject? = none) : s'.Origin t k input told (some s) := by
  rcases h with rfl | ⟨waits, channel, orders, start, given, rfl⟩
  · refine .stays ?_
    rintro reply keepListening rfl
    cases uncommanded
  · exact .started uncommanded waits start given

theorem origin_closeChannel (keyed : t.Keyed) (reply : Reply) (keepListening : Bool)
    (hs' : (t.closeChannel reply j keepListening).1.slots.get? k = some s') :
    s'.Origin t k (.closeChannel reply j keepListening) told (t.slots.get? k) := by
  have other (hk : k ≠ j) (hs' : t.slots.get? k = some s') :
      s'.Origin t k (.closeChannel reply j keepListening) told (t.slots.get? k) := by
    refine origin_stays ?_ hs'
    rintro _ _ ⟨⟩
    exact hk rfl
  unfold closeChannel at hs'
  rcases hs : t.slots.get? j with _ | s
  · rw [hs] at hs'
    refine other ?_ hs'
    rintro rfl
    rw [hs] at hs'
    cases hs'
  · rw [hs] at hs'
    have id := keyed j s hs
    rcases hclose : s.channel.close keepListening with ⟨channel, outcome, orders⟩
    have continues := Channel.close_continues (c := s.channel) keepListening
    rw [hclose] at continues
    dsimp only at hs'
    rw [hclose] at hs'
    cases outcome with
    | released =>
      have hfree : (t.free j).1.slots.get? k = some s' := hs'
      refine other ?_ (of_get?_free hfree)
      rintro rfl
      rw [get?_free, if_pos rfl] at hfree
      cases hfree
    | listening =>
      have told : keepListening = true := by
        cases keepListening with
        | true => rfl
        | false => simp [Channel.close] at hclose
      rcases of_get?_put hs' with ⟨hk, rfl⟩ | ⟨hk, hs'⟩
      · obtain rfl : k = j := hk.trans (continues.id.trans id)
        rw [hs]
        subst told
        exact .kept rfl hclose
      · exact other (fun same => hk (same.trans (id.symm.trans continues.id.symm))) hs'

theorem origin_sendData (keyed : t.Keyed) (reply : Reply) (data : Transfer) (immediate : Bool)
    (hs' : (t.sendData reply data immediate).1.slots.get? k = some s') :
    s'.Origin t k (.sendData reply data immediate) told (t.slots.get? k) := by
  have stays (hs' : t.slots.get? k = some s') :
      s'.Origin t k (.sendData reply data immediate) told (t.slots.get? k) :=
    origin_stays (by simp) hs'
  unfold sendData at hs'
  rcases hs : t.slots.get? data.channel with _ | s
  · rw [hs] at hs'
    exact stays hs'
  · rw [hs] at hs'
    dsimp only at hs'
    split at hs'
    · exact stays hs'
    · rename_i hopen
      have opened : s.phase = .opened := Decidable.not_not.mp (not_or.mp hopen).1
      have free : s.pending = none := by simpa using (not_or.mp hopen).2
      have id := keyed _ s hs
      rcases hsend : s.channel.send data.data immediate with ⟨channel, outcome, orders⟩
      have continues := Channel.send_continues (c := s.channel) data.data immediate
      rw [hsend] at hs' continues
      have put (hs' : (t.put ⟨channel, .opened, outcome.pending? reply⟩).slots.get? k = some s') :
          s'.Origin t k (.sendData reply data immediate) told (t.slots.get? k) := by
        rcases of_get?_put hs' with ⟨hk, rfl⟩ | ⟨-, hs'⟩
        · obtain rfl : k = data.channel := hk.trans (continues.id.trans id)
          rw [hs]
          exact .sent rfl rfl opened free hsend
        · exact stays hs'
      cases outcome with
      | buffered free' => exact put (by simpa [opened, free, Delivery.pending?] using hs')
      | flushing free' => exact put (by simpa [opened, Delivery.pending?] using hs')
      | closed => exact put (by simpa [opened, free, Delivery.pending?] using hs')

theorem origin_receiveData (keyed : t.Keyed) (reply : Reply) (data : Transfer)
    (hs' : (t.receiveData reply data).1.slots.get? k = some s') :
    s'.Origin t k (.receiveData reply data) told (t.slots.get? k) := by
  have stays (hs' : t.slots.get? k = some s') :
      s'.Origin t k (.receiveData reply data) told (t.slots.get? k) :=
    origin_stays (by simp) hs'
  unfold receiveData at hs'
  rcases hs : t.slots.get? data.channel with _ | s
  · rw [hs] at hs'
    exact stays hs'
  · rw [hs] at hs'
    have continues := Channel.receive_continues (c := s.channel) data.length
    rcases of_get?_put hs' with ⟨hk, rfl⟩ | ⟨-, hs'⟩
    · obtain rfl : k = data.channel := hk.trans (continues.id.trans (keyed _ s hs))
      rw [hs]
      exact .fetched rfl rfl
    · exact stays hs'

theorem origin_taskEnded (keyed : t.Keyed) (g : Nat)
    (hs' : (t.taskEnded j g).slots.get? k = some s') :
    s'.Origin t k (.taskEnded j g) told (t.slots.get? k) := by
  have stays (hs' : t.slots.get? k = some s') :
      s'.Origin t k (.taskEnded j g) told (t.slots.get? k) := origin_stays (by simp) hs'
  unfold taskEnded at hs'
  rcases hcurrent : t.current? j g with _ | s
  · rw [hcurrent] at hs'
    exact stays hs'
  · obtain ⟨hs, rfl⟩ := of_current? hcurrent
    rw [hcurrent] at hs'
    rcases of_get?_put hs' with ⟨hk, rfl⟩ | ⟨-, hs'⟩
    · obtain rfl : k = j := hk.trans (keyed j s hs)
      rw [hs]
      exact .ended rfl
    · exact stays hs'

/-- What a report means decides whether its slot is put back or freed. -/
theorem of_applyUpshot {channel : Channel} {upshot : Upshot}
    (hs' : (t.applyUpshot { s with channel := channel } upshot).1.slots.get? k = some s') :
    k = channel.id ∧ upshot.slot? s channel = some s' ∨ t.slots.get? k = some s' := by
  have put {s₁ : Slot} (id : s₁.channel.id = channel.id) (left : upshot.slot? s channel = some s₁)
      (hs' : (t.put s₁).slots.get? k = some s') :
      k = channel.id ∧ upshot.slot? s channel = some s' ∨ t.slots.get? k = some s' := by
    rcases of_get?_put hs' with ⟨hk, rfl⟩ | ⟨-, hs'⟩
    · exact .inl ⟨hk.trans id, left⟩
    · exact .inr hs'
  unfold applyUpshot at hs'
  cases upshot with
  | opened | sent | dataAvailable | ignored => exact put (by rfl) rfl hs'
  | openFailed cause =>
    dsimp only at hs'
    rw [giveUpOpen_fst] at hs'
    exact .inr (of_get?_free hs')
  | sendFailed =>
    dsimp only at hs'
    split at hs' <;> exact .inr (of_get?_free hs')
  | statusChanged status =>
    dsimp only at hs'
    split at hs'
    · rename_i link
      exact put (by rfl) (by rw [Upshot.slot?, if_pos link]) hs'
    · rename_i link
      exact put (by rfl) (by rw [Upshot.slot?, if_neg link]) hs'

theorem origin_report (keyed : t.Keyed) (g : Nat) (r : Report)
    (hs' : (t.report j g r).1.slots.get? k = some s') :
    s'.Origin t k (.report j g r) told (t.slots.get? k) := by
  have stays (hs' : t.slots.get? k = some s') :
      s'.Origin t k (.report j g r) told (t.slots.get? k) := origin_stays (by simp) hs'
  unfold report at hs'
  rcases hcurrent : t.current? j g with _ | s
  · rw [hcurrent] at hs'
    exact stays hs'
  · obtain ⟨hs, rfl⟩ := of_current? hcurrent
    rcases hreport : s.channel.report r with ⟨channel, upshot, orders⟩
    have continues := Channel.report_continues (c := s.channel) r
    rw [hcurrent] at hs'
    rw [hreport] at continues
    dsimp only at hs'
    rw [hreport] at hs'
    rcases of_applyUpshot hs' with ⟨hk, left⟩ | hs'
    · obtain rfl : k = j := hk.trans (continues.id.trans (keyed j s hs))
      rw [hs]
      exact .reported rfl hreport left
    · exact stays hs'

theorem origin_bearerRetry (keyed : t.Keyed) (host : Host) (g : Nat)
    (hs' : (t.bearerRetry host j g).1.slots.get? k = some s') :
    s'.Origin t k (.bearerRetry host j g) (fun g' => (t.bearerRetry host j g).2.told k g')
      (t.slots.get? k) := by
  rcases t.bearerRetry_cases host j g with ⟨idle, -⟩ | ⟨s, r, hs, -, waits, -, -, looked⟩
  · rw [idle] at hs'
    exact origin_stays (by simp) hs'
  · rw [looked] at hs'
    obtain ⟨s₀, hs₀, goes⟩ := goes_afterBearer
      (t := { t with bearers := (t.bearers.check host j r).1 }) ((keyed j s hs).symm ▸ hs) waits
      hs'
    have hs₀ : t.slots.get? k = some s₀ := hs₀
    rw [hs₀]
    refine Goes.origin (goes.mono ?_) rfl
    rw [looked, Output.told_append]
    exact List.subset_append_right ..

theorem origin_connectionChanged (keyed : t.Keyed) (change : ConnectionChange)
    (hs' : (t.connectionChanged change).1.slots.get? k = some s') :
    s'.Origin t k (.connectionChanged change) (fun g => (t.connectionChanged change).2.told k g)
      (t.slots.get? k) := by
  let told := t.bearers.connectionChanged change
  obtain ⟨s, hs, goes⟩ := goes_bearerChanges (t := { t with bearers := told.1 }) keyed told.2.1 hs'
  have hs : t.slots.get? k = some s := hs
  rw [hs]
  refine Goes.origin (goes.mono ?_) rfl
  rw [connectionChanged, Output.told_append]
  exact List.subset_append_right ..

/-- Every slot after a step comes from somewhere. -/
theorem origin_step (keyed : t.Keyed) (input : TableInput)
    (hs' : (t.step input).1.slots.get? k = some s') :
    s'.Origin t k input (fun g => (t.step input).2.told k g) (t.slots.get? k) := by
  cases input with
  | openChannel host reply settings => exact origin_openChannel host reply settings hs'
  | closeChannel reply j keepListening => exact origin_closeChannel keyed reply keepListening hs'
  | sendData reply data immediate => exact origin_sendData keyed reply data immediate hs'
  | receiveData reply data => exact origin_receiveData keyed reply data hs'
  | channelStatus reply => exact origin_stays (by simp) hs'
  | report j g r => exact origin_report keyed g r hs'
  | bearerRetry host j g => exact origin_bearerRetry keyed host g hs'
  | connectionChanged change => exact origin_connectionChanged keyed change hs'
  | taskEnded j g => exact origin_taskEnded keyed g hs'
  | sessionEnd => exact origin_sessionEnd keyed hs'
  | cardRemoved => cases hs'

end ChannelTable

theorem TableRun.keyed {config : Config} {past : TableHistory} {t : ChannelTable}
    (run : TableRun config past t) : t.Keyed :=
  fun k s hs => (run.fits.slot k s hs).sound.id

end CardChannels
