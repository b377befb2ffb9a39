import CardChannels.Proofs.Channel.BackPressure
import CardChannels.Proofs.Table.LateBearer

/-!
# What an open comes to

What is agreed on when an open is let in is answered only once its socket has come up, after other
channels may have been opened, used and closed. The main statement follows one open from the number
that it takes to its answer. Nothing is assumed of what happens in between, not even that socket
tasks report only what they can.
-/
namespace CardChannels

variable {config : Config} {before : List TableInput} {input : TableInput} {k : UInt8} {g : Nat}
  {reply : Reply} {settings : ChannelSettings} {most : UInt16}

/-- The link of a channel whose socket has come up. -/
def TransportProtocol.linkOnceUp (p : TransportProtocol) : LinkState :=
  if p.kind = .tcpServer then .listening else .established

/-- The settings that an open is let in with. -/
def ChannelSettings.agreed (settings : ChannelSettings) (most : UInt16) (k : UInt8) :
    ChannelSettings :=
  { settings with bufferSize := min settings.bufferSize most, channel := some k }

/-- The answer to an open whose channel has come up. -/
def Reply.toOpened (reply : Reply) (settings : ChannelSettings) (most : UInt16) (k : UInt8) :
    TerminalResponse where
  details := reply.details
  result :=
    if settings.bufferSize > most then .modified
    else if reply.iconNotDisplayed then .iconNotDisplayed
    else .ok
  info := none
  data := some (.openChannel (some (.plain k settings.protocol.linkOnceUp)) settings.bearer
    (min settings.bufferSize most))

/-- What a response that tells of a failure tells. -/
def TerminalResponse.refusal (r : TerminalResponse) : Refusal := ⟨r.result, r.info⟩

/-- Whether a response tells that a channel has been opened. -/
def TerminalResponse.TellsOpened (r : TerminalResponse) : Prop :=
  r.result.isSuccess = true ∧
    ∃ status bearer size, r.data = some (.openChannel status bearer size)

/-- Why an open that was let in can fail before its socket reports. -/
def Refusal.ofOpen : List Refusal :=
  [.beyondCapability, .busyOnCall, .networkUnable, .ofCause .remoteDeviceNotReachable]

namespace ChannelTable

/-- Whether every number has a channel. -/
def Full (t : ChannelTable) : Prop := ∀ k ∈ numbers, t.slots.contains k = true

/-- Whether a number is the lowest that no channel has. -/
structure LowestFree (t : ChannelTable) (k : UInt8) : Prop where
  number : k ∈ numbers
  free : t.slots.get? k = none
  lowest : ∀ j ∈ numbers, j < k → t.slots.contains j = true

end ChannelTable

/-! Numbers and sizes -/

theorem negotiate_eq (requested most : UInt16) :
    negotiate requested most = (min requested most, decide (requested > most)) := by
  unfold negotiate
  by_cases larger : requested > most
  · have least : min requested most = most := by
      rw [UInt16.min_def, if_neg (UInt16.not_le.mpr larger)]
    rw [if_pos larger, least, decide_eq_true larger]
  · have least : min requested most = requested := by
      rw [UInt16.min_def, if_pos (UInt16.not_lt.mp larger)]
    rw [if_neg larger, least, decide_eq_false larger]

namespace ChannelTable

variable {t : ChannelTable}

theorem numbers_ascending : numbers.Pairwise (· < ·) := by decide

theorem lowestFree_of_firstFree? (h : t.firstFree? = some k) : t.LowestFree k := by
  obtain ⟨free, lower, higher, split, taken⟩ := List.find?_eq_some_iff_append.mp h
  refine ⟨split ▸ List.mem_append_right _ List.mem_cons_self, get?_of_firstFree? h, ?_⟩
  intro j hj below
  rw [split, List.mem_append, List.mem_cons] at hj
  rcases hj with hj | rfl | hj
  · simpa using taken j hj
  · exact absurd below (UInt8.lt_irrefl j)
  · have ascending := split ▸ numbers_ascending
    have above := (List.pairwise_cons.mp (List.pairwise_append.mp ascending).2.1).1 j hj
    exact absurd below (UInt8.lt_asymm above)

theorem firstFree?_eq_none_iff : t.firstFree? = none ↔ t.Full := by
  simp [firstFree?, Full]

end ChannelTable

/-! Refusals -/

variable {refusal : Refusal}

theorem Refusal.isSuccess_of_mem_ofOpen (h : refusal ∈ ofOpen) :
    refusal.result.isSuccess = false :=
  (by decide : ∀ r ∈ ofOpen, r.result.isSuccess = false) refusal h

theorem Refusal.full_notMem_ofOpen : ofCause .noChannelAvailable ∉ ofOpen := by decide

/-- A bearer that cannot be had fails an open. -/
theorem Refusal.mem_ofOpen (h : refusal = .beyondCapability ∨ refusal = .busyOnCall) :
    refusal ∈ ofOpen := by
  rcases h with rfl | rfl
  · decide
  · decide

theorem Channel.cause_of_start {c : Channel} {timeout : Nat} {cause : ChannelCause}
    (h : c.start timeout = .error cause) : cause = .remoteDeviceNotReachable := by
  have starts := c.starts_start timeout
  rw [h] at starts
  cases starts with
  | nowhere => rfl

namespace Slot

variable {s : Slot} {r : TerminalResponse} {timeout : Nat}

theorem pending_of_owesOpen (h : s.owesOpen = true) :
    ∃ reply modified, s.pending = some (.opening reply modified) := by
  unfold owesOpen at h
  split at h
  · exact ⟨_, _, ‹_›⟩
  · cases h
  · cases h

theorem refusal_of_mem_givenUpTold (h : .respond r ∈ s.givenUpTold refusal) :
    r.refusal = refusal := by
  unfold givenUpTold at h
  split at h
  · cases List.mem_singleton.mp h
    rfl
  · cases h
  · cases h

theorem refusal_of_mem_startedTold (h : .respond r ∈ s.startedTold timeout) :
    r.refusal ∈ Refusal.ofOpen := by
  unfold startedTold at h
  split at h
  · cases h
  · rename_i hstart
    rw [refusal_of_mem_givenUpTold h, Channel.cause_of_start hstart]
    decide

/-- While an open looks for its bearer and its socket, it is answered only when it fails. -/
theorem refusal_of_mem_wentOnTold {outcome : BearerAnswer}
    (failed : ∀ refusal, outcome = .failed refusal → refusal ∈ Refusal.ofOpen)
    (h : .respond r ∈ s.wentOnTold timeout outcome) : r.refusal ∈ Refusal.ofOpen := by
  cases outcome with
  | ready => exact refusal_of_mem_startedTold h
  | pending => cases h
  | retryAfter delay => simp [wentOnTold] at h
  | failed refusal =>
    rw [refusal_of_mem_givenUpTold h]
    exact failed refusal rfl

/-- Whatever a channel still has to answer fails when its bearer is lost. -/
theorem isSuccess_of_mem_lossTold (h : .respond r ∈ s.lossTold) : r.result.isSuccess = false := by
  unfold lossTold at h
  dsimp only at h
  split at h
  · cases List.mem_singleton.mp h
    rfl
  · obtain ⟨rfl⟩ : .respond r = Effect.respond _ := by simpa using h
    rfl
  · simp at h

end Slot

/-! Channels that an open has made -/

/-- A channel as it was agreed on when it was made. -/
structure Channel.AgreedFor (settings : ChannelSettings) (most : UInt16) (k : UInt8)
    (c : Channel) : Prop where
  id : c.id = k
  agreed : c.settings = settings.agreed most k
  received : c.received.capacity = (min settings.bufferSize most).toNat
  queued : c.queued.capacity = (min settings.bufferSize most).toNat
  undropped : c.kind = .tcpServer → c.dropped = false

/-- A slot that keeps what was agreed on, and the open if it is still to be answered. -/
structure Slot.MadeFor (reply : Reply) (settings : ChannelSettings) (most : UInt16) (k : UInt8)
    (s : Slot) : Prop where
  channel : s.channel.AgreedFor settings most k
  pending : ∀ reply' modified, s.pending = some (.opening reply' modified) →
    reply' = reply ∧ modified = decide (settings.bufferSize > most)

theorem Channel.AgreedFor.step {c : Channel} (h : c.AgreedFor settings most k)
    (done : ChannelInput) : (c.step done).AgreedFor settings most k where
  id := (c.step_continues done).id.trans h.id
  agreed := (c.settings_step done).trans h.agreed
  received := (c.capacity_step done).trans h.received
  queued := (c.queued_capacity_step done).trans h.queued
  undropped server :=
    have server := (c.kind_step done).symm.trans server
    c.dropped_step_of_server server (h.undropped server) done

theorem ChannelTable.newSlot_madeFor (t : ChannelTable) (k : UInt8) (reply : Reply)
    (settings : ChannelSettings) :
    (t.newSlot k reply settings).MadeFor reply settings t.maxBufferSize k := by
  rw [newSlot, negotiate_eq]
  refine ⟨⟨rfl, rfl, rfl, rfl, fun _ => rfl⟩, ?_⟩
  rintro _ _ ⟨⟩
  exact ⟨rfl, rfl⟩

/-- An open that a slot has to answer was there before, or has just made the channel. -/
theorem Slot.Origin.opening {t : ChannelTable} {told : Nat → List Order} {before : Option Slot}
    {s' : Slot} {modified : Bool} (origin : s'.Origin t k input told before)
    (hp : s'.pending = some (.opening reply modified)) :
    (∃ s, before = some s ∧ s.channel.generation = s'.channel.generation ∧
        s.pending = some (.opening reply modified)) ∨
      s'.channel.generation = t.generation + 1 := by
  cases origin with
  | stays unclosed => exact .inl ⟨s', rfl, rfl, hp⟩
  | started uncommanded waits start given =>
    exact .inl ⟨_, rfl, (Channel.start_continues start).generation.symm, hp⟩
  | new asked => exact .inr rfl
  | newStarted asked start given => exact .inr (Channel.start_continues start).generation
  | @kept s reply channel orders asked closed =>
    have continues := Channel.close_continues (c := s.channel) true
    rw [closed] at continues
    exact .inl ⟨s, rfl, continues.generation.symm, hp⟩
  | @sent s reply data immediate channel outcome orders asked about opened free send =>
    cases outcome <;> cases hp
  | @fetched s reply data asked about =>
    exact .inl ⟨s, rfl, (Channel.receive_continues data.length).generation.symm, hp⟩
  | @reported s s' r channel upshot orders heard report left =>
    have continues := Channel.report_continues (c := s.channel) r
    rw [report] at continues
    cases upshot with
    | opened | sent =>
      cases left
      cases hp
    | openFailed | sendFailed => cases left
    | dataAvailable | ignored =>
      cases left
      exact .inl ⟨s, rfl, continues.generation.symm, hp⟩
    | statusChanged status =>
      cases left
      dsimp only at hp
      split at hp
      · exact .inl ⟨s, rfl, continues.generation.symm, hp⟩
      · cases hp
  | @ended s heard => exact .inl ⟨s, rfl, rfl, hp⟩
  | outlived ending opened client => cases hp

/-- What was agreed on for a channel outlasts every step. -/
theorem Slot.Origin.madeFor {t : ChannelTable} {told : Nat → List Order} {before : Option Slot}
    {s' : Slot} (origin : s'.Origin t k input told before) (known : g ≤ t.generation)
    (old : ∀ s, before = some s → s.channel.generation = g → s.MadeFor reply settings most k)
    (own : s'.channel.generation = g) : s'.MadeFor reply settings most k := by
  have channel : s'.channel.generation = g → s'.channel.AgreedFor settings most k := by
    refine origin.channel_induction
      (P := fun c => c.generation = g → c.AgreedFor settings most k)
      ?_ (fun s hs hg => (old s hs hg).channel) ?_
    · intro host reply settings _ _ hg
      have new : (t.newSlot k reply settings).channel.generation = t.generation + 1 := rfl
      omega
    · intro c done h _ hg
      exact (h ((c.step_continues done).generation.symm.trans hg)).step done
  refine ⟨channel own, fun reply' modified hp => ?_⟩
  rcases origin.opening hp with ⟨s, hs, hg, hp⟩ | hg
  · exact (old s hs (hg.trans own)).pending reply' modified hp
  · omega

/-! Answers -/

/-- A socket that has come up shows the link that its channel is to have. -/
theorem Channel.status_of_opened {c c' : Channel} {report : Report} {status : ChannelStatus}
    {orders : List Order} (h : c.report report = (c', .opened status, orders))
    (undropped : c.kind = .tcpServer → c.dropped = false) :
    status = .plain c.id c.settings.protocol.linkOnceUp := by
  have kind : c.kind = c.settings.protocol.kind := rfl
  have ready : report = .ready := by
    have meaning := c.meaning_report report
    rw [h] at meaning
    cases meaning
    rfl
  subst ready
  unfold Channel.report at h
  cases hkind : c.kind with
  | tcpServer =>
    simp only [hkind, serverReport, Prod.mk.injEq, Upshot.opened.injEq] at h
    rw [← h.2.1, TransportProtocol.linkOnceUp, if_pos (kind ▸ hkind)]
    simp [Channel.status, undropped hkind]
  | tcpClient | udpClient =>
    simp only [hkind, clientReport, Prod.mk.injEq, Upshot.opened.injEq] at h
    rw [← h.2.1, TransportProtocol.linkOnceUp, if_neg (by simp [← kind, hkind])]
    simp [Channel.status]

namespace ChannelTable

variable {t : ChannelTable} {s : Slot} {r : TerminalResponse}

/-- What a report has answered well is the open of a channel that has come up, or a send that has
been written, and nothing of the answer was changed since it was kept. -/
theorem wellAnswered_of_applyUpshot {upshot : Upshot}
    (mem : .respond r ∈ (t.applyUpshot s upshot).2.effects)
    (success : r.result.isSuccess = true) :
    (∃ reply modified status, s.pending = some (.opening reply modified) ∧
        upshot = .opened status ∧
        r = reply.success (if modified then .modified else .ok)
          (some (.openChannel (some status) s.channel.settings.bearer
            s.channel.settings.bufferSize))) ∨
      ∃ reply free, s.pending = some (.sending reply free) ∧
        r = reply.success .ok (some (.sendData free)) := by
  have failed {p : Prop} (h : r.result.isSuccess = false) : p := by
    rw [success] at h
    cases h
  unfold applyUpshot at mem
  cases upshot with
  | opened status =>
    dsimp only at mem
    split at mem
    · rename_i hp
      exact .inl ⟨_, _, status, hp, rfl, by simpa using mem⟩
    · cases mem
  | openFailed cause =>
    rw [effects_giveUpOpen_eq] at mem
    have refused := congrArg Refusal.result (Slot.refusal_of_mem_givenUpTold mem)
    refine failed ?_
    rw [show r.result = .bipError from refused]
    rfl
  | sent =>
    dsimp only at mem
    split at mem
    · rename_i hp
      exact .inr ⟨_, _, hp, by simpa using mem⟩
    · cases mem
  | sendFailed =>
    dsimp only at mem
    split at mem
    · cases List.mem_singleton.mp mem
      exact failed rfl
    · cases mem
  | dataAvailable status available => simp at mem
  | statusChanged status =>
    dsimp only at mem
    split at mem
    · simp at mem
    · split at mem
      · obtain ⟨rfl⟩ : .respond r = Effect.respond _ := by simpa using mem
        exact failed rfl
      · simp at mem
  | ignored => cases mem

/-- A report that has an open answered well has opened its channel, and the answer is as agreed. -/
theorem opened_of_applyUpshot (made : s.MadeFor reply settings most k) (owes : s.owesOpen = true)
    {report : Report} {channel : Channel} {upshot : Upshot} {orders : List Order}
    (reported : s.channel.report report = (channel, upshot, orders))
    (mem : .respond r ∈ (t.applyUpshot { s with channel := channel } upshot).2.effects)
    (success : r.result.isSuccess = true) :
    r = reply.toOpened settings most k ∧
      (t.applyUpshot { s with channel := channel } upshot).1 = t.put ⟨channel, .opened, none⟩ := by
  obtain ⟨reply', modified, hp⟩ := Slot.pending_of_owesOpen owes
  obtain ⟨rfl, rfl⟩ := made.pending reply' modified hp
  have agreed : channel.settings = settings.agreed most k := by
    have same := s.channel.settings_report report
    rw [reported] at same
    exact same.trans made.channel.agreed
  rcases wellAnswered_of_applyUpshot mem success with
    ⟨reply, modified, status, hp', rfl, rfl⟩ | ⟨reply, free, hp', -⟩
  · cases hp.symm.trans hp'
    have shown := Channel.status_of_opened reported made.channel.undropped
    rw [made.channel.id, made.channel.agreed] at shown
    refine ⟨?_, rfl⟩
    rw [shown, Reply.toOpened, Reply.success]
    by_cases larger : settings.bufferSize > most
    · simp [larger, agreed, ChannelSettings.agreed]
    · simp [larger, agreed, ChannelSettings.agreed]
  · cases hp.symm.trans hp'

/-- So what a report tells of an opened channel is told for its open. -/
theorem owesOpen_of_applyUpshot {upshot : Upshot}
    (mem : .respond r ∈ (t.applyUpshot s upshot).2.effects) (opened : r.TellsOpened) :
    s.owesOpen = true := by
  obtain ⟨success, status, bearer, size, data⟩ := opened
  rcases wellAnswered_of_applyUpshot mem success with
    ⟨reply, modified, status, hp, -, -⟩ | ⟨reply, free, -, rfl⟩
  · rw [Slot.owesOpen, hp]
  · cases data

/-- A look that comes due is answered only when it fails. -/
theorem isSuccess_of_mem_bearerRetry {host : Host} {n : Nat}
    (mem : .respond r ∈ (t.bearerRetry host k n).2.effects) : r.result.isSuccess = false := by
  rcases t.bearerRetry_cases host k n with ⟨idle, -⟩ | ⟨s', r', hs', -, -, -, -, looked⟩
  · rw [idle] at mem
    cases mem
  · rw [looked, Output.effects_append, Output.effects_call, List.nil_append,
      effects_afterBearer] at mem
    exact Refusal.isSuccess_of_mem_ofOpen (Slot.refusal_of_mem_wentOnTold
      (fun _ h => Refusal.mem_ofOpen (BearerRegistry.refusal_of_check h)) mem)

/-- So is a change of the connection. -/
theorem isSuccess_of_mem_changeEffects {change : ConnectionChange}
    (mem : .respond r ∈ t.changeEffects change k) : r.result.isSuccess = false := by
  rw [changeEffects_eq, ChannelView.connectionTold] at mem
  rcases htold : (t.view k).changeOf change with _ | told
  · rw [htold] at mem
    cases mem
  · rw [htold, Option.elim_some, ChannelView.changeTold] at mem
    split at mem
    · cases mem
    · cases told with
      | ready =>
        dsimp only at mem
        split at mem
        · exact Refusal.isSuccess_of_mem_ofOpen (Slot.refusal_of_mem_startedTold mem)
        · cases mem
      | failed refusal =>
        obtain ⟨request, -, fails⟩ := Option.bind_eq_some_iff.mp htold
        dsimp only at mem
        split at mem
        · have given := Slot.refusal_of_mem_givenUpTold mem
          rw [BearerRegistry.refusal_of_changeFor fails] at given
          have failed : r.refusal ∈ Refusal.ofOpen := by
            rw [given]
            decide
          exact Refusal.isSuccess_of_mem_ofOpen failed
        · cases mem
      | lost => exact Slot.isSuccess_of_mem_lossTold mem

/-- What a channel is once it is open. -/
structure OpenedFor (t : ChannelTable) (settings : ChannelSettings) (most : UInt16) (k : UInt8)
    (g : Nat) (s : Slot) : Prop where
  slot : t.slots.get? k = some s
  generation : s.channel.generation = g
  phase : s.phase = .opened
  channel : s.channel.AgreedFor settings most k

/-- A report that has an open answered well gives the answer that was agreed on. -/
theorem opened_of_report (keyed : t.Keyed) (hs : t.slots.get? k = some s)
    (made : s.MadeFor reply settings most k) (owes : s.owesOpen = true) {n : Nat} {q : Report}
    (mem : .respond r ∈ (t.report k n q).2.effects) (success : r.result.isSuccess = true) :
    r = reply.toOpened settings most k ∧
      ∃ s', (t.report k n q).1.OpenedFor settings most k s.channel.generation s' := by
  by_cases hn : s.channel.generation = n
  · subst hn
    obtain rfl := keyed k s hs
    rcases reported : s.channel.report q with ⟨channel, upshot, orders⟩
    have stepped := report_eq hs q
    have continues := Channel.report_continues (c := s.channel) q
    have agreed : (s.channel.report q).1.AgreedFor settings most s.channel.id :=
      made.channel.step (.report q)
    rw [reported] at stepped continues agreed
    rw [stepped] at mem ⊢
    obtain ⟨told, put⟩ := opened_of_applyUpshot (t := t) made owes reported
      (by simpa using mem) success
    refine ⟨told, ⟨channel, .opened, none⟩, ?_, continues.generation, rfl, agreed⟩
    rw [put, get?_put, if_pos continues.id.symm]
  · have stale : t.report k n q = (t, .none) :=
      report_stale (fun s' hs' => Option.some.inj (hs.symm.trans hs') ▸ hn) q
    rw [stale] at mem
    cases mem

/-- Whatever an input gives out for an open that is to be answered, a good answer is the one that
was agreed on, and the channel is open afterwards. -/
theorem opened_of_openEffects (keyed : t.Keyed) (hs : t.slots.get? k = some s)
    (made : s.MadeFor reply settings most k) (mem : .respond r ∈ t.openEffects k input)
    (success : r.result.isSuccess = true) :
    r = reply.toOpened settings most k ∧
      ∃ s', (t.step input).1.OpenedFor settings most k s.channel.generation s' := by
  have failed {p : Prop} (h : r.result.isSuccess = false) : p := by
    rw [success] at h
    cases h
  cases input with
  | openChannel host reply' settings' =>
    rw [openEffects_of_held hs] at mem
    cases mem
  | report j n q =>
    obtain ⟨⟨rfl, owes⟩, given⟩ := List.mem_ite_nil_right.mp mem
    rw [owesOpen, hs, Option.any_some] at owes
    exact opened_of_report keyed hs made owes given success
  | bearerRetry host j n =>
    obtain ⟨-, given⟩ := List.mem_ite_nil_right.mp mem
    exact failed (isSuccess_of_mem_bearerRetry given)
  | connectionChanged change =>
    obtain ⟨-, given⟩ := List.mem_ite_nil_right.mp mem
    exact failed (isSuccess_of_mem_changeEffects given)
  | closeChannel | sendData | receiveData | channelStatus | taskEnded | sessionEnd | cardRemoved =>
    cases mem

/-- An open that gets a number is not answered at once, unless it fails. -/
theorem refusal_of_mem_openChannel (size : settings.bufferSize ≠ 0) (free : t.firstFree? = some k)
    {host : Host} (mem : .respond r ∈ (t.openChannel host reply settings).2.effects) :
    r.refusal ∈ Refusal.ofOpen := by
  rw [effects_openChannel size free host reply] at mem
  exact Slot.refusal_of_mem_wentOnTold
    (fun _ h => Refusal.mem_ofOpen (BearerRegistry.refusal_of_ask h)) mem

/-- No open is answered well at once. -/
theorem isSuccess_of_mem_openChannel {host : Host}
    (mem : .respond r ∈ (t.openChannel host reply settings).2.effects) :
    r.result.isSuccess = false := by
  by_cases size : settings.bufferSize = 0
  · rw [openChannel, if_pos size] at mem
    cases List.mem_singleton.mp mem
    rfl
  · rcases free : t.firstFree? with _ | k
    · rw [openChannel, if_neg size, free] at mem
      cases List.mem_singleton.mp mem
      rfl
    · exact Refusal.isSuccess_of_mem_ofOpen (refusal_of_mem_openChannel size free mem)

/-! Other commands are answered with what they ask for. -/

theorem not_tellsOpened_of_closeChannel {keepListening : Bool}
    (mem : .respond r ∈ (t.closeChannel reply k keepListening).2.effects) : ¬r.TellsOpened := by
  rintro ⟨-, status, bearer, size, data⟩
  simp only [closeChannel] at mem
  split at mem
  · cases List.mem_singleton.mp mem
    cases data
  · split at mem
    · cases List.mem_singleton.mp mem
      cases data
    · cases List.mem_singleton.mp mem
      cases data

theorem not_tellsOpened_of_sendData {sent : Transfer} {immediate : Bool}
    (mem : .respond r ∈ (t.sendData reply sent immediate).2.effects) : ¬r.TellsOpened := by
  rintro ⟨-, status, bearer, size, data⟩
  simp only [sendData] at mem
  split at mem
  · cases List.mem_singleton.mp mem
    cases data
  · split at mem
    · cases List.mem_singleton.mp mem
      cases data
    · split at mem
      · cases List.mem_singleton.mp mem
        cases data
      · cases mem
      · cases List.mem_singleton.mp mem
        cases data

theorem not_tellsOpened_of_receiveData {fetched : Transfer}
    (mem : .respond r ∈ (t.receiveData reply fetched).2.effects) : ¬r.TellsOpened := by
  rintro ⟨-, status, bearer, size, data⟩
  simp only [receiveData] at mem
  split at mem
  · cases List.mem_singleton.mp mem
    cases data
  · split at mem
    · cases List.mem_singleton.mp mem
      cases data
    · cases List.mem_singleton.mp mem
      cases data

/-- Whenever the card is told that a channel has been opened, that is the answer to its open. -/
theorem exists_openEffects (keyed : t.Keyed) (mem : .respond r ∈ (t.step input).2.effects)
    (opened : r.TellsOpened) : ∃ k, .respond r ∈ t.openEffects k input := by
  have failed {p : Prop} (h : r.result.isSuccess = false) : p := by
    rw [opened.1] at h
    cases h
  cases input with
  | openChannel host reply settings => exact failed (isSuccess_of_mem_openChannel mem)
  | report j n q =>
    refine ⟨j, List.mem_ite_nil_right.mpr ⟨⟨rfl, ?_⟩, mem⟩⟩
    simp only [step, report] at mem
    rcases current : t.current? j n with _ | s
    · rw [current] at mem
      cases mem
    · rw [owesOpen, (of_current? current).1, Option.any_some]
      simp only [current, Output.effects_append, Slot.effects_orders, List.nil_append] at mem
      exact owesOpen_of_applyUpshot (s := { s with channel := (s.channel.report q).1 }) mem opened
  | bearerRetry host j n => exact failed (isSuccess_of_mem_bearerRetry mem)
  | connectionChanged change =>
    rw [step, effects_connectionChanged keyed] at mem
    obtain ⟨a, -, given⟩ := List.mem_flatMap.mp mem
    exact failed (isSuccess_of_mem_changeEffects given)
  | closeChannel reply j keepListening => exact absurd opened (not_tellsOpened_of_closeChannel mem)
  | sendData reply sent immediate => exact absurd opened (not_tellsOpened_of_sendData mem)
  | receiveData reply fetched => exact absurd opened (not_tellsOpened_of_receiveData mem)
  | channelStatus reply =>
    obtain ⟨-, status, bearer, size, data⟩ := opened
    cases List.mem_singleton.mp mem
    cases data
  | sessionEnd =>
    rw [step, t.effects_sessionEnd] at mem
    cases mem
  | taskEnded | cardRemoved => cases mem

/-! The open itself -/

/-- An open that gets a number has the channel as it was agreed on, and is to be answered. -/
theorem new_madeFor (keyed : t.Keyed) (free : t.slots.get? k = none) {host : Host}
    (hs : (t.openChannel host reply settings).1.slots.get? k = some s) :
    s.channel.generation = t.generation + 1 ∧ s.owesOpen = true ∧
      s.MadeFor reply settings t.maxBufferSize k := by
  have origin := t.origin_step keyed (.openChannel host reply settings) hs
  have new := t.newSlot_madeFor k reply settings
  rw [free] at origin
  cases origin with
  | new asked =>
    cases asked
    exact ⟨rfl, rfl, new⟩
  | newStarted asked start given =>
    cases asked
    have started := new.channel.step (.start t.connectTimeout)
    rw [Channel.step, Channel.started, start] at started
    exact ⟨(Channel.start_continues start).generation, rfl, started, new.pending⟩

/-- An open that gets a number and does not keep it is refused. -/
theorem refused_of_unkept (size : settings.bufferSize ≠ 0) (free : t.firstFree? = some k)
    {host : Host} (unkept : (t.openChannel host reply settings).1.slots.get? k = none) :
    ∃ r, .respond r ∈ (t.openChannel host reply settings).2.effects := by
  have slot := congrArg ChannelView.slot (view_openChannel size free host reply k)
  rw [if_pos rfl] at slot
  have gone := slot.symm.trans unkept
  rw [effects_openChannel size free host reply]
  cases told : (t.bearers.ask host k settings).2.1 with
  | ready =>
    rw [told, ChannelView.wentOn, ChannelView.started] at gone
    dsimp only at gone
    split at gone
    · cases gone
    · rename_i cause start
      have start : (t.newSlot k reply settings).channel.start t.connectTimeout = .error cause :=
        start
      rw [Slot.wentOnTold, Slot.startedTold, start]
      exact ⟨_, List.mem_singleton_self _⟩
  | pending | retryAfter =>
    rw [told] at gone
    cases gone
  | failed refusal => exact ⟨_, List.mem_singleton_self _⟩

end ChannelTable

/-! Runs -/

/-- As long as the channel of an open has its number, it is as the open has made it. -/
theorem madeFor_replay (admissible : Admissible config before) (host : Host)
    (size : settings.bufferSize ≠ 0) (free : (replay config before).2.firstFree? = some k)
    (later : List TableInput) :
    let t := (replay config before).2
    let now := (replay config (later ++ .openChannel host reply settings :: before)).2
    t.generation + 1 ≤ now.generation ∧
      ∀ s, now.slots.get? k = some s → s.channel.generation = t.generation + 1 →
        s.MadeFor reply settings config.maxBufferSize k := by
  intro t now
  induction later with
  | nil =>
    have made : t.made? (.openChannel host reply settings) = some (k, t.generation + 1) :=
      ChannelTable.made?_openChannel_iff.mpr ⟨size, free, rfl⟩
    have generation := generation_replay_cons config (.openChannel host reply settings) before
    rw [made, Option.elim_some] at generation
    have most : t.maxBufferSize = config.maxBufferSize :=
      admissible.run.tracks.inStep.maxBufferSize
    refine ⟨Nat.le_of_eq generation.symm, fun s hs _ => most ▸ ?_⟩
    exact (ChannelTable.new_madeFor (among_replay config before).keyed
      (ChannelTable.get?_of_firstFree? free) hs).2.2
  | cons input later ih =>
    obtain ⟨known, made⟩ := ih
    have generation :=
      generation_replay_cons config input (later ++ .openChannel host reply settings :: before)
    refine ⟨?_, fun s hs hg => ?_⟩
    · refine Nat.le_trans known (Nat.le_trans ?_ (Nat.le_of_eq generation.symm))
      rcases hmade : (replay config
        (later ++ .openChannel host reply settings :: before)).2.made? input with _ | x
      · exact Nat.le_refl _
      · have newer := ChannelTable.generation_of_made hmade
        rw [Option.elim_some]
        omega
    · exact (ChannelTable.origin_step (among_replay config _).keyed input hs).madeFor known made hg

/-- An open is refused for its size, or because every number has a channel, or it takes the lowest
number that is free and keeps it unless it is refused. However it goes on, and whatever else
happens meanwhile, it is answered well only as was agreed when it was let in, and then its channel
is open and has buffers of the size that was answered. Nothing else tells of an opened channel. -/
theorem open_answered_as_agreed (admissible : Admissible config before) (host : Host)
    (reply : Reply) (settings : ChannelSettings) :
    let t := (replay config before).2
    let opened := t.openChannel host reply settings
    (settings.bufferSize = 0 →
      opened = (t, ChannelTable.refuseOpen reply settings .bufferSizeNotAvailable)) ∧
    (settings.bufferSize ≠ 0 →
      ((∃ r, .respond r ∈ opened.2.effects ∧ r.refusal = .ofCause .noChannelAvailable) ↔
        t.Full) ∧
      (t.Full → opened = (t, ChannelTable.refuseOpen reply settings .noChannelAvailable)) ∧
      (¬ t.Full → ∃ k, t.LowestFree k ∧
        (∀ j ≠ k, opened.1.slots.get? j = t.slots.get? j) ∧
        (∀ r, .respond r ∈ opened.2.effects → r.result.isSuccess = false) ∧
        ((∃ r, .respond r ∈ opened.2.effects) ∨
          ∃ s, opened.1.slots.get? k = some s ∧ s.channel.generation = t.generation + 1 ∧
            s.owesOpen = true) ∧
        ∀ later input,
          let now := (replay config (later ++ .openChannel host reply settings :: before)).2
          (∀ r, .respond r ∈ (now.step input).2.effects → r.TellsOpened →
            ∃ j, .respond r ∈ now.openEffects j input) ∧
          (now.Holds k (t.generation + 1) →
            ∀ r, .respond r ∈ now.openEffects k input → r.result.isSuccess = true →
              r = reply.toOpened settings config.maxBufferSize k ∧
              ∃ s, (now.step input).1.OpenedFor settings config.maxBufferSize k
                (t.generation + 1) s))) := by
  intro t opened
  refine ⟨fun size => if_pos size, fun size => ?_⟩
  have refused (full : t.Full) :
      opened = (t, ChannelTable.refuseOpen reply settings .noChannelAvailable) := by
    simp only [opened, ChannelTable.openChannel, if_neg size,
      ChannelTable.firstFree?_eq_none_iff.mpr full]
  have let_in (notFull : ¬ t.Full) : ∃ k, t.firstFree? = some k :=
    Option.ne_none_iff_exists'.mp (mt ChannelTable.firstFree?_eq_none_iff.mp notFull)
  refine ⟨⟨?_, fun full => ?_⟩, refused, fun notFull => ?_⟩
  · rintro ⟨r, mem, full⟩
    by_contra notFull
    obtain ⟨k, free⟩ := let_in notFull
    have early := ChannelTable.refusal_of_mem_openChannel size free mem
    rw [full] at early
    exact Refusal.full_notMem_ofOpen early
  · rw [refused full]
    exact ⟨_, List.mem_singleton_self _, rfl⟩
  · obtain ⟨k, free⟩ := let_in notFull
    have vacant := ChannelTable.get?_of_firstFree? free
    have keyed := (among_replay config before).keyed
    refine ⟨k, ChannelTable.lowestFree_of_firstFree? free, fun j hj => ?_, fun r mem => ?_, ?_,
      fun later input => ⟨fun r mem opened => ?_, fun holds r mem success => ?_⟩⟩
    · have slot := congrArg ChannelView.slot (ChannelTable.view_openChannel size free host reply j)
      rwa [if_neg hj] at slot
    · exact Refusal.isSuccess_of_mem_ofOpen
        (ChannelTable.refusal_of_mem_openChannel size free mem)
    · rcases kept : opened.1.slots.get? k with _ | s
      · exact .inl (ChannelTable.refused_of_unkept size free kept)
      · obtain ⟨generation, owes, -⟩ := ChannelTable.new_madeFor keyed vacant kept
        exact .inr ⟨s, rfl, generation, owes⟩
    · exact ChannelTable.exists_openEffects (among_replay config _).keyed mem opened
    · obtain ⟨s, hs, hg⟩ := holds
      have made := (madeFor_replay admissible host size free later).2 s hs hg
      obtain ⟨told, s', opened'⟩ := ChannelTable.opened_of_openEffects
        (among_replay config _).keyed hs made mem success
      exact ⟨told, s', hg ▸ opened'⟩

/-- An open that asks for a larger buffer than there is, until its bearer has come up. -/
def greedyOpenLate : List TableInput := channelTypeUp :: slowly ++ [greedyOpen .secretive]

/-- It is told by the report that its socket has come up which buffer it got instead. -/
theorem greedyOpenLate_answered_as_agreed :
    ∃ r, .respond r ∈ (replay .standard greedyOpenLate).2.openEffects 1 (.report 1 1 .ready) ∧
      r = ⟨⟨1, CommandKind.openChannel.code, 0, true⟩, .modified, none,
        some (.openChannel (some (.plain 1 .established)) (some packetBearer) 1500)⟩ ∧
      ∃ s, ((replay .standard greedyOpenLate).2.step (.report 1 1 .ready)).1.slots.get? 1 =
          some s ∧
        s.channel.received.capacity = 1500 ∧ s.channel.queued.capacity = 1500 := by
  let settings := { ChannelSettings.loopback with
    bearer := some packetBearer, accessName := some "bip.example", bufferSize := 0xFFFF }
  let reply := Reply.toCommand 1 .openChannel 0
  have start : Admissible .standard [] := trivial
  obtain ⟨-, large⟩ :=
    open_answered_as_agreed start SteadyHost.secretive.answers reply settings
  have notFull : ¬ (replay .standard []).2.Full := fun full =>
    absurd (full 1 (by decide)) (by decide)
  obtain ⟨k, free, -, -, -, answered⟩ := (large (by decide)).2.2 notFull
  have first : k = 1 := by
    by_contra other
    have number := free.number
    have above : 1 < k := by
      simp only [ChannelTable.numbers, List.mem_cons, List.not_mem_nil, or_false] at number
      rcases number with rfl | rfl | rfl | rfl | rfl | rfl | rfl
      · exact absurd rfl other
      all_goals decide
    exact absurd (free.lowest 1 (by decide) above) (by decide)
  have inputs : channelTypeUp :: slowly ++
      .openChannel SteadyHost.secretive.answers reply settings :: [] = greedyOpenLate := rfl
  have generation : (replay .standard []).2.generation + 1 = 1 := rfl
  have late := (answered (channelTypeUp :: slowly) (.report 1 1 .ready)).2
  rw [inputs, generation, first] at late
  have slot : ((replay .standard greedyOpenLate).2.slots.get? 1).map (·.channel.generation) =
      some 1 := by decide +kernel
  have mem : Effect.respond (reply.toOpened settings Config.standard.maxBufferSize 1) ∈
      (replay .standard greedyOpenLate).2.openEffects 1 (.report 1 1 .ready) := by
    decide +kernel
  obtain ⟨-, s, opened⟩ := late (Option.map_eq_some_iff.mp slot) _ mem (by decide)
  exact ⟨_, mem, by decide +kernel, s, opened.slot, opened.channel.received,
    opened.channel.queued⟩

end CardChannels
