import CardChannels.Proofs.Channel.Links
import CardChannels.Proofs.Table.Origin
import CardChannels.Proofs.Terminal.Silence

/-!
# What an open waits for

An open waits for its bearer and then for its socket. In a step of a run, a channel that stays goes
on having as many looks put off as its request waits for, and a channel that is new begins with
them. A channel whose bearer is up has had a socket task started, and keeps it unless it is a client
whose partner is gone.
-/
namespace CardChannels

variable {config : Config} {past : TableHistory} {input : TableInput} {k : UInt8} {g : Nat}
  {s s' : Slot}

namespace ChannelTable

variable {t : ChannelTable}

/-! The end of the session -/

/-- Only channels that were open outlast the end of the session. -/
theorem opened_of_sessionEnd (keyed : t.Keyed) (hs : t.slots.get? k = some s)
    (hs' : t.sessionEnd.1.slots.get? k = some s') : s.phase = .opened := by
  obtain ⟨before, hbefore, opened, -⟩ := of_sessionEnd keyed hs'
  cases hs.symm.trans hbefore
  exact opened

/-! Looks -/

theorem generation_afterBearer (t : ChannelTable) (s : Slot) (outcome : BearerAnswer) :
    (t.afterBearer s outcome).1.generation = t.generation := by
  cases outcome with
  | ready =>
    simp only [afterBearer, startSocket]
    split
    · rfl
    · rw [giveUpOpen_fst]
      rfl
  | pending | retryAfter => rfl
  | failed refusal =>
    rw [afterBearer, giveUpOpen_fst]
    rfl

/-- A channel that waits to look again waits for its bearer. -/
theorem InStep.waits_of_isLooking {most : UInt16} {last : Nat} (h : t.InStep most last [])
    (hs : t.slots.get? k = some s) (looking : t.bearers.isLooking k = true) :
    s.phase = .awaitingBearer := by
  have up := h.upOf k
  rw [BearerRegistry.up?_of_isLooking looking, hs, Option.bind_some] at up
  exact Slot.wanted?_eq_false_iff.mp up.symm

/-- How one step accounts for the looks of a channel that stays: those that are put off, and those
that come due, make the difference in whether its request waits to look again. -/
def Accounts (t : ChannelTable) (input : TableInput) (k : UInt8) (g : Nat) : Prop :=
  (t.step input).2.putOff k g + (t.bearers.isLooking k).toNat =
    ((t.step input).1.bearers.isLooking k).toNat + (input.isLook k g).toNat

/-- Nothing is put off, nothing comes due, and the request is kept. -/
theorem Accounts.kept (putOff : (t.step input).2.putOff k g = 0) (due : input.isLook k g = false)
    (same : (t.step input).1.bearers.isLooking k = t.bearers.isLooking k) :
    t.Accounts input k g := by
  rw [Accounts, putOff, due, same, Nat.zero_add]
  rfl

/-- A look that comes due is made, and then put off or not. -/
theorem accounts_bearerRetry (keyed : t.Keyed) (host : Host) (j : UInt8) (n : Nat)
    (hs : t.slots.get? k = some s) (hs' : (t.bearerRetry host j n).1.slots.get? k = some s')
    (due : j = k → n = s.channel.generation → t.bearers.isLooking k = true)
    (waits : t.bearers.isLooking k = true → s.phase = .awaitingBearer) :
    t.Accounts (.bearerRetry host j n) k s.channel.generation := by
  rcases t.bearerRetry_cases host j n with ⟨idle, unlooked⟩ |
    ⟨sj, r, hsj, rfl, waitsj, hr, unenabled, looked⟩
  · have notDue : TableInput.isLook k s.channel.generation (.bearerRetry host j n) = false := by
      simp only [TableInput.isLook, decide_eq_false_iff_not]
      rintro ⟨rfl, rfl⟩
      have looking := due rfl rfl
      rw [unlooked s hs rfl (waits looking)] at looking
      cases looking
    refine .kept ?_ notDue ?_
    · simp only [step, idle, Output.putOff_none]
    · simp only [step, idle]
  · have hid := keyed j sj hsj
    rw [looked] at hs'
    -- Whoever stays has the request that the look has left.
    have stays := (Keeps.afterBearer
      (t := { t with bearers := (t.bearers.check host j r).1 }) (hid ▸ hsj)
      (t.bearers.check host j r).2.1 k s' hs').2
    have looking : ((t.step (.bearerRetry host j sj.channel.generation)).1.bearers.isLooking k) =
        (t.bearers.check host j r).1.isLooking k := by
      simp only [step, looked]
      exact BearerRegistry.isLooking_congr stays
    have putOff : (t.step (.bearerRetry host j sj.channel.generation)).2.putOff k
        s.channel.generation = if j = k ∧ sj.channel.generation = s.channel.generation then
          (t.bearers.check host j r).2.1.putsOff.toNat else 0 := by
      simp only [step, looked, Output.putOff_append, Output.putOff_call, Nat.zero_add,
        putOff_afterBearer, hid]
    by_cases hk : j = k
    · subst hk
      obtain rfl : s = sj := Option.some.inj (hs.symm.trans hsj)
      have before : t.bearers.isLooking j = true := by
        simp [BearerRegistry.isLooking, hr, unenabled]
      rw [Accounts, putOff, if_pos ⟨rfl, rfl⟩, before, looking, BearerRegistry.isLooking_check]
      simp [TableInput.isLook]
    · refine .kept ?_ (by simp [TableInput.isLook, hk]) ?_
      · rw [putOff, if_neg (by simp [hk])]
      · exact looking.trans (BearerRegistry.isLooking_congr
          (BearerRegistry.get?_of_forget_eq (t.bearers.forget_check host j r) (Ne.symm hk)))

/-- An open has no look put off but for the channel that it makes. If that channel is there
afterwards, one is put off exactly when its request waits to look again. -/
theorem openChannel_looks
    (requests : ∀ k, t.slots.get? k = none → t.bearers.requests.get? k = none) (host : Host)
    (reply : Reply) (settings : ChannelSettings) :
    let opened := t.openChannel host reply settings
    (∀ k g, opened.1.generation < g → opened.2.putOff k g = 0) ∧
      ∀ k s', opened.1.slots.get? k = some s' →
        (t.slots.get? k = none → opened.2.putOff k (t.generation + 1) =
          (opened.1.bearers.isLooking k).toNat) ∧
        ∀ s, t.slots.get? k = some s → (∀ g, opened.2.putOff k g = 0) ∧
          opened.1.bearers.isLooking k = t.bearers.isLooking k := by
  intro opened
  rcases t.openChannel_cases host reply settings with ⟨cause, h⟩ | ⟨j, hfree, h⟩
  · simp only [opened, h]
    refine ⟨fun _ _ _ => rfl, fun k s' hs' => ⟨fun hnone => ?_, fun _ _ => ⟨?_, trivial⟩⟩⟩
    · rw [hnone] at hs'
      cases hs'
    · exact fun _ => rfl
  · have hj := get?_of_firstFree? hfree
    let new := t.newSlot j reply settings
    let asked := t.bearers.ask host j settings
    let begun : ChannelTable := { t.enroll new with bearers := asked.1 }
    have putOff (k : UInt8) (g : Nat) : opened.2.putOff k g =
        if j = k ∧ t.generation + 1 = g then asked.2.1.putsOff.toNat else 0 := by
      simp only [opened, h, Output.putOff_append, Output.putOff_call, Nat.zero_add]
      exact putOff_afterBearer begun new asked.2.1 k g
    have generation : opened.1.generation = t.generation + 1 := by
      simp only [opened, h]
      exact generation_afterBearer begun new asked.2.1
    refine ⟨fun k g hg => ?_, fun k s' hs' => ?_⟩
    · rw [putOff, if_neg (by omega)]
    · have admitted : begun.slots.get? new.channel.id = some new := by simp [begun, enroll]
      have stays : (∃ s, begun.slots.get? k = some s) ∧
          opened.1.bearers.requests.get? k = begun.bearers.requests.get? k := by
        simp only [opened, h] at hs' ⊢
        exact Keeps.afterBearer admitted asked.2.1 k s' hs'
      have looking := BearerRegistry.isLooking_congr stays.2
      refine ⟨fun hnone => ?_, fun s hs => ?_⟩
      · obtain ⟨⟨s, hs⟩, -⟩ := stays
        have hk : k = j := by
          by_contra hk
          have off : k ≠ new.channel.id := hk
          simp [begun, enroll, off, hnone] at hs
        subst hk
        rw [putOff, if_pos ⟨rfl, rfl⟩, looking]
        exact congrArg Bool.toNat
          (BearerRegistry.isLooking_ask (requests k hj) host settings).symm
      · have hk : k ≠ j := by
          rintro rfl
          rw [hj] at hs
          cases hs
        refine ⟨fun g => by rw [putOff, if_neg (by simp [hk.symm])], looking.trans ?_⟩
        exact BearerRegistry.isLooking_congr
          (BearerRegistry.get?_of_forget_eq (t.bearers.forget_ask host j settings) hk)

/-- A look that comes due is put off for its own channel, if at all. -/
theorem putOff_bearerRetry_eq_zero (known : ∀ k s, t.slots.get? k = some s →
      s.channel.generation ≤ t.generation) (host : Host) (j : UInt8) (n : Nat)
    (hg : t.generation < g) : (t.bearerRetry host j n).2.putOff k g = 0 := by
  rcases t.bearerRetry_cases host j n with ⟨idle, -⟩ | ⟨s, r, hs, -, -, -, -, looked⟩
  · rw [idle]
    rfl
  · have hle := known j s hs
    rw [looked, Output.putOff_append, Output.putOff_call, Nat.zero_add, putOff_afterBearer,
      if_neg (by omega)]

end ChannelTable

/-! Steps of runs -/

namespace TableHistory.Tracks

variable {t : ChannelTable}

/-- A channel that stays has its generation, and if it waits for its bearer it has done so
before. -/
theorem kept (h : past.Tracks config t) (admitted : past.Admits input)
    (hs : t.slots.get? k = some s) (hs' : (t.step input).1.slots.get? k = some s') :
    s'.channel.generation = s.channel.generation ∧
      (s'.phase = .awaitingBearer → s.phase = .awaitingBearer) := by
  have hstep := (h.fits.stepped admitted).slot k
  rw [hs, hs'] at hstep
  rcases hstep.new_or_kept with hnone | ⟨s₀, hs₀, generation, waits⟩
  · cases hnone
  · cases hs₀
    exact ⟨generation, fun waits' => (waits waits').1⟩

theorem requests (h : past.Tracks config t) (k : UInt8) (hk : t.slots.get? k = none) :
    t.bearers.requests.get? k = none := by
  rw [← BearerRegistry.up?_eq_none_iff, h.inStep.upOf, hk, Option.bind_none]

/-- Every step of a run accounts for the looks of a channel that stays, when a look only comes due
while the channel's request waits for it. -/
theorem accounts (h : past.Tracks config t) (admitted : past.Admits input)
    (hs : t.slots.get? k = some s) (hs' : (t.step input).1.slots.get? k = some s')
    (due : input.isLook k s.channel.generation = true → t.bearers.isLooking k = true) :
    t.Accounts input k s.channel.generation := by
  have keyed : t.Keyed := fun k s hs => (h.inStep.slot k s hs).id
  have waits := h.inStep.waits_of_isLooking hs
  have aboutOne (hsubject : input.subject?.isSome = true)
      (unrelated : input.isLook k s.channel.generation = false) :
      t.Accounts input k s.channel.generation := by
    obtain ⟨j, hj⟩ := Option.isSome_iff_exists.mp hsubject
    have stays := ChannelTable.Keeps.actsOn (ChannelTable.actsOn_step hj (keyed j)) k s' hs'
    exact .kept (ChannelTable.putOff_subject hsubject k _) unrelated
      (BearerRegistry.isLooking_congr stays.2)
  cases input with
  | openChannel host reply settings =>
    obtain ⟨-, slots⟩ := ChannelTable.openChannel_looks h.requests host reply settings
    obtain ⟨putOff, looking⟩ := (slots k s' hs').2 s hs
    exact .kept (putOff _) rfl looking
  | closeChannel | sendData | receiveData | report | taskEnded => exact aboutOne rfl rfl
  | channelStatus reply => exact .kept rfl rfl rfl
  | bearerRetry host j n =>
    refine ChannelTable.accounts_bearerRetry keyed host j n hs hs' ?_ waits
    rintro rfl rfl
    exact due (by simp [TableInput.isLook])
  | connectionChanged change =>
    let told := t.bearers.connectionChanged change
    have stays := ChannelTable.Keeps.bearerChanges (t := { t with bearers := told.1 }) keyed
      told.2.1 k s' hs'
    refine .kept ?_ rfl ((BearerRegistry.isLooking_congr stays.2).trans ?_)
    · exact ChannelTable.putOff_bearerChanges { t with bearers := told.1 } told.2.1 k _
    · exact t.bearers.isLooking_connectionChanged change k
  | sessionEnd =>
    have opened := ChannelTable.opened_of_sessionEnd keyed hs hs'
    have before : t.bearers.isLooking k = false := by
      by_contra looking
      rw [waits (by simpa using looking)] at opened
      cases opened
    have after : (t.step .sessionEnd).1.bearers.isLooking k = false := by
      by_contra looking
      have waits' := (h.step admitted).inStep.waits_of_isLooking hs' (by simpa using looking)
      rw [(h.kept admitted hs hs').2 waits'] at opened
      cases opened
    refine .kept ?_ rfl (after.trans before.symm)
    rw [Output.putOff]
    simp [ChannelTable.step, t.effects_sessionEnd]
  | cardRemoved => cases hs'

/-- A new channel has one look put off if its request waits to look again, and none otherwise. -/
theorem accounts_new (h : past.Tracks config t) (admitted : past.Admits input)
    (hs : t.slots.get? k = none) (hs' : (t.step input).1.slots.get? k = some s') :
    t.generation < s'.channel.generation ∧ (t.step input).2.putOff k s'.channel.generation =
      ((t.step input).1.bearers.isLooking k).toNat := by
  obtain ⟨next, hnext, hsame | ⟨host, reply, settings, rfl⟩⟩ :=
    ChannelTable.inStep_step h.inStep h.fits.sound input (h.started admitted)
  · -- The new channel would need a new generation, and there is none.
    have hstep := (h.fits.stepped admitted).slot k
    rw [hs, hs', hnext.generation, hsame] at hstep
    cases hstep with
    | created id new known phase pending unheard => omega
  · obtain ⟨-, generation, -⟩ := ChannelTable.openChannel_new hs hs'
    obtain ⟨-, slots⟩ := ChannelTable.openChannel_looks h.requests host reply settings
    refine ⟨by omega, ?_⟩
    rw [generation]
    exact (slots k s' hs').1 hs

/-- No look is put off for a channel that is not made yet. -/
theorem putOff_of_unmade (h : past.Tracks config t) (admitted : past.Admits input)
    (hg : (t.step input).1.generation < g) (k : UInt8) : (t.step input).2.putOff k g = 0 := by
  cases input with
  | openChannel host reply settings =>
    exact (ChannelTable.openChannel_looks h.requests host reply settings).1 k g hg
  | closeChannel | sendData | receiveData | report | taskEnded =>
    exact ChannelTable.putOff_subject rfl k g
  | channelStatus reply => rfl
  | bearerRetry host j n =>
    exact ChannelTable.putOff_bearerRetry_eq_zero h.fits.known host j n
      (Nat.lt_of_le_of_lt (h.fits.stepped admitted).generation hg)
  | connectionChanged change =>
    exact ChannelTable.putOff_bearerChanges
      { t with bearers := (t.bearers.connectionChanged change).1 } _ k g
  | sessionEnd =>
    rw [Output.putOff]
    simp [ChannelTable.step, t.effects_sessionEnd]
  | cardRemoved => rfl

end TableHistory.Tracks

/-! Socket tasks -/

/-- A channel that outlasts a report keeps its task, unless it is a client whose partner is gone. -/
theorem Upshot.attached_of_slot? {r : Report}
    (left : (s.channel.report r).2.1.slot? s (s.channel.report r).1 = some s') :
    s'.channel.attached = s.channel.attached ∨ r = .readFailed ∧ s.channel.kind ≠ .tcpServer := by
  rw [Upshot.channel_of_slot? left]
  unfold Channel.report at left ⊢
  cases r with
  | ready | accepted | clientLost =>
    left
    split <;> rfl
  | data bytes =>
    left
    split <;> exact (s.channel.store_sameLink bytes).attached
  | openFailed => split at left <;> cases left
  | sent ok => cases ok with
    | true =>
      left
      split <;> rfl
    | false => split at left <;> cases left
  | readFailed =>
    split
    · exact .inl rfl
    all_goals
      rename_i client
      exact .inr ⟨rfl, by simp [client]⟩

/-- A slot whose channel has a socket task once its bearer is up, unless the channel is a client
that has heard that its partner is gone. -/
structure Slot.Manned (heard : List Report) (s : Slot) : Prop where
  task : s.phase ≠ .awaitingBearer →
    s.channel.attached = true ∨ .readFailed ∈ heard ∧ s.channel.kind ≠ .tcpServer

/-- A slot keeps its task through whatever leaves the task attached. -/
theorem Slot.Manned.step {heard : Nat → List Report} {channel : Channel} {phase : Phase}
    {pending : Option PendingReply} (h : s.Manned (heard s.channel.generation))
    (done : ChannelInput) (stepped : channel = s.channel.step done)
    (attached : (s.channel.step done).attached = s.channel.attached) (same : phase = s.phase)
    (earlier : List Report) :
    Slot.Manned (earlier ++ heard channel.generation) ⟨channel, phase, pending⟩ := by
  refine ⟨fun begun => ?_⟩
  dsimp only at begun ⊢
  rw [stepped, attached, Channel.kind_step, (s.channel.step_continues done).generation]
  exact (h.task (same ▸ begun)).imp_right fun gone =>
    ⟨List.mem_append_right earlier gone.1, gone.2⟩

/-- A slot has its task after a step if it had it before, and if only a task that was started
reports. -/
theorem Slot.Origin.manned {t : ChannelTable} {told : Nat → List Order}
    {before : Option Slot} (origin : s'.Origin t k input told before) (heard : Nat → List Report)
    (held : ∀ s, before = some s → s.Manned (heard s.channel.generation))
    (started : ∀ s r, before = some s → input.heard k s.channel.generation = some r →
      s.phase ≠ .awaitingBearer) :
    s'.Manned ((input.heard k s'.channel.generation).toList ++ heard s'.channel.generation) := by
  cases origin with
  | stays unclosed =>
    refine ⟨fun begun => ((held s' rfl).task begun).imp_right fun gone => ?_⟩
    exact ⟨List.mem_append_right _ gone.1, gone.2⟩
  | started uncommanded waits start given => exact ⟨fun _ => .inl (Channel.attached_start start)⟩
  | new asked => exact ⟨fun begun => absurd rfl begun⟩
  | newStarted asked start given => exact ⟨fun _ => .inl (Channel.attached_start start)⟩
  | @kept s reply channel orders asked closed =>
    have attached := s.channel.attached_close true (by rw [closed])
    exact (held s rfl).step (.close true) (congrArg (·.1) closed).symm attached rfl _
  | @sent s reply data immediate channel outcome orders asked about opened free send =>
    exact (held s rfl).step (.send data.data immediate) (congrArg (·.1) send).symm
      (s.channel.send_sameLink data.data immediate).attached opened.symm _
  | @fetched s reply data asked about =>
    exact (held s rfl).step (.receive data.length) rfl
      (s.channel.receive_sameLink data.length).attached rfl _
  | @reported s s' r channel upshot orders hears report left =>
    have stepped : s'.channel = s.channel.step (.report r) :=
      (Upshot.channel_of_slot? left).trans (congrArg (·.1) report).symm
    have kind : s'.channel.kind = s.channel.kind := by rw [stepped, Channel.kind_step]
    have generation : s'.channel.generation = s.channel.generation := by
      rw [stepped, (s.channel.step_continues (.report r)).generation]
    have about : input.heard k s.channel.generation = some r := by
      rw [hears]
      simp [TableInput.heard]
    have outlasts := Upshot.attached_of_slot? (s := s) (r := r) (by rw [report]; exact left)
    rw [generation, about]
    refine ⟨fun _ => ?_⟩
    rw [kind]
    rcases outlasts with attached | ⟨rfl, client⟩
    · rw [attached]
      exact ((held s rfl).task (started s r rfl about)).imp_right fun gone =>
        ⟨List.mem_append_right _ gone.1, gone.2⟩
    · exact .inr ⟨List.mem_cons_self .., client⟩
  | @ended s hears => exact (held s rfl).step .taskEnded rfl rfl rfl _
  | @outlived s ending opened client =>
    have same : s.channel.step .sessionEnd = s.channel.resume.1 := by
      rw [Channel.step, Channel.sessionEnd, if_neg client]
    exact (held s rfl).step .sessionEnd same.symm (same ▸ s.channel.resume_sameLink.attached)
      opened.symm _

/-- In every run the channels whose bearer is up have their task, but for clients whose partner is
gone. -/
theorem TableRun.manned {t : ChannelTable} (run : TableRun config past t)
    (hs : t.slots.get? k = some s) : s.Manned (past.heard k s.channel.generation) := by
  induction run generalizing s with
  | start => cases hs
  | @step past t run input admitted ih =>
    have origin := t.origin_step run.keyed input hs
    rw [TableHistory.heard_cons]
    exact origin.manned (past.heard k) (fun s hs => ih hs)
      fun s r hs heard => run.tracks.started admitted k s r hs heard

/-- A slot that has a socket task if its channel waits for one. -/
def Slot.Attended (s : Slot) : Prop := s.phase = .opening → s.channel.attached = true

/-- A table in which every channel that waits for its socket has a task. -/
def ChannelTable.Attended (t : ChannelTable) : Prop :=
  ∀ k s, t.slots.get? k = some s → s.Attended

theorem TableRun.attended {t : ChannelTable} (run : TableRun config past t) : t.Attended := by
  intro k s hs opening
  have unheard : past.heard k s.channel.generation = [] := by
    by_contra heard
    cases opening.symm.trans ((run.fits.slot k s hs).opened.mpr heard)
  rcases (run.manned hs).task (by simp [opening]) with attached | ⟨gone, -⟩
  · exact attached
  · rw [unheard] at gone
    cases gone

end CardChannels
