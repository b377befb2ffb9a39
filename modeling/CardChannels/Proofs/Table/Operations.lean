import CardChannels.Proofs.Table.OnSlot

/-!
# The operations on a channel in use

What each command, report, change of a bearer and end of a session does to the slot of the channel
that it is about.
-/
namespace CardChannels

namespace ChannelTable

variable {t : ChannelTable} {k : UInt8} {g : Nat} {s : Slot} {reply : Reply} {modified : Bool}
  {channel : Channel}

/-! Commands for a channel in use -/

theorem closeChannel_onSlot (reply : Reply) (keepListening : Bool)
    (hs : t.slots.get? s.channel.id = some s) :
    ∃ after, (after = none ∨ ∃ channel, s.channel.Continues channel ∧
        after = some { s with channel := channel }) ∧
      t.OnSlot s.channel.id s.channel.generation after [.respond (reply.success .ok none)]
        (s.channel.close keepListening).2.2 (t.closeChannel reply s.channel.id keepListening) := by
  have hc := Channel.close_continues (c := s.channel) keepListening
  unfold closeChannel
  rw [hs]
  dsimp only
  rcases hclose : s.channel.close keepListening with ⟨closed, outcome, orders⟩
  rw [hclose] at hc
  cases outcome with
  | released =>
    have h := ((t.free_onSlot s.channel.id s.channel.generation).order orders).respond
      (reply.success .ok none)
    rw [List.append_nil] at h
    exact ⟨_, .inl rfl, h⟩
  | listening =>
    have h := ((OnSlot.put t s.channel.generation hc s.phase s.pending).order orders).respond
      (reply.success .ok none)
    rw [List.append_nil] at h
    exact ⟨_, .inr ⟨closed, hc, rfl⟩, h⟩

/-- A send is answered at once, unless its bytes go on their way. -/
theorem sendData_onSlot (reply : Reply) (data : Transfer) (immediate : Bool)
    (hs : t.slots.get? data.channel = some s) (hd : s.channel.id = data.channel) :
    ∃ channel, s.channel.Continues channel ∧
      ((∃ r, t.OnSlot s.channel.id s.channel.generation (some { s with channel := channel })
          [.respond r] [] (t.sendData reply data immediate)) ∨
        ∃ free bytes, immediate = true ∧ s.phase = .opened ∧ s.pending = none ∧
          t.OnSlot s.channel.id s.channel.generation
            (some ⟨channel, s.phase, some (.sending reply free)⟩) [] [.write bytes]
            (t.sendData reply data immediate)) := by
  unfold sendData
  rw [hs]
  dsimp only
  split
  · have h := (OnSlot.unchanged (g := s.channel.generation) (hd ▸ hs)).respond
      (reply.failure (.ofCause .channelClosed) none)
    exact ⟨s.channel, ⟨rfl, rfl⟩, .inl ⟨_, h⟩⟩
  · rename_i hopen
    simp only [not_or, ne_eq, Decidable.not_not, Bool.not_eq_true, Option.isSome_eq_false_iff,
      Option.isNone_iff_eq_none] at hopen
    have hc := Channel.send_continues (c := s.channel) data.data immediate
    have horders := Channel.send_orders (c := s.channel) data.data immediate
    rcases hsend : s.channel.send data.data immediate with ⟨channel, outcome, orders⟩
    rw [hsend] at hc horders
    refine ⟨channel, hc, ?_⟩
    cases outcome with
    | buffered free =>
      exact .inl ⟨_, (OnSlot.put t s.channel.generation hc s.phase s.pending).respond _⟩
    | flushing free =>
      rcases horders with ⟨free', bytes, himm, heq⟩ | ⟨-, hne⟩
      · obtain ⟨-, rfl⟩ := Prod.mk.inj heq
        have h := (OnSlot.put t s.channel.generation hc s.phase
          (some (.sending reply free))).order [.write bytes]
        rw [Output.append_none, ← s.orders_continues hc s.phase s.pending] at h
        exact .inr ⟨free, bytes, himm, hopen.1, hopen.2, h⟩
      · exact absurd rfl (hne free)
    | closed =>
      exact .inl ⟨_, (OnSlot.put t s.channel.generation hc s.phase s.pending).respond _⟩

theorem receiveData_onSlot (reply : Reply) (data : Transfer)
    (hs : t.slots.get? data.channel = some s) :
    ∃ channel r, s.channel.Continues channel ∧
      t.OnSlot s.channel.id s.channel.generation (some { s with channel := channel })
        [.respond r] (s.channel.receive data.length).2.2 (t.receiveData reply data) := by
  have hc := Channel.receive_continues (c := s.channel) data.length
  unfold receiveData
  rw [hs]
  dsimp only
  rcases hreceive : s.channel.receive data.length with ⟨channel, outcome, orders⟩
  rw [hreceive] at hc
  have h := (OnSlot.put t s.channel.generation hc s.phase s.pending).order orders
  rw [List.append_nil, Output.append_none] at h
  exact ⟨channel, _, hc, h.respond _⟩

/-! Reports -/

theorem current?_self (hs : t.slots.get? s.channel.id = some s) :
    t.current? s.channel.id s.channel.generation = some s := by
  rw [current?, hs]
  exact Option.filter_some_pos (by simp)

theorem of_current? {g : Nat} (hs : t.current? k g = some s) :
    t.slots.get? k = some s ∧ s.channel.generation = g := by
  obtain ⟨hs, hg⟩ := Option.filter_eq_some_iff.mp hs
  exact ⟨hs, by simpa using hg⟩

theorem report_eq (hs : t.slots.get? s.channel.id = some s) (r : Report) :
    let (reported, told, orders) := s.channel.report r
    let result := t.applyUpshot { s with channel := reported } told
    t.report s.channel.id s.channel.generation r = (result.1, s.orders orders ++ result.2) := by
  simp only [report, current?_self hs]

theorem report_stale (h : ∀ s, t.slots.get? k = some s → s.channel.generation ≠ g) (r : Report) :
    t.report k g r = (t, .none) := by
  have hc : t.current? k g = none := by
    simpa [current?, Option.filter_eq_none_iff] using h
  simp [report, hc]

theorem applyUpshot_opened (hc : s.channel.Continues channel)
    (hp : s.pending = some (.opening reply modified)) (status : ChannelStatus) :
    ∃ r, r.details = reply.details ∧
      t.OnSlot s.channel.id s.channel.generation (some ⟨channel, .opened, none⟩) [.respond r] []
        (t.applyUpshot { s with channel := channel } (.opened status)) := by
  have h := OnSlot.put t s.channel.generation hc .opened none
  simp only [applyUpshot, hp]
  exact ⟨_, rfl, h.respond _⟩

theorem applyUpshot_openFailed (hc : s.channel.Continues channel)
    (hp : s.pending = some (.opening reply modified)) (cause : ChannelCause) :
    ∃ r, r.details = reply.details ∧
      t.OnSlot s.channel.id s.channel.generation none [.respond r] []
        (t.applyUpshot { s with channel := channel } (.openFailed cause)) := by
  have h := t.giveUpOpen_onSlot (s := { s with channel := channel }) (.ofCause cause) hp
  rw [hc.id, hc.generation] at h
  exact ⟨_, rfl, h⟩

theorem applyUpshot_sent (hc : s.channel.Continues channel) :
    t.OnSlot s.channel.id s.channel.generation (some ⟨channel, s.phase, none⟩)
      (s.sendAnswer fun reply free => reply.success .ok (some (.sendData free))) []
      (t.applyUpshot { s with channel := channel } .sent) := by
  have h := OnSlot.put t s.channel.generation hc s.phase none
  rcases hp : s.pending with _ | ⟨reply, modified⟩ | ⟨reply, free⟩
  · simpa only [applyUpshot, Slot.sendAnswer, hp] using h
  · simpa only [applyUpshot, Slot.sendAnswer, hp] using h
  · simp only [applyUpshot, Slot.sendAnswer, hp]
    exact h.respond _

theorem applyUpshot_sendFailed (hc : s.channel.Continues channel) :
    t.OnSlot s.channel.id s.channel.generation none
      (s.sendAnswer fun reply _ => reply.failure (.ofCause .channelClosed) none) []
      (t.applyUpshot { s with channel := channel } .sendFailed) := by
  have h := t.free_onSlot channel.id s.channel.generation
  rw [hc.id] at h
  rcases hp : s.pending with _ | ⟨reply, modified⟩ | ⟨reply, free⟩
  · simpa only [applyUpshot, Slot.sendAnswer, hp, hc.id] using h
  · simpa only [applyUpshot, Slot.sendAnswer, hp, hc.id] using h
  · simp only [applyUpshot, Slot.sendAnswer, hp, hc.id]
    exact h.respond _

theorem applyUpshot_lost (hc : s.channel.Continues channel) {status : ChannelStatus}
    (hl : status.state ≠ .established) :
    t.OnSlot s.channel.id s.channel.generation (some ⟨channel, s.phase, none⟩)
      (s.sendAnswer (fun reply _ => reply.failure (.ofCause .channelClosed) none) ++
        [.raise (.channelStatus status)]) []
      (t.applyUpshot { s with channel := channel } (.statusChanged status)) := by
  have h := OnSlot.put t s.channel.generation hc s.phase none
  rcases hp : s.pending with _ | ⟨reply, modified⟩ | ⟨reply, free⟩
  · simp only [applyUpshot, Slot.sendAnswer, hp, if_neg hl]
    exact h.raise _
  · simp only [applyUpshot, Slot.sendAnswer, hp, if_neg hl]
    exact h.raise _
  · simp only [applyUpshot, Slot.sendAnswer, hp, if_neg hl]
    exact (h.respond _).raise _

/-- Any other upshot leaves the slot with what it waits for. -/
theorem applyUpshot_worked (hc : s.channel.Continues channel) {told : Upshot}
    (h : told = .ignored ∨ (∃ status available, told = .dataAvailable status available) ∨
      ∃ status, told = .statusChanged status ∧ status.state = .established) :
    ∃ effects, t.OnSlot s.channel.id s.channel.generation (some { s with channel := channel })
      effects [] (t.applyUpshot { s with channel := channel } told) := by
  have hput := OnSlot.put t s.channel.generation hc s.phase s.pending
  rcases h with rfl | ⟨status, available, rfl⟩ | ⟨status, rfl, hl⟩
  · exact ⟨_, hput⟩
  · exact ⟨_, hput.raise _⟩
  · simp only [applyUpshot, if_pos hl]
    exact ⟨_, hput.raise _⟩

/-- A report that a write is over answers the send that waits for it, and does nothing else that
the card hears of. -/
theorem report_sent_effects (hs : t.slots.get? s.channel.id = some s) (ok : Bool) :
    ∃ answer : Reply → Nat → TerminalResponse,
      (∀ reply free, (answer reply free).details = reply.details) ∧
      (t.report s.channel.id s.channel.generation (.sent ok)).2.effects = s.sendAnswer answer := by
  have heq := report_eq hs (.sent ok)
  have continues := Channel.report_continues (c := s.channel) (.sent ok)
  have htold := (s.channel.meaning_report (.sent ok)).of_sent
  rcases hr : s.channel.report (.sent ok) with ⟨channel, told, orders⟩
  rw [hr] at heq continues htold
  rw [heq]
  cases ok with
  | true =>
    obtain rfl : told = .sent := htold
    exact ⟨_, fun _ _ => rfl, (applyUpshot_sent (t := t) continues).effects⟩
  | false =>
    obtain rfl : told = .sendFailed := htold
    exact ⟨_, fun _ _ => rfl, (applyUpshot_sendFailed (t := t) continues).effects⟩

/-! Bearers -/

theorem bearerRetry_progress (hs : t.slots.get? s.channel.id = some s)
    (hp : s.pending = some (.opening reply modified)) (host : Host) :
    t.Progress s reply (t.bearerRetry host s.channel.id s.channel.generation) := by
  have hkept := OnSlot.unchanged (g := s.channel.generation) hs
  unfold bearerRetry
  rw [current?_self hs]
  dsimp only
  split
  · exact .waits [] hkept
  · let looked := { t with bearers := (t.bearers.retry host s.channel.id).1 }
    split
    · exact .waits [] ⟨hkept.slots, rfl, rfl, rfl⟩
    · exact (afterBearer_progress (t := looked) hs hp _).ofBearers.call _

theorem bearerRetry_of_not_waiting
    (h : ∀ s, t.slots.get? k = some s → s.channel.generation = g → s.phase ≠ .awaitingBearer)
    (host : Host) : t.bearerRetry host k g = (t, .none) := by
  unfold bearerRetry
  split
  · rfl
  · rename_i s hs
    obtain ⟨hs, hg⟩ := Option.filter_eq_some_iff.mp hs
    rw [if_pos (h s hs (by simpa using hg))]

/-- The loss of its bearer answers the open of a channel. -/
theorem bearerLost_opening (t : ChannelTable) (hp : s.pending = some (.opening reply modified)) :
    ∃ r, r.details = reply.details ∧
      t.OnSlot s.channel.id s.channel.generation none [.respond r] (s.channel.close false).2.2
        (t.bearerLost s) := by
  have h := ((t.free_onSlot s.channel.id s.channel.generation).order (s.channel.close false).2.2)
  rw [List.append_nil] at h
  simp only [bearerLost, hp]
  exact ⟨_, rfl, h.respond _⟩

/-- The loss of its bearer is told to the card when a channel is open, and answers a send. -/
theorem bearerLost_opened (t : ChannelTable)
    (hp : ∀ reply modified, s.pending ≠ some (.opening reply modified)) :
    ∃ status : ChannelStatus, status.channel = s.channel.id ∧
      t.OnSlot s.channel.id s.channel.generation none
        (s.sendAnswer (fun reply _ => reply.failure (.ofCause .channelClosed) none) ++
          [.raise (.channelStatus status)]) (s.channel.close false).2.2 (t.bearerLost s) := by
  have h := ((t.free_onSlot s.channel.id s.channel.generation).order (s.channel.close false).2.2)
  rw [List.append_nil] at h
  refine ⟨(ChannelStatus.plain s.channel.id .closed).dropped, rfl, ?_⟩
  rcases hpend : s.pending with _ | ⟨reply, modified⟩ | ⟨reply, free⟩
  · simp only [bearerLost, Slot.sendAnswer, hpend]
    exact h.raise _
  · exact absurd hpend (hp reply modified)
  · simp only [bearerLost, Slot.sendAnswer, hpend]
    exact (h.respond _).raise _

/-! Ends -/

theorem taskEnded_onSlot (hs : t.slots.get? s.channel.id = some s) :
    ∃ channel, s.channel.Continues channel ∧
      t.OnSlot s.channel.id s.channel.generation (some { s with channel := channel }) [] []
        (t.taskEnded s.channel.id s.channel.generation, .none) := by
  have hc : s.channel.Continues { s.channel with ended := true } := ⟨rfl, rfl⟩
  unfold taskEnded
  rw [current?_self hs]
  exact ⟨_, hc, .put t s.channel.generation hc s.phase s.pending⟩

theorem taskEnded_stale (h : ∀ s, t.slots.get? k = some s → s.channel.generation ≠ g) :
    t.taskEnded k g = t := by
  have hc : t.current? k g = none := by
    simpa [current?, Option.filter_eq_none_iff] using h
  simp [taskEnded, hc]

/-- The end of the session ends an open that is under way and drops the answer to a send. -/
theorem endSession_onSlot (t : ChannelTable) (s : Slot) :
    ∃ after orders, (after = none ∨ s.phase = .opened ∧ ∃ channel, s.channel.Continues channel ∧
        after = some ⟨channel, s.phase, none⟩) ∧
      t.OnSlot s.channel.id s.channel.generation after [] orders (t.endSession s) := by
  have hfree := t.free_onSlot s.channel.id s.channel.generation
  unfold endSession
  split
  · exact ⟨none, _, .inl rfl, hfree.order _⟩
  · rename_i hopen
    have hc := Channel.sessionEnd_continues (c := s.channel)
    rcases hend : s.channel.sessionEnd with ⟨channel, outcome, orders⟩
    rw [hend] at hc
    cases outcome with
    | keep =>
      exact ⟨_, _, .inr ⟨by simpa using hopen, channel, hc, rfl⟩,
        (OnSlot.put t s.channel.generation hc s.phase none).order orders⟩
    | release => exact ⟨none, _, .inl rfl, hfree.order orders⟩

/-! Several channels in turn -/

section Each

variable {α : Type} {f : ChannelTable → α → ChannelTable × Output} {key : α → UInt8}
  {Fits : α → Option Slot → Prop} {a : α} {l rest : List α}
  (hf : ∀ (t : ChannelTable) (a : α), Fits a (t.slots.get? (key a)) →
    ∃ g after effects orders, t.OnSlot (key a) g after effects orders (f t a))

include hf

/-- What is dealt with first leaves the other channels as they were. -/
theorem fits_rest (hkeys : ((a :: rest).map key).Nodup)
    (hl : ∀ b ∈ a :: rest, Fits b (t.slots.get? (key b))) :
    ∀ b ∈ rest, Fits b ((f t a).1.slots.get? (key b)) := by
  intro b hb
  have hfit := List.forall_mem_cons.mp hl
  obtain ⟨g, after, effects, orders, h⟩ := hf t a hfit.1
  have hne : key b ≠ key a := fun he =>
    (List.nodup_cons.mp hkeys).1 (he ▸ List.mem_map_of_mem hb)
  rw [h.other hne]
  exact hfit.2 b hb

theorem each_generation (hkeys : (l.map key).Nodup)
    (hl : ∀ a ∈ l, Fits a (t.slots.get? (key a))) : (t.each f l).1.generation = t.generation := by
  induction l generalizing t with
  | nil => rfl
  | cons a rest ih =>
    obtain ⟨g, after, effects, orders, h⟩ := hf t a (List.forall_mem_cons.mp hl).1
    exact (ih (List.nodup_cons.mp hkeys).2 (fits_rest hf hkeys hl)).trans h.generation

/-- When things are dealt with in order, nothing happens to channels that none is about. -/
theorem each_other (hkeys : (l.map key).Nodup) (hl : ∀ a ∈ l, Fits a (t.slots.get? (key a)))
    (hk : k ∉ l.map key) :
    (t.each f l).1.slots.get? k = t.slots.get? k ∧ ∀ g, (t.each f l).2.told k g = [] := by
  induction l generalizing t with
  | nil => exact ⟨rfl, fun _ => rfl⟩
  | cons a rest ih =>
    rw [List.map_cons, List.mem_cons, not_or] at hk
    obtain ⟨g, after, effects, orders, h⟩ := hf t a (List.forall_mem_cons.mp hl).1
    have hrest := ih (List.nodup_cons.mp hkeys).2 (fits_rest hf hkeys hl) hk.2
    refine ⟨hrest.1.trans (h.other hk.1), ?_⟩
    intro n
    rw [each, Output.told_append, h.told_other hk.1, hrest.2, List.nil_append]

/-- When things that are about different channels are dealt with in order, each does to its channel
what it would do alone. -/
theorem each_slot (hkeys : (l.map key).Nodup) (hl : ∀ a ∈ l, Fits a (t.slots.get? (key a)))
    (ha : a ∈ l) :
    ∃ t' : ChannelTable, t'.slots.get? (key a) = t.slots.get? (key a) ∧
      (t.each f l).1.slots.get? (key a) = (f t' a).1.slots.get? (key a) ∧
      (∀ g, (t.each f l).2.told (key a) g = (f t' a).2.told (key a) g) ∧
      ∀ e ∈ (f t' a).2.effects, e ∈ (t.each f l).2.effects := by
  induction l generalizing t with
  | nil => cases ha
  | cons b rest ih =>
    have hcons := List.nodup_cons.mp hkeys
    obtain ⟨g, after, effects, orders, h⟩ := hf t b (List.forall_mem_cons.mp hl).1
    have hfits := fits_rest hf hkeys hl
    simp only [each, Output.told_append, Output.effects_append, List.mem_append]
    rcases List.mem_cons.mp ha with rfl | ha
    · have hrest := each_other hf hcons.2 hfits hcons.1
      refine ⟨t, rfl, hrest.1, ?_, fun e he => .inl he⟩
      intro n
      rw [hrest.2, List.append_nil]
    · have hne : key a ≠ key b := fun he => hcons.1 (he ▸ List.mem_map_of_mem ha)
      obtain ⟨t', hget, hslots, htold, heffects⟩ := ih hcons.2 hfits ha
      refine ⟨t', hget.trans (h.other hne), hslots, ?_, fun e he => .inr (heffects e he)⟩
      intro n
      rw [h.told_other hne, htold, List.nil_append]

end Each

end ChannelTable

end CardChannels
