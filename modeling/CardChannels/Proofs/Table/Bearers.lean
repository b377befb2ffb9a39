import CardChannels.Proofs.Bearer.Readiness
import CardChannels.Proofs.Channel.Run
import CardChannels.Proofs.Table.Steps

/-!
# Slots and bearer requests

The table keeps its channels, and the registry keeps what they have asked for. Both change in turn,
so within a step some channels are busy: their requests have changed already, and their slots are
to follow. What every operation keeps is that each channel which is not busy has asked for just the
bearer that its slot has to have.
-/
namespace CardChannels

/-- Whether the bearer is up that a channel has to have asked for, if it has to. -/
def Slot.wanted? (s : Slot) : Option Bool :=
  match s.phase with
  | .awaitingBearer => some false
  | .opening | .opened => s.channel.settings.bearer.map fun _ => true

/-- A channel that has its own number and a buffer of a size that is allowed. -/
structure Slot.Agreed (most : UInt16) (k : UInt8) (s : Slot) : Prop where
  number : k ∈ ChannelTable.numbers
  id : s.channel.id = k
  channel : s.channel.settings.channel = some k
  least : 1 ≤ s.channel.settings.bufferSize
  most : s.channel.settings.bufferSize ≤ most

/-- A channel that has its own number and a buffer of a size that is allowed, if any is. -/
structure Slot.Allotted (most : UInt16) (k : UInt8) (s : Slot) : Prop where
  number : k ∈ ChannelTable.numbers
  id : s.channel.id = k
  channel : s.channel.settings.channel = some k
  least : 1 ≤ most → 1 ≤ s.channel.settings.bufferSize
  most : s.channel.settings.bufferSize ≤ most

namespace Slot

variable {s : Slot} {most : UInt16} {k : UInt8} {channel : Channel} {phase : Phase}
  {pending : Option PendingReply}

theorem wanted?_of_waiting (h : s.phase = .awaitingBearer) : s.wanted? = some false := by
  simp [wanted?, h]

theorem wanted?_of_not_waiting (h : s.phase ≠ .awaitingBearer) :
    s.wanted? = s.channel.settings.bearer.map fun _ => true := by
  unfold wanted?
  split
  · contradiction
  · rfl
  · rfl

theorem wanted?_eq_false_iff : s.wanted? = some false ↔ s.phase = .awaitingBearer := by
  constructor
  · intro h
    by_contra hphase
    rw [wanted?_of_not_waiting hphase] at h
    simp at h
  · exact wanted?_of_waiting

theorem Allotted.agreed (allotted : s.Allotted most k) (positive : 1 ≤ most) : s.Agreed most k :=
  ⟨allotted.number, allotted.id, allotted.channel, allotted.least positive, allotted.most⟩

theorem Allotted.goOn (allotted : s.Allotted most k) (continues : s.channel.Continues channel)
    (settings : channel.settings = s.channel.settings) (phase : Phase)
    (pending : Option PendingReply) : Allotted most k ⟨channel, phase, pending⟩ :=
  ⟨allotted.number, continues.id.trans allotted.id, settings ▸ allotted.channel,
    settings ▸ allotted.least, settings ▸ allotted.most⟩

end Slot

theorem negotiate_bounds {requested : UInt16} (hr : requested ≠ 0) (most : UInt16) :
    (1 ≤ most → 1 ≤ (negotiate requested most).1) ∧ (negotiate requested most).1 ≤ most := by
  unfold negotiate
  split
  · exact ⟨id, UInt16.le_refl _⟩
  · rename_i h
    have hpos : 0 < requested.toNat :=
      Nat.pos_of_ne_zero fun h0 => hr (UInt16.toNat_inj.mp h0)
    exact ⟨fun _ => UInt16.le_iff_toNat_le.mpr hpos, UInt16.not_lt.mp h⟩

namespace ChannelTable

/-- A table in which every channel has what it was allotted, and each that is not busy has asked
for the bearer that it has to have. -/
structure InStep (most : UInt16) (last : Nat) (busy : List UInt8) (t : ChannelTable) : Prop where
  maxBufferSize : t.maxBufferSize = most
  generation : t.generation = last
  slot : ∀ k s, t.slots.get? k = some s → s.Allotted most k
  bearer : ∀ k ∉ busy, t.bearers.up? k = (t.slots.get? k).bind Slot.wanted?
  /-- Only a channel that needs a bearer waits for one. -/
  needs : ∀ k ∉ busy, ∀ s, t.slots.get? k = some s → s.phase = .awaitingBearer →
    s.channel.settings.bearer.isSome = true

/-- Tables that have the same channels and requests, those of one number aside. -/
structure SameOff (k : UInt8) (t t' : ChannelTable) : Prop where
  slots : ∀ j ≠ k, t'.slots.get? j = t.slots.get? j
  bearers : ∀ j ≠ k, t'.bearers.up? j = t.bearers.up? j

variable {most : UInt16} {last : Nat} {busy : List UInt8} {t : ChannelTable} {k : UInt8} {s : Slot}
  {channel : Channel}

@[simp] theorem up?_free (t : ChannelTable) (k j : UInt8) :
    (t.free k).1.bearers.up? j = if j = k then none else t.bearers.up? j := by
  simp [free]

/-! What one number's channel can become -/

namespace InStep

theorem upOf (h : t.InStep most last []) (k : UInt8) :
    t.bearers.up? k = (t.slots.get? k).bind Slot.wanted? := h.bearer k List.not_mem_nil

/-- One channel more may be busy. -/
theorem busier (h : t.InStep most last busy) (k : UInt8) : t.InStep most last (k :: busy) :=
  ⟨h.maxBufferSize, h.generation, h.slot,
    fun j hj => h.bearer j (List.not_mem_of_not_mem_cons hj),
    fun j hj => h.needs j (List.not_mem_of_not_mem_cons hj)⟩

theorem free (h : t.InStep most last (k :: busy)) : (t.free k).1.InStep most last busy := by
  refine ⟨h.maxBufferSize, h.generation, ?_, ?_, ?_⟩
  · intro j s hs
    rw [get?_free] at hs
    split at hs
    · cases hs
    · exact h.slot j s hs
  · intro j hj
    rw [get?_free, up?_free]
    split
    · rfl
    · exact h.bearer j (List.not_mem_cons_of_ne_of_not_mem ‹_› hj)
  · intro j hj s hs
    rw [get?_free] at hs
    split at hs
    · cases hs
    · exact h.needs j (List.not_mem_cons_of_ne_of_not_mem ‹_› hj) s hs

/-- A busy channel that is put back with the request that it has to have is busy no more. -/
theorem put (h : t.InStep most last (k :: busy)) (allotted : s.Allotted most k)
    (up : t.bearers.up? k = s.wanted?)
    (needs : s.phase = .awaitingBearer → s.channel.settings.bearer.isSome = true) :
    (t.put s).InStep most last busy := by
  have hk := allotted.id
  refine ⟨h.maxBufferSize, h.generation, ?_, ?_, ?_⟩
  · intro j s' hs
    rw [get?_put, hk] at hs
    split at hs
    · rename_i hj
      cases hs
      exact hj ▸ allotted
    · exact h.slot j s' hs
  · intro j hj
    rw [get?_put, hk]
    split
    · rename_i hjk
      rw [hjk]
      exact up
    · exact h.bearer j (List.not_mem_cons_of_ne_of_not_mem ‹_› hj)
  · intro j hj s' hs
    rw [get?_put, hk] at hs
    split at hs
    · cases hs
      exact needs
    · exact h.needs j (List.not_mem_cons_of_ne_of_not_mem ‹_› hj) s' hs

/-- A busy channel that has the request that it has to have need not be busy. -/
theorem settled (h : t.InStep most last (k :: busy)) (hs : t.slots.get? k = some s)
    (up : t.bearers.up? k = s.wanted?)
    (needs : s.phase = .awaitingBearer → s.channel.settings.bearer.isSome = true) :
    t.InStep most last busy := by
  refine ⟨h.maxBufferSize, h.generation, h.slot, ?_, ?_⟩
  · intro j hj
    by_cases hjk : j = k
    · rw [hjk, hs]
      exact up
    · exact h.bearer j (List.not_mem_cons_of_ne_of_not_mem hjk hj)
  · intro j hj s' hs'
    by_cases hjk : j = k
    · rw [hjk, hs] at hs'
      cases hs'
      exact needs
    · exact h.needs j (List.not_mem_cons_of_ne_of_not_mem hjk hj) s' hs'

/-- Channels are busy once their requests have changed. -/
theorem withBearers (h : t.InStep most last busy) {bearers : BearerRegistry} {ks : List UInt8}
    (sub : busy ⊆ ks) (same : ∀ j ∉ ks, bearers.up? j = t.bearers.up? j) :
    InStep most last ks { t with bearers := bearers } :=
  ⟨h.maxBufferSize, h.generation, h.slot,
    fun j hj => (same j hj).trans (h.bearer j (mt (@sub j) hj)),
    fun j hj => h.needs j (mt (@sub j) hj)⟩

/-- A channel goes on, waiting for its bearer or not as before. -/
theorem goOn (h : t.InStep most last []) (hs : t.slots.get? k = some s)
    (continues : s.channel.Continues channel) (settings : channel.settings = s.channel.settings)
    {phase : Phase} (same : phase = .awaitingBearer ↔ s.phase = .awaitingBearer)
    (pending : Option PendingReply) :
    (t.put ⟨channel, phase, pending⟩).InStep most last [] := by
  refine (h.busier k).put ((h.slot k s hs).goOn continues settings phase pending) ?_ ?_
  · rw [h.upOf, hs, Option.bind_some]
    by_cases hphase : s.phase = .awaitingBearer
    · rw [Slot.wanted?_of_waiting hphase, Slot.wanted?_of_waiting (same.mpr hphase)]
    · rw [Slot.wanted?_of_not_waiting hphase, Slot.wanted?_of_not_waiting (mt same.mp hphase),
        settings]
  · intro hphase
    rw [settings]
    exact h.needs k List.not_mem_nil s hs (same.mp hphase)

end InStep

/-! An open that goes on -/

/-- A free number is busy once a new channel has it. -/
theorem InStep.opened (h : t.InStep most last []) (allotted : s.Allotted most k) :
    InStep most (last + 1) [k] ({ t with generation := t.generation + 1 }.put s) := by
  have off {j : UInt8} (hj : j ∉ [k]) : j ≠ s.channel.id := by
    rw [allotted.id]
    simpa using hj
  refine ⟨h.maxBufferSize, congrArg (· + 1) h.generation, ?_, ?_, ?_⟩
  · intro j s' hs
    rw [get?_put, allotted.id] at hs
    split at hs
    · rename_i hj
      cases hs
      exact hj ▸ allotted
    · exact h.slot j s' hs
  · intro j hj
    rw [get?_put, if_neg (off hj)]
    exact h.upOf j
  · intro j hj s' hs
    rw [get?_put, if_neg (off hj)] at hs
    exact h.needs j List.not_mem_nil s' hs

theorem inStep_giveUpOpen (h : t.InStep most last (s.channel.id :: busy)) (refusal : Refusal) :
    (t.giveUpOpen s refusal).1.InStep most last busy := by
  rw [giveUpOpen_fst]
  exact h.free

/-- The socket task of a channel is started once its bearer is up, if it needs one. -/
theorem inStep_startSocket (h : t.InStep most last (k :: busy)) (allotted : s.Allotted most k)
    (up : t.bearers.up? k = s.channel.settings.bearer.map fun _ => true) :
    (t.startSocket s).1.InStep most last busy := by
  have hk := allotted.id
  unfold startSocket
  dsimp only
  split
  · rename_i channel orders hstart
    have continues := Channel.start_continues hstart
    have settings := Channel.settings_start hstart
    refine h.put (allotted.goOn continues settings .opening s.pending) ?_ (by simp)
    rw [Slot.wanted?_of_not_waiting (by simp), settings]
    exact up
  · exact inStep_giveUpOpen (s := { s with phase := .opening }) (hk ▸ h) _

/-- A channel that waits for its bearer goes on as it is told. -/
theorem inStep_afterBearer (h : t.InStep most last (k :: busy)) (hs : t.slots.get? k = some s)
    (waits : s.phase = .awaitingBearer) (needs : s.channel.settings.bearer.isSome = true)
    {outcome : BearerAnswer} (up : t.bearers.up? k = outcome.upAfter) :
    (t.afterBearer s outcome).1.InStep most last busy := by
  have allotted := h.slot k s hs
  have wanted := Slot.wanted?_of_waiting waits
  cases outcome with
  | ready =>
    refine inStep_startSocket h allotted ?_
    obtain ⟨bearer, hb⟩ := Option.isSome_iff_exists.mp needs
    rw [up, hb]
    rfl
  | pending => exact h.settled hs (up.trans wanted.symm) fun _ => needs
  | retryAfter delay => exact h.settled hs (up.trans wanted.symm) fun _ => needs
  | failed refusal => exact inStep_giveUpOpen (allotted.id ▸ h) refusal

/-! Commands -/

theorem inStep_openChannel (h : t.InStep most last []) (host : Host) (reply : Reply)
    (settings : ChannelSettings) :
    ∃ next, (t.openChannel host reply settings).1.InStep most next [] := by
  unfold openChannel
  split
  · exact ⟨last, h⟩
  · rename_i hsize
    split
    · exact ⟨last, h⟩
    · rename_i k hfree
      have hk : t.slots.get? k = none := by
        simpa [ChannelMap.contains] using List.find?_some hfree
      have fresh : t.bearers.up? k = none := by rw [h.upOf, hk]; rfl
      have bounds := negotiate_bounds hsize t.maxBufferSize
      let size := negotiate settings.bufferSize t.maxBufferSize
      let slot : Slot := ⟨.new k (t.generation + 1)
        { settings with bufferSize := size.1, channel := some k }, .awaitingBearer,
        some (.opening reply size.2)⟩
      have allotted : slot.Allotted most k :=
        ⟨List.mem_of_find?_eq_some hfree, rfl, rfl, h.maxBufferSize ▸ bounds.1,
          h.maxBufferSize ▸ bounds.2⟩
      have hopened := h.opened allotted
      refine ⟨last + 1, ?_⟩
      dsimp only
      split
      · rename_i hb
        refine inStep_startSocket hopened allotted ?_
        exact fresh.trans (congrArg (Option.map fun _ => true) hb).symm
      · rename_i bearer hb
        have asked := fun j => t.bearers.up?_request fresh host bearer settings.accessName j
        have hasked := hopened.withBearers (List.Subset.refl [k]) fun j hj =>
          (asked j).trans (if_neg (by simpa using hj))
        refine inStep_afterBearer hasked ?_ rfl ?_ ((asked k).trans (if_pos rfl))
        · exact (get?_put ..).trans (if_pos rfl)
        · exact Option.isSome_iff_exists.mpr ⟨bearer, hb⟩

theorem inStep_closeChannel (h : t.InStep most last []) (reply : Reply) (k : UInt8)
    (keepListening : Bool) : (t.closeChannel reply k keepListening).1.InStep most last [] := by
  unfold closeChannel
  split
  · exact h
  · rename_i s hs
    have continues := Channel.close_continues (c := s.channel) keepListening
    have settings := Channel.settings_close s.channel keepListening
    rcases hclose : s.channel.close keepListening with ⟨closed, outcome, orders⟩
    rw [hclose] at continues settings
    cases outcome with
    | released => exact (h.busier k).free
    | listening => exact h.goOn hs continues settings Iff.rfl s.pending

theorem inStep_sendData (h : t.InStep most last []) (reply : Reply) (data : Transfer)
    (immediate : Bool) : (t.sendData reply data immediate).1.InStep most last [] := by
  unfold sendData
  split
  · exact h
  · rename_i s hs
    split
    · exact h
    · have continues := Channel.send_continues (c := s.channel) data.data immediate
      have settings := Channel.settings_send s.channel data.data immediate
      rcases hsend : s.channel.send data.data immediate with ⟨channel, outcome, orders⟩
      rw [hsend] at continues settings
      cases outcome with
      | buffered free => exact h.goOn hs continues settings Iff.rfl s.pending
      | flushing free => exact h.goOn hs continues settings Iff.rfl _
      | closed => exact h.goOn hs continues settings Iff.rfl s.pending

theorem inStep_receiveData (h : t.InStep most last []) (reply : Reply) (data : Transfer) :
    (t.receiveData reply data).1.InStep most last [] := by
  unfold receiveData
  split
  · exact h
  · rename_i s hs
    exact h.goOn hs (Channel.receive_continues data.length)
      (Channel.settings_receive s.channel data.length) Iff.rfl s.pending

/-! Reports -/

/-- What a report means leaves a channel whose socket task was started in step. -/
theorem inStep_applyUpshot (h : t.InStep most last []) (hs : t.slots.get? k = some s)
    (continues : s.channel.Continues channel) (settings : channel.settings = s.channel.settings)
    (started : s.phase ≠ .awaitingBearer) (told : Upshot) :
    (t.applyUpshot { s with channel := channel } told).1.InStep most last [] := by
  have hk : channel.id = k := continues.id.trans (h.slot k s hs).id
  have freed : (t.free channel.id).1.InStep most last [] := (h.busier channel.id).free
  have kept (pending : Option PendingReply) :
      (t.put ⟨channel, s.phase, pending⟩).InStep most last [] :=
    h.goOn hs continues settings Iff.rfl pending
  cases told with
  | opened status =>
    exact h.goOn hs continues settings (iff_of_false (by simp) started) none
  | openFailed cause =>
    exact inStep_giveUpOpen (h.busier _) _
  | sent => exact kept none
  | sendFailed =>
    unfold applyUpshot
    dsimp only
    split <;> exact freed
  | dataAvailable status available => exact kept s.pending
  | statusChanged status =>
    unfold applyUpshot
    dsimp only
    split
    · exact kept s.pending
    · exact kept none
  | ignored => exact kept s.pending

theorem inStep_report (h : t.InStep most last []) (k : UInt8) (g : Nat) (r : Report)
    (started : ∀ s, t.slots.get? k = some s → s.channel.generation = g →
      s.phase ≠ .awaitingBearer) :
    (t.report k g r).1.InStep most last [] := by
  unfold report
  split
  · exact h
  · rename_i s hs
    obtain ⟨hs, hg⟩ := of_current? hs
    exact inStep_applyUpshot h hs (Channel.report_continues r)
      (Channel.settings_report s.channel r) (started s hs hg) _

theorem inStep_taskEnded (h : t.InStep most last []) (k : UInt8) (g : Nat) :
    (t.taskEnded k g).InStep most last [] := by
  unfold taskEnded
  split
  · exact h
  · rename_i s hs
    have continues : s.channel.Continues { s.channel with ended := true } := ⟨rfl, rfl⟩
    exact h.goOn (of_current? hs).1 continues rfl Iff.rfl s.pending

/-! Bearers -/

theorem inStep_bearerRetry (h : t.InStep most last []) (host : Host) (k : UInt8) (g : Nat) :
    (t.bearerRetry host k g).1.InStep most last [] := by
  unfold bearerRetry
  split
  · exact h
  · rename_i s hs
    have hs := (of_current? hs).1
    split
    · exact h
    · rename_i waits
      have waits : s.phase = .awaitingBearer := Decidable.not_not.mp waits
      have looked := fun j => t.bearers.up?_retry host k j
      have off : ∀ j ∉ [k], (t.bearers.retry host k).1.up? j = t.bearers.up? j := fun j hj =>
        (looked j).trans (if_neg (by simpa using hj))
      have self := (looked k).trans (if_pos rfl)
      have busy := h.withBearers (List.nil_subset [k]) off
      have needs := h.needs k List.not_mem_nil s hs waits
      dsimp only
      split
      · rename_i heq
        rw [heq, Option.elim_none, h.upOf, hs] at self
        exact busy.settled hs self fun _ => needs
      · rename_i outcome heq
        rw [heq] at self
        exact inStep_afterBearer busy hs waits needs self

/-! Several channels in turn -/

namespace SameOff

theorem free (t : ChannelTable) (k : UInt8) : t.SameOff k (t.free k).1 :=
  ⟨fun j hj => by rw [get?_free, if_neg hj], fun j hj => by rw [up?_free, if_neg hj]⟩

theorem put (t : ChannelTable) (hk : s.channel.id = k) : t.SameOff k (t.put s) :=
  ⟨fun j hj => by rw [get?_put, hk, if_neg hj], fun _ _ => rfl⟩

theorem startSocket (t : ChannelTable) (s : Slot) : t.SameOff s.channel.id (t.startSocket s).1 := by
  unfold ChannelTable.startSocket
  dsimp only
  split
  · rename_i hstart
    exact .put t (Channel.start_continues hstart).id
  · rw [giveUpOpen_fst]
    exact .free t _

end SameOff

/-- When busy channels are dealt with in order, and each is in step once it has been, then at the
end all channels are. -/
theorem inStep_each {α : Type} {f : ChannelTable → α → ChannelTable × Output} (key : α → UInt8)
    (Fits : α → Option Slot → Option Bool → Prop) {l : List α}
    (hf : ∀ (t : ChannelTable) (a : α) (busy : List UInt8), t.InStep most last (key a :: busy) →
      Fits a (t.slots.get? (key a)) (t.bearers.up? (key a)) →
      (f t a).1.InStep most last busy ∧ t.SameOff (key a) (f t a).1)
    (hkeys : (l.map key).Nodup) (h : t.InStep most last (l.map key))
    (hl : ∀ a ∈ l, Fits a (t.slots.get? (key a)) (t.bearers.up? (key a))) :
    (t.each f l).1.InStep most last [] := by
  induction l generalizing t with
  | nil => exact h
  | cons a rest ih =>
    have hcons := List.nodup_cons.mp hkeys
    have hfits := List.forall_mem_cons.mp hl
    obtain ⟨hstep, hsame⟩ := hf t a (rest.map key) h hfits.1
    refine ih hcons.2 hstep fun b hb => ?_
    have hne : key b ≠ key a := fun he => hcons.1 (he ▸ List.mem_map_of_mem hb)
    rw [hsame.slots _ hne, hsame.bearers _ hne]
    exact hfits.2 b hb

/-- What is to be told to a channel fits the channel and what has become of its request. -/
def FitsChange (told : BearerChange) (slot : Option Slot) (up : Option Bool) : Prop :=
  up = told.upAfter ∧ ∃ s, slot = some s ∧
    (told ≠ .lost → s.phase = .awaitingBearer ∧ s.channel.settings.bearer.isSome = true)

theorem inStep_bearerChange (h : t.InStep most last (k :: busy)) {told : BearerChange}
    (fits : FitsChange told (t.slots.get? k) (t.bearers.up? k)) :
    (t.bearerChange k told).1.InStep most last busy ∧ t.SameOff k (t.bearerChange k told).1 := by
  obtain ⟨up, s, hs, hwaits⟩ := fits
  have allotted := h.slot k s hs
  have hk := allotted.id
  unfold bearerChange
  rw [hs]
  cases told with
  | ready =>
    obtain ⟨waits, needs⟩ := hwaits (by simp)
    obtain ⟨bearer, hb⟩ := Option.isSome_iff_exists.mp needs
    dsimp only
    rw [if_pos waits]
    refine ⟨inStep_startSocket h allotted ?_, hk ▸ .startSocket t s⟩
    rw [up, hb]
    rfl
  | failed refusal =>
    dsimp only
    rw [if_pos (hwaits (by simp)).1, giveUpOpen_fst, hk]
    exact ⟨h.free, .free t k⟩
  | lost =>
    dsimp only
    rw [bearerLost_fst, hk]
    exact ⟨h.free, .free t k⟩

theorem inStep_connectionChanged (h : t.InStep most last []) (change : ConnectionChange) :
    (t.connectionChanged change).1.InStep most last [] := by
  have after := fun j => t.bearers.up?_connectionChanged change j
  refine inStep_each (·.1) (fun a => FitsChange a.2) ?_ (nodup_changes t.bearers change) ?_ ?_
  · exact fun t a busy h fits => inStep_bearerChange h fits
  · refine h.withBearers (List.nil_subset _) fun j hj => (after j).trans ?_
    have hnone : t.bearers.changeOf change j = none :=
      Option.eq_none_iff_forall_ne_some.mpr fun told ht =>
        hj (List.mem_map_of_mem (BearerRegistry.mem_changes_iff.mpr ht))
    rw [hnone, Option.elim_none]
  · rintro ⟨k, told⟩ hmem
    have ht := BearerRegistry.mem_changes_iff.mp hmem
    have hup := (h.upOf k).symm.trans (BearerRegistry.up?_of_changeOf ht)
    obtain ⟨s, hs, hwanted⟩ := Option.bind_eq_some_iff.mp hup
    refine ⟨?_, s, hs, fun hne => ?_⟩
    · exact (after k).trans (by rw [ht, Option.elim_some])
    · rw [decide_eq_false hne] at hwanted
      have waits := Slot.wanted?_eq_false_iff.mp hwanted
      exact ⟨waits, h.needs k List.not_mem_nil s hs waits⟩

/-! Ends -/

theorem inStep_endSession (h : t.InStep most last (s.channel.id :: busy))
    (hs : t.slots.get? s.channel.id = some s)
    (up : s.phase = .opened → t.bearers.up? s.channel.id = s.wanted?) :
    (t.endSession s).1.InStep most last busy ∧ t.SameOff s.channel.id (t.endSession s).1 := by
  unfold endSession
  split
  · exact ⟨h.free, .free t _⟩
  · rename_i hopen
    have hopen : s.phase = .opened := Decidable.not_not.mp hopen
    have continues := Channel.sessionEnd_continues (c := s.channel)
    have settings := Channel.settings_sessionEnd s.channel
    rcases hend : s.channel.sessionEnd with ⟨channel, outcome, orders⟩
    rw [hend] at continues settings
    cases outcome with
    | keep =>
      have allotted := (h.slot _ s hs).goOn continues settings s.phase none
      refine ⟨h.put allotted ?_ ?_, .put t continues.id⟩
      · rw [up hopen, Slot.wanted?_of_not_waiting (by simp [hopen]),
          Slot.wanted?_of_not_waiting (by simp [hopen]), settings]
      · simp [hopen]
    | release => exact ⟨h.free, .free t _⟩

theorem inStep_sessionEnd (h : t.InStep most last []) (sound : t.Sound) :
    t.sessionEnd.1.InStep most last [] := by
  have after := fun j => t.bearers.up?_dropUnready j
  refine inStep_each (·.channel.id)
    (fun s slot up => slot = some s ∧ (s.phase = .opened → up = s.wanted?)) ?_
    (nodup_values sound) ?_ ?_
  · exact fun t s busy h fits => inStep_endSession h fits.1 fits.2
  · refine h.withBearers (List.nil_subset _) fun j hj => (after j).trans ?_
    have hnone : t.slots.get? j = none :=
      Option.eq_none_iff_forall_ne_some.mpr fun s hs => hj <|
        List.mem_map.mpr ⟨s, ChannelMap.mem_values_iff.mpr ⟨j, hs⟩, (sound.slot j s hs).id⟩
    rw [h.upOf, hnone, Option.bind_none, if_neg (by simp)]
  · intro s hmem
    obtain ⟨k, hs⟩ := ChannelMap.mem_values_iff.mp hmem
    obtain rfl := (sound.slot k s hs).id
    refine ⟨hs, fun hopen => (after _).trans ?_⟩
    have hwanted : s.wanted? ≠ some false := by
      rw [ne_eq, Slot.wanted?_eq_false_iff, hopen]
      simp
    rw [h.upOf, hs, Option.bind_some, if_neg hwanted]

theorem inStep_cardRemoved (h : t.InStep most last []) : t.cardRemoved.1.InStep most last [] := by
  refine ⟨h.maxBufferSize, h.generation, ?_, ?_, ?_⟩
  · intro k s hs
    cases hs
  · exact fun k _ => t.bearers.up?_releaseAll k
  · intro k _ s hs
    cases hs

/-- Every input leaves the channels in step when socket tasks that were not started report nothing.
Only an open makes a new channel. -/
theorem inStep_step (h : t.InStep most last []) (sound : t.Sound) (input : TableInput)
    (started : ∀ k s r, t.slots.get? k = some s → input.heard k s.channel.generation = some r →
      s.phase ≠ .awaitingBearer) :
    ∃ next, (t.step input).1.InStep most next [] ∧
      (next = last ∨ ∃ host reply settings, input = .openChannel host reply settings) := by
  cases input with
  | openChannel host reply settings =>
    obtain ⟨next, hnext⟩ := inStep_openChannel h host reply settings
    exact ⟨next, hnext, .inr ⟨_, _, _, rfl⟩⟩
  | closeChannel reply k keepListening =>
    exact ⟨last, inStep_closeChannel h reply k keepListening, .inl rfl⟩
  | sendData reply data immediate =>
    exact ⟨last, inStep_sendData h reply data immediate, .inl rfl⟩
  | receiveData reply data => exact ⟨last, inStep_receiveData h reply data, .inl rfl⟩
  | channelStatus reply => exact ⟨last, h, .inl rfl⟩
  | report k g r =>
    refine ⟨last, inStep_report h k g r ?_, .inl rfl⟩
    rintro s hs rfl
    exact started k s r hs (by simp [TableInput.heard])
  | bearerRetry host k g => exact ⟨last, inStep_bearerRetry h host k g, .inl rfl⟩
  | connectionChanged change => exact ⟨last, inStep_connectionChanged h change, .inl rfl⟩
  | taskEnded k g => exact ⟨last, inStep_taskEnded h k g, .inl rfl⟩
  | sessionEnd => exact ⟨last, inStep_sessionEnd h sound, .inl rfl⟩
  | cardRemoved => exact ⟨last, inStep_cardRemoved h, .inl rfl⟩

end ChannelTable

end CardChannels
