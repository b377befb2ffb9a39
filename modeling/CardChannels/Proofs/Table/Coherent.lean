import CardChannels.Proofs.Table.Bearers
import CardChannels.Proofs.Table.Phases

/-!
# Channels, answers and bearers in step

In every run a number that no channel has holds no bearer request, and a channel's phase tells what
it waits to answer and how far its bearer is. A socket task is started only once the bearer is up,
so no report of a task can meet a channel that still waits for its bearer.
-/
namespace CardChannels

variable {config : Config} {past : TableHistory} {t : ChannelTable} {input : TableInput}
  {k : UInt8} {s' : Slot}

/-- A slot that is in step with the table that it is in: with its settings, with the other slots,
with what it has to answer, and with the bearer request of its number. -/
structure Slot.Coherent (t : ChannelTable) (most : UInt16) (k : UInt8) (s : Slot) : Prop
    extends s.Agreed most k where
  given : s.channel.generation ≤ t.generation
  distinct : ∀ j s', t.slots.get? j = some s' → s'.channel.generation = s.channel.generation →
    j = k
  waiting : s.phase = .awaitingBearer ↔ ∃ r, t.bearers.requests.get? k = some r ∧
    ((∃ attempts, r.state = .provisioning attempts) ∨ r.state = .waiting)
  up : s.phase ≠ .awaitingBearer → s.channel.settings.bearer.isSome = true →
    ∃ r, t.bearers.requests.get? k = some r ∧ r.state = .active
  absent : s.phase ≠ .awaitingBearer → s.channel.settings.bearer = none →
    t.bearers.requests.get? k = none
  pending : (∃ reply modified, s.pending = some (.opening reply modified)) ↔ s.phase ≠ .opened

namespace BearerRegistry

variable {c : BearerRegistry}

theorem up?_eq_none_iff : c.up? k = none ↔ c.requests.get? k = none := by
  rw [up?, Option.map_eq_none_iff]

theorem up?_eq_true_iff :
    c.up? k = some true ↔ ∃ r, c.requests.get? k = some r ∧ r.state = .active := by
  simp [up?, BearerRequest.isUp]

theorem up?_eq_false_iff :
    c.up? k = some false ↔ ∃ r, c.requests.get? k = some r ∧
      ((∃ attempts, r.state = .provisioning attempts) ∨ r.state = .waiting) := by
  have notActive (state : BearerStage) :
      state ≠ .active ↔ (∃ attempts, state = .provisioning attempts) ∨ state = .waiting := by
    cases state <;> simp
  simp only [up?, BearerRequest.isUp, Option.map_eq_some_iff, decide_eq_false_iff_not, notActive]

end BearerRegistry

/-! Steps -/

/-- A slot is new, or the channel has had it before. If it waits for its bearer, it did so before,
and its socket task is not started. -/
theorem SlotStep.new_or_kept {last next : Nat} {out : Output} {before : Option Slot}
    (h : SlotStep last next k input out before (some s')) :
    before = none ∨ ∃ s, before = some s ∧ s'.channel.generation = s.channel.generation ∧
      (s'.phase = .awaitingBearer → s.phase = .awaitingBearer ∧
        (out.told k s.channel.generation).any Order.starts = false) := by
  cases h with
  | created id new known phase pending unheard => exact .inl rfl
  | worked continues minor heard =>
    refine .inr ⟨_, rfl, continues.generation, fun waits => ⟨waits, ?_⟩⟩
    rw [List.any_eq_false]
    intro o ho
    have hminor := minor o ho
    cases o <;> simp_all [Order.minor, Order.starts]
  | started continues pending unheard =>
    exact .inr ⟨_, rfl, continues.generation, fun waits => by cases waits⟩
  | completed continues pending heard answered =>
    exact .inr ⟨_, rfl, continues.generation, fun waits => by cases waits⟩
  | flushing continues sends phase pending told =>
    exact .inr ⟨_, rfl, continues.generation, fun waits => by cases phase.symm.trans waits⟩
  | settled continues phase answered =>
    exact .inr ⟨_, rfl, continues.generation, fun waits => by cases phase.symm.trans waits⟩
  | ended ends after =>
    obtain hnone | ⟨phase, channel, continues, hsome⟩ := after
    · cases hnone
    · cases hsome
      exact .inr ⟨_, rfl, continues.generation, fun waits => by cases phase.symm.trans waits⟩

namespace ChannelTable

/-- An open makes one new slot, and starts no socket task as long as the slot waits for its
bearer. -/
theorem openChannel_new {host : Host} {reply : Reply} {settings : ChannelSettings}
    (hnone : t.slots.get? k = none)
    (hs : (t.openChannel host reply settings).1.slots.get? k = some s') :
    (∀ j ≠ k, (t.openChannel host reply settings).1.slots.get? j = t.slots.get? j) ∧
      s'.channel.generation = t.generation + 1 ∧
      (s'.phase = .awaitingBearer → (t.openChannel host reply settings).2.orders = []) := by
  rcases t.openChannel_progress host reply settings with ⟨cause, h⟩ |
    ⟨s, modified, -, hgen, hphase, -, h⟩
  · rw [h, hnone] at hs
    cases hs
  · obtain ⟨after, effects, orders, honSlot⟩ := h.onSlot
    have off {j : UInt8} (hj : j ≠ s.channel.id) :
        (t.openChannel host reply settings).1.slots.get? j = t.slots.get? j := by
      rw [honSlot.other hj, get?_put, if_neg hj]
    obtain rfl : k = s.channel.id := by
      by_contra hk
      rw [off hk, hnone] at hs
      cases hs
    refine ⟨fun j hj => off hj, ?_⟩
    cases h with
    | waits effects h =>
      cases h.self.symm.trans hs
      exact ⟨hgen, fun _ => h.orders⟩
    | givenUp refusal h => cases h.self.symm.trans hs
    | started channel continues orders h =>
      cases h.self.symm.trans hs
      exact ⟨continues.generation.trans hgen, fun waits => by cases waits⟩

end ChannelTable

/-! Runs -/

namespace TableHistory

/-- A table that is in step and fits the history that has led to it. -/
structure Tracks (config : Config) (past : TableHistory) (t : ChannelTable) : Prop where
  fits : past.Fits t
  inStep : t.InStep config.maxBufferSize t.generation []
  unstarted : ∀ k s, t.slots.get? k = some s → s.phase = .awaitingBearer →
    (past.told k s.channel.generation).any Order.starts = false
  distinct : ∀ j k s s', t.slots.get? j = some s → t.slots.get? k = some s' →
    s.channel.generation = s'.channel.generation → j = k

/-- A task that was not started reports nothing. -/
theorem Tracks.started (h : Tracks config past t) (admitted : past.Admits input) (k : UInt8)
    (s : Slot) (r : Report) (hs : t.slots.get? k = some s)
    (hr : input.heard k s.channel.generation = some r) : s.phase ≠ .awaitingBearer := by
  intro waits
  have hnot := h.unstarted k s hs waits
  cases input with
  | report channel generation r' =>
    simp only [TableInput.heard, Option.ite_none_right_eq_some] at hr
    obtain ⟨⟨rfl, rfl⟩, -⟩ := hr
    have hstarted := CanReport.started admitted
    rw [hnot] at hstarted
    cases hstarted
  | _ => cases hr

/-- A slot that was there before the step goes on, and any other is the only new one. -/
theorem Tracks.new_or_kept (h : Tracks config past t) (admitted : past.Admits input)
    (hs : (t.step input).1.slots.get? k = some s') :
    (∃ s, t.slots.get? k = some s ∧ s'.channel.generation = s.channel.generation ∧
        (s'.phase = .awaitingBearer → s.phase = .awaitingBearer ∧
          ((t.step input).2.told k s.channel.generation).any Order.starts = false)) ∨
      (∀ j ≠ k, (t.step input).1.slots.get? j = t.slots.get? j) ∧
        t.generation < s'.channel.generation ∧
        (s'.phase = .awaitingBearer → (t.step input).2.orders = []) := by
  have hstep := (h.fits.stepped admitted).slot k
  rw [hs] at hstep
  rcases hstep.new_or_kept with hnone | hkept
  · right
    obtain ⟨next, hnext, hsame | ⟨host, reply, settings, rfl⟩⟩ :=
      ChannelTable.inStep_step h.inStep h.fits.sound input (h.started admitted)
    · -- The new slot would need a new generation, and there is none.
      rw [hnone, hnext.generation, hsame] at hstep
      cases hstep with
      | created id new known phase pending unheard => omega
    · obtain ⟨hoff, hgen, horders⟩ := ChannelTable.openChannel_new hnone hs
      exact ⟨hoff, by omega, horders⟩
  · exact .inl hkept

theorem Tracks.step (h : Tracks config past t) (admitted : past.Admits input) :
    Tracks config ((input, (t.step input).2) :: past) (t.step input).1 := by
  obtain ⟨next, hnext, -⟩ :=
    ChannelTable.inStep_step h.inStep h.fits.sound input (h.started admitted)
  refine ⟨h.fits.step admitted, ?_, ?_, ?_⟩
  · exact hnext.generation.symm ▸ hnext
  · intro k s' hs' waits
    rw [told_cons, List.any_append]
    rcases h.new_or_kept admitted hs' with ⟨s, hs, hgen, hwaits⟩ | ⟨-, hgen, horders⟩
    · rw [hgen, h.unstarted k s hs (hwaits waits).1, (hwaits waits).2, Bool.or_false]
    · rw [Output.told_of_orders_nil (horders waits), (h.fits.fresh k _ hgen).1]
      rfl
  · intro j k s s' hs hs' heq
    rcases h.new_or_kept admitted hs with ⟨s₀, hs₀, hgen, -⟩ | ⟨hoff, hgen, -⟩
    · rcases h.new_or_kept admitted hs' with ⟨s₁, hs₁, hgen', -⟩ | ⟨-, hgen', -⟩
      · exact h.distinct j k s₀ s₁ hs₀ hs₁ (by omega)
      · have hknown := h.fits.known j s₀ hs₀
        omega
    · by_contra hjk
      rw [hoff k (Ne.symm hjk)] at hs'
      have hknown := h.fits.known k s' hs'
      omega

end TableHistory

theorem TableRun.tracks (run : TableRun config past t) : past.Tracks config t := by
  induction run with
  | start =>
    refine ⟨TableRun.start.fits, ⟨rfl, rfl, ?_, fun _ _ => rfl, ?_⟩, ?_, ?_⟩
    all_goals simp [ChannelTable.ofConfig]
  | step run input admitted ih => exact ih.step admitted

/-- In every run a free number has no bearer request, and every slot is in step with its settings,
its answer and its bearer request. -/
theorem free_without_request_and_slots_coherent (run : TableRun config past t)
    (positive : 1 ≤ config.maxBufferSize) (k : UInt8) :
    (t.slots.get? k = none → t.bearers.requests.get? k = none) ∧
      ∀ s, t.slots.get? k = some s → s.Coherent t config.maxBufferSize k := by
  have h := run.tracks
  have hup := h.inStep.upOf k
  refine ⟨?_, ?_⟩
  · intro hnone
    rw [hnone, Option.bind_none] at hup
    exact BearerRegistry.up?_eq_none_iff.mp hup
  · intro s hs
    rw [hs, Option.bind_some] at hup
    refine ⟨(h.inStep.slot k s hs).agreed positive, h.fits.known k s hs, ?_, ?_, ?_, ?_, ?_⟩
    · exact fun j s' hs' heq => h.distinct j k s' s hs' hs heq
    · rw [← Slot.wanted?_eq_false_iff, ← hup, BearerRegistry.up?_eq_false_iff]
    · intro hphase needs
      obtain ⟨bearer, hb⟩ := Option.isSome_iff_exists.mp needs
      rw [Slot.wanted?_of_not_waiting hphase, hb, Option.map_some] at hup
      exact BearerRegistry.up?_eq_true_iff.mp hup
    · intro hphase hb
      rw [Slot.wanted?_of_not_waiting hphase, hb, Option.map_none] at hup
      exact BearerRegistry.up?_eq_none_iff.mp hup
    · exact (h.fits.slot k s hs).sound.pending.symm

/-- The first channel is opened inside the terminal, and the second one waits for the default
connection to come up. -/
def loopbackAndWaiting : List TableInput :=
  [.openChannel { SteadyHost.connected with state := .connecting }.answers
      (.toCommand 2 .openChannel 0) { ChannelSettings.loopback with bearer := some .plain },
    .openChannel SteadyHost.connected.answers (.toCommand 1 .openChannel 0) .loopback]

/-- A channel that needs no bearer and one that waits for its bearer are both in step, and the next
number has no request. -/
theorem loopback_and_waiting_coherent :
    ∃ past t s₁ s₂, TableRun .standard past t ∧ 1 ≤ Config.standard.maxBufferSize ∧
      t.slots.get? 1 = some s₁ ∧ s₁.Coherent t Config.standard.maxBufferSize 1 ∧
      t.slots.get? 2 = some s₂ ∧ s₂.phase = .awaitingBearer ∧
      s₂.Coherent t Config.standard.maxBufferSize 2 ∧ t.bearers.requests.get? 3 = none := by
  have run := Admissible.run (show Admissible .standard loopbackAndWaiting by decide +kernel)
  have positive : 1 ≤ Config.standard.maxBufferSize := by decide
  have hphases : ([1, 2, 3].map fun k =>
      ((replay .standard loopbackAndWaiting).2.slots.get? k).map (·.phase)) =
      [some .opening, some .awaitingBearer, none] := by decide +kernel
  simp only [List.map_cons, List.map_nil, List.cons.injEq, Option.map_eq_some_iff,
    Option.map_eq_none_iff, and_true] at hphases
  obtain ⟨⟨s₁, hs₁, -⟩, ⟨s₂, hs₂, waits⟩, hnone⟩ := hphases
  have all := free_without_request_and_slots_coherent run positive
  exact ⟨_, _, s₁, s₂, run, positive, hs₁, (all 1).2 s₁ hs₁, hs₂, waits, (all 2).2 s₂ hs₂,
    (all 3).1 hnone⟩

end CardChannels
