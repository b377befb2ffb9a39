import CardChannels.Proofs.Table.Coherent
import Mathlib.Data.List.Basic

/-!
# The loss of a bearer

When the connection of a type goes down for good, the channels that hold the type up go with it.
The registry ends their requests first and tells of them, and the table frees their slots then, one
after another. The main statement says that both are about the same channels, in ascending order,
that the card hears of each what fits the answer it waits for, and that nothing happens to the
others: least of all when another bearer is being tried, or when no request is for the type.
-/
namespace CardChannels

/-- The change by which the connection of a type goes down for good. -/
def ConnectionChange.loss (type : AccessType) : ConnectionChange := ⟨type, .disconnected, false⟩

/-- What the card is told when a channel has lost its bearer. -/
def Slot.lossTold (s : Slot) : List Effect :=
  let gone : Effect := .raise (.channelStatus (ChannelStatus.plain s.channel.id .closed).dropped)
  match s.pending with
  | some (.opening reply _) => [.respond (reply.failure .networkUnable (some s.failureData))]
  | some (.sending reply _) => [.respond (reply.failure (.ofCause .channelClosed) none), gone]
  | none => [gone]

namespace BearerRegistry

variable {c : BearerRegistry} {type : AccessType} {k : UInt8}
  {change : ConnectionChange} {told : BearerChange}

/-- The channels whose requests hold a type up, in ascending order. -/
def holders (c : BearerRegistry) (type : AccessType) : List UInt8 :=
  (c.requests.entries.filter fun (_, r) => r.type = type ∧ r.isEnabled).map (·.1)

theorem mem_holders_iff :
    k ∈ c.holders type ↔
      ∃ r, c.requests.get? k = some r ∧ r.type = type ∧
        (r.state = .waiting ∨ r.state = .active) := by
  simp only [holders, List.mem_map, List.mem_filter, Prod.exists, exists_and_right,
    exists_eq_right, decide_eq_true_eq, ← ChannelMap.get?_eq_some_iff,
    BearerRequest.isEnabled_iff]

theorem holders_ascending (c : BearerRegistry) (type : AccessType) :
    (c.holders type).Pairwise (· < ·) := by
  rw [holders, List.pairwise_map]
  exact c.requests.ascending.filter _

/-! A change that is about no request -/

theorem activate_of_none_ready (h : ∀ k, c.changeOf change k ≠ some .ready) :
    c.activate change = c := by
  have hsame : (c.activate change).requests = c.requests := by
    apply ChannelMap.eq_of_get?_eq
    intro k
    rw [activate, ChannelMap.get?_map]
    rcases hr : c.requests.get? k with _ | r
    · rfl
    · have hne := h k
      rw [changeOf, hr, Option.bind_some] at hne
      rw [Option.map_some, if_neg hne]
  have hrequests : c.activate change = { c with requests := (c.activate change).requests } := rfl
  rw [hrequests, hsame]

theorem connectionChanged_of_unconcerned (h : ∀ k, c.changeOf change k = none) :
    c.connectionChanged change = (c, [], []) := by
  have hchanges : c.changes change = [] := by
    refine List.eq_nil_iff_forall_not_mem.mpr fun (k, told) hmem => ?_
    rw [mem_changes_iff, h k] at hmem
    cases hmem
  have hactivate : c.activate change = c := activate_of_none_ready fun k => by simp [h k]
  simp only [connectionChanged, gone, hchanges, hactivate, List.filter_nil, List.map_nil,
    releaseEach]

/-- No request is concerned when another bearer is being tried. -/
theorem changeFor_failover (state : change.state = .disconnected)
    (failover : change.isFailover = true) (r : BearerRequest) : changeFor change r = none := by
  rw [changeFor, state, failover]
  cases r.state <;> simp

theorem changeFor_of_type_ne (h : r.type ≠ change.type) : changeFor change r = none := by
  rw [changeFor, if_pos h]

/-! A loss -/

/-- What a loss means for a request: one that holds the type up has failed, or has lost what it
had. -/
theorem changeFor_loss (type : AccessType) (r : BearerRequest) :
    changeFor (.loss type) r =
      if r.type = type ∧ r.isEnabled = true then
        some (if r.isUp then .lost else .failed .networkUnable)
      else none := by
  unfold changeFor
  by_cases ht : r.type = type
  · cases hs : r.state <;>
      simp [ConnectionChange.loss, BearerRequest.isEnabled, BearerRequest.isUp, ht, hs]
  · simp [ConnectionChange.loss, ht]

theorem changes_loss_channels (c : BearerRegistry) (type : AccessType) :
    (c.changes (.loss type)).map (·.1) = c.holders type := by
  rw [changes, holders, List.map_filterMap, ← List.filterMap_eq_map, List.filterMap_filter]
  apply List.filterMap_congr
  rintro ⟨k, r⟩ -
  simp only [changeFor_loss]
  by_cases h : r.type = type ∧ r.isEnabled = true
  · simp [h]
  · simp [h]

theorem of_changeOf_loss (h : c.changeOf (.loss type) k = some told) :
    told = .lost ∨ told = .failed .networkUnable := by
  obtain ⟨r, -, hr⟩ := Option.bind_eq_some_iff.mp h
  rw [changeFor_loss] at hr
  split at hr
  · obtain rfl := Option.some.inj hr
    by_cases hup : r.isUp = true
    · exact .inl (if_pos hup)
    · exact .inr (if_neg hup)
  · cases hr

theorem ne_ready_of_changeOf_loss (h : c.changeOf (.loss type) k = some told) : told ≠ .ready := by
  rcases of_changeOf_loss h with rfl | rfl <;> simp

theorem gone_loss (c : BearerRegistry) (type : AccessType) :
    c.gone (.loss type) = c.holders type := by
  have hall : ∀ a ∈ c.changes (.loss type), decide (a.2 ≠ .ready) = true := fun a hmem =>
    decide_eq_true (ne_ready_of_changeOf_loss (mem_changes_iff.mp hmem))
  rw [gone, List.filter_eq_self.mpr hall, changes_loss_channels]

/-- A loss ends the requests that hold the type up, and leaves the others as they are. -/
theorem get?_connectionChanged_loss (c : BearerRegistry) (type : AccessType) (j : UInt8) :
    (c.connectionChanged (.loss type)).1.requests.get? j =
      if j ∈ c.holders type then none else c.requests.get? j := by
  have hready (k : UInt8) : c.changeOf (.loss type) k ≠ some .ready :=
    fun h => ne_ready_of_changeOf_loss h rfl
  rw [connectionChanged, get?_releaseEach, activate_of_none_ready hready, gone_loss]

end BearerRegistry

namespace ChannelTable

variable {t t' : ChannelTable} {k : UInt8} {ks : List UInt8} {s : Slot} {out : Output}
  {result : ChannelTable × Output} {told : BearerChange}

/-- The result of a step that takes away just the channels of some numbers, whose bearer is lost,
and tells the card of them in the order of the numbers. -/
structure Drops (t : ChannelTable) (ks : List UInt8) (result : ChannelTable × Output) : Prop where
  slots : ∀ j, result.1.slots.get? j = if j ∈ ks then none else t.slots.get? j
  requests : ∀ j, result.1.bearers.requests.get? j =
    if j ∈ ks then none else t.bearers.requests.get? j
  effects : result.2.effects = ks.flatMap fun k => (t.slots.get? k).elim [] Slot.lossTold

namespace Drops

theorem none (t : ChannelTable) : t.Drops [] (t, .none) :=
  ⟨fun _ => rfl, fun _ => rfl, rfl⟩

theorem free (hs : t.slots.get? k = some s) (h : out.effects = s.lossTold) :
    t.Drops [k] ((t.free k).1, out) := by
  refine ⟨fun j => ?_, fun j => ?_, ?_⟩
  · simp only [get?_free, List.mem_singleton]
  · simp only [ChannelTable.free, BearerRegistry.get?_release, List.mem_singleton]
  · simp only [List.flatMap_singleton, hs, Option.elim_some, h]

/-- One channel is taken away, and then some others. -/
theorem cons (h : t.Drops [k] (t', out)) (h' : t'.Drops ks result) (hk : k ∉ ks) :
    t.Drops (k :: ks) (result.1, out ++ result.2) := by
  have kept {j : UInt8} (hj : j ∈ ks) : t'.slots.get? j = t.slots.get? j := by
    have hne : j ≠ k := fun heq => hk (heq ▸ hj)
    rw [h.slots, if_neg (by simpa using hne)]
  refine ⟨fun j => ?_, fun j => ?_, ?_⟩
  · rw [h'.slots, h.slots]
    by_cases hj : j ∈ ks <;> simp [hj]
  · rw [h'.requests, h.requests]
    by_cases hj : j ∈ ks <;> simp [hj]
  · rw [Output.effects_append, h.effects, h'.effects, List.flatMap_cons, List.flatMap_nil,
      List.append_nil, List.flatMap_cons]
    refine congrArg _ (List.flatMap_congr fun j hj => ?_)
    rw [kept hj]

end Drops

/-! Channels that are told of a loss -/

/-- Whether what a channel is told is a loss that fits its slot: a channel that waits for its bearer
hears that there will be none. -/
def FitsLoss (told : BearerChange) (s : Slot) : Prop :=
  told = .lost ∨ told = .failed .networkUnable ∧ s.phase = .awaitingBearer ∧
    ∃ reply modified, s.pending = some (.opening reply modified)

theorem effects_bearerLost (t : ChannelTable) (s : Slot) :
    (t.bearerLost s).2.effects = s.lossTold := by
  rcases hp : s.pending with _ | ⟨reply, modified⟩ | ⟨reply, free⟩
  all_goals
    simp only [bearerLost, Slot.lossTold, hp]
    rfl

theorem effects_giveUpOpen {reply : Reply} {modified : Bool}
    (hp : s.pending = some (.opening reply modified)) (t : ChannelTable) :
    (t.giveUpOpen s .networkUnable).2.effects = s.lossTold := by
  simp only [giveUpOpen, Slot.lossTold, hp]
  rfl

theorem drops_bearerChange (hs : t.slots.get? k = some s) (id : s.channel.id = k)
    (fits : FitsLoss told s) : t.Drops [k] (t.bearerChange k told) := by
  have dropped {result : ChannelTable × Output} (hfst : result.1 = (t.free s.channel.id).1)
      (heffects : result.2.effects = s.lossTold) : t.Drops [k] result := by
    have h := Drops.free hs heffects
    rwa [← id, ← hfst, id] at h
  unfold bearerChange
  rw [hs]
  rcases fits with rfl | ⟨rfl, waits, reply, modified, hp⟩
  · exact dropped (bearerLost_fst t s) (effects_bearerLost t s)
  · dsimp only
    rw [if_pos waits]
    exact dropped (giveUpOpen_fst t s _) (effects_giveUpOpen hp t)

/-- Channels that are told of a loss one after another are taken away in that order. -/
theorem drops_bearerChanges {l : List (UInt8 × BearerChange)} (distinct : (l.map (·.1)).Nodup)
    (fits : ∀ a ∈ l, ∃ s, t.slots.get? a.1 = some s ∧ s.channel.id = a.1 ∧ FitsLoss a.2 s) :
    t.Drops (l.map (·.1)) (t.bearerChanges l) := by
  induction l generalizing t with
  | nil => exact .none t
  | cons a rest ih =>
    rw [List.map_cons, List.nodup_cons] at distinct
    obtain ⟨s, hs, id, hfits⟩ := fits a (List.mem_cons_self ..)
    have first := drops_bearerChange hs id hfits
    have later : ∀ b ∈ rest, ∃ s, (t.bearerChange a.1 a.2).1.slots.get? b.1 = some s ∧
        s.channel.id = b.1 ∧ FitsLoss b.2 s := by
      intro b hb
      have hne : b.1 ≠ a.1 := fun heq => distinct.1 (heq ▸ List.mem_map_of_mem hb)
      rw [first.slots, if_neg (by simpa using hne)]
      exact fits b (List.mem_cons_of_mem a hb)
    exact first.cons (ih distinct.2 later) distinct.1

theorem connectionChanged_of_unconcerned {change : ConnectionChange}
    (h : ∀ k, t.bearers.changeOf change k = none) : t.connectionChanged change = (t, .none) := by
  rw [connectionChanged, BearerRegistry.connectionChanged_of_unconcerned h]
  rfl

end ChannelTable

variable {config : Config} {past : TableHistory} {t : ChannelTable}

/-- In a run the channels that are told of a loss are in use, and those that wait for their bearer
still have their open to answer. -/
theorem TableHistory.Tracks.fitsLoss (h : Tracks config past t) (type : AccessType) :
    ∀ a ∈ t.bearers.changes (.loss type), ∃ s, t.slots.get? a.1 = some s ∧ s.channel.id = a.1 ∧
      ChannelTable.FitsLoss a.2 s := by
  rintro ⟨k, told⟩ hmem
  have ht := BearerRegistry.mem_changes_iff.mp hmem
  -- How far the request is says in which phase the slot is.
  have hup := (h.inStep.upOf k).symm.trans (BearerRegistry.up?_of_changeOf ht)
  obtain ⟨s, hs, hwanted⟩ := Option.bind_eq_some_iff.mp hup
  have sound := h.fits.sound.slot k s hs
  refine ⟨s, hs, sound.id, ?_⟩
  rcases BearerRegistry.of_changeOf_loss ht with rfl | rfl
  · exact .inl rfl
  · have waits := Slot.wanted?_eq_false_iff.mp hwanted
    exact .inr ⟨rfl, waits, sound.pending.mp (by simp [waits])⟩

/-- In every run a connection that goes down for good takes away just the channels that hold its
type up, and the card is told of them in ascending order. Nothing at all happens when another
bearer is being tried, or when the type is one that no request is for. -/
theorem loss_drops_holders (run : TableRun config past t) (type : AccessType) :
    ((t.bearers.holders type).Pairwise (· < ·) ∧
      (∀ k, k ∈ t.bearers.holders type ↔ ∃ r, t.bearers.requests.get? k = some r ∧
        r.type = type ∧ (r.state = .waiting ∨ r.state = .active)) ∧
      (∀ k ∈ t.bearers.holders type, ∃ s, t.slots.get? k = some s ∧ s.channel.id = k) ∧
      t.Drops (t.bearers.holders type) (t.step (.connectionChanged (.loss type)))) ∧
    ∀ change : ConnectionChange,
      change.state = .disconnected ∧ change.isFailover = true ∨
        t.bearers.uses change.type = false →
      t.step (.connectionChanged change) = (t, .none) := by
  have channels := t.bearers.changes_loss_channels type
  have fits := run.tracks.fitsLoss type
  refine ⟨⟨t.bearers.holders_ascending type, ?_, ?_, ?_⟩, ?_⟩
  · exact fun k => BearerRegistry.mem_holders_iff
  · intro k hk
    obtain ⟨a, ha, rfl⟩ := List.mem_map.mp (channels.symm ▸ hk)
    obtain ⟨s, hs, id, -⟩ := fits a ha
    exact ⟨s, hs, id⟩
  · -- The requests have ended by the time the slots are freed.
    let rest := { t with bearers := (t.bearers.connectionChanged (.loss type)).1 }
    have drops := ChannelTable.drops_bearerChanges (t := rest)
      (ChannelTable.nodup_changes t.bearers (.loss type)) fits
    rw [channels] at drops
    refine ⟨drops.slots, fun j => (drops.requests j).trans ?_, drops.effects⟩
    rw [BearerRegistry.get?_connectionChanged_loss]
    split <;> rfl
  · intro change hidle
    refine ChannelTable.connectionChanged_of_unconcerned fun k => ?_
    refine Option.bind_eq_none_iff.mpr fun r hr => ?_
    rcases hidle with ⟨state, failover⟩ | unused
    · exact BearerRegistry.changeFor_failover state failover r
    · refine BearerRegistry.changeFor_of_type_ne fun heq => ?_
      have used := BearerRegistry.uses_iff.mpr ⟨k, r, hr, heq⟩
      rw [unused] at used
      cases used

/-- Over the default connection the first channel has a send under way, and the second one waits
for the connection to come up. -/
def sendingAndWaiting : List TableInput :=
  let settings := { ChannelSettings.loopback with bearer := some .plain }
  [.openChannel { SteadyHost.connected with state := .connecting }.answers
      (.toCommand 3 .openChannel 0) settings,
    .flush 2, .report 1 1 .ready,
    .openChannel SteadyHost.connected.answers (.toCommand 1 .openChannel 0) settings]

/-- The loss of the default connection takes both channels away: the card is told that the send has
failed and that the link is gone, and then that the open has failed. A failover does nothing. -/
theorem loss_drops_sendingAndWaiting :
    ∃ past t, TableRun .standard past t ∧ t.bearers.holders .default = [1, 2] ∧
      t.Drops [1, 2] (t.step (.connectionChanged (.loss .default))) ∧
      (t.step (.connectionChanged (.loss .default))).2.effects =
        [.respond ((Reply.toFlush 2).failure (.ofCause .channelClosed) none),
          .raise (.channelStatus (ChannelStatus.plain 1 .closed).dropped),
          .respond ((Reply.toCommand 3 .openChannel 0).failure .networkUnable
            (some (.openChannel none (some .plain) 256)))] ∧
      t.step (.connectionChanged ⟨.default, .disconnected, true⟩) = (t, .none) := by
  have run := Admissible.run (show Admissible .standard sendingAndWaiting by decide +kernel)
  have holders : (replay .standard sendingAndWaiting).2.bearers.holders .default = [1, 2] := by
    decide +kernel
  obtain ⟨⟨-, -, -, drops⟩, idle⟩ := loss_drops_holders run .default
  rw [holders] at drops
  refine ⟨_, _, run, holders, drops, ?_, idle _ (.inl ⟨rfl, rfl⟩)⟩
  decide +kernel

end CardChannels
