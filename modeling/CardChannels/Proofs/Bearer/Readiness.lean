import CardChannels.Proofs.Bearer.Account

/-!
# How far a channel's bearer is

A channel has no request with the registry, or one that is under way, or one whose bearer is up.
Every operation leaves that as it is for the channels that it is not about. For the channel that it
is about, what the channel is told says how far its bearer is afterwards.
-/
namespace CardChannels

/-- Whether a request's bearer is up. -/
def BearerRequest.isUp (r : BearerRequest) : Bool := r.state = .active

/-- How far the bearer is of a channel that has got an answer: there is none, or it is up or not. -/
def BearerAnswer.upAfter : BearerAnswer → Option Bool
  | .ready => some true
  | .pending | .retryAfter _ => some false
  | .failed _ => none

/-- How far the bearer is of a channel that is told of a change. -/
def BearerChange.upAfter : BearerChange → Option Bool
  | .ready => some true
  | .failed _ | .lost => none

namespace BearerRegistry

/-- Whether a channel's bearer is up, if the channel has asked for one. -/
def up? (c : BearerRegistry) (k : UInt8) : Option Bool := (c.requests.get? k).map (·.isUp)

variable {c : BearerRegistry} {k : UInt8} {r : BearerRequest}

@[simp] theorem up?_put (c : BearerRegistry) (k j : UInt8) (r : BearerRequest) :
    (c.put k r).up? j = if j = k then some r.isUp else c.up? j := by
  simp only [up?, get?_put, apply_ite (Option.map BearerRequest.isUp), Option.map_some]

@[simp] theorem up?_forget (c : BearerRegistry) (k j : UInt8) :
    (c.forget k).up? j = if j = k then none else c.up? j := by
  simp only [up?, get?_forget, apply_ite (Option.map BearerRequest.isUp), Option.map_none]

@[simp] theorem up?_release (c : BearerRegistry) (k j : UInt8) :
    (c.release k).1.up? j = if j = k then none else c.up? j := by
  rw [release_fst, up?_forget]

@[simp] theorem up?_releaseEach (ks : List UInt8) (c : BearerRegistry) (j : UInt8) :
    (c.releaseEach ks).1.up? j = if j ∈ ks then none else c.up? j := by
  simp only [up?, get?_releaseEach, apply_ite (Option.map BearerRequest.isUp), Option.map_none]

/-! Channels that ask -/

theorem up?_lookAgain (c : BearerRegistry) (k j : UInt8) (r : BearerRequest) :
    (c.lookAgain k r).1.up? j =
      if j = k then (c.lookAgain k r).2.1.upAfter else c.up? j := by
  unfold lookAgain
  dsimp only
  split
  · exact up?_release c k j
  · exact up?_put ..

theorem up?_check (c : BearerRegistry) (host : Host) (k j : UInt8) (r : BearerRequest) :
    (c.check host k r).1.up? j =
      if j = k then (c.check host k r).2.1.upAfter else c.up? j := by
  unfold check
  split
  · exact up?_forget c k j
  · split
    · exact up?_forget c k j
    · dsimp only
      split
      · exact up?_lookAgain c k j r
      · split
        · exact up?_put ..
        · exact up?_put ..
        · exact up?_lookAgain c k j r
        · exact up?_forget c k j

theorem up?_askDefault (fresh : c.up? k = none) (host : Host) (j : UInt8) :
    (c.askDefault host k).1.up? j =
      if j = k then (c.askDefault host k).2.1.upAfter else c.up? j := by
  have kept : c.up? j = if j = k then none else c.up? j := by
    split
    · rename_i hj
      rw [hj, fresh]
    · rfl
  unfold askDefault
  dsimp only
  split
  · exact up?_put ..
  · exact up?_put ..
  · exact kept
  · exact kept

/-- What a channel is told when it asks for its bearer says how far the bearer is. -/
theorem up?_request (fresh : c.up? k = none) (host : Host) (bearer : BearerDescription)
    (accessPoint : Option String) (j : UInt8) :
    (c.request host k bearer accessPoint).1.up? j =
      if j = k then (c.request host k bearer accessPoint).2.1.upAfter else c.up? j := by
  unfold request
  split
  · split
    · rw [up?_check, up?_put]
      split <;> rfl
    · exact up?_askDefault fresh host j
  · exact up?_askDefault fresh host j

/-- A channel that is told something when it looks again is told how far its bearer is. -/
theorem up?_retry (c : BearerRegistry) (host : Host) (k j : UInt8) :
    (c.retry host k).1.up? j =
      if j = k then ((c.retry host k).2.1.elim (c.up? k) (·.upAfter)) else c.up? j := by
  have kept : c.up? j = if j = k then c.up? k else c.up? j := by
    split
    · rename_i hj
      rw [hj]
    · rfl
  unfold retry
  split
  · exact kept
  · split
    · exact kept
    · exact up?_check ..

/-! Channels that are told -/

/-- What a change of the connection means for a channel. -/
def changeOf (c : BearerRegistry) (change : ConnectionChange) (k : UInt8) : Option BearerChange :=
  (c.requests.get? k).bind (changeFor change)

theorem mem_changes_iff {change : ConnectionChange} {told : BearerChange} :
    (k, told) ∈ c.changes change ↔ c.changeOf change k = some told := by
  simp only [changes, List.mem_filterMap, Prod.exists, Option.map_eq_some_iff, Prod.mk.injEq,
    changeOf, Option.bind_eq_some_iff, ← ChannelMap.get?_eq_some_iff]
  constructor
  · rintro ⟨k', r, hr, told', ht, rfl, rfl⟩
    exact ⟨r, hr, ht⟩
  · rintro ⟨r, hr, ht⟩
    exact ⟨k, r, hr, told, ht, rfl, rfl⟩

/-- A channel hears that its bearer is up, or that the request has failed, while the request is
under way, and that it has lost its bearer once it is up. -/
theorem up?_of_changeOf {change : ConnectionChange} {told : BearerChange}
    (h : c.changeOf change k = some told) : c.up? k = some (decide (told = .lost)) := by
  obtain ⟨r, hr, ht⟩ := Option.bind_eq_some_iff.mp h
  rw [up?, hr, Option.map_some]
  unfold changeFor at ht
  split at ht
  · cases ht
  · split at ht
    · rename_i hs _
      cases ht
      simp [BearerRequest.isUp, hs]
    · rename_i hs _
      split at ht
      · cases ht
      · cases ht
        simp [BearerRequest.isUp, hs]
    · rename_i hs _
      split at ht
      · cases ht
      · cases ht
        simp [BearerRequest.isUp, hs]
    · cases ht

theorem up?_activate (c : BearerRegistry) (change : ConnectionChange) (k : UInt8) :
    (c.activate change).up? k =
      if c.changeOf change k = some .ready then some true else c.up? k := by
  simp only [up?, activate, ChannelMap.get?_map]
  split
  · rename_i h
    obtain ⟨r, hr, ht⟩ := Option.bind_eq_some_iff.mp h
    rw [hr, Option.map_some, if_pos ht]
    rfl
  · rename_i h
    rcases hr : c.requests.get? k with _ | r
    · rfl
    · rw [changeOf, hr, Option.bind_some] at h
      rw [Option.map_some, if_neg h]

theorem mem_gone_iff {change : ConnectionChange} :
    k ∈ c.gone change ↔ ∃ told, c.changeOf change k = some told ∧ told ≠ .ready := by
  simp only [gone, List.mem_map, List.mem_filter, Prod.exists, decide_eq_true_eq]
  constructor
  · rintro ⟨k', told, ⟨hmem, hne⟩, rfl⟩
    exact ⟨told, mem_changes_iff.mp hmem, hne⟩
  · rintro ⟨told, ht, hne⟩
    exact ⟨k, told, ⟨mem_changes_iff.mpr ht, hne⟩, rfl⟩

/-- What a channel is told by a change of the connection says how far its bearer is. -/
theorem up?_connectionChanged (c : BearerRegistry) (change : ConnectionChange) (k : UInt8) :
    (c.connectionChanged change).1.up? k =
      (c.changeOf change k).elim (c.up? k) (·.upAfter) := by
  simp only [connectionChanged, up?_releaseEach, up?_activate, mem_gone_iff]
  rcases h : c.changeOf change k with _ | told
  · simp
  · cases told <;> simp [BearerChange.upAfter]

/-! Ends -/

theorem mem_unready_iff : k ∈ c.unready ↔ c.up? k = some false := by
  simp only [unready, List.mem_map, List.mem_filter, Prod.exists, exists_and_right,
    exists_eq_right, up?, Option.map_eq_some_iff, ← ChannelMap.get?_eq_some_iff,
    BearerRequest.isUp, decide_eq_true_eq, decide_eq_false_iff_not]

/-- Only the bearers that are up outlast the drop of the others. -/
theorem up?_dropUnready (c : BearerRegistry) (k : UInt8) :
    c.dropUnready.1.up? k = if c.up? k = some false then none else c.up? k := by
  simp only [dropUnready, up?_releaseEach, mem_unready_iff]

theorem up?_releaseAll (c : BearerRegistry) (k : UInt8) : c.releaseAll.1.up? k = none := by
  rw [releaseAll, up?_releaseEach]
  split
  · rfl
  · rename_i hk
    rw [up?, Option.map_eq_none_iff]
    refine Option.eq_none_iff_forall_ne_some.mpr fun r hr => hk ?_
    exact List.mem_map.mpr ⟨(k, r), ChannelMap.get?_eq_some_iff.mp hr, rfl⟩

end BearerRegistry

end CardChannels
