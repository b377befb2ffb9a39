import CardChannels.Proofs.Table.BearerLoss
import CardChannels.Proofs.Table.Looks

/-!
# What a table has of one channel

What becomes of a channel, and what the card is told about it, depends on no other channel: it takes
the channel's slot, its bearer request, and the times of the configuration. For the operations by
which an open goes on, and for a change of the connection, both are said here in terms of just that.
-/
namespace CardChannels

/-- What a table has of one channel, and the times that waits take. -/
structure ChannelView where
  slot : Option Slot
  request : Option BearerRequest
  connectTimeout : Nat
  retryInterval : Nat
  retryLimit : Nat

namespace Slot

/-- What the card is told when an open is given up. -/
def givenUpTold (s : Slot) (refusal : Refusal) : List Effect :=
  match s.pending with
  | some (.opening reply _) => [.respond (reply.failure refusal (some s.failureData))]
  | some (.sending ..) | none => []

/-- What the card is told when a socket task is to be started: something only if there is nowhere to
connect to. -/
def startedTold (s : Slot) (timeout : Nat) : List Effect :=
  match s.channel.start timeout with
  | .ok _ => []
  | .error cause => s.givenUpTold (.ofCause cause)

/-- What is given out when an open goes on as its bearer allows. -/
def wentOnTold (s : Slot) (timeout : Nat) : BearerAnswer → List Effect
  | .ready => s.startedTold timeout
  | .pending => []
  | .retryAfter delay => [.retry s.channel.id s.channel.generation delay]
  | .failed refusal => s.givenUpTold refusal

end Slot

namespace ChannelView

/-- The channel goes away. -/
def freed (v : ChannelView) : ChannelView := { v with slot := none, request := none }

/-- The socket task of the channel is started, unless there is nowhere to connect to. -/
def started (v : ChannelView) (s : Slot) : ChannelView :=
  match s.channel.start v.connectTimeout with
  | .ok (channel, _) => { v with slot := some ⟨channel, .opening, s.pending⟩ }
  | .error _ => v.freed

/-- The open of the channel goes on as its bearer allows. -/
def wentOn (v : ChannelView) (s : Slot) : BearerAnswer → ChannelView
  | .ready => v.started s
  | .pending | .retryAfter _ => v
  | .failed _ => v.freed

/-- The channel after it was told of its bearer. -/
def afterChange (v : ChannelView) (told : BearerChange) : ChannelView :=
  match v.slot with
  | none => v
  | some s =>
    match told with
    | .ready => if s.phase = .awaitingBearer then v.started s else v
    | .failed _ => if s.phase = .awaitingBearer then v.freed else v
    | .lost => v.freed

/-- What the card is told when a channel was told of its bearer. -/
def changeTold (v : ChannelView) (told : BearerChange) : List Effect :=
  match v.slot with
  | none => []
  | some s =>
    match told with
    | .ready => if s.phase = .awaitingBearer then s.startedTold v.connectTimeout else []
    | .failed refusal => if s.phase = .awaitingBearer then s.givenUpTold refusal else []
    | .lost => s.lossTold

/-- What a change of the connection means for the channel. -/
def changeOf (v : ChannelView) (change : ConnectionChange) : Option BearerChange :=
  v.request.bind (BearerRegistry.changeFor change)

/-- The request after a change of the connection. -/
def requestAfter (v : ChannelView) (change : ConnectionChange) : Option BearerRequest :=
  match v.changeOf change with
  | none => v.request
  | some .ready => v.request.map (·.broughtUp)
  | some (.failed _) | some .lost => none

/-- The channel after a change of the connection. -/
def connectionChanged (v : ChannelView) (change : ConnectionChange) : ChannelView :=
  let told := { v with request := v.requestAfter change }
  (v.changeOf change).elim told told.afterChange

/-- What the card is told about the channel by a change of the connection. -/
def connectionTold (v : ChannelView) (change : ConnectionChange) : List Effect :=
  (v.changeOf change).elim [] v.changeTold

/-- A start replaces the slot or takes it away. -/
theorem started_of_slot (v : ChannelView) (found : Option Slot) (s : Slot) :
    { v with slot := found }.started s = v.started s := by
  unfold started
  dsimp only
  split <;> rfl

/-- No channel waits for its bearer once its socket task was to be started. -/
theorem not_waits_started {v : ChannelView} {s s' : Slot} (h : (v.started s).slot = some s') :
    s'.phase ≠ .awaitingBearer := by
  unfold started at h
  split at h
  · cases h
    simp
  · cases h

end ChannelView

/-! The registry -/

namespace BearerRegistry

variable {c c' : BearerRegistry} {k : UInt8}

/-- A request that is looked for keeps what it is for. -/
theorem Looked.broughtUp_eq {r r' : BearerRequest} {made : List HostCall}
    (h : Looked c k r c' made) (hr' : c'.requests.get? k = some r') :
    r'.broughtUp = r.broughtUp := by
  cases h with
  | broughtUp | goesOn =>
    rw [get?_put, if_pos rfl] at hr'
    cases hr'
    rfl
  | forgotten =>
    rw [get?_forget, if_pos rfl] at hr'
    cases hr'

/-- What a look comes to for a channel, the other requests have no part in. -/
theorem check_congr (interval : c'.retryInterval = c.retryInterval)
    (limit : c'.retryLimit = c.retryLimit) (host : Host) (k : UInt8) (r : BearerRequest) :
    (c'.check host k r).1.requests.get? k = (c.check host k r).1.requests.get? k ∧
      (c'.check host k r).2.1 = (c.check host k r).2.1 := by
  have again : (c'.lookAgain k r).1.requests.get? k = (c.lookAgain k r).1.requests.get? k ∧
      (c'.lookAgain k r).2.1 = (c.lookAgain k r).2.1 := by
    unfold lookAgain
    dsimp only
    rw [interval, limit]
    split <;> simp [release_fst]
  unfold check
  dsimp only
  split
  · simp
  · split
    · simp
    · split
      · exact again
      · cases host.enable r.type with
        | alreadyActive | requestStarted | requestFailed => simp
        | typeNotAvailable => exact again

end BearerRegistry

/-! The table -/

namespace ChannelTable

variable {t t' : ChannelTable} {j k : UInt8} {s : Slot} {l : List (UInt8 × BearerChange)}
  {told : BearerChange}

/-- What the table has of a channel. -/
def view (t : ChannelTable) (k : UInt8) : ChannelView where
  slot := t.slots.get? k
  request := t.bearers.requests.get? k
  connectTimeout := t.connectTimeout
  retryInterval := t.bearers.retryInterval
  retryLimit := t.bearers.retryLimit

theorem view_put (t : ChannelTable) (s : Slot) (j : UInt8) :
    (t.put s).view j = if j = s.channel.id then { t.view j with slot := some s } else t.view j := by
  rw [view, get?_put]
  split <;> rfl

theorem view_free (t : ChannelTable) (k j : UInt8) :
    (t.free k).1.view j = if j = k then (t.view j).freed else t.view j := by
  have hbearers : (t.free k).1.bearers = t.bearers.forget k := t.bearers.release_fst k
  rw [view, get?_free, hbearers, BearerRegistry.get?_forget]
  split <;> rfl

theorem view_giveUpOpen (t : ChannelTable) (s : Slot) (refusal : Refusal) (j : UInt8) :
    (t.giveUpOpen s refusal).1.view j =
      if j = s.channel.id then (t.view j).freed else t.view j := by
  rw [giveUpOpen_fst, view_free]

theorem view_startSocket (t : ChannelTable) (s : Slot) (j : UInt8) :
    (t.startSocket s).1.view j =
      if j = s.channel.id then (t.view j).started s else t.view j := by
  unfold startSocket ChannelView.started
  have htimeout : (t.view j).connectTimeout = t.connectTimeout := rfl
  rw [htimeout]
  dsimp only
  rcases hstart : s.channel.start t.connectTimeout with cause | ⟨channel, orders⟩
  · exact view_giveUpOpen t _ _ j
  · dsimp only
    rw [view_put]
    dsimp only
    rw [(Channel.start_continues hstart).id]
    rfl

theorem view_afterBearer (t : ChannelTable) (s : Slot) (outcome : BearerAnswer) (j : UInt8) :
    (t.afterBearer s outcome).1.view j =
      if j = s.channel.id then (t.view j).wentOn s outcome else t.view j := by
  cases outcome with
  | ready => exact view_startSocket t s j
  | pending | retryAfter => exact (ite_self _).symm
  | failed refusal => exact view_giveUpOpen t s refusal j

theorem effects_giveUpOpen_eq (t : ChannelTable) (s : Slot) (refusal : Refusal) :
    (t.giveUpOpen s refusal).2.effects = s.givenUpTold refusal := by
  unfold giveUpOpen Slot.givenUpTold
  rcases s.pending with _ | ⟨reply, modified⟩ | ⟨reply, free⟩
  all_goals rfl

theorem effects_startSocket (t : ChannelTable) (s : Slot) :
    (t.startSocket s).2.effects = s.startedTold t.connectTimeout := by
  unfold startSocket Slot.startedTold
  dsimp only
  rcases s.channel.start t.connectTimeout with cause | ⟨channel, orders⟩
  · exact effects_giveUpOpen_eq ..
  · rfl

theorem effects_afterBearer (t : ChannelTable) (s : Slot) (outcome : BearerAnswer) :
    (t.afterBearer s outcome).2.effects = s.wentOnTold t.connectTimeout outcome := by
  cases outcome with
  | ready => exact effects_startSocket t s
  | pending | retryAfter => rfl
  | failed refusal => exact effects_giveUpOpen_eq t s refusal

/-! Changes of the connection -/

theorem view_bearerChange (keyed : t.Keyed) (k : UInt8) (told : BearerChange) (j : UInt8) :
    (t.bearerChange k told).1.view j =
      if j = k then (t.view j).afterChange told else t.view j := by
  have hslot (j : UInt8) : (t.view j).slot = t.slots.get? j := rfl
  unfold bearerChange ChannelView.afterChange
  rw [hslot]
  rcases hs : t.slots.get? k with _ | s
  · by_cases hj : j = k
    · rw [if_pos hj, hj, hs]
    · rw [if_neg hj]
  · have hid := keyed k s hs
    by_cases hj : j = k
    · subst hj
      simp only [hs, if_true]
      cases told with
      | ready =>
        dsimp only
        split
        · rw [view_startSocket, if_pos hid.symm]
        · rfl
      | failed refusal =>
        dsimp only
        split
        · rw [view_giveUpOpen, if_pos hid.symm]
        · rfl
      | lost =>
        dsimp only
        rw [bearerLost_fst, view_free, if_pos hid.symm]
    · have off : j ≠ s.channel.id := hid.symm ▸ hj
      rw [if_neg hj]
      cases told with
      | ready =>
        dsimp only
        split
        · rw [view_startSocket, if_neg off]
        · rfl
      | failed refusal =>
        dsimp only
        split
        · rw [view_giveUpOpen, if_neg off]
        · rfl
      | lost =>
        dsimp only
        rw [bearerLost_fst, view_free, if_neg off]

theorem effects_bearerChange (t : ChannelTable) (k : UInt8) (told : BearerChange) :
    (t.bearerChange k told).2.effects = (t.view k).changeTold told := by
  have hslot : (t.view k).slot = t.slots.get? k := rfl
  unfold bearerChange ChannelView.changeTold
  rw [hslot]
  rcases t.slots.get? k with _ | s
  · rfl
  · cases told with
    | ready =>
      dsimp only
      split
      · exact effects_startSocket t s
      · rfl
    | failed refusal =>
      dsimp only
      split
      · exact effects_giveUpOpen_eq t s refusal
      · rfl
    | lost => exact effects_bearerLost t s

theorem keyed_bearerChange (keyed : t.Keyed) (k : UInt8) (told : BearerChange) :
    (t.bearerChange k told).1.Keyed :=
  have among : t.Among (fun _ _ => True) t.generation := ⟨rfl, keyed, fun _ _ _ => trivial⟩
  (among.bearerChange k told).keyed

/-- What different channels are told does not meet. -/
theorem view_bearerChanges_of_not_mem (keyed : t.Keyed) (hk : k ∉ l.map (·.1)) :
    (t.bearerChanges l).1.view k = t.view k := by
  induction l generalizing t with
  | nil => rfl
  | cons a rest ih =>
    rw [List.map_cons, List.mem_cons, not_or] at hk
    refine (ih (keyed_bearerChange keyed a.1 a.2) hk.2).trans ?_
    rw [view_bearerChange keyed, if_neg hk.1]

theorem view_bearerChanges_of_mem (keyed : t.Keyed) (distinct : (l.map (·.1)).Nodup)
    (hk : (k, told) ∈ l) : (t.bearerChanges l).1.view k = (t.view k).afterChange told := by
  induction l generalizing t with
  | nil => cases hk
  | cons a rest ih =>
    rw [List.map_cons, List.nodup_cons] at distinct
    have keyed' := keyed_bearerChange keyed a.1 a.2
    rcases List.mem_cons.mp hk with rfl | hk
    · refine (view_bearerChanges_of_not_mem keyed' distinct.1).trans ?_
      rw [view_bearerChange keyed, if_pos rfl]
    · have hne : k ≠ a.1 := fun heq => distinct.1 (heq ▸ List.mem_map_of_mem hk)
      refine (ih keyed' distinct.2 hk).trans ?_
      rw [view_bearerChange keyed, if_neg hne]

theorem effects_bearerChanges (keyed : t.Keyed) (distinct : (l.map (·.1)).Nodup) :
    (t.bearerChanges l).2.effects = l.flatMap fun a => (t.view a.1).changeTold a.2 := by
  induction l generalizing t with
  | nil => rfl
  | cons a rest ih =>
    rw [List.map_cons, List.nodup_cons] at distinct
    have hrest := ih (keyed_bearerChange keyed a.1 a.2) distinct.2
    rw [List.flatMap_cons, ← effects_bearerChange]
    refine congrArg ((t.bearerChange a.1 a.2).2.effects ++ ·) (hrest.trans ?_)
    refine List.flatMap_congr fun b hb => ?_
    have hne : b.1 ≠ a.1 := fun heq => distinct.1 (heq ▸ List.mem_map_of_mem hb)
    rw [view_bearerChange keyed, if_neg hne]

/-- A change of the connection does to each channel what that channel alone tells. -/
theorem view_connectionChanged (keyed : t.Keyed) (change : ConnectionChange) (k : UInt8) :
    (t.connectionChanged change).1.view k = (t.view k).connectionChanged change := by
  let rest := { t with bearers := (t.bearers.connectionChanged change).1 }
  have hview : rest.view k = { t.view k with request := (t.view k).requestAfter change } := by
    have hrequest := t.bearers.get?_connectionChanged change k
    have hregistry := t.bearers.connectionChanged_fst change
    simp only [rest, view]
    rw [hrequest, hregistry]
    rfl
  have hchange : (t.view k).changeOf change = t.bearers.changeOf change k := rfl
  have hresult : (t.connectionChanged change).1 =
      (rest.bearerChanges (t.bearers.changes change)).1 := rfl
  rw [hresult, ChannelView.connectionChanged, hchange]
  rcases htold : t.bearers.changeOf change k with _ | told
  · have hk : k ∉ (t.bearers.changes change).map (·.1) := by
      intro hmem
      obtain ⟨a, ha, rfl⟩ := List.mem_map.mp hmem
      have hsome := BearerRegistry.mem_changes_iff.mp ha
      rw [htold] at hsome
      cases hsome
    exact (view_bearerChanges_of_not_mem (t := rest) keyed hk).trans hview
  · refine (view_bearerChanges_of_mem (t := rest) keyed (nodup_changes _ _)
      (BearerRegistry.mem_changes_iff.mpr htold)).trans ?_
    rw [hview]
    rfl

/-- What a change of the connection gives out for one channel. -/
def changeEffects (t : ChannelTable) (change : ConnectionChange) (k : UInt8) : List Effect :=
  (t.bearers.changeOf change k).elim [] fun told => (t.bearerChange k told).2.effects

theorem changeEffects_eq (t : ChannelTable) (change : ConnectionChange) (k : UInt8) :
    t.changeEffects change k = (t.view k).connectionTold change := by
  have hchange : (t.view k).changeOf change = t.bearers.changeOf change k := rfl
  rw [changeEffects, ChannelView.connectionTold, hchange]
  rcases t.bearers.changeOf change k with _ | told
  · rfl
  · exact effects_bearerChange t k told

/-- A change of the connection gives out what it does for the channels that it concerns, in
ascending order. -/
theorem effects_connectionChanged (keyed : t.Keyed) (change : ConnectionChange) :
    (t.connectionChanged change).2.effects =
      (t.bearers.changes change).flatMap fun a => t.changeEffects change a.1 := by
  let rest := { t with bearers := (t.bearers.connectionChanged change).1 }
  have hrest := effects_bearerChanges (t := rest) keyed (nodup_changes t.bearers change)
  refine hrest.trans (List.flatMap_congr fun a ha => ?_)
  have htold : (t.view a.1).changeOf change = some a.2 := BearerRegistry.mem_changes_iff.mp ha
  rw [changeEffects_eq, ChannelView.connectionTold, htold]
  rfl

/-! What is done to one channel -/

/-- What is done to one channel alone leaves what the table has of the others. -/
theorem view_actsOn_of_ne {f : ChannelTable → ChannelTable × Output}
    (hf : ActsOn k (t.slots.get? k) f) (hj : j ≠ k) : (f t).1.view j = t.view j := by
  obtain ⟨fate, effects, orders, -, hf⟩ := hf
  rw [(hf t rfl).1, view, get?_settle, requests_settle, if_neg hj, if_neg hj]
  rfl

theorem actsOn_congr {f : ChannelTable → ChannelTable × Output}
    (hf : ActsOn k (t.slots.get? k) f) (same : t'.view k = t.view k) :
    (f t').1.view k = (f t).1.view k ∧ (f t').2.effects = (f t).2.effects := by
  obtain ⟨fate, effects, orders, -, hf⟩ := hf
  have hsettle (t : ChannelTable) : (t.settle k fate).view k =
      { t.view k with
        slot := fate.slot (t.view k).slot, request := fate.request (t.view k).request } := by
    rw [view, get?_settle, requests_settle, if_pos rfl, if_pos rfl]
    rfl
  obtain ⟨table, heffects, -⟩ := hf t rfl
  obtain ⟨table', heffects', -⟩ := hf t' (congrArg ChannelView.slot same)
  rw [table, table', hsettle, hsettle, same]
  exact ⟨rfl, heffects'.trans heffects.symm⟩

/-- What the registry does for one channel changes that channel's request and nothing else. -/
theorem view_of_forget_eq {bearers : BearerRegistry} (h : bearers.forget k = t.bearers.forget k)
    (j : UInt8) :
    view { t with bearers := bearers } j =
      if j = k then { t.view j with request := bearers.requests.get? k } else t.view j := by
  have hinterval : bearers.retryInterval = t.bearers.retryInterval :=
    congrArg (·.retryInterval) h
  have hlimit : bearers.retryLimit = t.bearers.retryLimit := congrArg (·.retryLimit) h
  simp only [view]
  rw [hinterval, hlimit]
  by_cases hj : j = k
  · rw [if_pos hj, hj]
  · rw [if_neg hj, BearerRegistry.get?_of_forget_eq h hj]

theorem view_bearerRetry_of_ne (keyed : t.Keyed) (host : Host) (g : Nat) (hj : j ≠ k) :
    (t.bearerRetry host k g).1.view j = t.view j := by
  rcases t.bearerRetry_cases host k g with ⟨idle, -⟩ | ⟨s, r, hs, -, -, -, -, looked⟩
  · rw [idle]
  · have off : j ≠ s.channel.id := (keyed k s hs).symm ▸ hj
    rw [looked]
    refine (view_afterBearer ..).trans ((if_neg off).trans ?_)
    rw [view_of_forget_eq (t.bearers.forget_check host k r), if_neg hj]

/-- What a look that comes due does is told by what the table has of the channel. -/
theorem bearerRetry_congr (keyed : t.Keyed) (same : t'.view k = t.view k) (host : Host) (g : Nat) :
    (t'.bearerRetry host k g).1.view k = (t.bearerRetry host k g).1.view k ∧
      (t'.bearerRetry host k g).2.effects = (t.bearerRetry host k g).2.effects := by
  have hslot : t'.slots.get? k = t.slots.get? k := congrArg ChannelView.slot same
  have hrequest : t'.bearers.requests.get? k = t.bearers.requests.get? k :=
    congrArg ChannelView.request same
  have hlooking := BearerRegistry.isLooking_congr hrequest
  have looking {r : BearerRequest} (hr : t.bearers.requests.get? k = some r)
      (he : r.isEnabled = false) : t.bearers.isLooking k = true := by
    simp [BearerRegistry.isLooking, hr, he]
  have hcases := t.bearerRetry_cases host k g
  have hcases' := t'.bearerRetry_cases host k g
  rw [hslot, hrequest, hlooking] at hcases'
  rcases hcases with ⟨idle, unlooked⟩ | ⟨s, r, hs, hg, waits, hr, he, looked⟩
  · rcases hcases' with ⟨idle', -⟩ | ⟨s', r', hs', hg', waits', hr', he', -⟩
    · rw [idle, idle']
      exact ⟨same, rfl⟩
    · have hnot := unlooked s' hs' hg' waits'
      rw [looking hr' he'] at hnot
      cases hnot
  · rcases hcases' with ⟨-, unlooked'⟩ | ⟨s', r', hs', -, -, hr', -, looked'⟩
    · have hnot := unlooked' s hs hg waits
      rw [looking hr he] at hnot
      cases hnot
    · obtain rfl : s' = s := Option.some.inj (hs'.symm.trans hs)
      obtain rfl : r' = r := Option.some.inj (hr'.symm.trans hr)
      obtain ⟨hafter, hanswer⟩ := BearerRegistry.check_congr
        (congrArg ChannelView.retryInterval same) (congrArg ChannelView.retryLimit same) host k r'
      have hid := (keyed k s' hs).symm
      rw [looked, looked']
      refine ⟨?_, ?_⟩
      · refine (view_afterBearer ..).trans (Eq.trans ?_ (view_afterBearer ..).symm)
        rw [if_pos hid, if_pos hid, view_of_forget_eq (t.bearers.forget_check host k r'),
          view_of_forget_eq (t'.bearers.forget_check host k r'), if_pos rfl, if_pos rfl, hafter,
          hanswer, same]
      · simp only [Output.effects_append, Output.effects_call, effects_afterBearer, hanswer]
        exact congrArg (s'.wentOnTold · _) (congrArg ChannelView.connectTimeout same)

end ChannelTable

end CardChannels
