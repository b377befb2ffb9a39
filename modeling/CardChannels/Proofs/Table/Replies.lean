import CardChannels.Proofs.Table.Opening
import CardChannels.Proofs.Table.Owed

/-!
# Ways to answer that are kept

An open or a send that is under way is kept with the way to answer it: the details to repeat, and
whether its icon is missing. Here the way that one channel keeps is replaced by another. What is
done to other channels, or to all of them without an answer, does not depend on it.
-/
namespace CardChannels

/-- The answer that is still to be given, in another way. -/
def PendingReply.toReply (reply : Reply) : PendingReply → PendingReply
  | .opening _ modified => .opening reply modified
  | .sending _ free => .sending reply free

namespace Slot

/-- The slot with another way to give its answer. -/
def owing (s : Slot) (reply : Reply) : Slot :=
  { s with pending := s.pending.map (.toReply reply) }

variable {s : Slot} {reply : Reply}

@[simp] theorem channel_owing (s : Slot) (reply : Reply) : (s.owing reply).channel = s.channel :=
  rfl

@[simp] theorem phase_owing (s : Slot) (reply : Reply) : (s.owing reply).phase = s.phase := rfl

@[simp] theorem orders_owing (s : Slot) (reply : Reply) (orders : List Order) :
    (s.owing reply).orders orders = s.orders orders := rfl

@[simp] theorem isSome_pending_owing (s : Slot) (reply : Reply) :
    (s.owing reply).pending.isSome = s.pending.isSome := by
  simp [owing]

theorem owing_of_none (h : s.pending = none) (reply : Reply) : s.owing reply = s := by
  obtain ⟨channel, phase, pending⟩ := s
  cases h
  rfl

end Slot

namespace ChannelMap

variable {α : Type} {m : ChannelMap α} {j k : UInt8} {f : α → α}

theorem insert_modify_self (m : ChannelMap α) (k : UInt8) (f : α → α) (v : α) :
    (m.modify k f).insert k v = m.insert k v := by
  apply eq_of_get?_eq
  intro i
  simp only [get?_insert, get?_modify]
  split <;> rfl

theorem modify_insert_self (m : ChannelMap α) (k : UInt8) (f : α → α) (v : α) :
    (m.insert k v).modify k f = m.insert k (f v) := by
  apply eq_of_get?_eq
  intro i
  simp only [get?_insert, get?_modify]
  split <;> rfl

theorem insert_modify_of_ne (hj : j ≠ k) (v : α) :
    (m.modify k f).insert j v = (m.insert j v).modify k f := by
  apply eq_of_get?_eq
  intro i
  simp only [get?_insert, get?_modify]
  by_cases hi : i = j
  · rw [if_pos hi, if_pos hi, if_neg (hi ▸ hj)]
  · rw [if_neg hi, if_neg hi]

theorem erase_modify (m : ChannelMap α) (j k : UInt8) (f : α → α) :
    (m.modify k f).erase j = (m.erase j).modify k f := by
  apply eq_of_get?_eq
  intro i
  simp only [get?_erase, get?_modify]
  by_cases hi : i = j
  · rw [if_pos hi, if_pos hi]
    split <;> rfl
  · rw [if_neg hi, if_neg hi]

theorem modify_of_fixed (h : ∀ v, m.get? k = some v → f v = v) : m.modify k f = m := by
  apply eq_of_get?_eq
  intro i
  rw [get?_modify]
  split
  · rename_i hi
    rw [hi]
    rcases hv : m.get? k with _ | v
    · rfl
    · rw [Option.map_some, h v hv]
  · rfl

end ChannelMap

namespace ChannelTable

variable {t : ChannelTable} {j k : UInt8} {s : Slot} {reply : Reply} {refusal : Refusal}
  {f : ChannelTable → ChannelTable × Output}

/-- The table with another way to give the answer that a channel keeps, if it keeps one. -/
def owing (t : ChannelTable) (k : UInt8) (reply : Reply) : ChannelTable :=
  { t with slots := t.slots.modify k (·.owing reply) }

@[simp] theorem bearers_owing (t : ChannelTable) (k : UInt8) (reply : Reply) :
    (t.owing k reply).bearers = t.bearers := rfl

@[simp] theorem connectTimeout_owing (t : ChannelTable) (k : UInt8) (reply : Reply) :
    (t.owing k reply).connectTimeout = t.connectTimeout := rfl

theorem get?_owing (t : ChannelTable) (k : UInt8) (reply : Reply) (j : UInt8) :
    (t.owing k reply).slots.get? j =
      if j = k then (t.slots.get? j).map (·.owing reply) else t.slots.get? j :=
  ChannelMap.get?_modify ..

@[simp] theorem get?_owing_self (t : ChannelTable) (k : UInt8) (reply : Reply) :
    (t.owing k reply).slots.get? k = (t.slots.get? k).map (·.owing reply) := by
  rw [get?_owing, if_pos rfl]

theorem get?_owing_of_ne (hj : j ≠ k) (t : ChannelTable) (reply : Reply) :
    (t.owing k reply).slots.get? j = t.slots.get? j := by
  rw [get?_owing, if_neg hj]

/-- A channel that has nothing to answer does not depend on how to do that. -/
theorem owing_of_settled (h : ∀ s, t.slots.get? k = some s → s.pending = none) (reply : Reply) :
    t.owing k reply = t := by
  rw [owing, ChannelMap.modify_of_fixed fun s hs => s.owing_of_none (h s hs) reply]

/-! Slots that are put back and freed -/

theorem put_owing_self (hk : s.channel.id = k) (t : ChannelTable) (reply : Reply) :
    (t.owing k reply).put (s.owing reply) = (t.put s).owing k reply := by
  subst hk
  simp only [put, owing, Slot.channel_owing, ChannelMap.insert_modify_self,
    ChannelMap.modify_insert_self]

theorem put_owing_settled (hk : s.channel.id = k) (t : ChannelTable) (reply : Reply) :
    (t.owing k reply).put s = t.put s := by
  subst hk
  simp only [put, owing, ChannelMap.insert_modify_self]

/-- A slot that comes to keep a way to answer. -/
theorem put_owing_of_settled (h : ∀ s, t.slots.get? k = some s → s.pending = none)
    (hk : s.channel.id = k) (reply : Reply) : t.put (s.owing reply) = (t.put s).owing k reply := by
  rw [← put_owing_self hk, owing_of_settled h]

theorem put_owing_of_ne (hk : s.channel.id ≠ k) (t : ChannelTable) (reply : Reply) :
    (t.owing k reply).put s = (t.put s).owing k reply := by
  simp only [put, owing, ChannelMap.insert_modify_of_ne hk]

theorem free_owing (t : ChannelTable) (k : UInt8) (reply : Reply) (j : UInt8) :
    (t.owing k reply).free j = ((t.free j).1.owing k reply, (t.free j).2) := by
  simp only [free, owing, ChannelMap.erase_modify]

theorem free_owing_self (t : ChannelTable) (k : UInt8) (reply : Reply) :
    (t.owing k reply).free k = t.free k := by
  rw [free_owing, owing_of_settled]
  simp

theorem Keyed.put (keyed : t.Keyed) (s : Slot) : (t.put s).Keyed := by
  intro j s' hs'
  rw [get?_put] at hs'
  split at hs'
  · rename_i hj
    cases hs'
    exact hj.symm
  · exact keyed j s' hs'

/-! What is done to other channels -/

/-- Whether an operation does the same in whatever way the answer of a channel is to be given. -/
def Blind (t : ChannelTable) (k : UInt8) (f : ChannelTable → ChannelTable × Output) : Prop :=
  ∀ reply, f (t.owing k reply) = ((f t).1.owing k reply, (f t).2)

theorem Blind.behind (h : t.Blind k f) (first : Output) :
    t.Blind k fun t => ((f t).1, first ++ (f t).2) := by
  intro reply
  simp only [h reply]

theorem blind_put (hk : s.channel.id ≠ k) (t : ChannelTable) (out : Output) :
    t.Blind k fun t => (t.put s, out) := by
  intro reply
  simp only [put_owing_of_ne hk]

theorem blind_free (t : ChannelTable) (k j : UInt8) (out : Output) :
    t.Blind k fun t => ((t.free j).1, (t.free j).2 ++ out) := by
  intro reply
  simp only [free_owing]

theorem blind_giveUpOpen (t : ChannelTable) (k : UInt8) (s : Slot) (refusal : Refusal) :
    t.Blind k fun t => t.giveUpOpen s refusal := by
  intro reply
  simp only [giveUpOpen, free_owing]
  split <;> rfl

theorem blind_startSocket (hk : s.channel.id ≠ k) (t : ChannelTable) :
    t.Blind k fun t => t.startSocket s := by
  intro reply
  simp only [startSocket]
  rcases hstart : s.channel.start t.connectTimeout with cause | ⟨channel, orders⟩
  · simp only [connectTimeout_owing, hstart]
    exact blind_giveUpOpen t k _ _ reply
  · have hk' : channel.id ≠ k := by rwa [(Channel.start_continues hstart).id]
    simp only [connectTimeout_owing, hstart]
    exact blind_put hk' t _ reply

theorem blind_afterBearer (hk : s.channel.id ≠ k) (t : ChannelTable) (outcome : BearerAnswer) :
    t.Blind k fun t => t.afterBearer s outcome := by
  cases outcome with
  | ready => exact blind_startSocket hk t
  | pending | retryAfter delay => exact fun reply => rfl
  | failed refusal => exact blind_giveUpOpen t k s refusal

/-- An open gets another channel, if it gets one. -/
theorem blind_openChannel (hs : t.slots.get? k = some s) (host : Host) (new : Reply)
    (settings : ChannelSettings) : t.Blind k fun t => t.openChannel host new settings := by
  intro reply
  have sameFree : (t.owing k reply).firstFree? = t.firstFree? := by
    have same : ∀ j, (t.owing k reply).slots.contains j = t.slots.contains j := by
      intro j
      rw [ChannelMap.contains, get?_owing, ChannelMap.contains]
      split
      · rw [Option.isSome_map]
      · rfl
    simp only [firstFree?, same]
  by_cases size : settings.bufferSize = 0
  · simp only [openChannel, if_pos size]
  · rcases hfree : t.firstFree? with _ | j
    · simp only [openChannel, if_neg size, sameFree, hfree]
    · have hj : j ≠ k := by
        rintro rfl
        cases (get?_of_firstFree? hfree).symm.trans hs
      let s := t.newSlot j new settings
      let asked := t.bearers.ask host j settings
      let goOn (t : ChannelTable) : ChannelTable × Output :=
        let result := { t with bearers := asked.1 }.afterBearer s asked.2.1
        (result.1, .call asked.2.2 ++ result.2)
      have other : s.channel.id ≠ k := hj
      have opened : t.openChannel host new settings = goOn (t.enroll s) :=
        openChannel_of_firstFree? size hfree host new
      have goesOn := blind_afterBearer other { t.enroll s with bearers := asked.1 } asked.2.1
      calc (t.owing k reply).openChannel host new settings
        _ = goOn ((t.owing k reply).enroll s) :=
          openChannel_of_firstFree? size (sameFree.trans hfree) host new
        _ = goOn ((t.enroll s).owing k reply) :=
          congrArg goOn (put_owing_of_ne other { t with generation := t.generation + 1 } reply)
        _ = ((goOn (t.enroll s)).1.owing k reply, (goOn (t.enroll s)).2) :=
          goesOn.behind (.call asked.2.2) reply
        _ = _ := by simp only [opened]

theorem blind_applyUpshot (hk : s.channel.id ≠ k) (t : ChannelTable) (told : Upshot) :
    t.Blind k fun t => t.applyUpshot s told := by
  have kept (phase : Phase) (pending : Option PendingReply) (out : Output) :=
    blind_put (s := ⟨s.channel, phase, pending⟩) hk t out
  unfold applyUpshot
  cases told with
  | opened status => exact kept .opened none _
  | openFailed cause => exact blind_giveUpOpen t k s _
  | sent => exact kept s.phase none _
  | sendFailed =>
    rcases s.pending with _ | ⟨other, modified⟩ | ⟨other, free⟩
    · exact fun reply => t.free_owing k reply _
    · exact fun reply => t.free_owing k reply _
    · exact t.blind_free k _ _
  | dataAvailable status available => exact kept s.phase s.pending _
  | statusChanged status =>
    dsimp only
    split
    · exact kept s.phase s.pending _
    · exact kept s.phase none _
  | ignored => exact kept s.phase s.pending _

theorem blind_bearerLost (t : ChannelTable) (k : UInt8) (s : Slot) :
    t.Blind k fun t => t.bearerLost s := by
  intro reply
  simp only [bearerLost, free_owing]
  split <;> rfl

section Others

variable (keyed : t.Keyed) (hj : j ≠ k)
include hj

theorem current?_owing_of_ne (t : ChannelTable) (reply : Reply) (g : Nat) :
    (t.owing k reply).current? j g = t.current? j g := by
  rw [current?, get?_owing_of_ne hj, current?]

include keyed

theorem blind_closeChannel (new : Reply) (keepListening : Bool) :
    t.Blind k fun t => t.closeChannel new j keepListening := by
  intro reply
  simp only [closeChannel, get?_owing_of_ne hj]
  rcases hs : t.slots.get? j with _ | s
  · rfl
  · have continues := Channel.close_continues (c := s.channel) keepListening
    rcases hclose : s.channel.close keepListening with ⟨closed, outcome, orders⟩
    rw [hclose] at continues
    have hk : closed.id ≠ k := by rwa [continues.id, keyed j s hs]
    cases outcome with
    | released => simp only [hclose, free_owing]
    | listening =>
      simp only [hclose]
      exact blind_put (s := ⟨closed, s.phase, s.pending⟩) hk t _ reply

theorem blind_report (g : Nat) (r : Report) : t.Blind k fun t => t.report j g r := by
  intro reply
  simp only [report, current?_owing_of_ne hj]
  rcases hs : t.current? j g with _ | s
  · rfl
  · have continues := Channel.report_continues (c := s.channel) r
    rcases hr : s.channel.report r with ⟨channel, told, orders⟩
    rw [hr] at continues
    have hk : channel.id ≠ k := by rwa [continues.id, keyed j s (of_current? hs).1]
    have goesOn := (blind_applyUpshot (s := { s with channel := channel }) hk t told).behind
      (s.orders orders) reply
    simpa only [hr] using goesOn

theorem blind_taskEnded (g : Nat) : t.Blind k fun t => (t.taskEnded j g, .none) := by
  intro reply
  simp only [taskEnded, current?_owing_of_ne hj]
  rcases hs : t.current? j g with _ | s
  · rfl
  · have hk : s.channel.id ≠ k := by rwa [keyed j s (of_current? hs).1]
    exact blind_put (s := { s with channel := { s.channel with ended := true } }) hk t .none reply

theorem blind_bearerRetry (host : Host) (g : Nat) :
    t.Blind k fun t => t.bearerRetry host j g := by
  intro reply
  simp only [bearerRetry, current?_owing_of_ne hj, bearers_owing]
  rcases hs : t.current? j g with _ | s
  · rfl
  · have hk : s.channel.id ≠ k := by rwa [keyed j s (of_current? hs).1]
    dsimp only
    split
    · rfl
    · rcases t.bearers.retry host j with ⟨bearers, _ | outcome, calls⟩
      · rfl
      · exact (blind_afterBearer hk { t with bearers := bearers } outcome).behind (.call calls)
          reply

theorem blind_bearerChange (told : BearerChange) :
    t.Blind k fun t => t.bearerChange j told := by
  intro reply
  simp only [bearerChange, get?_owing_of_ne hj]
  rcases hs : t.slots.get? j with _ | s
  · rfl
  · have hk : s.channel.id ≠ k := by rwa [keyed j s hs]
    cases told with
    | ready =>
      dsimp only
      split
      · exact blind_startSocket hk t reply
      · rfl
    | failed refusal =>
      dsimp only
      split
      · exact blind_giveUpOpen t k s refusal reply
      · rfl
    | lost => exact blind_bearerLost t k s reply

end Others

theorem blind_sendData {data : Transfer} (keyed : t.Keyed) (hj : data.channel ≠ k) (new : Reply)
    (immediate : Bool) : t.Blind k fun t => t.sendData new data immediate := by
  intro reply
  simp only [sendData, get?_owing_of_ne hj]
  rcases hs : t.slots.get? data.channel with _ | s
  · rfl
  · dsimp only
    split
    · rfl
    · have continues := Channel.send_continues (c := s.channel) data.data immediate
      rcases hsend : s.channel.send data.data immediate with ⟨channel, outcome, orders⟩
      rw [hsend] at continues
      have hk : channel.id ≠ k := by rwa [continues.id, keyed _ s hs]
      have kept (pending : Option PendingReply) (out : Output) :=
        blind_put (s := ⟨channel, s.phase, pending⟩) hk t out reply
      cases outcome with
      | buffered free => exact kept s.pending _
      | flushing free => exact kept (some (.sending new free)) _
      | closed => exact kept s.pending _

theorem blind_receiveData {data : Transfer} (keyed : t.Keyed) (hj : data.channel ≠ k)
    (new : Reply) : t.Blind k fun t => t.receiveData new data := by
  intro reply
  simp only [receiveData, get?_owing_of_ne hj]
  rcases hs : t.slots.get? data.channel with _ | s
  · rfl
  · have continues := Channel.receive_continues (c := s.channel) data.length
    rcases hreceive : s.channel.receive data.length with ⟨channel, outcome, orders⟩
    rw [hreceive] at continues
    have hk : channel.id ≠ k := by rwa [continues.id, keyed _ s hs]
    simp only [hreceive]
    exact blind_put (s := ⟨channel, s.phase, s.pending⟩) hk t _ reply

/-! What is done to all channels -/

/-- The status words do not tell of answers that are still to be given. -/
theorem words_owing (t : ChannelTable) (k : UInt8) (reply : Reply) :
    (t.owing k reply).words = t.words := by
  unfold words
  congr 1
  funext j
  by_cases hj : j = k
  · rw [hj, get?_owing_self]
    rcases t.slots.get? k with _ | s <;> rfl
  · rw [get?_owing_of_ne hj]

/-- Whatever is made of slots without a look at their answers is made of them alike. -/
theorem map_values_owing {α : Type} {g : Slot → α} (reply : Reply)
    (same : ∀ s, g (s.owing reply) = g s) (t : ChannelTable) (k : UInt8) :
    (t.owing k reply).slots.values.map g = t.slots.values.map g := by
  simp only [ChannelMap.values, owing, ChannelMap.modify, ChannelMap.map, List.map_map]
  refine List.map_congr_left fun entry _ => ?_
  dsimp only [Function.comp_apply]
  split
  · exact same entry.2
  · rfl

theorem blind_endSession (t : ChannelTable) (k : UInt8) (s : Slot) :
    t.Blind k fun t => t.endSession s := by
  have kept (channel : Channel) (phase : Phase) (out : Output) :
      t.Blind k fun t => (t.put ⟨channel, phase, none⟩, out) := by
    by_cases hk : channel.id = k
    · intro reply
      exact congrArg (·, out) (put_owing_self (s := ⟨channel, phase, none⟩) hk t reply)
    · exact blind_put (s := ⟨channel, phase, none⟩) hk t out
  unfold endSession
  split
  · intro reply
    simp only [free_owing]
  · rcases s.channel.sessionEnd with ⟨channel, _ | _, orders⟩
    · exact kept channel s.phase _
    · intro reply
      simp only [free_owing]

theorem blind_each {α : Type} {f : ChannelTable → α → ChannelTable × Output}
    (h : ∀ (t : ChannelTable) (a : α), t.Blind k fun t => f t a) (t : ChannelTable) (l : List α) :
    t.Blind k fun t => t.each f l := by
  induction l generalizing t with
  | nil => exact fun reply => rfl
  | cons a l ih =>
    intro reply
    have first := h t a reply
    have rest := ih (f t a).1 reply
    dsimp only at first rest
    simp only [each, first, rest]

theorem each_map {α : Type} {f : ChannelTable → α → ChannelTable × Output} {g : α → α}
    (same : ∀ t a, f t (g a) = f t a) (t : ChannelTable) (l : List α) :
    t.each f (l.map g) = t.each f l := by
  induction l generalizing t with
  | nil => rfl
  | cons a l ih => simp only [List.map_cons, each, same, ih]

/-- The end of the session answers nothing, and so it does not depend on how to answer. -/
theorem blind_sessionEnd (t : ChannelTable) (k : UInt8) :
    t.Blind k fun t => t.sessionEnd := by
  let discharged (s : Slot) : Slot := { s with pending := none }
  have same (t : ChannelTable) (s : Slot) : t.endSession (discharged s) = t.endSession s := rfl
  intro reply
  have ended := (blind_each (fun t s => t.blind_endSession k s)
    { t with bearers := t.bearers.dropUnready.1 } t.slots.values).behind
      (.call t.bearers.dropUnready.2.2) reply
  have slots := map_values_owing (g := discharged) reply (fun s => rfl) t k
  simp only [sessionEnd, endSessions, bearers_owing]
  rw [← each_map same, slots, each_map same]
  exact ended

theorem cardRemoved_owing (t : ChannelTable) (k : UInt8) (reply : Reply) :
    (t.owing k reply).cardRemoved = t.cardRemoved := by
  have stops := map_values_owing reply
    (g := fun s => (s.orders s.channel.stopOrders).orders) (fun s => rfl) t k
  simp only [cardRemoved, List.flatMap_def, stops, bearers_owing]
  rfl

end ChannelTable

end CardChannels
