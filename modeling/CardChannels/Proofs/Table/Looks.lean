import CardChannels.Proofs.Table.Generations
import CardChannels.Proofs.Table.Opening

/-!
# Looks for a bearer that are put off

While the access point of a channel does not show, the registry counts the looks for it, the table
puts the next look off, and whoever surrounds the table keeps the time. The three have to stay in
step: a channel's request waits to look again exactly when one look was put off that has not come
due yet. Here it is said what one input does to that, for a channel that stays and for one that is
new.
-/
namespace CardChannels

/-! Counts -/

/-- Whether an effect puts a look of a channel off. -/
def Effect.putsOff (k : UInt8) (g : Nat) : Effect → Bool
  | .retry channel generation _ => channel = k ∧ generation = g
  | .respond _ | .raise _ => false

/-- How often a look of a channel is put off. -/
def Output.putOff (out : Output) (k : UInt8) (g : Nat) : Nat := out.effects.countP (·.putsOff k g)

/-- Whether an input is a look of a channel that comes due. -/
def TableInput.isLook (k : UInt8) (g : Nat) : TableInput → Bool
  | .bearerRetry _ channel generation => channel = k ∧ generation = g
  | _ => false

namespace Output

variable {a b : Output} {k : UInt8} {g : Nat}

@[simp] theorem putOff_append (a b : Output) (k : UInt8) (g : Nat) :
    (a ++ b).putOff k g = a.putOff k g + b.putOff k g := by
  simp [putOff]

@[simp] theorem putOff_call (calls : List HostCall) (k : UInt8) (g : Nat) :
    (call calls).putOff k g = 0 := rfl

@[simp] theorem putOff_none (k : UInt8) (g : Nat) : none.putOff k g = 0 := rfl

@[simp] theorem putOff_respond (r : TerminalResponse) (k : UInt8) (g : Nat) :
    (respond r).putOff k g = 0 := rfl

@[simp] theorem putOff_raise (e : EventDownload) (k : UInt8) (g : Nat) :
    (raise e).putOff k g = 0 := rfl

@[simp] theorem putOff_orders (s : Slot) (orders : List Order) (k : UInt8) (g : Nat) :
    (s.orders orders).putOff k g = 0 := rfl

end Output

/-! The registry -/

namespace BearerRegistry

variable {c : BearerRegistry} {k : UInt8}

/-- A request that waits to look again is not up. -/
theorem up?_of_isLooking (h : c.isLooking k = true) : c.up? k = some false := by
  obtain ⟨r, attempts, hr, hs⟩ := isLooking_eq_true_iff.mp h
  exact up?_eq_false_iff.mpr ⟨r, hr, .inl ⟨attempts, hs⟩⟩

theorem isLooking_ask (fresh : c.requests.get? k = none) (host : Host)
    (settings : ChannelSettings) :
    (c.ask host k settings).1.isLooking k = (c.ask host k settings).2.1.putsOff := by
  unfold ask request
  split
  · simp [isLooking, fresh, BearerAnswer.putsOff]
  · split
    · split
      · exact isLooking_check ..
      · exact isLooking_askDefault fresh host
    · exact isLooking_askDefault fresh host

end BearerRegistry

namespace ChannelTable

variable {t t' t'' : ChannelTable} {j k : UInt8} {g : Nat} {s s' : Slot}

/-! Channels that stay -/

/-- Every channel that a second table has is in the first one too, and has the same request. -/
def Keeps (t t' : ChannelTable) : Prop :=
  ∀ k s', t'.slots.get? k = some s' → (∃ s, t.slots.get? k = some s) ∧
    t'.bearers.requests.get? k = t.bearers.requests.get? k

namespace Keeps

theorem refl (t : ChannelTable) : t.Keeps t := fun _ s hs => ⟨⟨s, hs⟩, rfl⟩

theorem trans (h : t.Keeps t') (h' : t'.Keeps t'') : t.Keeps t'' := by
  intro k s'' hs''
  obtain ⟨⟨s', hs'⟩, same'⟩ := h' k s'' hs''
  obtain ⟨held, same⟩ := h k s' hs'
  exact ⟨held, same'.trans same⟩

theorem put (hs : t.slots.get? s'.channel.id = some s) : t.Keeps (t.put s') := by
  intro k s'' hs''
  rw [get?_put] at hs''
  split at hs''
  · rename_i hk
    exact ⟨⟨s, hk ▸ hs⟩, rfl⟩
  · exact ⟨⟨s'', hs''⟩, rfl⟩

theorem free (t : ChannelTable) (k : UInt8) : t.Keeps (t.free k).1 := by
  intro j s' hs'
  rw [get?_free] at hs'
  split at hs'
  · cases hs'
  · rename_i hj
    exact ⟨⟨s', hs'⟩, (BearerRegistry.get?_release ..).trans (if_neg hj)⟩

theorem giveUpOpen (t : ChannelTable) (s : Slot) (refusal : Refusal) :
    t.Keeps (t.giveUpOpen s refusal).1 := by
  rw [giveUpOpen_fst]
  exact free t _

theorem startSocket (hs : t.slots.get? s.channel.id = some s) :
    t.Keeps (t.startSocket s).1 := by
  unfold ChannelTable.startSocket
  dsimp only
  split
  · rename_i hstart
    exact put (s := s) ((Channel.start_continues hstart).id ▸ hs)
  · exact giveUpOpen t _ _

theorem afterBearer (hs : t.slots.get? s.channel.id = some s) (outcome : BearerAnswer) :
    t.Keeps (t.afterBearer s outcome).1 := by
  cases outcome with
  | ready => exact startSocket hs
  | pending => exact refl t
  | retryAfter delay => exact refl t
  | failed refusal => exact giveUpOpen t s refusal

theorem bearerChange (keyed : t.Keyed) (k : UInt8) (told : BearerChange) :
    t.Keeps (t.bearerChange k told).1 := by
  unfold ChannelTable.bearerChange
  split
  · exact refl t
  · rename_i s hs
    cases told with
    | ready =>
      dsimp only
      split
      · exact startSocket ((keyed k s hs).symm ▸ hs)
      · exact refl t
    | failed refusal =>
      dsimp only
      split
      · exact giveUpOpen t s refusal
      · exact refl t
    | lost =>
      dsimp only
      rw [bearerLost_fst]
      exact free t _

/-- What is done to one channel alone. -/
theorem actsOn {f : ChannelTable → ChannelTable × Output} (hf : ActsOn k (t.slots.get? k) f) :
    t.Keeps (f t).1 := by
  obtain ⟨fate, effects, orders, follows, hf⟩ := hf
  rw [(hf t rfl).1]
  intro j s' hs'
  rw [get?_settle] at hs'
  rw [requests_settle]
  split at hs'
  · rename_i hj
    rw [if_pos hj, hj]
    cases fate with
    | left => exact ⟨⟨s', hs'⟩, rfl⟩
    | kept s'' =>
      obtain ⟨s, hs, -⟩ := follows
      exact ⟨⟨s, hs⟩, rfl⟩
    | freed => cases hs'
  · rename_i hj
    rw [if_neg hj]
    exact ⟨⟨s', hs'⟩, rfl⟩

theorem bearerChanges (keyed : t.Keyed) (changes : List (UInt8 × BearerChange)) :
    t.Keeps (t.bearerChanges changes).1 := by
  unfold ChannelTable.bearerChanges
  induction changes generalizing t with
  | nil => exact refl t
  | cons change rest ih =>
    have among : t.Among (fun _ _ => True) t.generation := ⟨rfl, keyed, fun _ _ _ => trivial⟩
    exact (bearerChange keyed change.1 change.2).trans
      (ih (among.bearerChange change.1 change.2).keyed)

end Keeps

/-! Looks that are put off -/

@[simp] theorem putOff_free (t : ChannelTable) (j k : UInt8) (g : Nat) :
    (t.free j).2.putOff k g = 0 := rfl

@[simp] theorem putOff_giveUpOpen (t : ChannelTable) (s : Slot) (refusal : Refusal) (k : UInt8)
    (g : Nat) : (t.giveUpOpen s refusal).2.putOff k g = 0 := by
  unfold giveUpOpen
  dsimp only
  split <;> simp

@[simp] theorem putOff_startSocket (t : ChannelTable) (s : Slot) (k : UInt8) (g : Nat) :
    (t.startSocket s).2.putOff k g = 0 := by
  unfold startSocket
  dsimp only
  split <;> simp

/-- Only an answer that puts the next look off makes the table put one off, for its channel. -/
theorem putOff_afterBearer (t : ChannelTable) (s : Slot) (outcome : BearerAnswer) (k : UInt8)
    (g : Nat) :
    (t.afterBearer s outcome).2.putOff k g =
      if s.channel.id = k ∧ s.channel.generation = g then outcome.putsOff.toNat else 0 := by
  cases outcome with
  | ready => simp [afterBearer, BearerAnswer.putsOff]
  | pending => simp [afterBearer, BearerAnswer.putsOff]
  | retryAfter delay =>
    simp [afterBearer, BearerAnswer.putsOff, Output.putOff, Effect.putsOff, List.countP_cons]
  | failed refusal => simp [afterBearer, BearerAnswer.putsOff]

theorem putOff_applyUpshot (t : ChannelTable) (s : Slot) (told : Upshot) (k : UInt8) (g : Nat) :
    (t.applyUpshot s told).2.putOff k g = 0 := by
  unfold applyUpshot
  cases told with
  | opened | sent | sendFailed =>
    dsimp only
    split <;> simp
  | statusChanged status =>
    dsimp only
    split
    · simp
    · split <;> simp
  | openFailed | dataAvailable | ignored => simp

theorem putOff_bearerChange (t : ChannelTable) (j : UInt8) (told : BearerChange) (k : UInt8)
    (g : Nat) : (t.bearerChange j told).2.putOff k g = 0 := by
  unfold bearerChange
  split
  · rfl
  · cases told with
    | ready | failed =>
      dsimp only
      split <;> simp
    | lost =>
      unfold bearerLost
      dsimp only
      split <;> simp

theorem putOff_bearerChanges (t : ChannelTable) (changes : List (UInt8 × BearerChange)) (k : UInt8)
    (g : Nat) : (t.bearerChanges changes).2.putOff k g = 0 := by
  unfold bearerChanges
  induction changes generalizing t with
  | nil => rfl
  | cons change rest ih =>
    rw [each, Output.putOff_append, putOff_bearerChange, ih]

/-- What is done to one channel alone puts no look off. -/
theorem putOff_subject {input : TableInput} (h : input.subject?.isSome = true) (k : UInt8)
    (g : Nat) : (t.step input).2.putOff k g = 0 := by
  cases input with
  | closeChannel reply j keepListening =>
    simp only [step, closeChannel]
    split
    · rfl
    · dsimp only
      split <;> simp
  | sendData reply data immediate =>
    simp only [step, sendData]
    split
    · rfl
    · split
      · rfl
      · split <;> simp
  | receiveData reply data =>
    simp only [step, receiveData]
    split
    · rfl
    · simp
  | report j n r =>
    simp only [step, report]
    split
    · rfl
    · simp [putOff_applyUpshot]
  | taskEnded j n => rfl
  | openChannel | channelStatus | bearerRetry | connectionChanged | sessionEnd | cardRemoved =>
    cases h

/-- A look that comes due does nothing, because nothing waits for it, or it is made. -/
theorem bearerRetry_cases (t : ChannelTable) (host : Host) (k : UInt8) (g : Nat) :
    (t.bearerRetry host k g = (t, .none) ∧ ∀ s, t.slots.get? k = some s →
        s.channel.generation = g → s.phase = .awaitingBearer → t.bearers.isLooking k = false) ∨
      ∃ s r, t.slots.get? k = some s ∧ s.channel.generation = g ∧ s.phase = .awaitingBearer ∧
        t.bearers.requests.get? k = some r ∧ r.isEnabled = false ∧
        let looked := t.bearers.check host k r
        let result := { t with bearers := looked.1 }.afterBearer s looked.2.1
        t.bearerRetry host k g = (result.1, .call looked.2.2 ++ result.2) := by
  unfold bearerRetry
  rcases hs : t.current? k g with _ | s
  · refine .inl ⟨rfl, fun s hslot hg => ?_⟩
    simp [current?, hslot, hg] at hs
  · obtain ⟨hslot, hg⟩ := of_current? hs
    have only (s' : Slot) (hs' : t.slots.get? k = some s') : s' = s :=
      Option.some.inj (hs'.symm.trans hslot)
    dsimp only
    by_cases waits : s.phase = .awaitingBearer
    · rw [if_neg (not_not.mpr waits)]
      rcases hr : t.bearers.requests.get? k with _ | r
      · simp only [BearerRegistry.retry, hr]
        exact .inl ⟨rfl, fun _ _ _ _ => by simp [BearerRegistry.isLooking, hr]⟩
      · cases he : r.isEnabled with
        | true =>
          simp only [BearerRegistry.retry, hr, he, if_true]
          exact .inl ⟨rfl, fun _ _ _ _ => by simp [BearerRegistry.isLooking, hr, he]⟩
        | false =>
          simp only [BearerRegistry.retry, hr, he, Bool.false_eq_true, if_false]
          exact .inr ⟨s, r, hslot, hg, waits, rfl, he, rfl⟩
    · rw [if_pos waits]
      exact .inl ⟨rfl, fun s' hs' _ waits' => absurd (only s' hs' ▸ waits') waits⟩

end ChannelTable

end CardChannels
