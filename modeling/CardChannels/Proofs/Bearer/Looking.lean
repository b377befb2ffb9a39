import CardChannels.Proofs.Bearer.Readiness
import CardChannels.Session.Host

/-!
# Requests that look for their access points

A request that looks for its access point waits to look again exactly when its last look was put
off. Whatever a channel asks for or hears, the registry has no other request changed, and a request
that waits to look again is left alone or ends. A request that fails has one of a few reasons.
-/
namespace CardChannels

/-- A host that keeps to itself which access points were inserted. -/
def SteadyHost.secretive : SteadyHost := { connected with hidesInserts := true }

theorem ChannelMap.erase_insert {α : Type} (m : ChannelMap α) (k : UInt8) (v : α) :
    (m.insert k v).erase k = m.erase k := by
  apply eq_of_get?_eq
  intro j
  simp only [get?_erase, get?_insert]
  split <;> rfl

/-- Whether an answer puts the next look off. -/
def BearerAnswer.putsOff : BearerAnswer → Bool
  | .retryAfter _ => true
  | .ready | .pending | .failed _ => false

/-- The request once its bearer is up. -/
def BearerRequest.broughtUp (r : BearerRequest) : BearerRequest := { r with state := .active }

theorem BearerRequest.broughtUp_of_isUp {r : BearerRequest} (h : r.isUp = true) :
    r.broughtUp = r := by
  obtain ⟨type, accessPoint, state⟩ := r
  obtain rfl : state = .active := by simpa [isUp] using h
  rfl

namespace BearerRegistry

variable {c : BearerRegistry} {j k : UInt8} {r : BearerRequest}

/-! Other requests -/

theorem forget_of_none (h : c.requests.get? k = none) : c.forget k = c := by
  rw [forget, ChannelMap.erase_of_none h]

@[simp] theorem forget_put (c : BearerRegistry) (k : UInt8) (r : BearerRequest) :
    (c.put k r).forget k = c.forget k := by
  rw [forget, put, ChannelMap.erase_insert, forget]

@[simp] theorem forget_forget (c : BearerRegistry) (k : UInt8) :
    (c.forget k).forget k = c.forget k :=
  forget_of_none (by simp)

theorem forget_lookAgain (c : BearerRegistry) (k : UInt8) (r : BearerRequest) :
    (c.lookAgain k r).1.forget k = c.forget k := by
  unfold lookAgain
  dsimp only
  split
  · rw [release_fst, forget_forget]
  · exact forget_put c k _

/-- Apart from the request itself, a look at an access point leaves the registry as it is. -/
theorem forget_check (c : BearerRegistry) (host : Host) (k : UInt8) (r : BearerRequest) :
    (c.check host k r).1.forget k = c.forget k := by
  unfold check
  split
  · exact forget_forget c k
  · split
    · exact forget_forget c k
    · dsimp only
      split
      · exact forget_lookAgain c k r
      · split
        · exact forget_put c k _
        · exact forget_put c k _
        · exact forget_lookAgain c k r
        · exact forget_forget c k

theorem forget_askDefault (c : BearerRegistry) (host : Host) (k : UInt8) :
    (c.askDefault host k).1.forget k = c.forget k := by
  unfold askDefault
  dsimp only
  split
  · exact forget_put c k _
  · exact forget_put c k _
  · rfl
  · rfl

/-- Apart from its own request, a channel that asks for a bearer leaves the registry as it is. -/
theorem forget_request (c : BearerRegistry) (host : Host) (k : UInt8) (bearer : BearerDescription)
    (accessPoint : Option String) :
    (c.request host k bearer accessPoint).1.forget k = c.forget k := by
  unfold request
  split
  · split
    · rw [forget_check, forget_put]
    · exact forget_askDefault c host k
  · exact forget_askDefault c host k

/-- A registry of which only the requests are others. -/
theorem releaseEach_fst (c : BearerRegistry) (ks : List UInt8) :
    (c.releaseEach ks).1 = { c with requests := (c.releaseEach ks).1.requests } := by
  induction ks generalizing c with
  | nil => rfl
  | cons k ks ih =>
    rw [releaseEach]
    dsimp only
    rw [ih, release_fst]
    rfl

theorem connectionChanged_fst (c : BearerRegistry) (change : ConnectionChange) :
    (c.connectionChanged change).1 =
      { c with requests := (c.connectionChanged change).1.requests } := by
  rw [connectionChanged]
  dsimp only
  rw [releaseEach_fst]
  rfl

/-! Requests that wait to look again -/

/-- Whether a channel's request waits to look for its access point again. -/
def isLooking (c : BearerRegistry) (k : UInt8) : Bool :=
  (c.requests.get? k).any fun r => !r.isEnabled

theorem isLooking_eq_true_iff :
    c.isLooking k = true ↔
      ∃ r attempts, c.requests.get? k = some r ∧ r.state = .provisioning attempts := by
  simp only [isLooking, Option.any_eq_true, Bool.not_eq_true']
  refine exists_congr fun r => ?_
  cases h : r.state <;> simp [BearerRequest.isEnabled, h]

theorem isLooking_congr {c' : BearerRegistry} (h : c'.requests.get? k = c.requests.get? k) :
    c'.isLooking k = c.isLooking k := by
  rw [isLooking, h, isLooking]

@[simp] theorem isLooking_put (c : BearerRegistry) (k : UInt8) (r : BearerRequest) :
    (c.put k r).isLooking k = !r.isEnabled := by
  simp [isLooking]

@[simp] theorem isLooking_forget (c : BearerRegistry) (k : UInt8) :
    (c.forget k).isLooking k = false := by
  simp [isLooking]

/-- What leaves a registry the same but for one request leaves the other requests as they are. -/
theorem get?_of_forget_eq {c' : BearerRegistry} (h : c'.forget k = c.forget k) (hj : j ≠ k) :
    c'.requests.get? j = c.requests.get? j := by
  have hforget := congrArg (fun c => c.requests.get? j) h
  simpa [hj] using hforget

theorem isLooking_lookAgain (c : BearerRegistry) (k : UInt8) (r : BearerRequest) :
    (c.lookAgain k r).1.isLooking k = (c.lookAgain k r).2.1.putsOff := by
  unfold lookAgain
  dsimp only
  split
  · rw [release_fst]
    exact isLooking_forget c k
  · exact isLooking_put ..

/-- After a look the request waits to look again exactly when the next look was put off. -/
theorem isLooking_check (c : BearerRegistry) (host : Host) (k : UInt8) (r : BearerRequest) :
    (c.check host k r).1.isLooking k = (c.check host k r).2.1.putsOff := by
  unfold check
  split
  · exact isLooking_forget c k
  · split
    · exact isLooking_forget c k
    · dsimp only
      split
      · exact isLooking_lookAgain c k r
      · split
        · exact isLooking_put ..
        · exact isLooking_put ..
        · exact isLooking_lookAgain c k r
        · exact isLooking_forget c k

theorem isLooking_askDefault (fresh : c.requests.get? k = none) (host : Host) :
    (c.askDefault host k).1.isLooking k = (c.askDefault host k).2.1.putsOff := by
  have none : c.isLooking k = false := by simp [isLooking, fresh]
  unfold askDefault
  dsimp only
  split
  · exact isLooking_put ..
  · exact isLooking_put ..
  · exact none
  · exact none

/-- Only a request that the host was made to bring up is concerned by a change of the connection. -/
theorem isEnabled_of_changeFor {change : ConnectionChange} {told : BearerChange}
    (h : changeFor change r = some told) : r.isEnabled = true := by
  unfold changeFor at h
  split at h
  · cases h
  · cases hs : r.state <;> simp_all [BearerRequest.isEnabled]

/-- What a change of the connection leaves of a channel's request. -/
theorem get?_connectionChanged (c : BearerRegistry) (change : ConnectionChange) (k : UInt8) :
    (c.connectionChanged change).1.requests.get? k =
      match c.changeOf change k with
      | none => c.requests.get? k
      | some .ready => (c.requests.get? k).map (·.broughtUp)
      | some (.failed _) | some .lost => none := by
  simp only [connectionChanged, get?_releaseEach, mem_gone_iff, activate, ChannelMap.get?_map]
  rcases hr : c.requests.get? k with _ | r
  · simp [changeOf, hr]
  · have htold : c.changeOf change k = changeFor change r := by rw [changeOf, hr, Option.bind_some]
    rw [htold]
    rcases h : changeFor change r with _ | told
    · simp [h]
    · cases told <;> simp [h, BearerRequest.broughtUp]

/-- A change of the connection is not for a request that waits to look again. -/
theorem isLooking_connectionChanged (c : BearerRegistry) (change : ConnectionChange) (k : UInt8) :
    (c.connectionChanged change).1.isLooking k = c.isLooking k := by
  rw [isLooking, get?_connectionChanged]
  rcases htold : c.changeOf change k with _ | told
  · rfl
  · obtain ⟨r, hr, hchange⟩ := Option.bind_eq_some_iff.mp htold
    have notLooking : c.isLooking k = false := by
      simp [isLooking, hr, isEnabled_of_changeFor hchange]
    rw [notLooking, hr]
    cases told <;> rfl

/-! Requests that fail -/

theorem refusal_of_lookAgain {refusal : Refusal} (h : (c.lookAgain k r).2.1 = .failed refusal) :
    refusal = .beyondCapability := by
  unfold lookAgain at h
  dsimp only at h
  split at h
  · cases h
    rfl
  · cases h

/-- A look fails because of what the host cannot do, or because of a call. -/
theorem refusal_of_check {host : Host} {refusal : Refusal}
    (h : (c.check host k r).2.1 = .failed refusal) :
    refusal = .beyondCapability ∨ refusal = .busyOnCall := by
  unfold check at h
  split at h
  · cases h
    exact .inl rfl
  · split at h
    · cases h
      exact .inr rfl
    · dsimp only at h
      split at h
      · exact .inl (refusal_of_lookAgain h)
      · split at h
        · cases h
        · cases h
        · exact .inl (refusal_of_lookAgain h)
        · cases h
          exact .inl rfl

theorem refusal_of_askDefault {host : Host} {refusal : Refusal}
    (h : (c.askDefault host k).2.1 = .failed refusal) :
    refusal = .beyondCapability ∨ refusal = .busyOnCall := by
  unfold askDefault at h
  dsimp only at h
  split at h
  · cases h
  · cases h
  · cases h
    exact .inr rfl
  · cases h
    exact .inl rfl

theorem refusal_of_request {host : Host} {bearer : BearerDescription}
    {accessPoint : Option String} {refusal : Refusal}
    (h : (c.request host k bearer accessPoint).2.1 = .failed refusal) :
    refusal = .beyondCapability ∨ refusal = .busyOnCall := by
  unfold request at h
  split at h
  · split at h
    · exact refusal_of_check h
    · exact refusal_of_askDefault h
  · exact refusal_of_askDefault h

theorem refusal_of_retry {host : Host} {refusal : Refusal}
    (h : (c.retry host k).2.1 = some (.failed refusal)) :
    refusal = .beyondCapability ∨ refusal = .busyOnCall := by
  unfold retry at h
  split at h
  · cases h
  · split at h
    · cases h
    · exact refusal_of_check (Option.some.inj h)

/-- A change of the connection fails a request because the network does not go along. -/
theorem refusal_of_changeFor {change : ConnectionChange} {refusal : Refusal}
    (h : changeFor change r = some (.failed refusal)) : refusal = .networkUnable := by
  unfold changeFor at h
  split at h
  · cases h
  · split at h
    · cases h
    · split at h
      · cases h
      · cases h
        rfl
    · split at h
      · cases h
      · cases h
    · cases h

end BearerRegistry

end CardChannels
