import CardChannels.Proofs.Bearer.GivingUp
import CardChannels.Proofs.Bearer.Looking

/-!
# How often a channel looks for its access point

A look is put off because the access point does not show or because the host says that none serves
the type, and the one can follow the other. Whatever the host answers from look to look, the limit
of the configuration is for both together. The main statement follows one request through any
inputs that are not another request of its channel.
-/
namespace CardChannels

namespace BearerInput

/-- Whether an input asks for a channel's bearer. -/
def asks (k : UInt8) : BearerInput → Bool
  | .request _ channel _ _ => channel = k
  | _ => false

/-- Whether an input is another look for a channel. -/
def looksAgain (k : UInt8) : BearerInput → Bool
  | .retry _ channel => channel = k
  | _ => false

end BearerInput

namespace BearerRegistry

/-- What a channel is told by an input, if the input looks for its bearer. -/
def answerTo (c : BearerRegistry) (k : UInt8) : BearerInput → Option BearerAnswer
  | .request host channel bearer accessPoint =>
    if channel = k then some (c.request host channel bearer accessPoint).2.1 else none
  | .retry host channel => if channel = k then (c.retry host channel).2.1 else none
  | .connectionChanged _ | .release _ | .dropUnready | .releaseAll => none

/-- The registry after inputs, the newest first. -/
def after (c : BearerRegistry) : List BearerInput → BearerRegistry
  | [] => c
  | input :: earlier => ((c.after earlier).step input).1

/-- What a channel is told by inputs, the newest first: one answer for each look. -/
def answers (c : BearerRegistry) (k : UInt8) : List BearerInput → List BearerAnswer
  | [] => []
  | input :: earlier => ((c.after earlier).answerTo k input).toList ++ c.answers k earlier

/-- How a request has fared: it still looks for its access point and counts its looks, which were
all put off, or it looks no more and has not looked too often. -/
inductive Fared (limit : Nat) (c : BearerRegistry) (k : UInt8) (retries : Nat)
    (told : List BearerAnswer) : Prop
  | looking {r : BearerRequest} (held : c.requests.get? k = some r)
      (stage : r.state = .provisioning told.length) (each : told.length = retries + 1)
      (putOff : ∀ answer ∈ told, answer.putsOff = true) (within : told.length ≤ limit)
  | answered (done : c.isLooking k = false) (putOff : told.countP (·.putsOff) ≤ limit)
      (made : told.length ≤ limit + 1)

variable {c : BearerRegistry} {host : Host} {j k : UInt8} {r : BearerRequest} {limit retries : Nat}
  {told : List BearerAnswer} {input : BearerInput} {bearer : BearerDescription} {name : String}
  {type : BearerType}

/-! One look -/

theorem lookAgain_of_putsOff (h : (c.lookAgain k r).2.1.putsOff = true) :
    r.looks + 1 ≤ c.retryLimit ∧
      (c.lookAgain k r).1 = c.put k { r with state := .provisioning (r.looks + 1) } := by
  unfold lookAgain at h ⊢
  dsimp only at h ⊢
  split at h
  · cases h
  · rename_i within
    exact ⟨by omega, by rw [if_neg within]⟩

/-- A look that is put off is counted, and the limit allows it. -/
theorem check_of_putsOff (h : (c.check host k r).2.1.putsOff = true) :
    r.looks + 1 ≤ c.retryLimit ∧
      (c.check host k r).1 = c.put k { r with state := .provisioning (r.looks + 1) } := by
  unfold check at h ⊢
  split at h
  · cases h
  · rename_i allowed
    rw [if_neg allowed]
    split at h
    · cases h
    · rename_i noCall
      rw [if_neg noCall]
      dsimp only at h ⊢
      split at h
      · rename_i found
        rw [if_pos found]
        exact lookAgain_of_putsOff h
      · rename_i found
        rw [if_neg found]
        cases ha : host.enable r.type with
        | alreadyActive | requestStarted | requestFailed => simp [ha, BearerAnswer.putsOff] at h
        | typeNotAvailable =>
          simp only [ha] at h
          exact lookAgain_of_putsOff h

/-- A packet bearer with an access point is looked for at once. -/
theorem request_of_packetSwitched (packet : bearer.type? = some type)
    (switched : type.isPacketSwitched = true) (c : BearerRegistry) (host : Host) (k : UInt8)
    (name : String) :
    c.request host k bearer (some name) =
      (c.put k ⟨c.channelType, some name, .provisioning 0⟩).check host k
        ⟨c.channelType, some name, .provisioning 0⟩ := by
  simp [request, packet, switched]

theorem retry_of_isLooking (held : c.requests.get? k = some r) (looking : r.isEnabled = false)
    (host : Host) :
    c.retry host k =
      ((c.check host k r).1, some (c.check host k r).2.1, (c.check host k r).2.2) := by
  simp [retry, held, looking]

theorem retry_of_not_isLooking (done : c.isLooking k = false) (host : Host) :
    c.retry host k = (c, none, []) := by
  unfold retry
  split
  · rfl
  · rename_i r hr
    have enabled : r.isEnabled = true := by simpa [isLooking, hr] using done
    rw [if_pos enabled]

/-! Other inputs -/

theorem forget_retry (c : BearerRegistry) (host : Host) (k : UInt8) :
    (c.retry host k).1.forget k = c.forget k := by
  unfold retry
  split
  · rfl
  · split
    · rfl
    · exact forget_check ..

theorem retryLimit_step (c : BearerRegistry) (input : BearerInput) :
    (c.step input).1.retryLimit = c.retryLimit := by
  cases input with
  | request host k bearer accessPoint =>
    exact congrArg (·.retryLimit) (forget_request c host k bearer accessPoint)
  | retry host k => exact congrArg (·.retryLimit) (forget_retry c host k)
  | connectionChanged change => exact congrArg (·.retryLimit) (connectionChanged_fst c change)
  | release k => exact congrArg (·.retryLimit) (release_fst c k)
  | dropUnready => exact congrArg (·.retryLimit) (releaseEach_fst c c.unready)
  | releaseAll => exact congrArg (·.retryLimit) (releaseEach_fst c c.requests.keys)

theorem retryLimit_after (c : BearerRegistry) (inputs : List BearerInput) :
    (c.after inputs).retryLimit = c.retryLimit := by
  induction inputs with
  | nil => rfl
  | cons input earlier ih => exact (retryLimit_step _ input).trans ih

/-- An input that does not look for a channel's bearer leaves its request as it is, or makes it one
that looks no more. -/
theorem get?_step_or (asks : input.asks k = false) (looks : input.looksAgain k = false) :
    (c.step input).1.requests.get? k = c.requests.get? k ∨
      (c.step input).1.isLooking k = false := by
  have ended {c' : BearerRegistry} {p : Prop} [Decidable p]
      (h : c'.requests.get? k = if p then none else c.requests.get? k) :
      c'.requests.get? k = c.requests.get? k ∨ c'.isLooking k = false := by
    split at h
    · exact .inr (by simp [isLooking, h])
    · exact .inl h
  cases input with
  | request host j bearer accessPoint =>
    have hj : k ≠ j := by simpa [BearerInput.asks, eq_comm] using asks
    exact .inl (get?_of_forget_eq (forget_request c host j bearer accessPoint) hj)
  | retry host j =>
    have hj : k ≠ j := by simpa [BearerInput.looksAgain, eq_comm] using looks
    exact .inl (get?_of_forget_eq (forget_retry c host j) hj)
  | connectionChanged change =>
    have told := get?_connectionChanged c change k
    rcases h : c.changeOf change k with _ | _ | _ | _
    · exact .inl (by rw [h] at told; exact told)
    · refine .inr ?_
      rw [h] at told
      rw [isLooking, step, told, Option.any_map]
      rcases c.requests.get? k with _ | r <;> rfl
    · exact .inr (by rw [h] at told; rw [isLooking, step, told]; rfl)
    · exact .inr (by rw [h] at told; rw [isLooking, step, told]; rfl)
  | release j => exact ended (get?_release c j k)
  | dropUnready => exact ended (get?_releaseEach c.unready c k)
  | releaseAll => exact ended (get?_releaseEach c.requests.keys c k)

/-! Runs -/

namespace Fared

theorem of_get?_eq {c' : BearerRegistry} (h : Fared limit c k retries told)
    (same : c'.requests.get? k = c.requests.get? k) : Fared limit c' k retries told := by
  cases h with
  | looking held stage each putOff within =>
    exact .looking (same.trans held) stage each putOff within
  | answered done putOff made => exact .answered ((isLooking_congr same).trans done) putOff made

/-- A request that looks no more has been put off no more often than the limit allows. -/
theorem ended {c' : BearerRegistry} (h : Fared limit c k retries told)
    (done : c'.isLooking k = false) (retries' : Nat) : Fared limit c' k retries' told := by
  cases h with
  | looking held stage each putOff within =>
    exact .answered done (Nat.le_trans List.countP_le_length within) (by omega)
  | answered _ putOff made => exact .answered done putOff made

/-- One more look keeps the count. -/
theorem check (within : told.length ≤ c.retryLimit) (stage : r.state = .provisioning told.length)
    (each : told.length = retries) (putOff : ∀ answer ∈ told, answer.putsOff = true)
    (host : Host) :
    Fared c.retryLimit (c.check host k r).1 k retries ((c.check host k r).2.1 :: told) := by
  have looks : r.looks = told.length := by simp [BearerRequest.looks, stage]
  cases h : (c.check host k r).2.1.putsOff with
  | true =>
    obtain ⟨allowed, counted⟩ := check_of_putsOff h
    rw [looks] at allowed counted
    refine .looking (r := { r with state := .provisioning (told.length + 1) }) ?_ rfl
      (by simp [each]) (List.forall_mem_cons.mpr ⟨h, putOff⟩) allowed
    rw [counted, get?_put, if_pos rfl]
  | false =>
    refine .answered ((isLooking_check c host k r).trans h) ?_ (Nat.succ_le_succ within)
    rw [List.countP_cons_of_neg (by simp [h])]
    exact Nat.le_trans List.countP_le_length within

/-- An input that is not another request of the channel keeps what is known of its request. -/
theorem step (h : Fared c.retryLimit c k retries told) (asks : input.asks k = false) :
    Fared c.retryLimit (c.step input).1 k (retries + (input.looksAgain k).toNat)
      ((c.answerTo k input).toList ++ told) := by
  cases again : input.looksAgain k with
  | false =>
    have silent : c.answerTo k input = none := by
      cases input <;> simp_all [answerTo, BearerInput.asks, BearerInput.looksAgain]
    rw [silent]
    rcases get?_step_or asks again with same | done
    · exact h.of_get?_eq same
    · exact h.ended done _
  | true =>
    obtain ⟨host, rfl⟩ : ∃ host, input = .retry host k := by
      cases input <;> simp_all [BearerInput.looksAgain]
    simp only [answerTo, BearerRegistry.step, Bool.toNat_true]
    cases h with
    | looking held stage each putOff within =>
      rw [retry_of_isLooking held (by simp [BearerRequest.isEnabled, stage]) host]
      exact check within stage each putOff host
    | answered done putOff made =>
      rw [retry_of_not_isLooking done host]
      exact .answered done putOff made

end Fared

/-- How a request has fared after any inputs that are not another request of its channel. -/
theorem fared (packet : bearer.type? = some type) (switched : type.isPacketSwitched = true)
    (c : BearerRegistry) (host : Host) (k : UInt8) (name : String) {later : List BearerInput}
    (sole : ∀ input ∈ later, input.asks k = false) :
    let inputs := later ++ [.request host k bearer (some name)]
    Fared c.retryLimit (c.after inputs) k (later.countP (·.looksAgain k))
      (c.answers k inputs) := by
  induction later with
  | nil =>
    simp only [List.nil_append, after, answers, answerTo, BearerRegistry.step,
      request_of_packetSwitched packet switched]
    have unasked : ∀ answer ∈ ([] : List BearerAnswer), answer.putsOff = true := by simp
    exact Fared.check (c := c.put k _) (Nat.zero_le _) rfl rfl unasked host
  | cons input later ih =>
    obtain ⟨asks, sole⟩ := List.forall_mem_cons.mp sole
    have earlier := ih sole
    rw [← retryLimit_after c (later ++ [.request host k bearer (some name)])] at earlier ⊢
    have counted : (input :: later).countP (·.looksAgain k) =
        later.countP (·.looksAgain k) + (input.looksAgain k).toNat := by
      rw [List.countP_cons]
      cases input.looksAgain k <;> rfl
    rw [counted]
    exact earlier.step asks

/-- A request for an access point and its retries are put off no more often than the limit says,
so that it looks at most once more. The retry that the limit leaves settles it, and a request that
is settled takes no more retries. The count of looks has room for one more. -/
theorem looks_within_limit (c : BearerRegistry) (host : Host) (k : UInt8) (name : String)
    (fits : c.retryLimit + 1 < UInt32.size) (packet : bearer.type? = some type)
    (switched : type.isPacketSwitched = true) {later : List BearerInput}
    (sole : ∀ input ∈ later, input.asks k = false) :
    let inputs := later ++ [.request host k bearer (some name)]
    let told := c.answers k inputs
    let now := c.after inputs
    told.countP (·.putsOff) ≤ c.retryLimit ∧
      told.length ≤ c.retryLimit + 1 ∧
      (now.isLooking k = true → later.countP (·.looksAgain k) + 1 = c.retryLimit →
        ∀ host', ∃ answer, (now.retry host' k).2.1 = some answer ∧ answer.putsOff = false) ∧
      ((∃ answer ∈ told, answer.putsOff = false) →
        ∀ host', now.retry host' k = (now, none, [])) ∧
      ∀ r, now.requests.get? k = some r → r.looks ≤ c.retryLimit ∧ r.looks + 1 < UInt32.size := by
  intro inputs told now
  have limit : now.retryLimit = c.retryLimit := retryLimit_after c inputs
  have known : Fared c.retryLimit now k (later.countP (·.looksAgain k)) told :=
    fared packet switched c host k name sole
  cases known with
  | @looking r held stage each putOff within =>
    have looks : r.looks = told.length := by simp [BearerRequest.looks, stage]
    have counted : told.countP (·.putsOff) = told.length := List.countP_eq_length.mpr putOff
    refine ⟨counted ▸ within, Nat.le_succ_of_le within, fun _ last host' => ?_, ?_, ?_⟩
    · rw [retry_of_isLooking held (by simp [BearerRequest.isEnabled, stage])]
      refine ⟨_, rfl, Bool.not_eq_true _ ▸ fun h => ?_⟩
      have allowed := (check_of_putsOff h).1
      omega
    · rintro ⟨answer, mem, settled⟩
      rw [putOff answer mem] at settled
      cases settled
    · intro r' held'
      obtain rfl : r' = r := Option.some.inj (held'.symm.trans held)
      omega
  | answered done putOff made =>
    refine ⟨putOff, made, fun looking => ?_, fun _ => retry_of_not_isLooking done, ?_⟩
    · rw [done] at looking
      cases looking
    · intro r held
      have enabled : r.isEnabled = true := by simpa [isLooking, held] using done
      have looks : r.looks = 0 := by
        rcases r.isEnabled_iff.mp enabled with h | h <;> simp [BearerRequest.looks, h]
      omega

/-- Three more looks on a host that hides insertions. -/
def looksInVain : List BearerInput := List.replicate 3 (.retry SteadyHost.secretive.answers 1)

/-- On a host that hides insertions every look is put off as long as the limit allows, and the next
one is not. -/
theorem secretive_host_looked_at_to_the_limit :
    ((ofConfig .standard).answers 1
        (looksInVain ++ [.request SteadyHost.secretive.answers 1 packetBearer
          (some "bip.example")])).countP (·.putsOff) = 4 ∧
      ∃ answer, (((ofConfig .standard).after
        (looksInVain ++ [.request SteadyHost.secretive.answers 1 packetBearer
          (some "bip.example")])).retry SteadyHost.connected.answers 1).2.1 = some answer ∧
        answer.putsOff = false := by
  have packet : packetBearer.type? = some .gprs := by decide +kernel
  have sole : ∀ input ∈ looksInVain, input.asks 1 = false := by
    simp [looksInVain, BearerInput.asks]
  obtain ⟨-, -, last, -⟩ := looks_within_limit (ofConfig .standard) SteadyHost.secretive.answers 1
    "bip.example" (by decide +kernel) packet rfl sole
  exact ⟨by decide +kernel, last (by decide +kernel) (by decide +kernel) _⟩

end BearerRegistry

end CardChannels
