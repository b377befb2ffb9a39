import CardChannels.Proofs.Bearer.Run
import Mathlib.Tactic.Common

/-!
# The account of an access point type

A type that the host was made to bring up is to be given up once no request is for it any more.
A registry does that when a request that had the type brought up ends and no other request is for
the type, in whatever stage. The lemmas here follow one type through every input: whether it is up
with nobody to hold it up afterwards is known from whether it was so before and from which
requests ended.
-/
namespace CardChannels

/-- Whether a type is up or coming up by an answer. -/
def EnableAnswer.succeeded : EnableAnswer → Bool
  | .alreadyActive | .requestStarted => true
  | .typeNotAvailable | .requestFailed => false

namespace HostCall

/-- Whether a call had a type brought up. -/
def bringsUp (type : AccessType) : HostCall → Bool
  | .enable t answer => decide (t = type) && answer.succeeded
  | _ => false

/-- Whether every call that had a type brought up was followed by one that gave it up. -/
def givenBack (type : AccessType) : List HostCall → Bool
  | [] => true
  | call :: later =>
    (!call.bringsUp type || decide (.disable type ∈ later)) && givenBack type later

/-- Whether a call leaves every type as it is. -/
def isQuiet : HostCall → Bool
  | .enable _ answer => !answer.succeeded
  | .disable _ => false
  | .insert _ => true

variable {type : AccessType} {call : HostCall}

theorem givenBack_of_none {calls : List HostCall}
    (h : ∀ call ∈ calls, call.bringsUp type = false) : givenBack type calls = true := by
  induction calls with
  | nil => rfl
  | cons call later ih =>
    have hc := List.forall_mem_cons.mp h
    simp [givenBack, hc.1, ih hc.2]

/-- Calls that bring nothing up give a type back by giving it up. -/
theorem givenBack_append (calls : List HostCall) {more : List HostCall}
    (h : ∀ call ∈ more, call.bringsUp type = false) :
    givenBack type (calls ++ more) = true ↔
      givenBack type calls = true ∨ .disable type ∈ more := by
  induction calls with
  | nil => simp [givenBack, givenBack_of_none h]
  | cons call later ih =>
    simp only [List.cons_append, givenBack, Bool.and_eq_true, Bool.or_eq_true, Bool.not_eq_true',
      decide_eq_true_eq, List.mem_append, ih]
    tauto

theorem bringsUp_of_isQuiet (h : call.isQuiet = true) : call.bringsUp type = false := by
  cases call <;> simp_all [isQuiet, bringsUp]

theorem givenBack_append_bringsUp (calls : List HostCall) (h : call.bringsUp type = true) :
    givenBack type (calls ++ [call]) = false := by
  induction calls with
  | nil => simp [givenBack, h]
  | cons call later ih => simp [givenBack, ih]

end HostCall

namespace BearerRegistry

open HostCall

variable {c c' : BearerRegistry} {type : AccessType} {k : UInt8} {r : BearerRequest}
  {calls made : List HostCall}

/-- Whether the end of a channel's request strands a type: nobody holds the type up any more, and
requests for it are left. -/
def strands (c : BearerRegistry) (type : AccessType) (k : UInt8) : Bool :=
  c.holdsUp type && !(c.forget k).holdsUp type && (c.forget k).uses type

/-- The ends of several requests, in order: each channel with the registry at its turn. -/
def endingsOf (c : BearerRegistry) : List UInt8 → List (BearerRegistry × UInt8)
  | [] => []
  | k :: ks => (c, k) :: (c.release k).1.endingsOf ks

/-- The requests that an input ends on purpose, in order. -/
def endings (c : BearerRegistry) : BearerInput → List (BearerRegistry × UInt8)
  | .request .. | .retry .. => []
  | .connectionChanged change => (c.activate change).endingsOf (c.gone change)
  | .release channel => c.endingsOf [channel]
  | .dropUnready => c.endingsOf c.unready
  | .releaseAll => c.endingsOf c.requests.keys

/-- Whether a type is up with nobody to hold it up. -/
def Idle (type : AccessType) (c : BearerRegistry) (calls : List HostCall) : Prop :=
  givenBack type calls = false ∧ c.holdsUp type = false

/-- How the account of a type goes on over some calls. -/
structure Accounted (type : AccessType) (c : BearerRegistry) (calls : List HostCall)
    (c' : BearerRegistry) (made : List HostCall) (stranded : Prop) : Prop where
  /-- A type that is held up was brought up. -/
  up : c'.holdsUp type = true → givenBack type (calls ++ made) = false
  idle : Idle type c' (calls ++ made) ↔
    (∀ call ∈ made, call.bringsUp type = false) ∧ (Idle type c calls ∨ stranded)

theorem release_fst (c : BearerRegistry) (k : UInt8) : (c.release k).1 = c.forget k := by
  unfold release
  split
  · rename_i h
    rw [forget, ChannelMap.erase_of_none h]
  · dsimp only
    split <;> rfl

theorem get?_release (c : BearerRegistry) (k j : UInt8) :
    (c.release k).1.requests.get? j = if j = k then none else c.requests.get? j := by
  rw [release_fst, get?_forget]

theorem get?_releaseEach (ks : List UInt8) (c : BearerRegistry) (j : UInt8) :
    (c.releaseEach ks).1.requests.get? j = if j ∈ ks then none else c.requests.get? j := by
  induction ks generalizing c with
  | nil => rfl
  | cons k ks ih =>
    simp only [releaseEach, ih, get?_release, List.mem_cons]
    by_cases hj : j ∈ ks
    · simp [hj]
    · simp [hj]

theorem mem_release_iff {call : HostCall} :
    call ∈ (c.release k).2 ↔ ∃ r, c.requests.get? k = some r ∧ r.isEnabled = true ∧
      (c.forget k).uses r.type = false ∧ r.type ≠ .default ∧ call = .disable r.type := by
  unfold release
  split
  · rename_i h
    simp [h]
  · rename_i r h
    dsimp only
    split
    · simp_all
    · rename_i hd
      simp only [List.not_mem_nil, h, Option.some.injEq, false_iff]
      rintro ⟨q, rfl, he, hu, ht, -⟩
      exact hd (by simp [he, hu, ht])

theorem bringsUp_release {call : HostCall} (h : call ∈ (c.release k).2) :
    call.bringsUp type = false := by
  obtain ⟨r, -, -, -, -, rfl⟩ := mem_release_iff.mp h
  rfl

/-- Who ends a request gives its type up exactly as the last to hold it up and the last for it. -/
theorem disable_mem_release_iff (hd : type ≠ .default) :
    .disable type ∈ (c.release k).2 ↔ c.holdsUp type = true ∧ (c.forget k).uses type = false := by
  rw [mem_release_iff]
  constructor
  · rintro ⟨r, hr, he, hu, -, h⟩
    cases h
    exact ⟨holdsUp_iff.mpr ⟨k, r, hr, rfl, he⟩, hu⟩
  · rintro ⟨hh, hu⟩
    obtain ⟨j, r, hr, rfl, he⟩ := holdsUp_iff.mp hh
    have hj : j = k := by
      by_contra hj
      have : (c.forget k).uses r.type = true := uses_iff.mpr ⟨j, r, by simpa [hj] using hr, rfl⟩
      rw [hu] at this
      cases this
    subst hj
    exact ⟨r, hr, he, hu, hd, rfl⟩

/-- One request that ends strands its type or leaves its account as it was. -/
theorem accounted_release (hd : type ≠ .default)
    (hup : c.holdsUp type = true → givenBack type calls = false) (k : UInt8) :
    Accounted type c calls (c.release k).1 (c.release k).2 (c.strands type k = true) := by
  have hquiet : ∀ call ∈ (c.release k).2, call.bringsUp type = false := fun _ => bringsUp_release
  have hforget : (c.forget k).holdsUp type = true → c.holdsUp type = true := holdsUp_of_forget
  have huses : (c.forget k).holdsUp type = true → (c.forget k).uses type = true := uses_of_holdsUp
  have happend := givenBack_append calls hquiet
  rw [disable_mem_release_iff hd] at happend
  constructor
  · intro h
    rw [release_fst] at h
    rw [← Bool.not_eq_true, happend, hup (hforget h), huses h]
    simp
  · rw [Idle, release_fst, ← Bool.not_eq_true (givenBack _ _), happend, Idle, strands]
    cases hc : c.holdsUp type <;> cases hf : (c.forget k).holdsUp type <;>
      cases hu : (c.forget k).uses type <;> simp_all

/-- The account goes on over what follows. -/
theorem Accounted.append {c₁ c₂ : BearerRegistry} {first second : List HostCall} {p q : Prop}
    (h : Accounted type c calls c₁ first p) (h' : Accounted type c₁ (calls ++ first) c₂ second q)
    (hfirst : ∀ call ∈ first, call.bringsUp type = false) :
    Accounted type c calls c₂ (first ++ second) (p ∨ q) := by
  constructor
  · rw [← List.append_assoc]
    exact h'.up
  · rw [← List.append_assoc, h'.idle, h.idle, List.forall_mem_append]
    tauto

/-- Nothing changes for a type that no call is about and that is held up as before. -/
theorem accounted_of_quiet (hold : c'.holdsUp type = c.holdsUp type)
    (hmade : ∀ call ∈ made, call.bringsUp type = false) (hdisable : .disable type ∉ made)
    (hup : c.holdsUp type = true → givenBack type calls = false) :
    Accounted type c calls c' made False := by
  have happend := givenBack_append calls hmade
  rw [or_iff_left hdisable, ← Bool.eq_iff_iff] at happend
  constructor
  · rwa [hold, happend]
  · rw [Idle, Idle, hold, happend]
    simpa using fun _ _ => hmade

theorem bringsUp_releaseEach (ks : List UInt8) (c : BearerRegistry) :
    ∀ call ∈ (c.releaseEach ks).2, call.bringsUp type = false := by
  induction ks generalizing c with
  | nil => simp [releaseEach]
  | cons k ks ih =>
    rw [releaseEach]
    exact List.forall_mem_append.mpr ⟨fun _ => bringsUp_release, ih _⟩

theorem accounted_releaseEach (hd : type ≠ .default) (ks : List UInt8)
    (hup : c.holdsUp type = true → givenBack type calls = false) :
    Accounted type c calls (c.releaseEach ks).1 (c.releaseEach ks).2
      (∃ x ∈ c.endingsOf ks, x.1.strands type x.2 = true) := by
  induction ks generalizing c calls with
  | nil => simpa [releaseEach, endingsOf] using accounted_of_quiet rfl (by simp) (by simp) hup
  | cons k ks ih =>
    have first := accounted_release hd hup k
    have all := first.append (ih first.up) fun _ => bringsUp_release
    simpa only [releaseEach, endingsOf, List.mem_cons, exists_eq_or_imp] using all

/-- A request that becomes active had its type brought up before. -/
theorem holdsUp_activate (c : BearerRegistry) (change : ConnectionChange) (type : AccessType) :
    (c.activate change).holdsUp type = c.holdsUp type := by
  have hr (r : BearerRequest) : changeFor change r = some .ready → r.isEnabled = true := by
    intro h
    unfold changeFor at h
    split at h
    · cases h
    · split at h <;> simp_all [BearerRequest.isEnabled]
  have he (r : BearerRequest) :
      (if changeFor change r = some .ready then { r with state := .active } else r).isEnabled =
        r.isEnabled := by
    split
    · rename_i h
      rw [hr r h]
      rfl
    · rfl
  have ht (r : BearerRequest) :
      (if changeFor change r = some .ready then { r with state := .active } else r).type =
        r.type := by
    split <;> rfl
  rw [Bool.eq_iff_iff, holdsUp_iff, holdsUp_iff]
  simp only [activate, ChannelMap.get?_map, Option.map_eq_some_iff]
  constructor
  · rintro ⟨k, -, ⟨q, hq, rfl⟩, h, h'⟩
    exact ⟨k, q, hq, by rwa [ht] at h, by rwa [he] at h'⟩
  · rintro ⟨k, q, hq, h, h'⟩
    exact ⟨k, _, ⟨q, hq, rfl⟩, by rwa [ht], by rwa [he]⟩

/-- What a look at a channel's access point comes to: its type is brought up and the request holds
it up from now on, or the request goes on looking or is forgotten. -/
inductive Looked (c : BearerRegistry) (k : UInt8) (r : BearerRequest) :
    BearerRegistry → List HostCall → Prop
  | broughtUp {stage : BearerStage} {answer : EnableAnswer} {calls : List HostCall}
      (held : ({ r with state := stage } : BearerRequest).isEnabled = true)
      (succeeded : answer.succeeded = true) (quiet : ∀ call ∈ calls, call.isQuiet = true) :
      Looked c k r (c.put k { r with state := stage }) (calls ++ [.enable r.type answer])
  | goesOn {n : Nat} {calls : List HostCall} (quiet : ∀ call ∈ calls, call.isQuiet = true) :
      Looked c k r (c.put k { r with state := .provisioning n }) calls
  | forgotten {calls : List HostCall} (quiet : ∀ call ∈ calls, call.isQuiet = true) :
      Looked c k r (c.forget k) calls

theorem Looked.append {before : List HostCall} (quiet : ∀ call ∈ before, call.isQuiet = true)
    (h : Looked c k r c' made) : Looked c k r c' (before ++ made) := by
  cases h with
  | broughtUp held succeeded later =>
    rw [← List.append_assoc]
    exact .broughtUp held succeeded (List.forall_mem_append.mpr ⟨quiet, later⟩)
  | goesOn later => exact .goesOn (List.forall_mem_append.mpr ⟨quiet, later⟩)
  | forgotten later => exact .forgotten (List.forall_mem_append.mpr ⟨quiet, later⟩)

/-- A request that has not had its type brought up ends without a call. -/
theorem release_calls_eq_nil (hr : c.requests.get? k = some r) (he : r.isEnabled = false) :
    (c.release k).2 = [] := by
  refine List.eq_nil_iff_forall_not_mem.mpr fun call h => ?_
  obtain ⟨q, hq, hqe, -⟩ := mem_release_iff.mp h
  rw [hr] at hq
  cases hq
  rw [he] at hqe
  cases hqe

theorem lookAgain_calls_eq_nil (hr : c.requests.get? k = some r) (he : r.isEnabled = false) :
    (c.lookAgain k r).2.2 = [] := by
  unfold lookAgain
  dsimp only
  split
  · exact release_calls_eq_nil hr he
  · rfl

theorem looked_lookAgain (hr : c.requests.get? k = some r) (he : r.isEnabled = false) :
    Looked c k r (c.lookAgain k r).1 (c.lookAgain k r).2.2 := by
  rw [lookAgain_calls_eq_nil hr he]
  unfold lookAgain
  dsimp only
  split
  · dsimp only
    rw [release_fst]
    exact .forgotten (by simp)
  · exact .goesOn (by simp)

theorem isQuiet_ensureFor (host : Host) (r : BearerRequest) :
    ∀ call ∈ (ensureFor host r).2, call.isQuiet = true := by
  unfold ensureFor
  split
  · unfold ensure
    split <;> simp [isQuiet]
  · simp

theorem looked_check (host : Host) (hr : c.requests.get? k = some r) (he : r.isEnabled = false) :
    Looked c k r (c.check host k r).1 (c.check host k r).2.2 := by
  have hensure := isQuiet_ensureFor host r
  have hfailed {answer : EnableAnswer} (ha : answer.succeeded = false) :
      ∀ call ∈ (ensureFor host r).2 ++ [.enable r.type answer], call.isQuiet = true :=
    List.forall_mem_append.mpr ⟨hensure, by simp [isQuiet, ha]⟩
  unfold check
  dsimp only
  split
  · exact .forgotten (by simp)
  · split
    · exact .forgotten (by simp)
    · split
      · exact .append hensure (looked_lookAgain hr he)
      · cases ha : host.enable r.type with
        | alreadyActive => exact .broughtUp rfl rfl hensure
        | requestStarted => exact .broughtUp rfl rfl hensure
        | typeNotAvailable => exact .append (hfailed rfl) (looked_lookAgain hr he)
        | requestFailed => exact .forgotten (hfailed rfl)

theorem Looked.accounted (h : Looked c k r c' made) (hr : c.requests.get? k = some r)
    (he : r.isEnabled = false) (hup : c.holdsUp type = true → givenBack type calls = false) :
    Accounted type c calls c' made False := by
  have hk (q : BearerRequest) (hq : c.requests.get? k = some q) (_ : q.type = type) :
      q.isEnabled = false := by
    rw [hr] at hq
    cases hq
    exact he
  have hquiet {calls : List HostCall} (quiet : ∀ call ∈ calls, call.isQuiet = true) :
      (∀ call ∈ calls, call.bringsUp type = false) ∧ .disable type ∉ calls :=
    ⟨fun call h => bringsUp_of_isQuiet (quiet call h), fun h => by cases quiet _ h⟩
  cases h with
  | @broughtUp stage answer before held succeeded quiet =>
    by_cases ht : r.type = type
    · have hc : (HostCall.enable r.type answer).bringsUp type = true := by
        simp [bringsUp, ht, succeeded]
      have hheld : (c.put k { r with state := stage }).holdsUp type = true :=
        (holdsUp_put hk).mpr (.inr ⟨ht, held⟩)
      refine ⟨fun _ => ?_, ?_⟩
      · rw [← List.append_assoc]
        exact givenBack_append_bringsUp _ hc
      · constructor
        · rintro ⟨-, h⟩
          rw [hheld] at h
          cases h
        · rintro ⟨h, -⟩
          have := h _ (List.mem_append_right _ (List.mem_singleton_self _))
          rw [hc] at this
          cases this
    · refine accounted_of_quiet ?_ ?_ ?_ hup
      · rw [Bool.eq_iff_iff, holdsUp_put hk]
        simp [ht]
      · exact List.forall_mem_append.mpr ⟨(hquiet quiet).1, by simp [bringsUp, ht]⟩
      · simpa using (hquiet quiet).2
  | goesOn quiet =>
    refine accounted_of_quiet ?_ (hquiet quiet).1 (hquiet quiet).2 hup
    rw [Bool.eq_iff_iff, holdsUp_put hk]
    simp [BearerRequest.isEnabled]
  | forgotten quiet =>
    refine accounted_of_quiet ?_ (hquiet quiet).1 (hquiet quiet).2 hup
    exact Bool.eq_iff_iff.mpr ⟨holdsUp_of_forget, fun h => holdsUp_forget h hk⟩

theorem accounted_askDefault (hd : type ≠ .default) (host : Host) (k : UInt8)
    (hr : c.requests.get? k = none) (hup : c.holdsUp type = true → givenBack type calls = false) :
    Accounted type c calls (c.askDefault host k).1 (c.askDefault host k).2.2 False := by
  have hput (stage : BearerStage) : (c.put k ⟨.default, none, stage⟩).holdsUp type =
      c.holdsUp type := by
    rw [Bool.eq_iff_iff, holdsUp_put (by simp [hr])]
    simp [hd.symm]
  unfold askDefault
  dsimp only
  cases host.state .default <;>
    exact accounted_of_quiet (by simp [hput]) (by simp [bringsUp, hd.symm]) (by simp) hup

theorem accounted_request (hd : type ≠ .default) (host : Host) (k : UInt8)
    (bearer : BearerDescription) (accessPoint : Option String)
    (hr : c.requests.get? k = none) (hup : c.holdsUp type = true → givenBack type calls = false) :
    Accounted type c calls (c.request host k bearer accessPoint).1
      (c.request host k bearer accessPoint).2.2 False := by
  unfold request
  split
  · rename_i name bearerType _
    dsimp only
    split
    · let r : BearerRequest := ⟨c.channelType, some name, .provisioning 0⟩
      have hput : (c.put k r).holdsUp type = c.holdsUp type := by
        rw [Bool.eq_iff_iff, holdsUp_put (by simp [hr])]
        simp [r, BearerRequest.isEnabled]
      have hk : (c.put k r).requests.get? k = some r := by simp
      have first : Accounted type c calls (c.put k r) [] False :=
        accounted_of_quiet hput (by simp) (by simp) hup
      simpa using first.append ((looked_check host hk rfl).accounted hk rfl first.up) (by simp)
    · exact accounted_askDefault hd host k hr hup
  · exact accounted_askDefault hd host k hr hup

theorem accounted_retry (host : Host) (k : UInt8)
    (hup : c.holdsUp type = true → givenBack type calls = false) :
    Accounted type c calls (c.retry host k).1 (c.retry host k).2.2 False := by
  have hsame : Accounted type c calls c [] False := accounted_of_quiet rfl (by simp) (by simp) hup
  unfold retry
  split
  · exact hsame
  · rename_i r hr
    split
    · exact hsame
    · rename_i he
      exact (looked_check host hr (by simpa using he)).accounted hr (by simpa using he) hup

/-- Every input keeps the account of a type that is not the default. -/
theorem accounted_step (hd : type ≠ .default) {input : BearerInput} (admitted : c.Admits input)
    (hup : c.holdsUp type = true → givenBack type calls = false) :
    Accounted type c calls (c.step input).1 (c.step input).2
      (∃ x ∈ c.endings input, x.1.strands type x.2 = true) := by
  cases input with
  | request host channel bearer accessPoint =>
    simpa [step, endings] using accounted_request hd host channel bearer accessPoint admitted hup
  | retry host channel => simpa [step, endings] using accounted_retry host channel hup
  | connectionChanged change =>
    have first : Accounted type c calls (c.activate change) [] False :=
      accounted_of_quiet (holdsUp_activate c change type) (by simp) (by simp) hup
    simpa [step, connectionChanged, endings] using
      first.append (accounted_releaseEach hd (c.gone change) first.up) (by simp)
  | release channel =>
    simpa [step, endings, endingsOf] using accounted_release hd hup channel
  | dropUnready => exact accounted_releaseEach hd _ hup
  | releaseAll => exact accounted_releaseEach hd _ hup

/-- An input that ends requests on purpose brings nothing up. -/
theorem bringsUp_step {input : BearerInput} {x : BearerRegistry × UInt8}
    (h : x ∈ c.endings input) : ∀ call ∈ (c.step input).2, call.bringsUp type = false := by
  cases input with
  | request | retry => simp [endings] at h
  | connectionChanged change => exact bringsUp_releaseEach _ _
  | release channel => exact fun _ => bringsUp_release
  | dropUnready | releaseAll => exact bringsUp_releaseEach _ _

end BearerRegistry

end CardChannels
