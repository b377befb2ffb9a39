import CardChannels.Proofs.Bearer.GivenBack

/-!
# When a type is given up

The host is told to give a type up when a request for it ends. The main statement says of every
such call of a run which request that was: one that had the type brought up, with no other request
for the type left at that moment, in whatever stage. The default type is never given up, and no
input gives a type up twice, however many requests it ends. Nothing is assumed of the run; a
channel may even ask while it has a request.
-/
namespace CardChannels

open HostCall

/-- The history and the registry that inputs lead to, the newest input first. -/
def replayBearers (config : Config) : List BearerInput → BearerHistory × BearerRegistry
  | [] => ([], .ofConfig config)
  | input :: earlier =>
    let (past, c) := replayBearers config earlier
    ((input, (c.step input).2) :: past, (c.step input).1)

namespace BearerRegistry

variable {c : BearerRegistry} {type : AccessType} {k : UInt8} {call : HostCall}
  {before later : List HostCall}

/-- Whether the end of a channel's request is the end of a type: the request had the type brought
up, which is not the default, and it is the only one for the type. -/
structure EndsType (c : BearerRegistry) (k : UInt8) (type : AccessType) : Prop where
  notDefault : type ≠ .default
  enabled : ∃ r, c.requests.get? k = some r ∧ r.type = type ∧
    (r.state = .waiting ∨ r.state = .active)
  last : ∀ j ≠ k, ∀ r, c.requests.get? j = some r → r.type ≠ type

/-- The calls that come of ending requests, in order. -/
def endingCalls (endings : List (BearerRegistry × UInt8)) : List HostCall :=
  endings.flatMap fun (c, k) => (c.release k).2

theorem uses_eq_false_iff :
    c.uses type = false ↔ ∀ j r, c.requests.get? j = some r → r.type ≠ type := by
  rw [← Bool.not_eq_true, uses_iff]
  exact ⟨fun h j r hr ht => h ⟨j, r, hr, ht⟩, fun h ⟨j, r, hr, ht⟩ => h j r hr ht⟩

theorem uses_forget_eq_false_iff :
    (c.forget k).uses type = false ↔
      ∀ j ≠ k, ∀ r, c.requests.get? j = some r → r.type ≠ type := by
  rw [uses_eq_false_iff]
  constructor
  · intro h j hj r hr
    exact h j r (by rw [get?_forget, if_neg hj, hr])
  · intro h j r hr
    rw [get?_forget] at hr
    split at hr
    · cases hr
    · exact h j ‹_› r hr

/-! One request that ends -/

/-- The end of a request makes a call just when it is the end of a type. -/
theorem mem_release_iff_endsType :
    call ∈ (c.release k).2 ↔ ∃ type, call = .disable type ∧ c.EndsType k type := by
  rw [mem_release_iff]
  constructor
  · rintro ⟨r, hr, he, hu, hd, rfl⟩
    exact ⟨r.type, rfl, hd, ⟨r, hr, rfl, r.isEnabled_iff.mp he⟩, uses_forget_eq_false_iff.mp hu⟩
  · rintro ⟨type, rfl, hd, ⟨r, hr, rfl, he⟩, hlast⟩
    exact ⟨r, hr, r.isEnabled_iff.mpr he, uses_forget_eq_false_iff.mpr hlast, hd, rfl⟩

theorem length_release_le (c : BearerRegistry) (k : UInt8) : (c.release k).2.length ≤ 1 := by
  unfold release
  split
  · exact Nat.zero_le 1
  · dsimp only
    split
    · exact Nat.le_refl 1
    · exact Nat.zero_le 1

/-! Several requests that end in order -/

/-- A call among those of two stretches is one of the first stretch, or comes behind it. -/
theorem append_eq_append_call {first second : List HostCall}
    (h : first ++ second = before ++ call :: later) :
    (∃ between, first = before ++ call :: between) ∨
      ∃ between, before = first ++ between ∧ second = between ++ call :: later := by
  rcases List.append_eq_append_iff.mp h with ⟨between, hbefore, hsecond⟩ |
    ⟨between, hfirst, hlater⟩
  · exact .inr ⟨between, hbefore, hsecond⟩
  · cases between with
    | nil => exact .inr ⟨[], by simpa using hfirst.symm, hlater.symm⟩
    | cons call' between =>
      obtain ⟨rfl, -⟩ := List.cons.inj hlater
      exact .inl ⟨between, hfirst⟩

theorem releaseEach_calls (ks : List UInt8) (c : BearerRegistry) :
    (c.releaseEach ks).2 = endingCalls (c.endingsOf ks) := by
  induction ks generalizing c with
  | nil => rfl
  | cons k ks ih => simp only [releaseEach, endingsOf, endingCalls, List.flatMap_cons, ih]

/-- Every call that comes of ending requests comes of one of them, behind the calls of those that
ended before. -/
theorem endingCalls_eq_append {endings : List (BearerRegistry × UInt8)}
    (h : endingCalls endings = before ++ call :: later) :
    ∃ removed c k rest, endings = removed ++ (c, k) :: rest ∧ before = endingCalls removed ∧
      call ∈ (c.release k).2 := by
  induction endings generalizing before with
  | nil => simp [endingCalls] at h
  | cons x rest ih =>
    obtain ⟨c, k⟩ := x
    have hcons (endings : List (BearerRegistry × UInt8)) :
        endingCalls ((c, k) :: endings) = (c.release k).2 ++ endingCalls endings := rfl
    rw [hcons] at h
    rcases append_eq_append_call h with ⟨between, hcall⟩ | ⟨between, rfl, hrest⟩
    · -- A request that ends makes one call at most, so that none is before this one.
      have hlength := length_release_le c k
      rw [hcall, List.length_append, List.length_cons] at hlength
      obtain rfl : before = [] := List.eq_nil_of_length_eq_zero (by omega)
      exact ⟨[], c, k, rest, rfl, rfl, by simp [hcall]⟩
    · obtain ⟨removed, c', k', rest', rfl, rfl, hcall⟩ := ih hrest
      exact ⟨(c, k) :: removed, c', k', rest', rfl, (hcons removed).symm, hcall⟩

/-- A type that no request is for is not given up. -/
theorem disable_notMem_releaseEach (ks : List UInt8) (unused : c.uses type = false) :
    .disable type ∉ (c.releaseEach ks).2 := by
  induction ks generalizing c with
  | nil => exact List.not_mem_nil
  | cons k ks ih =>
    have hrest : (c.forget k).uses type = false :=
      uses_forget_eq_false_iff.mpr fun j _ => uses_eq_false_iff.mp unused j
    rw [releaseEach, List.mem_append, not_or]
    refine ⟨fun hcall => ?_, ih (release_fst c k ▸ hrest)⟩
    obtain ⟨type', heq, hends⟩ := mem_release_iff_endsType.mp hcall
    cases heq
    obtain ⟨r, hr, ht, -⟩ := hends.enabled
    exact uses_eq_false_iff.mp unused k r hr ht

/-- The request whose end is the end of a type is the last for it, so there is no second one. -/
theorem count_disable_releaseEach_le (type : AccessType) (ks : List UInt8) (c : BearerRegistry) :
    (c.releaseEach ks).2.count (.disable type) ≤ 1 := by
  induction ks generalizing c with
  | nil => exact Nat.zero_le 1
  | cons k ks ih =>
    rw [releaseEach, List.count_append]
    by_cases hcall : .disable type ∈ (c.release k).2
    · obtain ⟨type', heq, hends⟩ := mem_release_iff_endsType.mp hcall
      cases heq
      have hrest : (c.release k).1.uses type = false := by
        rw [release_fst, uses_forget_eq_false_iff]
        exact hends.last
      rw [List.count_eq_zero_of_not_mem (disable_notMem_releaseEach ks hrest)]
      exact Nat.le_trans List.count_le_length (length_release_le c k)
    · rw [List.count_eq_zero_of_not_mem hcall, Nat.zero_add]
      exact ih _

/-! Steps -/

theorem Looked.disable_notMem {r : BearerRequest} {c' : BearerRegistry} {made : List HostCall}
    (h : Looked c k r c' made) : .disable type ∉ made := by
  have hquiet {calls : List HostCall} (quiet : ∀ call ∈ calls, call.isQuiet = true) :
      .disable type ∉ calls := fun hcall => by cases quiet _ hcall
  cases h with
  | broughtUp held succeeded quiet => simpa using hquiet quiet
  | goesOn quiet => exact hquiet quiet
  | forgotten quiet => exact hquiet quiet

theorem disable_notMem_request (host : Host) (bearer : BearerDescription)
    (accessPoint : Option String) :
    .disable type ∉ (c.request host k bearer accessPoint).2.2 := by
  have default : .disable type ∉ (c.askDefault host k).2.2 := by
    unfold askDefault
    dsimp only
    split <;> simp
  unfold request
  split
  · dsimp only
    split
    · exact (looked_check host ((get?_put ..).trans (if_pos rfl)) rfl).disable_notMem
    · exact default
  · exact default

theorem disable_notMem_retry (host : Host) : .disable type ∉ (c.retry host k).2.2 := by
  unfold retry
  split
  · exact List.not_mem_nil
  · rename_i r hr
    split
    · exact List.not_mem_nil
    · rename_i he
      exact (looked_check host hr (by simpa using he)).disable_notMem

/-- A step that gives types up is one that ends requests on purpose, and makes no other calls. -/
theorem step_calls_of_disable {input : BearerInput} (h : .disable type ∈ (c.step input).2) :
    (c.step input).2 = endingCalls (c.endings input) := by
  cases input with
  | request host k bearer accessPoint =>
    exact absurd h (disable_notMem_request host bearer accessPoint)
  | retry host k => exact absurd h (disable_notMem_retry host)
  | connectionChanged change => exact releaseEach_calls _ _
  | release k => simp [step, endings, endingsOf, endingCalls]
  | dropUnready => exact releaseEach_calls _ _
  | releaseAll => exact releaseEach_calls _ _

theorem count_disable_step_le (type : AccessType) (c : BearerRegistry) (input : BearerInput) :
    (c.step input).2.count (.disable type) ≤ 1 := by
  have none {calls : List HostCall} (h : .disable type ∉ calls) :
      calls.count (.disable type) ≤ 1 := by
    rw [List.count_eq_zero_of_not_mem h]
    exact Nat.zero_le 1
  cases input with
  | request host k bearer accessPoint =>
    exact none (disable_notMem_request host bearer accessPoint)
  | retry host k => exact none (disable_notMem_retry host)
  | connectionChanged change => exact count_disable_releaseEach_le ..
  | release k => exact Nat.le_trans List.count_le_length (length_release_le c k)
  | dropUnready => exact count_disable_releaseEach_le ..
  | releaseAll => exact count_disable_releaseEach_le ..

end BearerRegistry

/-! Runs -/

/-- Whether in a run it was the turn of a channel's request to end once some calls had been made,
and what the registry was at that moment. -/
def TurnToEnd (config : Config) (inputs : List BearerInput) (before : List HostCall)
    (c : BearerRegistry) (k : UInt8) : Prop :=
  ∃ newer input older removed rest, inputs = newer ++ input :: older ∧
    (replayBearers config older).2.endings input = removed ++ (c, k) :: rest ∧
    before = (replayBearers config older).1.calls ++ BearerRegistry.endingCalls removed

theorem TurnToEnd.cons {config : Config} {inputs : List BearerInput} {before : List HostCall}
    {c : BearerRegistry} {k : UInt8} (h : TurnToEnd config inputs before c k)
    (input : BearerInput) : TurnToEnd config (input :: inputs) before c k := by
  obtain ⟨newer, input', older, removed, rest, rfl, h⟩ := h
  exact ⟨input :: newer, input', older, removed, rest, rfl, h⟩

/-- In every run a type is given up only at the turn of a request whose end is the end of the type,
and at most once by each input. -/
theorem given_up_with_last_request (config : Config) (inputs : List BearerInput) :
    (∀ before type later,
      (replayBearers config inputs).1.calls = before ++ .disable type :: later →
      ∃ c k, TurnToEnd config inputs before c k ∧ c.EndsType k type) ∧
    ∀ event ∈ (replayBearers config inputs).1, ∀ type, event.2.count (.disable type) ≤ 1 := by
  induction inputs with
  | nil =>
    constructor
    · intro before type later h
      simp [replayBearers, BearerHistory.calls] at h
    · exact fun event hmem => absurd hmem List.not_mem_nil
  | cons input earlier ih =>
    constructor
    · intro before type later h
      have hcalls : (replayBearers config (input :: earlier)).1.calls =
          (replayBearers config earlier).1.calls ++
            ((replayBearers config earlier).2.step input).2 := rfl
      rw [hcalls] at h
      rcases BearerRegistry.append_eq_append_call h with ⟨between, hearlier⟩ | ⟨between, rfl, hmade⟩
      · obtain ⟨c, k, turn, ends⟩ := ih.1 before type between hearlier
        exact ⟨c, k, turn.cons input, ends⟩
      · have hmem : .disable type ∈ ((replayBearers config earlier).2.step input).2 := by
          simp [hmade]
        rw [BearerRegistry.step_calls_of_disable hmem] at hmade
        obtain ⟨removed, c, k, rest, hendings, rfl, hcall⟩ :=
          BearerRegistry.endingCalls_eq_append hmade
        obtain ⟨type', heq, ends⟩ := BearerRegistry.mem_release_iff_endsType.mp hcall
        cases heq
        exact ⟨c, k, ⟨[], input, earlier, removed, rest, rfl, hendings, rfl⟩, ends⟩
    · refine List.forall_mem_cons.mpr ⟨fun type => ?_, ih.2⟩
      exact BearerRegistry.count_disable_step_le type _ input

/-- Two channels are up on one type, and their bearer is lost. -/
def lostWhileBothUp : List BearerInput :=
  let host := { SteadyHost.connected with points := [⟨"bip.example", ["bip"]⟩] }
  [.connectionChanged ⟨"bip", .disconnected, false⟩,
    .request host.answers 2 packetBearer (some "bip.example"),
    .request host.answers 1 packetBearer (some "bip.example")]

/-- Two channels that lose their bearer together give the type up once, at the turn of the one that
is the last for it by then. -/
theorem given_up_once_when_both_lost :
    ∃ before c k, (replayBearers .standard lostWhileBothUp).1.calls =
        before ++ [.disable "bip"] ∧
      .disable "bip" ∉ before ∧ TurnToEnd .standard lostWhileBothUp before c k ∧
      c.EndsType k "bip" := by
  let before : List HostCall := [.enable "bip" .alreadyActive, .enable "bip" .alreadyActive]
  have hcalls : (replayBearers .standard lostWhileBothUp).1.calls =
      before ++ [.disable "bip"] := by decide +kernel
  obtain ⟨c, k, turn, ends⟩ :=
    (given_up_with_last_request .standard lostWhileBothUp).1 before "bip" [] hcalls
  exact ⟨before, c, k, hcalls, by decide, turn, ends⟩

end CardChannels
