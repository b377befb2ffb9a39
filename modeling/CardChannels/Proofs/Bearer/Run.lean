import CardChannels.Bearer.Registry

/-!
# Runs of the bearer registry

A registry is asked for bearers, looks again after delays, hears of changes of the connection and
is told when requests are over. A run is any sequence of that from an empty registry on. Its
history keeps every input with the calls to the host that came of it, the newest first.
-/
namespace CardChannels

/-- What a bearer registry has to deal with. -/
inductive BearerInput where
  | request (host : Host) (channel : UInt8) (bearer : BearerDescription)
      (accessPoint : Option String)
  | retry (host : Host) (channel : UInt8)
  | connectionChanged (change : ConnectionChange)
  | release (channel : UInt8)
  | dropUnready
  | releaseAll

namespace BearerRegistry

/-- The registry after an input, and the calls to the host. -/
def step (c : BearerRegistry) : BearerInput → BearerRegistry × List HostCall
  | .request host channel bearer accessPoint =>
    let (c, _, calls) := c.request host channel bearer accessPoint
    (c, calls)
  | .retry host channel =>
    let (c, _, calls) := c.retry host channel
    (c, calls)
  | .connectionChanged change =>
    let (c, _, calls) := c.connectionChanged change
    (c, calls)
  | .release channel => c.release channel
  | .dropUnready =>
    let (c, _, calls) := c.dropUnready
    (c, calls)
  | .releaseAll => c.releaseAll

/-- A bearer is asked for only for a channel without a request. -/
def Admits (c : BearerRegistry) : BearerInput → Prop
  | .request _ channel _ _ => c.requests.get? channel = none
  | _ => True

instance (c : BearerRegistry) : DecidablePred c.Admits
  | .request _ channel _ _ => inferInstanceAs (Decidable (c.requests.get? channel = none))
  | .retry .. | .connectionChanged _ | .release _ | .dropUnready | .releaseAll => .isTrue trivial

end BearerRegistry

/-- The inputs of a run with the calls that came of each, the newest first. -/
abbrev BearerHistory := List (BearerInput × List HostCall)

namespace BearerHistory

/-- The calls of a run, in the order in which they were made. -/
def calls : BearerHistory → List HostCall
  | [] => []
  | (_, made) :: past => calls past ++ made

end BearerHistory

/-- A registry that a run leads to, by the history of the run. -/
inductive BearerRun (config : Config) : BearerHistory → BearerRegistry → Prop
  | start : BearerRun config [] (.ofConfig config)
  | step {past : BearerHistory} {c : BearerRegistry} (run : BearerRun config past c)
      (input : BearerInput) (admitted : c.Admits input) :
      BearerRun config ((input, (c.step input).2) :: past) (c.step input).1

theorem BearerRequest.isEnabled_iff (r : BearerRequest) :
    r.isEnabled = true ↔ r.state = .waiting ∨ r.state = .active := by
  cases h : r.state <;> simp [isEnabled, h]

namespace BearerRegistry

variable {c : BearerRegistry} {type : AccessType} {k : UInt8} {r : BearerRequest}

theorem uses_iff :
    c.uses type = true ↔ ∃ k r, c.requests.get? k = some r ∧ r.type = type := by
  simp [uses, ChannelMap.any_eq_true_iff]

/-- Whether some request has had a type brought up. -/
def holdsUp (c : BearerRegistry) (type : AccessType) : Bool :=
  c.requests.any fun _ r => r.type = type ∧ r.isEnabled

theorem holdsUp_iff :
    c.holdsUp type = true ↔
      ∃ k r, c.requests.get? k = some r ∧ r.type = type ∧ r.isEnabled = true := by
  simp [holdsUp, ChannelMap.any_eq_true_iff]

theorem uses_of_holdsUp (h : c.holdsUp type = true) : c.uses type = true := by
  obtain ⟨k, r, hr, ht, -⟩ := holdsUp_iff.mp h
  exact uses_iff.mpr ⟨k, r, hr, ht⟩

@[simp] theorem get?_forget (c : BearerRegistry) (k j : UInt8) :
    (c.forget k).requests.get? j = if j = k then none else c.requests.get? j := by
  simp [forget]

@[simp] theorem get?_put (c : BearerRegistry) (k j : UInt8) (r : BearerRequest) :
    (c.put k r).requests.get? j = if j = k then some r else c.requests.get? j := by
  simp [put]

theorem holdsUp_of_forget (h : (c.forget k).holdsUp type = true) : c.holdsUp type = true := by
  obtain ⟨j, r, hr, hf⟩ := holdsUp_iff.mp h
  rw [get?_forget] at hr
  split at hr
  · cases hr
  · exact holdsUp_iff.mpr ⟨j, r, hr, hf⟩

/-- Whoever else holds a type up goes on with it when a channel's request is forgotten. -/
theorem holdsUp_forget (h : c.holdsUp type = true)
    (hk : ∀ r, c.requests.get? k = some r → r.type = type → r.isEnabled = false) :
    (c.forget k).holdsUp type = true := by
  obtain ⟨j, r, hr, ht, he⟩ := holdsUp_iff.mp h
  have hj : j ≠ k := by
    rintro rfl
    rw [hk r hr ht] at he
    cases he
  exact holdsUp_iff.mpr ⟨j, r, by simpa [hj] using hr, ht, he⟩

/-- A request put for a channel changes who holds a type up only by itself. -/
theorem holdsUp_put (hk : ∀ r, c.requests.get? k = some r → r.type = type → r.isEnabled = false) :
    (c.put k r).holdsUp type = true ↔
      c.holdsUp type = true ∨ r.type = type ∧ r.isEnabled = true := by
  constructor
  · intro h
    obtain ⟨j, q, hq, hf⟩ := holdsUp_iff.mp h
    rw [get?_put] at hq
    split at hq
    · cases hq
      exact .inr hf
    · exact .inl (holdsUp_iff.mpr ⟨j, q, hq, hf⟩)
  · rintro (h | h)
    · obtain ⟨j, q, hq, ht, he⟩ := holdsUp_iff.mp h
      have hj : j ≠ k := by
        rintro rfl
        rw [hk q hq ht] at he
        cases he
      exact holdsUp_iff.mpr ⟨j, q, by simpa [hj] using hq, ht, he⟩
    · exact holdsUp_iff.mpr ⟨k, r, by simp, h⟩

end BearerRegistry

end CardChannels
