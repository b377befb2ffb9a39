import CardChannels.Proofs.Bearer.Account
import CardChannels.Session.Host

/-!
# Giving an access point type back

Once no request is for a type any more, the host is to have been told to give it up since it was
last made to bring it up. The main statement says exactly when it was. A request that is the last
to hold a type up strands it by ending while others for the type still look for their access
point: those never give the type up when they go in their turn, and only bringing the type up
again mends that.
-/
namespace CardChannels

open BearerRegistry HostCall

variable {config : Config} {past : BearerHistory} {c c' : BearerRegistry} {type : AccessType}

/-- Whether in a run some request stranded a type when it ended, and no call has had the type
brought up since. -/
def Stranded (config : Config) (type : AccessType) (past : BearerHistory) : Prop :=
  ∃ later input made earlier c, past = later ++ (input, made) :: earlier ∧
    BearerRun config earlier c ∧ (∃ x ∈ c.endings input, x.1.strands type x.2 = true) ∧
    ∀ event ∈ later, ∀ call ∈ event.2, call.bringsUp type = false

/-- The history of a run says which registry it leads to. -/
theorem BearerRun.unique (run : BearerRun config past c) (run' : BearerRun config past c') :
    c = c' := by
  induction run generalizing c' with
  | start => cases run'; rfl
  | step run input admitted ih =>
    generalize hpast : (input, _) :: _ = past' at run'
    cases run' with
    | start => cases hpast
    | step run' input' _ =>
      simp only [List.cons.injEq, Prod.mk.injEq] at hpast
      obtain ⟨⟨rfl, -⟩, rfl⟩ := hpast
      rw [ih run']

theorem stranded_cons_iff {input : BearerInput} {made : List HostCall}
    (run : BearerRun config past c) :
    Stranded config type ((input, made) :: past) ↔
      (∃ x ∈ c.endings input, x.1.strands type x.2 = true) ∨
        (∀ call ∈ made, call.bringsUp type = false) ∧ Stranded config type past := by
  constructor
  · rintro ⟨later, input', made', earlier, c', heq, run', hx, hlater⟩
    cases later with
    | nil =>
      cases heq
      rw [run.unique run']
      exact .inl hx
    | cons event later =>
      obtain ⟨rfl, rfl⟩ := List.cons.inj heq
      have hall := List.forall_mem_cons.mp hlater
      exact .inr ⟨hall.1, later, input', made', earlier, c', rfl, run', hx, hall.2⟩
  · rintro (hx | ⟨hmade, later, input', made', earlier, c', rfl, run', hx, hlater⟩)
    · exact ⟨[], input, made, past, c, rfl, run, hx, by simp⟩
    · exact ⟨(input, made) :: later, input', made', earlier, c', rfl, run', hx,
        List.forall_mem_cons.mpr ⟨hmade, hlater⟩⟩

/-- In every run a type that is held up was brought up, and it is up with nobody to hold it up
exactly when it is stranded. -/
theorem BearerRun.idle_iff (run : BearerRun config past c) (hd : type ≠ .default) :
    (c.holdsUp type = true → givenBack type past.calls = false) ∧
      (Idle type c past.calls ↔ Stranded config type past) := by
  induction run with
  | start =>
    constructor
    · intro h
      obtain ⟨k, r, hr, -⟩ := holdsUp_iff.mp h
      simp [ofConfig] at hr
    · simp [Idle, Stranded, BearerHistory.calls, givenBack]
  | step run input admitted ih =>
    have account := accounted_step hd admitted ih.1
    refine ⟨account.up, ?_⟩
    rw [BearerHistory.calls, account.idle, stranded_cons_iff run, ih.2]
    constructor
    · rintro ⟨hmade, h | h⟩
      · exact .inr ⟨hmade, h⟩
      · exact .inl h
    · rintro (⟨x, hx, h⟩ | ⟨hmade, h⟩)
      · exact ⟨bringsUp_step hx, .inr ⟨x, hx, h⟩⟩
      · exact ⟨hmade, .inl h⟩

/-- When no request is for a type any more, the host has been told to give it up since it was last
brought up, unless the type is stranded. -/
theorem givenBack_iff_not_stranded (run : BearerRun config past c) (hd : type ≠ .default)
    (hu : c.uses type = false) :
    givenBack type past.calls = true ↔ ¬ Stranded config type past := by
  have hh : c.holdsUp type = false := by
    rw [← Bool.not_eq_true]
    intro h
    rw [uses_of_holdsUp h] at hu
    cases hu
  rw [← (run.idle_iff hd).2, Idle, hh]
  simp

/-- A packet bearer, for which an access point can be named. -/
def packetBearer : BearerDescription := ⟨BearerType.gprs.code, []⟩

/-- Two channels that are both up give the type back when all requests end. -/
theorem not_stranded_of_both_up :
    ∃ past c, BearerRun .standard past c ∧ "bip" ≠ AccessType.default ∧ c.uses "bip" = false ∧
      .disable "bip" ∈ past.calls ∧ ¬ Stranded .standard "bip" past := by
  let host := SteadyHost.connected.answers
  have run := (BearerRun.start : BearerRun .standard _ _)
    |>.step (.request host 1 packetBearer (some "bip.example")) (by decide +kernel)
    |>.step (.request host 2 packetBearer (some "bip.example")) (by decide +kernel)
    |>.step .releaseAll trivial
  exact ⟨_, _, run, by decide, by decide +kernel, by decide +kernel,
    (givenBack_iff_not_stranded run (by decide) (by decide +kernel)).mp (by decide +kernel)⟩

/-- A channel that is up and one that still looks for its access point leave the type up when all
requests end. -/
theorem releaseAll_leaves_type_up :
    ∃ past c, BearerRun .standard past c ∧ "bip" ≠ AccessType.default ∧ c.uses "bip" = false ∧
      past.calls = [.insert ⟨"bip.example", ["bip"]⟩, .enable "bip" .alreadyActive,
        .enable "bip" .typeNotAvailable] ∧
      givenBack "bip" past.calls = false := by
  let host := SteadyHost.connected
  let later := { host with enable := .typeNotAvailable, points := [⟨"bip.example", ["bip"]⟩] }
  have run := (BearerRun.start : BearerRun .standard _ _)
    |>.step (.request host.answers 1 packetBearer (some "bip.example")) (by decide +kernel)
    |>.step (.request later.answers 2 packetBearer (some "bip.example")) (by decide +kernel)
    |>.step .releaseAll trivial
  exact ⟨_, _, run, by decide, by decide +kernel, by decide +kernel, by decide +kernel⟩

end CardChannels
