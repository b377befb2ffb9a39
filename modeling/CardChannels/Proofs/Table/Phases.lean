import CardChannels.Proofs.Table.Steps

/-!
# Phases along a run

In every run a channel is open exactly when its socket task has reported, and an open waits for its
answer as long as the channel is not open. This is what makes the first report of a task, and no
later one, meet an open that waits for it.
-/
namespace CardChannels

variable {config : Config} {past : TableHistory} {t : ChannelTable} {input : TableInput}

/-- A slot that fits the reports that its task has made. -/
structure Slot.FitsHeard (k : UInt8) (heard : List Report) (s : Slot) : Prop where
  sound : s.Sound k
  opened : s.phase = .opened ↔ heard ≠ []

/-- A table that fits the orders and the reports of a history. -/
structure TableHistory.Fits (past : TableHistory) (t : ChannelTable) : Prop where
  slot : ∀ k s, t.slots.get? k = some s → s.FitsHeard k (past.heard k s.channel.generation)
  known : ∀ k s, t.slots.get? k = some s → s.channel.generation ≤ t.generation
  /-- No task of a channel that does not exist yet has been told or has reported anything. -/
  fresh : ∀ k g, t.generation < g → past.told k g = [] ∧ past.heard k g = []

namespace TableHistory

theorem Fits.sound (fits : past.Fits t) : t.Sound :=
  ⟨fun k s hs => (fits.slot k s hs).sound, fits.known⟩

/-- A report that is the first of its task, and no other, meets an open that is under way. -/
theorem Fits.first (fits : past.Fits t) (admitted : past.Admits input) (k : UInt8) (s : Slot)
    (r : Report) (hs : t.slots.get? k = some s)
    (hr : input.heard k s.channel.generation = some r) :
    s.phase ≠ .opened ↔ r = .ready ∨ r = .openFailed := by
  cases input with
  | report channel generation r' =>
    simp only [TableInput.heard, Option.ite_none_right_eq_some, Option.some.injEq] at hr
    obtain ⟨⟨rfl, rfl⟩, rfl⟩ := hr
    have hfirst := CanReport.first admitted
    rw [ne_eq, (fits.slot channel s hs).opened, ne_eq, Decidable.not_not]
    exact hfirst
  | _ => cases hr

theorem Fits.stepped (fits : past.Fits t) (admitted : past.Admits input) :
    t.Stepped input (t.step input) :=
  t.stepped fits.sound input (fits.first admitted)

/-- Nothing is heard of a channel that does not exist yet. -/
theorem Fits.unheard (fits : past.Fits t) (admitted : past.Admits input) {k : UInt8} {g : Nat}
    (hg : t.generation < g) : input.heard k g = none := by
  cases input with
  | report channel generation r =>
    simp only [TableInput.heard, ite_eq_right_iff]
    rintro ⟨rfl, rfl⟩
    have hstarted := CanReport.started admitted
    rw [(fits.fresh _ _ hg).1] at hstarted
    cases hstarted
  | _ => rfl

end TableHistory

/-- A channel that was open and has nothing to do with an open goes on fitting. -/
theorem Slot.FitsHeard.goOn {k : UInt8} {heard : List Report} {s : Slot}
    (fits : s.FitsHeard k heard) {channel : Channel} (continues : s.channel.Continues channel)
    (phase : s.phase = .opened) (pending : Option PendingReply)
    (hp : ∀ reply modified, pending ≠ some (.opening reply modified)) (new : Option Report) :
    Slot.FitsHeard k (new.toList ++ heard) ⟨channel, s.phase, pending⟩ := by
  refine ⟨⟨continues.id.trans fits.sound.id, ?_⟩, ?_⟩
  · simp [phase, hp]
  · simp [phase, fits.opened.mp phase]

/-- A step keeps a slot in line with what was heard of it. -/
theorem SlotStep.fitsHeard {last next : Nat} {k : UInt8} {out : Output} {before : Option Slot}
    {s' : Slot} (h : SlotStep last next k input out before (some s'))
    (hold : ∀ s, before = some s → s.FitsHeard k (past.heard k s.channel.generation))
    (hnew : ∀ g, last < g → past.heard k g = []) :
    s'.FitsHeard k ((input.heard k s'.channel.generation).toList ++
      past.heard k s'.channel.generation) := by
  cases h with
  | created id new known phase pending unheard =>
    refine ⟨⟨id, ⟨fun _ => ⟨_, _, pending⟩, fun _ => phase⟩⟩, ?_⟩
    simp [hnew _ new, unheard, phase]
  | @worked s channel continues minor heard =>
    have fits := hold _ rfl
    dsimp only
    rw [continues.generation]
    by_cases hphase : s.phase = .opened
    · refine fits.goOn continues hphase s.pending ?_ _
      intro reply modified hp
      exact fits.sound.pending.mpr ⟨reply, modified, hp⟩ hphase
    · have hnone : input.heard k s.channel.generation = none :=
        Option.eq_none_iff_forall_ne_some.mpr fun r hr => hphase (heard r hr).1
      rw [hnone]
      exact ⟨⟨continues.id.trans fits.sound.id, fits.sound.pending⟩, fits.opened⟩
  | @started s channel reply modified continues pending unheard =>
    have fits := hold _ rfl
    have hphase := fits.sound.pending.mpr ⟨reply, modified, pending⟩
    dsimp only
    rw [continues.generation, unheard]
    refine ⟨⟨continues.id.trans fits.sound.id, by simp [pending]⟩, ?_⟩
    simpa using mt fits.opened.mpr hphase
  | @completed s channel reply modified continues pending heard answered =>
    have fits := hold _ rfl
    dsimp only
    rw [continues.generation, heard]
    exact ⟨⟨continues.id.trans fits.sound.id, by simp⟩, by simp⟩
  | flushing continues sends phase pending told =>
    dsimp only
    rw [continues.generation]
    exact (hold _ rfl).goOn continues phase _ (by simp) _
  | settled continues phase answered =>
    dsimp only
    rw [continues.generation]
    exact (hold _ rfl).goOn continues phase _ (by simp) _
  | ended ends after =>
    obtain hnone | ⟨phase, channel, continues, hsome⟩ := after
    · cases hnone
    · cases hsome
      dsimp only
      rw [continues.generation]
      exact (hold _ rfl).goOn continues phase _ (by simp) _

/-- A step leads to generations that were given out. -/
theorem SlotStep.known {last next : Nat} {k : UInt8} {out : Output} {before : Option Slot}
    {s' : Slot} (h : SlotStep last next k input out before (some s')) (hle : last ≤ next)
    (hold : ∀ s, before = some s → s.channel.generation ≤ last) :
    s'.channel.generation ≤ next := by
  have kept {s : Slot} {channel : Channel} (continues : s.channel.Continues channel)
      (hs : s.channel.generation ≤ last) : channel.generation ≤ next := by
    rw [continues.generation]
    omega
  cases h with
  | created id new known phase pending unheard => exact known
  | worked continues minor heard => exact kept continues (hold _ rfl)
  | started continues pending unheard => exact kept continues (hold _ rfl)
  | completed continues pending heard answered => exact kept continues (hold _ rfl)
  | flushing continues sends phase pending told => exact kept continues (hold _ rfl)
  | settled continues phase answered => exact kept continues (hold _ rfl)
  | ended ends after =>
    obtain hnone | ⟨phase, channel, continues, hsome⟩ := after
    · cases hnone
    · cases hsome
      exact kept continues (hold _ rfl)

namespace TableHistory

theorem Fits.step (fits : past.Fits t) (admitted : past.Admits input) :
    Fits ((input, (t.step input).2) :: past) (t.step input).1 := by
  have hstep := fits.stepped admitted
  constructor
  · intro k s hs
    rw [heard_cons]
    exact (hs ▸ hstep.slot k).fitsHeard (fits.slot k) fun g hg => (fits.fresh k g hg).2
  · intro k s hs
    exact (hs ▸ hstep.slot k).known hstep.generation (fits.known k)
  · intro k g hg
    have hg' := Nat.lt_of_le_of_lt hstep.generation hg
    obtain ⟨htold, hheard⟩ := fits.fresh k g hg'
    rw [told_cons, heard_cons, hstep.told k g hg, htold, fits.unheard admitted hg', hheard]
    exact ⟨rfl, rfl⟩

end TableHistory

/-- In every run the slots fit the history. -/
theorem TableRun.fits (run : TableRun config past t) : past.Fits t := by
  induction run with
  | start =>
    constructor
    · simp [ChannelTable.ofConfig]
    · simp [ChannelTable.ofConfig]
    · exact fun _ _ _ => ⟨rfl, rfl⟩
  | step run input admitted ih => exact ih.step admitted

end CardChannels
