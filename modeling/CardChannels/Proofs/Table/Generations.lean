import CardChannels.Proofs.Bearer.GivenBack
import CardChannels.Proofs.Table.ActsOn
import CardChannels.Proofs.Table.Owed

/-!
# Generations of channels

A number is given to one channel after another, and socket tasks and timers may still speak of a
channel when its number has gone to the next. They name its generation too. The main statement says
that no two channels of a run have one generation, and that whatever names a channel that has no
slot any more is ignored, then and for the rest of the run. Nothing is assumed of what socket tasks
report.
-/
namespace CardChannels

namespace ChannelTable

variable {t : ChannelTable} {P Q : UInt8 → Nat → Prop} {last : Nat} {k : UInt8} {g : Nat} {s : Slot}
  {channel : Channel}

/-- Whether the channel of a generation has a number. -/
def Holds (t : ChannelTable) (k : UInt8) (g : Nat) : Prop :=
  ∃ s, t.slots.get? k = some s ∧ s.channel.generation = g

/-- Whether nothing that names a channel has any effect. -/
structure Ignores (t : ChannelTable) (k : UInt8) (g : Nat) : Prop where
  report : ∀ r, t.step (.report k g r) = (t, .none)
  retry : ∀ host, t.step (.bearerRetry host k g) = (t, .none)
  ended : t.step (.taskEnded k g) = (t, .none)

theorem ignores_of_not_holds (h : ¬t.Holds k g) : t.Ignores k g := by
  have stale : ∀ s, t.slots.get? k = some s → s.channel.generation ≠ g :=
    fun s hs hg => h ⟨s, hs, hg⟩
  constructor
  · exact report_stale stale
  · exact bearerRetry_of_not_waiting fun s hs hg => absurd hg (stale s hs)
  · exact congrArg (·, Output.none) (taskEnded_stale stale)

/-- The number and the generation of the channel that an input makes, if it makes one. An open that
is let in makes one even if it fails at once. -/
def made? (t : ChannelTable) : TableInput → Option (UInt8 × Nat)
  | .openChannel _ _ settings =>
    if settings.bufferSize = 0 then none else t.firstFree?.map fun k => (k, t.generation + 1)
  | _ => none

/-- A table that has only such channels, by number and generation, and a newest generation. -/
structure Among (P : UInt8 → Nat → Prop) (last : Nat) (t : ChannelTable) : Prop where
  generation : t.generation = last
  keyed : t.Keyed
  slot : ∀ k s, t.slots.get? k = some s → P k s.channel.generation

/-! What makes no channel -/

namespace Among

theorem mono (h : t.Among P last) (sub : ∀ k g, P k g → Q k g) : t.Among Q last :=
  ⟨h.generation, h.keyed, fun k s hs => sub k _ (h.slot k s hs)⟩

theorem withBearers (h : t.Among P last) (bearers : BearerRegistry) :
    Among P last { t with bearers := bearers } := ⟨h.generation, h.keyed, h.slot⟩

theorem put (h : t.Among P last) (own : P s.channel.id s.channel.generation) :
    (t.put s).Among P last := by
  refine ⟨h.generation, fun j s' hs => ?_, fun j s' hs => ?_⟩
  all_goals
    rw [get?_put] at hs
    split at hs
  · cases hs
    exact Eq.symm ‹_›
  · exact h.keyed j s' hs
  · rename_i hj
    cases hs
    exact hj ▸ own
  · exact h.slot j s' hs

theorem free (h : t.Among P last) (k : UInt8) : (t.free k).1.Among P last := by
  refine ⟨h.generation, fun j s hs => ?_, fun j s hs => ?_⟩
  all_goals
    rw [get?_free] at hs
    split at hs
  · cases hs
  · exact h.keyed j s hs
  · cases hs
  · exact h.slot j s hs

theorem own (h : t.Among P last) (hs : t.slots.get? k = some s) :
    P s.channel.id s.channel.generation := by
  rw [h.keyed k s hs]
  exact h.slot k s hs

/-- A channel goes on. -/
theorem goOn (h : t.Among P last) (own : P s.channel.id s.channel.generation)
    (continues : s.channel.Continues channel) (phase : Phase) (pending : Option PendingReply) :
    (t.put ⟨channel, phase, pending⟩).Among P last :=
  h.put (by rwa [continues.id, continues.generation])

theorem giveUpOpen (h : t.Among P last) (s : Slot) (refusal : Refusal) :
    (t.giveUpOpen s refusal).1.Among P last := by
  rw [giveUpOpen_fst]
  exact h.free _

/-- What is done to one channel alone makes none. -/
theorem actsOn {f : ChannelTable → ChannelTable × Output} (h : t.Among P last)
    (hf : ActsOn k (t.slots.get? k) f) : (f t).1.Among P last := by
  obtain ⟨fate, effects, orders, follows, hf⟩ := hf
  rw [(hf t rfl).1]
  cases fate with
  | left => rwa [settle_left]
  | kept s' =>
    obtain ⟨s, hs, continues⟩ := follows
    rw [← put_eq_settle (continues.id.trans (h.keyed k s hs))]
    exact h.goOn (h.own hs) continues s'.phase s'.pending
  | freed =>
    rw [← free_eq_settle]
    exact h.free k

theorem startSocket (h : t.Among P last) (own : P s.channel.id s.channel.generation) :
    (t.startSocket s).1.Among P last := by
  unfold ChannelTable.startSocket
  dsimp only
  split
  · rename_i hstart
    exact h.goOn own (Channel.start_continues hstart) .opening s.pending
  · exact h.giveUpOpen _ _

theorem afterBearer (h : t.Among P last) (own : P s.channel.id s.channel.generation)
    (outcome : BearerAnswer) : (t.afterBearer s outcome).1.Among P last := by
  cases outcome with
  | ready => exact h.startSocket own
  | pending => exact h
  | retryAfter delay => exact h
  | failed refusal => exact h.giveUpOpen s refusal

theorem bearerRetry (h : t.Among P last) (host : Host) (k : UInt8) (g : Nat) :
    (t.bearerRetry host k g).1.Among P last := by
  unfold ChannelTable.bearerRetry
  split
  · exact h
  · rename_i s hs
    split
    · exact h
    · have looked := h.withBearers (t.bearers.retry host k).1
      dsimp only
      split
      · exact looked
      · exact looked.afterBearer (h.own (of_current? hs).1) _

theorem bearerChange (h : t.Among P last) (k : UInt8) (told : BearerChange) :
    (t.bearerChange k told).1.Among P last := by
  unfold ChannelTable.bearerChange
  split
  · exact h
  · rename_i s hs
    cases told with
    | ready =>
      dsimp only
      split
      · exact h.startSocket (h.own hs)
      · exact h
    | failed refusal =>
      dsimp only
      split
      · exact h.giveUpOpen s refusal
      · exact h
    | lost =>
      dsimp only
      rw [bearerLost_fst]
      exact h.free _

theorem endSession (h : t.Among P last) (own : P s.channel.id s.channel.generation) :
    (t.endSession s).1.Among P last := by
  unfold ChannelTable.endSession
  split
  · exact h.free _
  · have continues := Channel.sessionEnd_continues (c := s.channel)
    rcases hend : s.channel.sessionEnd with ⟨channel, outcome, orders⟩
    rw [hend] at continues
    cases outcome with
    | keep => exact h.goOn own continues s.phase none
    | release => exact h.free _

theorem each {α : Type} {f : ChannelTable → α → ChannelTable × Output} {l : List α}
    (hf : ∀ a ∈ l, ∀ t : ChannelTable, t.Among P last → (f t a).1.Among P last)
    (h : t.Among P last) : (t.each f l).1.Among P last := by
  induction l generalizing t with
  | nil => exact h
  | cons a rest ih =>
    have hcons := List.forall_mem_cons.mp hf
    exact ih hcons.2 (hcons.1 t h)

theorem sessionEnd (h : t.Among P last) : t.sessionEnd.1.Among P last := by
  refine each (fun s hmem t' h' => ?_) (h.withBearers _)
  obtain ⟨k, hs⟩ := ChannelMap.mem_values_iff.mp hmem
  exact h'.endSession (h.own hs)

theorem cardRemoved (h : t.Among P last) : t.cardRemoved.1.Among P last := by
  refine ⟨h.generation, fun k s hs => ?_, fun k s hs => ?_⟩
  all_goals cases hs

end Among

/-! What may make one -/

/-- An open makes a channel of the next generation, or none. -/
theorem Among.openChannel (h : t.Among P last) (host : Host) (reply : Reply)
    (settings : ChannelSettings)
    (new : ∀ x, t.made? (.openChannel host reply settings) = some x → P x.1 x.2) :
    (t.openChannel host reply settings).1.Among P
      ((t.made? (.openChannel host reply settings)).elim last (·.2)) := by
  rw [made?] at new ⊢
  unfold ChannelTable.openChannel
  split
  · exact h
  · rename_i hsize
    rw [if_neg hsize] at new
    split
    · rename_i hfull
      rwa [hfull]
    · rename_i k hfree
      rw [hfree] at new ⊢
      have own : P k (t.generation + 1) := new (k, t.generation + 1) rfl
      have next : Among P (t.generation + 1) { t with generation := t.generation + 1 } :=
        ⟨rfl, h.keyed, h.slot⟩
      have opened := fun s (hs : P s.channel.id s.channel.generation) => next.put (s := s) hs
      dsimp only
      split
      · exact (opened _ own).startSocket own
      · exact ((opened _ own).withBearers _).afterBearer own _

/-- A step has no channels but those from before and the one that it makes. -/
theorem among_step (h : t.Among P last) (input : TableInput)
    (new : ∀ x, t.made? input = some x → P x.1 x.2) :
    (t.step input).1.Among P ((t.made? input).elim last (·.2)) := by
  cases input with
  | openChannel host reply settings => exact h.openChannel host reply settings new
  | closeChannel | sendData | receiveData | report | taskEnded =>
    exact h.actsOn (actsOn_step rfl (h.keyed _))
  | channelStatus reply => exact h
  | bearerRetry host k g => exact h.bearerRetry host k g
  | connectionChanged change =>
    exact .each (fun a _ t' h' => h'.bearerChange a.1 a.2) (h.withBearers _)
  | sessionEnd => exact h.sessionEnd
  | cardRemoved => exact h.cardRemoved

theorem generation_of_made {input : TableInput} {x : UInt8 × Nat} (h : t.made? input = some x) :
    x.2 = t.generation + 1 := by
  unfold made? at h
  split at h
  · split at h
    · cases h
    · obtain ⟨k, -, rfl⟩ := Option.map_eq_some_iff.mp h
      rfl
  · cases h

end ChannelTable

/-! Runs -/

/-- The channels that the inputs of a run make, the newest first. -/
def made (config : Config) : List TableInput → List (UInt8 × Nat)
  | [] => []
  | input :: earlier =>
    ((replay config earlier).2.made? input).toList ++ made config earlier

variable {config : Config} {inputs : List TableInput} {k : UInt8} {g : Nat}

/-- Every channel in use was made in the run. -/
theorem among_replay (config : Config) (inputs : List TableInput) :
    (replay config inputs).2.Among (fun k g => (k, g) ∈ made config inputs)
      (replay config inputs).2.generation := by
  induction inputs with
  | nil => exact ⟨rfl, fun k s hs => (by cases hs), fun k s hs => (by cases hs)⟩
  | cons input earlier ih =>
    have before := ih.mono fun k g h => List.mem_append_right
      ((replay config earlier).2.made? input).toList h
    have step := ChannelTable.among_step before input fun x hx =>
      List.mem_append_left _ (by simp [hx])
    exact ⟨rfl, step.keyed, step.slot⟩

theorem generation_replay_cons (config : Config) (input : TableInput) (earlier : List TableInput) :
    (replay config (input :: earlier)).2.generation =
      ((replay config earlier).2.made? input).elim (replay config earlier).2.generation (·.2) :=
  (ChannelTable.among_step ((among_replay config earlier).mono fun _ _ _ => trivial) input
    fun _ _ => trivial).generation

/-- The channels of a run have generations in the order in which they were made. -/
theorem made_descending (config : Config) (inputs : List TableInput) :
    (∀ x ∈ made config inputs, x.2 ≤ (replay config inputs).2.generation) ∧
      (made config inputs).Pairwise fun newer older => older.2 < newer.2 := by
  induction inputs with
  | nil => exact ⟨by simp [made], .nil⟩
  | cons input earlier ih =>
    rw [generation_replay_cons, made]
    rcases hmade : (replay config earlier).2.made? input with _ | x
    · exact ih
    · have hx := ChannelTable.generation_of_made hmade
      have below : ∀ y ∈ made config earlier, y.2 < x.2 := fun y hy => by
        have hle := ih.1 y hy
        omega
      refine ⟨List.forall_mem_cons.mpr ⟨Nat.le_refl _, fun y hy => ?_⟩, ?_⟩
      · exact Nat.le_of_lt (below y hy)
      · exact List.pairwise_cons.mpr ⟨below, ih.2⟩

/-- A channel that was made and has no slot any more will never have one again. -/
theorem not_holds_later (past : (k, g) ∈ made config inputs)
    (gone : ¬(replay config inputs).2.Holds k g) (later : List TableInput) :
    ¬(replay config (later ++ inputs)).2.Holds k g := by
  have hle := (made_descending config inputs).1 _ past
  suffices h : ∃ last, g ≤ last ∧ (replay config (later ++ inputs)).2.Among
      (fun j n => (j, n) ≠ (k, g)) last by
    obtain ⟨last, -, others⟩ := h
    rintro ⟨s, hs, rfl⟩
    exact others.slot k s hs rfl
  induction later with
  | nil =>
    refine ⟨_, hle, rfl, (among_replay config inputs).keyed, fun j s hs heq => gone ?_⟩
    cases heq
    exact ⟨s, hs, rfl⟩
  | cons input later ih =>
    obtain ⟨last, hlast, others⟩ := ih
    refine ⟨_, ?_, ChannelTable.among_step others input fun x hx heq => ?_⟩
    · rcases hmade : (replay config (later ++ inputs)).2.made? input with _ | x
      · exact hlast
      · have hx := ChannelTable.generation_of_made hmade
        have hlast' := others.generation
        rw [Option.elim_some]
        omega
    · have hx := ChannelTable.generation_of_made hx
      have hlast' := others.generation
      cases heq
      omega

/-- In every run channels get ever newer generations, and what names a channel that does not have
its number, because it has lost it or never had it, is ignored. A channel that has lost its number
is ignored for the rest of the run, whoever gets the number next. -/
theorem stale_channels_ignored (config : Config) (inputs : List TableInput) :
    ((made config inputs).Pairwise fun newer older => older.2 < newer.2) ∧
      (∀ k g, (replay config inputs).2.Holds k g → (k, g) ∈ made config inputs) ∧
      ∀ k g, ¬(replay config inputs).2.Holds k g →
        (replay config inputs).2.Ignores k g ∧
        ((k, g) ∈ made config inputs → ∀ later : List TableInput,
          ¬(replay config (later ++ inputs)).2.Holds k g ∧
            (replay config (later ++ inputs)).2.Ignores k g) := by
  refine ⟨(made_descending config inputs).2, ?_, ?_⟩
  · rintro k g ⟨s, hs, rfl⟩
    exact (among_replay config inputs).slot k s hs
  · intro k g hgone
    refine ⟨ChannelTable.ignores_of_not_holds hgone, fun hmade later => ?_⟩
    have hlater := not_holds_later hmade hgone later
    exact ⟨hlater, ChannelTable.ignores_of_not_holds hlater⟩

/-- The session ends while a channel waits to look for its bearer again. -/
def abandonedOpen : List TableInput :=
  [.sessionEnd,
    .openChannel { SteadyHost.connected with hidesInserts := true }.answers
      (.toCommand 1 .openChannel 0)
      { ChannelSettings.loopback with
        bearer := some packetBearer, accessName := some "bip.example" }]

/-- The next open, which gets the number of the one that was abandoned. -/
def nextOpen : TableInput :=
  .openChannel SteadyHost.connected.answers (.toCommand 2 .openChannel 0) .loopback

/-- The retry of an open that was abandoned, and whatever its task might report, does nothing to the
channel that has its number next. -/
theorem abandonedOpen_ignored :
    (1, 1) ∈ made .standard abandonedOpen ∧ ¬(replay .standard abandonedOpen).2.Holds 1 1 ∧
      (replay .standard (nextOpen :: abandonedOpen)).2.Holds 1 2 ∧
      ¬(replay .standard (nextOpen :: abandonedOpen)).2.Holds 1 1 ∧
      (replay .standard (nextOpen :: abandonedOpen)).2.Ignores 1 1 := by
  have hmade : (1, 1) ∈ made .standard abandonedOpen := by decide +kernel
  have hgone : ¬(replay .standard abandonedOpen).2.Holds 1 1 := by
    rintro ⟨s, hs, -⟩
    cases hs
  have hnext : ((replay .standard (nextOpen :: abandonedOpen)).2.slots.get? 1).map
      (·.channel.generation) = some 2 := by decide +kernel
  obtain ⟨-, -, stale⟩ := stale_channels_ignored .standard abandonedOpen
  exact ⟨hmade, hgone, Option.map_eq_some_iff.mp hnext, (stale 1 1 hgone).2 hmade [nextOpen]⟩

end CardChannels
