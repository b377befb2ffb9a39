import CardChannels.Proofs.Table.Answers

/-!
# How the card hears that a channel is gone

An open channel can go away by a close, by a send that fails, and with its bearer. The card hears
of it by the answer to its command or by an event. The main statement is that it always does, save
in one case: the task could not send, and the answer to that send was given up before.
-/
namespace CardChannels

variable {config : Config} {past : TableHistory} {t : ChannelTable} {input : TableInput}
  {k : UInt8} {s : Slot}

/-- Whether the card hears that a channel is gone: a close of the channel is answered, or the send
that waits for its answer, or an event names the channel. -/
def Output.TellsOfEnd (out : Output) (input : TableInput) (k : UInt8) (s : Slot) : Prop :=
  (∃ reply keepListening, input = .closeChannel reply k keepListening ∧ out.Answers reply) ∨
    (∃ reply free, s.pending = some (.sending reply free) ∧ out.Answers reply) ∨
    ∃ status, .raise (.channelStatus status) ∈ out.effects ∧ status.channel = k

/-- When an open channel goes away in a step of a session, the card hears of it, or a send failed
that nothing waited for. -/
theorem SlotStep.tells_or_silent {last next : Nat} {out : Output}
    (h : SlotStep last next k input out (some s) none) (sound : s.Sound k)
    (phase : s.phase = .opened) (session : input.endsSession = false)
    (closing : ∀ reply keepListening, input = .closeChannel reply k keepListening →
      out.Answers reply) :
    out.TellsOfEnd input k s ∨
      s.pending = none ∧ input.heard k s.channel.generation = some (.sent false) := by
  cases h with
  | givenUp pending answered => exact absurd phase (sound.pending.mpr ⟨_, _, pending⟩)
  | closed closes => exact .inl (.inl ⟨_, _, closes, closing _ _ closes⟩)
  | sendFailed heard _ answered =>
    rcases hp : s.pending with _ | ⟨reply, modified⟩ | ⟨reply, free⟩
    · exact .inr ⟨rfl, heard⟩
    · exact absurd phase (sound.pending.mpr ⟨_, _, hp⟩)
    · exact .inl (.inr (.inl ⟨reply, free, hp, answered reply free hp⟩))
  | lost unheard _ answered raised names => exact .inl (.inr (.inr ⟨_, raised, names⟩))
  | ended ends after =>
    rw [ends] at session
    cases session

/-- A failed send that nothing waits for has no effect. -/
theorem ChannelTable.effects_sendFailed (hs : t.slots.get? s.channel.id = some s)
    (hp : s.pending = none) :
    (t.report s.channel.id s.channel.generation (.sent false)).2.effects = [] := by
  obtain ⟨answer, -, h⟩ := report_sent_effects hs false
  simp [h, Slot.sendAnswer, hp]

theorem TableInput.eq_of_heard {g : Nat} {r : Report} (h : input.heard k g = some r) :
    input = .report k g r := by
  cases input with
  | report channel generation r' =>
    simp only [heard, Option.ite_none_right_eq_some, Option.some.injEq] at h
    obtain ⟨⟨rfl, rfl⟩, rfl⟩ := h
    rfl
  | _ => cases h

/-- When an open channel is gone after a step of a session, the card hears of it, unless its task
reports a failed send that nothing waits for. -/
theorem tells_of_end_iff (run : TableRun config past t) (admitted : past.Admits input)
    (session : input.endsSession = false) (hs : t.slots.get? k = some s)
    (phase : s.phase = .opened) (gone : (t.step input).1.slots.get? k = none) :
    (t.step input).2.TellsOfEnd input k s ↔
      ¬(s.pending = none ∧ input = .report k s.channel.generation (.sent false)) := by
  have fits := run.fits
  have sound := (fits.slot k s hs).sound
  constructor
  · rintro htells ⟨hp, rfl⟩
    obtain rfl := sound.id
    rcases htells with ⟨reply, keepListening, heq, -⟩ | ⟨reply, free, hp', -⟩ | ⟨status, hmem, -⟩
    · cases heq
    · rw [hp] at hp'
      cases hp'
    · rw [ChannelTable.step, ChannelTable.effects_sendFailed hs hp] at hmem
      cases hmem
  · intro hloud
    have hstep := (fits.stepped admitted).slot k
    rw [hs, gone] at hstep
    have closing : ∀ reply keepListening, input = .closeChannel reply k keepListening →
        (t.step input).2.Answers reply := by
      rintro reply keepListening rfl
      exact (ChannelTable.answers_closeChannel_iff fits.sound hs reply keepListening reply).mpr rfl
    rcases hstep.tells_or_silent sound phase session closing with htells | ⟨hp, hheard⟩
    · exact htells
    · exact absurd ⟨hp, TableInput.eq_of_heard hheard⟩ hloud

/-- A send that fails while the card waits for its answer tells the card. -/
theorem sendFailed_tells_of_end :
    ∃ past t s, TableRun .standard past t ∧ past.Admits (.report 1 1 (.sent false)) ∧
      t.slots.get? 1 = some s ∧ s.phase = .opened ∧
      (t.step (.report 1 1 (.sent false))).1.slots.get? 1 = none ∧
      (t.step (.report 1 1 (.sent false))).2.TellsOfEnd (.report 1 1 (.sent false)) 1 s := by
  have run := Admissible.run (show Admissible .standard flushOnLoopback by decide +kernel)
  have admitted : (replay .standard flushOnLoopback).1.Admits (.report 1 1 (.sent false)) := by
    decide +kernel
  have hslot : (((replay .standard flushOnLoopback).2.slots.get? 1).map
      fun s => (s.phase, s.pending)) = some (.opened, some (.sending (.toFlush 2) 253)) := by
    decide +kernel
  have gone : (((replay .standard flushOnLoopback).2.step (.report 1 1 (.sent false))).1.slots.get?
      1) = none := by
    rw [← Option.isNone_iff_eq_none]
    decide +kernel
  obtain ⟨s, hs, hsp⟩ := Option.map_eq_some_iff.mp hslot
  obtain ⟨hphase, hp⟩ := Prod.mk.inj hsp
  exact ⟨_, _, s, run, admitted, hs, hphase, gone,
    (tells_of_end_iff run admitted rfl hs hphase gone).mpr (by simp [hp])⟩

/-- After the end of a session, a send of before that fails ends its channel without a word. -/
theorem channel_dies_silently :
    ∃ past t s, TableRun .standard past t ∧ past.Admits (.report 1 1 (.sent false)) ∧
      t.slots.get? 1 = some s ∧ s.phase = .opened ∧
      (t.step (.report 1 1 (.sent false))).1.slots.get? 1 = none ∧
      (t.step (.report 1 1 (.sent false))).2.effects = [] := by
  have run := Admissible.run
    (show Admissible .standard (.sessionEnd :: flushOnLoopback) by decide +kernel)
  have hslot : (((replay .standard (.sessionEnd :: flushOnLoopback)).2.slots.get? 1).map
      fun s => (s.phase, s.pending)) = some (.opened, none) := by decide +kernel
  obtain ⟨s, hs, hsp⟩ := Option.map_eq_some_iff.mp hslot
  refine ⟨_, _, s, run, by decide +kernel, hs, (Prod.mk.inj hsp).1, ?_, by decide +kernel⟩
  rw [← Option.isNone_iff_eq_none]
  decide +kernel

end CardChannels
