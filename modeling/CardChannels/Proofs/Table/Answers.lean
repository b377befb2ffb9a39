import CardChannels.Proofs.Table.Phases

/-!
# No answer is lost

An open and a send whose bytes are under way are answered later, and many things can come in
between. The main statement is that none of them loses the answer, except that the card closes the
channel: then only the close is answered.
-/
namespace CardChannels

variable {config : Config} {past : TableHistory} {t : ChannelTable} {input : TableInput}
  {k : UInt8} {s : Slot} {p : PendingReply}

/-- How to answer the command that waits for its answer. -/
def PendingReply.reply : PendingReply → Reply
  | opening reply _ | sending reply _ => reply

/-- In a step of a session a slot keeps what it has to answer, or it is answered, or the card has
closed the channel. -/
theorem SlotStep.keeps_or_answers {last next : Nat} {out : Output} {after : Option Slot}
    (h : SlotStep last next k input out (some s) after) (sound : s.Sound k)
    (hp : s.pending = some p) (session : input.endsSession = false) :
    (∃ s', after = some s' ∧ s'.channel.generation = s.channel.generation ∧
        s'.pending = some p) ∨
      (∃ reply keepListening, input = .closeChannel reply k keepListening) ∨
      out.Answers p.reply := by
  have answered (hphase : s.phase = .opened)
      (h : ∀ reply free, s.pending = some (.sending reply free) → out.Answers reply) :
      out.Answers p.reply := by
    cases p with
    | opening reply modified => exact absurd hphase (sound.pending.mpr ⟨reply, modified, hp⟩)
    | sending reply free => exact h reply free hp
  cases h with
  | worked continues minor heard => exact .inl ⟨_, rfl, continues.generation, hp⟩
  | started continues pending unheard => exact .inl ⟨_, rfl, continues.generation, hp⟩
  | completed continues pending heard answers =>
    obtain rfl := Option.some.inj (pending.symm.trans hp)
    exact .inr (.inr answers)
  | flushing continues sends phase pending told =>
    rw [pending] at hp
    cases hp
  | settled continues phase answers => exact .inr (.inr (answered phase answers))
  | givenUp pending answers =>
    obtain rfl := Option.some.inj (pending.symm.trans hp)
    exact .inr (.inr answers)
  | closed closes => exact .inr (.inl ⟨_, _, closes⟩)
  | sendFailed heard phase answers => exact .inr (.inr (answered phase answers))
  | lost unheard phase answers raised names => exact .inr (.inr (answered phase answers))
  | ended ends phase =>
    rw [ends] at session
    cases session

/-- A close is answered, and nothing else. -/
theorem ChannelTable.answers_closeChannel_iff (sound : t.Sound) (hs : t.slots.get? k = some s)
    (closing : Reply) (keepListening : Bool) (reply : Reply) :
    (t.closeChannel closing k keepListening).2.Answers reply ↔
      closing.details = reply.details := by
  obtain rfl := (sound.slot k s hs).id
  obtain ⟨after, -, h⟩ := closeChannel_onSlot closing keepListening hs
  simp [Output.Answers, h.effects, Reply.success]

/-- When a step of a session takes from a slot the answer that it had to give, the step gives that
answer, unless it is a close of the channel, which answers its own command only. -/
theorem pending_answered_iff_not_closed (run : TableRun config past t)
    (admitted : past.Admits input) (session : input.endsSession = false)
    (hs : t.slots.get? k = some s) (hp : s.pending = some p)
    (gone : ∀ s', (t.step input).1.slots.get? k = some s' →
      s'.channel.generation = s.channel.generation → s'.pending ≠ some p) :
    (t.step input).2.Answers p.reply ↔
      ∀ closing keepListening, input = .closeChannel closing k keepListening →
        closing.details = p.reply.details := by
  have fits := run.fits
  by_cases hclose : ∃ closing keepListening, input = .closeChannel closing k keepListening
  · obtain ⟨closing, keepListening, rfl⟩ := hclose
    rw [ChannelTable.step, ChannelTable.answers_closeChannel_iff fits.sound hs]
    constructor
    · rintro h closing' keepListening' heq
      cases heq
      exact h
    · exact fun h => h closing keepListening rfl
  · have hstep := (fits.stepped admitted).slot k
    rw [hs] at hstep
    obtain ⟨s', hs', hgen, hp'⟩ | hclosed | answers :=
      hstep.keeps_or_answers (fits.slot k s hs).sound hp session
    · exact absurd hp' (gone s' hs' hgen)
    · exact absurd hclosed hclose
    · exact iff_of_true answers fun closing keepListening heq =>
        absurd ⟨closing, keepListening, heq⟩ hclose

/-- The loss of the link answers the send whose bytes are under way. -/
theorem send_answered_on_link_loss :
    ∃ past t s p, TableRun .standard past t ∧ past.Admits (.report 1 1 .readFailed) ∧
      t.slots.get? 1 = some s ∧ s.pending = some p ∧ p.reply = .toFlush 2 ∧
      (∀ s', (t.step (.report 1 1 .readFailed)).1.slots.get? 1 = some s' →
        s'.channel.generation = s.channel.generation → s'.pending ≠ some p) ∧
      (t.step (.report 1 1 .readFailed)).2.Answers p.reply := by
  have run := Admissible.run (show Admissible .standard flushOnLoopback by decide +kernel)
  have admitted : (replay .standard flushOnLoopback).1.Admits (.report 1 1 .readFailed) := by
    decide +kernel
  have hpending : (((replay .standard flushOnLoopback).2.slots.get? 1).map (·.pending)) =
      some (some (.sending (.toFlush 2) 253)) := by decide +kernel
  have hafter : (((replay .standard (.report 1 1 .readFailed :: flushOnLoopback)).2.slots.get?
      1).map (·.pending)) = some none := by decide +kernel
  obtain ⟨s, hs, hp⟩ := Option.map_eq_some_iff.mp hpending
  have gone : ∀ s', (replay .standard (.report 1 1 .readFailed :: flushOnLoopback)).2.slots.get?
      1 = some s' → s'.channel.generation = s.channel.generation →
      s'.pending ≠ some (.sending (.toFlush 2) 253) := by
    intro s' hs' _
    rw [hs'] at hafter
    simp [Option.some.inj hafter]
  exact ⟨_, _, s, _, run, admitted, hs, hp, rfl, gone,
    (pending_answered_iff_not_closed run admitted rfl hs hp gone).mpr (by simp)⟩

/-- A close loses the answer to the send whose bytes are under way. -/
theorem closeChannel_loses_answer :
    ∃ past t s p closing, TableRun .standard past t ∧
      past.Admits (.closeChannel closing 1 false) ∧ t.slots.get? 1 = some s ∧
      s.pending = some p ∧ (t.step (.closeChannel closing 1 false)).1.slots.keys = [] ∧
      ¬ (t.step (.closeChannel closing 1 false)).2.Answers p.reply := by
  have run := Admissible.run (show Admissible .standard flushOnLoopback by decide +kernel)
  have hpending : (((replay .standard flushOnLoopback).2.slots.get? 1).map (·.pending)) =
      some (some (.sending (.toFlush 2) 253)) := by decide +kernel
  obtain ⟨s, hs, hp⟩ := Option.map_eq_some_iff.mp hpending
  refine ⟨_, _, s, _, .toCommand 3 .closeChannel 0, run, trivial, hs, hp, by decide +kernel, ?_⟩
  rw [ChannelTable.step, ChannelTable.answers_closeChannel_iff run.fits.sound hs]
  decide

end CardChannels
