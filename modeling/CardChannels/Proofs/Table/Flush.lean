import CardChannels.Proofs.Table.Phases

/-!
# Which send a report answers

A send whose bytes are on their way is answered when the socket task reports that the write is
over. The table keeps one such send at a time and does not number them. The main statement says
when the report that answers a send is the one about its own write: exactly when every earlier
write had been reported by the time the send was taken.
-/
namespace CardChannels

variable {config : Config} {past : TableHistory} {t : ChannelTable} {input : TableInput}
  {out : Output} {k : UInt8} {g : Nat} {s : Slot} {reply : Reply}

/-- The send, if any, whose bytes an event put on their way to the task of a channel. -/
def flush? (k : UInt8) (g : Nat) : TableInput × Output → Option Reply
  | (.sendData reply _ _, out) => if (out.told k g).any Order.writes then some reply else none
  | _ => none

namespace TableHistory

/-- The sends whose bytes were put on their way on a channel, the newest first. -/
def flushes (past : TableHistory) (k : UInt8) (g : Nat) : List Reply := past.filterMap (flush? k g)

/-- How many writes the task of a channel has reported to be over. -/
def sentReports (past : TableHistory) (k : UInt8) (g : Nat) : Nat :=
  (past.heard k g).countP Report.tellsSent

/-- The history up to the last send whose bytes were put on their way on a channel. -/
def beforeFlush (past : TableHistory) (k : UInt8) (g : Nat) : TableHistory :=
  (past.dropWhile fun event => (flush? k g event).isNone).tail

/-- Whether the task of a channel has reported all writes. -/
def CaughtUp (past : TableHistory) (k : UInt8) (g : Nat) : Prop :=
  past.sentReports k g = (past.flushes k g).length

/-- Whether a send is the last whose bytes were put on their way, and nothing was reported since. -/
structure Awaits (past : TableHistory) (k : UInt8) (g : Nat) (reply : Reply) : Prop where
  flushes : past.flushes k g = reply :: (past.beforeFlush k g).flushes k g
  unreported : past.sentReports k g = (past.beforeFlush k g).sentReports k g

theorem sentReports_cons_of_unsent
    (h : ∀ r, input.heard k g = some r → r.tellsSent = false) :
    sentReports ((input, out) :: past) k g = past.sentReports k g := by
  rw [sentReports, heard_cons]
  cases hr : input.heard k g with
  | none => rfl
  | some r => simp [h r hr, sentReports]

/-- A send that puts its bytes on their way is awaited from then on. -/
theorem awaits_of_flush (h : flush? k g (input, out) = some reply)
    (unheard : input.heard k g = none) : Awaits ((input, out) :: past) k g reply := by
  have hbefore : beforeFlush ((input, out) :: past) k g = past := by simp [beforeFlush, h]
  constructor
  · rw [hbefore]
    simp [flushes, h]
  · rw [hbefore]
    exact sentReports_cons_of_unsent (by simp [unheard])

/-- What neither writes nor reports a write leaves the send awaited. -/
theorem Awaits.cons (h : past.Awaits k g reply) (hflush : flush? k g (input, out) = none)
    (unsent : ∀ r, input.heard k g = some r → r.tellsSent = false) :
    Awaits ((input, out) :: past) k g reply := by
  have hbefore : beforeFlush ((input, out) :: past) k g = past.beforeFlush k g := by
    simp [beforeFlush, hflush]
  constructor
  · rw [hbefore, ← h.flushes]
    simp [TableHistory.flushes, hflush]
  · rw [hbefore, ← h.unreported]
    exact sentReports_cons_of_unsent unsent

end TableHistory

theorem flush?_of_minor (h : ∀ o ∈ out.told k g, o.minor = true) :
    flush? k g (input, out) = none := by
  unfold flush?
  split
  · rename_i heq
    cases heq
    rw [if_neg]
    simp only [List.any_eq_true, not_exists, not_and]
    intro o ho hw
    have hm := h o ho
    cases o <;> simp_all [Order.minor, Order.writes]
  · rfl

/-- After a step, a send that is under way is awaited. -/
theorem SlotStep.awaits {last next : Nat} {before : Option Slot} {free : Nat}
    (h : SlotStep last next k input out before (some s))
    (hp : s.pending = some (.sending reply free))
    (hold : ∀ s reply free, before = some s → s.pending = some (.sending reply free) →
      past.Awaits k s.channel.generation reply) :
    TableHistory.Awaits ((input, out) :: past) k s.channel.generation reply := by
  cases h with
  | created id new known phase pending unheard =>
    rw [pending] at hp
    cases hp
  | worked continues minor heard =>
    dsimp only at hp ⊢
    rw [continues.generation]
    exact (hold _ _ _ rfl hp).cons (flush?_of_minor minor) fun r hr => (heard r hr).2
  | started continues pending unheard =>
    rw [pending] at hp
    cases hp
  | completed continues pending heard answered => cases hp
  | flushing continues sends phase pending told =>
    cases hp
    subst sends
    dsimp only
    rw [continues.generation]
    exact TableHistory.awaits_of_flush (by simp [flush?, told, Order.writes]) rfl
  | settled continues phase answered => cases hp
  | ended ends after =>
    rcases after with hnone | ⟨phase, channel, continues, hsome⟩
    · cases hnone
    · cases hsome
      cases hp

/-- In every run, a send that is under way is awaited. -/
theorem TableRun.awaits {free : Nat} (run : TableRun config past t)
    (hs : t.slots.get? k = some s) (hp : s.pending = some (.sending reply free)) :
    past.Awaits k s.channel.generation reply := by
  induction run generalizing s reply free with
  | start => simp [ChannelTable.ofConfig] at hs
  | step run input admitted ih =>
    have hstep := (run.fits.stepped admitted).slot k
    rw [hs] at hstep
    exact hstep.awaits hp fun _ _ _ => ih

/-- A report that a write is over answers the last send whose bytes were put on their way. It is
the report about that very write exactly when the task had reported all earlier writes by the time
the send was taken. -/
theorem sent_answers_own_flush_iff (run : TableRun config past t) {ok : Bool}
    {r : TerminalResponse} (hr : .respond r ∈ (t.step (.report k g (.sent ok))).2.effects) :
    ∃ reply, past.flushes k g = reply :: (past.beforeFlush k g).flushes k g ∧
      r.details = reply.details ∧
      ((past.flushes k g).length = past.sentReports k g + 1 ↔
        (past.beforeFlush k g).CaughtUp k g) := by
  by_cases hcurrent : ∃ s, t.slots.get? k = some s ∧ s.channel.generation = g
  · obtain ⟨s, hs, rfl⟩ := hcurrent
    obtain rfl := (run.fits.slot k s hs).sound.id
    obtain ⟨answer, hdetails, heffects⟩ := t.report_sent_effects hs ok
    rw [ChannelTable.step, heffects] at hr
    obtain ⟨reply, free, hp, rfl⟩ := Slot.mem_sendAnswer_iff.mp hr
    have awaits := run.awaits hs hp
    refine ⟨reply, awaits.flushes, hdetails reply free, ?_⟩
    rw [awaits.flushes, awaits.unreported, List.length_cons, TableHistory.CaughtUp]
    omega
  · rw [ChannelTable.step, ChannelTable.report_stale fun s hs hg => hcurrent ⟨s, hs, hg⟩] at hr
    cases hr

/-- The report about the only send answers it. -/
theorem sent_answers_only_flush :
    ∃ past t r, TableRun .standard past t ∧
      .respond r ∈ (t.step (.report 1 1 (.sent true))).2.effects ∧
      past.flushes 1 1 = [.toFlush 2] ∧ past.sentReports 1 1 = 0 ∧
      r.details = (Reply.toFlush 2).details ∧ (past.beforeFlush 1 1).CaughtUp 1 1 := by
  have run := Admissible.run (show Admissible .standard flushOnLoopback by decide +kernel)
  let r : TerminalResponse := (Reply.toFlush 2).success .ok (some (.sendData 253))
  have hr : .respond r ∈
      ((replay .standard flushOnLoopback).2.step (.report 1 1 (.sent true))).2.effects := by
    decide +kernel
  have hflushes : (replay .standard flushOnLoopback).1.flushes 1 1 = [.toFlush 2] := by
    decide +kernel
  have hsent : (replay .standard flushOnLoopback).1.sentReports 1 1 = 0 := by decide +kernel
  obtain ⟨reply, -, -, hown⟩ := sent_answers_own_flush_iff run hr
  refine ⟨_, _, r, run, hr, hflushes, hsent, rfl, hown.mp ?_⟩
  rw [hflushes, hsent]
  rfl

/-- When a session ends while bytes are under way, the report about them answers the next send. -/
theorem sent_answers_later_flush :
    ∃ past t r, TableRun .standard past t ∧ past.Admits (.report 1 1 (.sent true)) ∧
      past.flushes 1 1 = [.toFlush 3, .toFlush 2] ∧ past.sentReports 1 1 = 0 ∧
      (t.step (.report 1 1 (.sent true))).2.effects = [.respond r] ∧
      r.details = (Reply.toFlush 3).details ∧ r.details ≠ (Reply.toFlush 2).details := by
  have run := Admissible.run
    (show Admissible .standard (.flush 3 :: .sessionEnd :: flushOnLoopback) by decide +kernel)
  exact ⟨_, _, (Reply.toFlush 3).success .ok (some (.sendData 253)), run, by decide +kernel,
    by decide +kernel, by decide +kernel, by decide +kernel, rfl, by decide +kernel⟩

end CardChannels
