import CardChannels.Proofs.Table.Coherent
import CardChannels.Proofs.Terminal.Answers

/-!
# Silence after the end

When a session is over, opens that were under way are gone, and a channel that stays has no answer
to give any more. So whatever tasks, timers, images and the connection bring later, nothing but a
command makes the terminal answer. When the card is gone the terminal is empty, stays so, and has
no message for the card at all.
-/
namespace CardChannels

namespace BearerRegistry

variable {c : BearerRegistry}

theorem dropUnready_of_empty (h : c.requests = ∅) : c.dropUnready = (c, [], []) := by
  have none : c.unready = [] := by
    rw [unready, h]
    rfl
  rw [dropUnready, none]
  rfl

/-- A change of the connection concerns no channel when there are no requests. -/
theorem connectionChanged_of_empty (h : c.requests = ∅) (change : ConnectionChange) :
    c.connectionChanged change = (c, [], []) := by
  have none : c.changes change = [] := by
    rw [changes, h]
    rfl
  have same : c.activate change = c := by
    obtain ⟨channelType, retryInterval, retryLimit, requests⟩ := c
    cases h
    rfl
  rw [connectionChanged, gone, none, same]
  rfl

end BearerRegistry

namespace ChannelTable

variable {t : ChannelTable}

/-- The end of the session for several channels says nothing, and what they owed is dropped. -/
theorem each_endSession (t : ChannelTable) (ended : List Slot) :
    (t.each endSession ended).2.effects = [] ∧
      ∀ k s, (t.each endSession ended).1.slots.get? k = some s →
        s.pending = none ∨ t.slots.get? k = some s ∧ k ∉ ended.map (·.channel.id) := by
  -- On the slots that still come: one that is none of them stays as it is until then.
  induction ended generalizing t with
  | nil => exact ⟨rfl, fun k s hs => .inr ⟨hs, List.not_mem_nil⟩⟩
  | cons first rest ih =>
    obtain ⟨after, orders, hafter, own⟩ := t.endSession_onSlot first
    obtain ⟨silent, others⟩ := ih (t.endSession first).1
    constructor
    · rw [each, Output.effects_append, own.effects, silent, List.append_nil]
    · intro k s hs
      rcases others k s hs with answered | ⟨hs, hrest⟩
      · exact .inl answered
      · by_cases hk : k = first.channel.id
        · subst hk
          rw [own.self] at hs
          rcases hafter with rfl | ⟨-, channel, -, rfl⟩
          · cases hs
          · cases hs
            exact .inl rfl
        · rw [own.other hk] at hs
          exact .inr ⟨hs, by simp [hk, hrest]⟩

theorem effects_sessionEnd (t : ChannelTable) : t.sessionEnd.2.effects = [] :=
  (each_endSession { t with bearers := t.bearers.dropUnready.1 } t.slots.values).1

/-- After the end of the session no channel has an answer to give. -/
theorem owed_sessionEnd (keyed : t.Keyed) : t.sessionEnd.1.owed = [] := by
  apply List.flatMap_eq_nil_iff.mpr
  intro s hmem
  obtain ⟨k, hs⟩ := ChannelMap.mem_values_iff.mp hmem
  have ended := each_endSession { t with bearers := t.bearers.dropUnready.1 } t.slots.values
  rcases ended.2 k s hs with answered | ⟨before, notEnded⟩
  · simp [Slot.owes, answered]
  · have listed : s ∈ t.slots.values := ChannelMap.mem_values_iff.mpr ⟨k, before⟩
    exact absurd (List.mem_map.mpr ⟨s, listed, keyed k s before⟩) notEnded

theorem sessionEnd_of_empty (slots : t.slots = ∅) (requests : t.bearers.requests = ∅) :
    t.sessionEnd = (t, .none) := by
  have none : t.slots.values = [] := by
    rw [slots]
    rfl
  rw [sessionEnd, BearerRegistry.dropUnready_of_empty requests, none]
  rfl

theorem connectionChanged_of_empty (requests : t.bearers.requests = ∅)
    (change : ConnectionChange) : t.connectionChanged change = (t, .none) := by
  rw [connectionChanged, BearerRegistry.connectionChanged_of_empty requests]
  rfl

end ChannelTable

namespace Terminal

variable {t : Terminal} {input : Input}

/-- A step without effects has no message for the card. -/
theorem messages_settle {step : ChannelTable × Output} (h : step.2.effects = []) :
    (t.settle step).2.messages = [] := by
  simp [settle, messages, h]

/-! Nothing owed -/

/-- A terminal that has no answer to give. -/
structure Discharged (t : Terminal) : Prop where
  keyed : t.table.Keyed
  owed : t.owed = []

/-- What has nothing to answer and is asked nothing gives no answer. -/
theorem Discharged.step (h : t.Discharged) (host : Host) (quiet : input.command? = none) :
    (t.step host input).1.Discharged ∧ (t.step host input).2.responses = [] := by
  -- What is answered and owed in the end is at most what was owed and asked, which is nothing.
  have balanced := t.balanced_step h.keyed host input
  have nothing : ∀ d, ((t.step host input).2.responses.map (·.details)).count d +
      (t.step host input).1.owed.count d = 0 := by
    intro d
    have covered := balanced.covered d
    rw [h.owed, Input.asked, quiet] at covered
    simpa using covered
  refine ⟨⟨balanced.keyed, ?_⟩, ?_⟩
  · apply List.eq_nil_iff_forall_not_mem.mpr
    exact fun d => List.count_eq_zero.mp (Nat.add_eq_zero_iff.mp (nothing d)).2
  · apply List.map_eq_nil_iff.mp
    apply List.eq_nil_iff_forall_not_mem.mpr
    exact fun d => List.count_eq_zero.mp (Nat.add_eq_zero_iff.mp (nothing d)).1

theorem discharged_sessionEnd (keyed : t.table.Keyed) (host : Host) :
    (t.step host .sessionEnd).1.Discharged ∧ (t.step host .sessionEnd).2.messages = [] := by
  refine ⟨⟨(t.balanced_step keyed host .sessionEnd).keyed, ?_⟩,
    messages_settle t.table.effects_sessionEnd⟩
  exact t.table.owed_sessionEnd keyed

/-! Nothing left -/

/-- A terminal without channels, bearers and armed events, and without a command that waits. -/
structure Vacant (t : Terminal) : Prop where
  pending : t.reader.pending = none
  slots : t.table.slots = ∅
  requests : t.table.bearers.requests = ∅
  armed : t.armed = []

theorem vacant_cardRemoved (t : Terminal) (host : Host) :
    (t.step host .cardRemoved).1.Vacant ∧ (t.step host .cardRemoved).2.messages = [] := by
  refine ⟨⟨rfl, rfl, ?_, rfl⟩, messages_settle rfl⟩
  apply ChannelMap.eq_of_get?_eq
  intro k
  exact BearerRegistry.up?_eq_none_iff.mp (t.table.bearers.up?_releaseAll k)

theorem Vacant.discharged (h : t.Vacant) : t.Discharged := by
  constructor
  · intro k s hs
    rw [h.slots] at hs
    cases hs
  · rw [owed, h.pending, ChannelTable.owed, h.slots]
    rfl

/-- Nothing but a command fills an empty terminal, or has it say something. -/
theorem Vacant.step (h : t.Vacant) (host : Host) (quiet : input.command? = none) :
    (t.step host input).1.Vacant ∧ (t.step host input).2.messages = [] := by
  -- Timers and tasks name a channel, and there is none.
  have stale (k : UInt8) (g : Nat) : t.table.current? k g = none := by
    rw [ChannelTable.current?, h.slots, ChannelMap.get?_empty, Option.filter_none]
  have unchanged {step : ChannelTable × Output} (same : step = (t.table, .none)) :
      (t.settle step).1.Vacant ∧ (t.settle step).2.messages = [] := by
    rw [same]
    exact ⟨⟨h.pending, h.slots, h.requests, h.armed⟩, rfl⟩
  cases input with
  | command raw => cases quiet
  | sessionEnd =>
    rw [Terminal.step, ChannelTable.sessionEnd_of_empty h.slots h.requests]
    exact ⟨⟨rfl, h.slots, h.requests, h.armed⟩, rfl⟩
  | cardRemoved => exact vacant_cardRemoved t host
  | connection change => exact unchanged (ChannelTable.connectionChanged_of_empty h.requests change)
  | iconsLoaded request images =>
    simp only [Terminal.step, iconsLoaded, CommandReader.iconsLoaded, h.pending, Option.map_none]
    split
    · exact ⟨h, rfl⟩
    · exact ⟨⟨rfl, h.slots, h.requests, h.armed⟩, rfl⟩
  | retryDue k g => exact unchanged (by rw [ChannelTable.bearerRetry, stale])
  | report k g r => exact unchanged (by rw [ChannelTable.report, stale])
  | taskEnded k g =>
    rw [Terminal.step, ChannelTable.taskEnded, stale]
    exact ⟨⟨h.pending, h.slots, h.requests, h.armed⟩, rfl⟩

end Terminal

/-! Runs -/

variable {config : Config} {past later : TerminalHistory} {t : Terminal} {ending : Input}
  {reaction : Reaction}

/-- What an input brings about and every input other than a command keeps, holds until the next
command. -/
theorem TerminalRun.kept {Kept : Terminal → Prop} (Shown : Reaction → Prop)
    (first : ∀ (t : Terminal) (host : Host), t.table.Keyed →
      Kept (t.step host ending).1 ∧ (t.step host ending).2.messages = [])
    (next : ∀ (t : Terminal) (host : Host) (input : Input), Kept t → input.command? = none →
      Kept (t.step host input).1 ∧ Shown (t.step host input).2)
    (run : TerminalRun config (later ++ (ending, reaction) :: past) t)
    (quiet : ∀ event ∈ later, event.1.command? = none) :
    Kept t ∧ reaction.messages = [] ∧ ∀ event ∈ later, Shown event.2 := by
  induction later generalizing t with
  | nil =>
    cases run with
    | step run host =>
      obtain ⟨kept, silent⟩ := first _ host run.ledger.1
      exact ⟨kept, silent, by simp⟩
  | cons event later ih =>
    cases run with
    | step run host input =>
      rw [List.forall_mem_cons] at quiet ⊢
      obtain ⟨kept, silent, shown⟩ := ih run quiet.2
      obtain ⟨kept', shown'⟩ := next _ host input kept quiet.1
      exact ⟨kept', silent, shown', shown⟩

/-- When a session has ended or the card has been removed, no answer is given until the next
command, whatever happens. After the card's removal there is no message at all until then, and the
terminal has no channels, bearers or armed events. -/
theorem silent_until_next_command (later past : TerminalHistory)
    (run : TerminalRun config (later ++ (ending, reaction) :: past) t)
    (ends : ending = .sessionEnd ∨ ending = .cardRemoved)
    (quiet : ∀ event ∈ later, event.1.command? = none) :
    (reaction.messages = [] ∧ ∀ event ∈ later, event.2.responses = []) ∧
      (ending = .cardRemoved → (∀ event ∈ later, event.2.messages = []) ∧
        (∀ k, t.table.slots.get? k = none) ∧ (∀ k, t.table.bearers.requests.get? k = none) ∧
        t.armed = []) := by
  constructor
  · have first (t : Terminal) (host : Host) (keyed : t.table.Keyed) :
        (t.step host ending).1.Discharged ∧ (t.step host ending).2.messages = [] := by
      rcases ends with rfl | rfl
      · exact Terminal.discharged_sessionEnd keyed host
      · obtain ⟨vacant, silent⟩ := t.vacant_cardRemoved host
        exact ⟨vacant.discharged, silent⟩
    exact (run.kept (·.responses = []) first (fun _ host _ kept quiet => kept.step host quiet)
      quiet).2
  · rintro rfl
    obtain ⟨vacant, -, silent⟩ := run.kept (·.messages = [])
      (fun t host _ => t.vacant_cardRemoved host) (fun _ host _ kept quiet => kept.step host quiet)
      quiet
    refine ⟨silent, fun k => ?_, fun k => ?_, vacant.armed⟩
    · rw [vacant.slots, ChannelMap.get?_empty]
    · rw [vacant.requests, ChannelMap.get?_empty]

/-- A command for the status of all channels that shows an icon. -/
def statusWithIcon : Bytes := statusCommand ++ [0x9E, 0x02, 0x00, 0x05]

/-- When the card is removed, an open is under way and another command waits for its icon. The
socket is ready and the icon is loaded too late. -/
theorem silent_with_open_and_icon_pending :
    ∃ (later past : TerminalHistory) (reaction : Reaction) (before t : Terminal),
      TerminalRun .standard past before ∧ before.owed.length = 2 ∧
      TerminalRun .standard (later ++ (.cardRemoved, reaction) :: past) t ∧
      later.map (·.1) = [.iconsLoaded 1 none, .report 1 1 .ready] ∧
      (∀ event ∈ later, event.1.command? = none) ∧
      (reaction.messages = [] ∧ ∀ event ∈ later, event.2.responses = []) ∧
        (∀ event ∈ later, event.2.messages = []) ∧ (∀ k, t.table.slots.get? k = none) ∧
        (∀ k, t.table.bearers.requests.get? k = none) ∧ t.armed = [] := by
  let host := SteadyHost.connected.answers
  have before := (TerminalRun.start : TerminalRun .standard _ _)
    |>.step host (.command openCommand)
    |>.step host (.command statusWithIcon)
  have run := before.step host .cardRemoved
    |>.step host (.report 1 1 .ready)
    |>.step host (.iconsLoaded 1 none)
  have quiet (loaded ready : Reaction) :
      ∀ event ∈ [(Input.iconsLoaded 1 none, loaded), (Input.report 1 1 .ready, ready)],
        event.1.command? = none := by
    simp [Input.command?]
  obtain ⟨silent, removed⟩ :=
    silent_until_next_command [(.iconsLoaded 1 none, _), (.report 1 1 .ready, _)] _ run (.inr rfl)
      (quiet _ _)
  exact ⟨_, _, _, _, _, before, by decide +kernel, run, rfl, quiet _ _, silent, removed rfl⟩

end CardChannels
