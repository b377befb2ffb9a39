import CardChannels.Proofs.Command.Details
import CardChannels.Proofs.Table.Owed
import CardChannels.Proofs.Terminal.Run
import CardChannels.Session.Host
import Mathlib.Data.List.Forall2
import Mathlib.Data.List.Nodup

/-!
# Every answer belongs to a command of its own

A command is answered at once, or its details are kept until its icon is there or its channel has
got on. A step answers only what was kept or has just come, and what it answers is not kept any
longer. So along every run each answer can be given a command that no other answer has, and it
repeats the details of that command.
-/
namespace CardChannels

/-- The details of a command that has come, as the answer has to repeat them. -/
def Input.asked (input : Input) : List CommandDetails :=
  (input.command?.map Command.repeated).toList

namespace Terminal

/-- The details that are still to be answered. -/
def owed (t : Terminal) : List CommandDetails :=
  (t.reader.pending.map (·.details)).toList ++ t.table.owed

/-- The result of a step that answers nothing but what was owed or what it is asked, and that does
not owe anything else afterwards. -/
structure Balanced (t : Terminal) (asked : List CommandDetails) (result : Terminal × Reaction) :
    Prop where
  keyed : result.1.table.Keyed
  covered : ∀ d, (result.2.responses.map (·.details)).count d + result.1.owed.count d ≤
    t.owed.count d + asked.count d

variable {t t' : Terminal} {asked asked' : List CommandDetails} {result : Terminal × Reaction}
  {step : ChannelTable × Output}

/-- The messages for the card answer what the effects answer. -/
theorem responses_settle (t : Terminal) (step : ChannelTable × Output) :
    (t.settle step).2.responses.map (·.details) = step.2.answered := by
  simp only [settle, messages, Reaction.responses, Output.answered, List.filterMap_filterMap,
    List.map_filterMap]
  congr 1
  funext effect
  cases effect with
  | respond r => rfl
  | raise e =>
    dsimp only
    split <;> rfl
  | retry channel generation delay => rfl

namespace Balanced

theorem settle (h : t.table.Balanced asked step) : t.Balanced asked (t.settle step) := by
  refine ⟨h.keyed, fun d => ?_⟩
  have hd := h.covered d
  rw [responses_settle]
  simp only [owed, Terminal.settle, List.count_append]
  omega

/-- What is owed more or asked more takes nothing away. -/
theorem mono (h : t'.Balanced asked' result)
    (le : ∀ d, t'.owed.count d + asked'.count d ≤ t.owed.count d + asked.count d) :
    t.Balanced asked result :=
  ⟨h.keyed, fun d => Nat.le_trans (h.covered d) (le d)⟩

theorem silent (keyed : t'.table.Keyed) {r : Reaction} (h : r.responses = [])
    (le : ∀ d, t'.owed.count d ≤ t.owed.count d + asked.count d) : t.Balanced asked (t', r) := by
  refine ⟨keyed, fun d => ?_⟩
  simpa [h] using le d

theorem answering (keyed : t'.table.Keyed) {r : Reaction} {details : CommandDetails}
    (h : r.responses.map (·.details) = [details]) (le : ∀ d, t'.owed.count d ≤ t.owed.count d) :
    t.Balanced [details] (t', r) := by
  refine ⟨keyed, fun d => ?_⟩
  have hd := le d
  rw [h]
  dsimp only
  omega

end Balanced

/-! Steps -/

theorem balanced_execute (keyed : t.table.Keyed) (host : Host) (command : Command) :
    t.Balanced [command.details] (t.execute host command) := by
  unfold execute
  dsimp only
  split
  · refine .answering ?_ rfl fun d => Nat.le_refl _
    exact keyed
  · exact .settle (ChannelTable.balanced_openChannel keyed host ⟨command.details, _⟩ _)
  · exact .settle (ChannelTable.balanced_closeChannel keyed ⟨command.details, _⟩ _ _)
  · exact .settle (ChannelTable.balanced_receiveData keyed ⟨command.details, _⟩ _)
  · exact .settle (ChannelTable.balanced_sendData keyed ⟨command.details, _⟩ _ _)
  · exact .settle (.refused keyed rfl)

/-- A command is answered at once or kept, in place of one that was kept before. -/
theorem balanced_command (keyed : t.table.Keyed) (host : Host) (raw : Bytes) :
    t.Balanced [Command.repeated raw] (t.command host raw) := by
  unfold command CommandReader.read
  rcases hread : Command.ofBytes raw with rejection | command
  · rw [Command.repeated_of_error hread]
    refine .answering ?_ rfl fun d => ?_
    · exact keyed
    · simp [owed, CommandReader.idle]
  · rw [Command.repeated_of_ok hread]
    dsimp only
    cases command.icon with
    | some record =>
      refine .silent ?_ rfl fun d => ?_
      · exact keyed
      · simp only [owed, Option.map_some, Option.toList_some, List.count_append]
        omega
    | none =>
      refine (balanced_execute (t := { t with reader := .idle }) keyed host command).mono
        fun d => ?_
      simp [owed, CommandReader.idle]

/-- The command that was kept for its icon is carried out, or kept on. -/
theorem balanced_iconsLoaded (keyed : t.table.Keyed) (host : Host) (request : Nat)
    (images : Option (List IconImage)) : t.Balanced [] (t.iconsLoaded host request images) := by
  unfold iconsLoaded CommandReader.iconsLoaded
  split
  · exact .silent keyed rfl fun d => Nat.le_refl _
  · dsimp only
    rcases hp : t.reader.pending with _ | command
    · refine .silent ?_ rfl fun d => ?_
      · exact keyed
      · simp [owed, CommandReader.idle]
    · have hcarried : ∀ carried : Command, carried.details = command.details →
          t.Balanced [] (execute { t with reader := .idle } host carried) := by
        intro carried hdetails
        refine (balanced_execute (t := { t with reader := .idle }) keyed host carried).mono
          fun d => ?_
        simp only [owed, hp, hdetails, CommandReader.idle, Option.map_some, Option.map_none,
          Option.toList_some, Option.toList_none, List.count_append, List.count_nil]
        omega
      cases images with
      | some images => exact hcarried _ rfl
      | none => exact hcarried _ rfl

/-- Every input is balanced: a step answers only what was owed or has just been asked. -/
theorem balanced_step (keyed : t.table.Keyed) (host : Host) (input : Input) :
    t.Balanced input.asked (t.step host input) := by
  have cancelled {step : ChannelTable × Output} {armed : List ChannelEvent}
      (h : t.table.Balanced [] step) :
      t.Balanced [] ({ t with reader := t.reader.cancel.1, armed := armed }.settle step) := by
    refine (Balanced.settle (t := { t with reader := .idle, armed := armed }) h).mono fun d => ?_
    simp [owed, CommandReader.idle]
  cases input with
  | command raw => exact balanced_command keyed host raw
  | sessionEnd => exact cancelled (ChannelTable.balanced_sessionEnd keyed)
  | cardRemoved => exact cancelled (ChannelTable.balanced_cardRemoved t.table)
  | connection change => exact .settle (ChannelTable.balanced_connectionChanged keyed change)
  | iconsLoaded request images => exact balanced_iconsLoaded keyed host request images
  | retryDue k g => exact .settle (ChannelTable.balanced_bearerRetry keyed host k g)
  | report k g r => exact .settle (ChannelTable.balanced_report keyed k g r)
  | taskEnded k g =>
    have h := ChannelTable.balanced_taskEnded keyed k g
    refine .silent h.keyed rfl fun d => ?_
    have hd := h.covered d
    simp only [Output.answered_none, List.count_nil] at hd
    simp only [owed, List.count_append]
    omega

end Terminal

/-! Runs -/

/-- Things that are fewer, or in another order, go with some of what the others go with. -/
theorem forall₂_of_subperm {α β : Type} {R : α → β → Prop} {ns : List α} {ds l : List β}
    (h : List.Forall₂ R ns ds) (sub : l.Subperm ds) :
    ∃ ms, ms.Subperm ns ∧ List.Forall₂ R ms l := by
  obtain ⟨l', hperm, hsub⟩ := sub
  have kept : ∃ ms, ms.Sublist ns ∧ List.Forall₂ R ms l' := by
    clear hperm
    induction hsub generalizing ns with
    | slnil => exact ⟨[], List.nil_sublist _, .nil⟩
    | cons d hsub ih =>
      cases h with
      | @cons n _ _ _ hd hrest =>
        obtain ⟨ms, hms, hR⟩ := ih hrest
        exact ⟨ms, hms.cons n, hR⟩
    | cons_cons d hsub ih =>
      cases h with
      | @cons n _ _ _ hd hrest =>
        obtain ⟨ms, hms, hR⟩ := ih hrest
        exact ⟨n :: ms, hms.cons_cons n, .cons hd hR⟩
  obtain ⟨ms, hms, hR⟩ := kept
  have hcomp : Relation.Comp (List.Forall₂ R) List.Perm ms l := ⟨l', hR, hperm⟩
  rw [List.forall₂_comp_perm_eq_perm_comp_forall₂] at hcomp
  obtain ⟨ms', hms', hR'⟩ := hcomp
  exact ⟨ms', hms'.symm.subperm.trans hms.subperm, hR'⟩

namespace TerminalHistory

/-- The event of a number was a command, and its answer has to repeat some details. -/
def Asks (past : TerminalHistory) (n : Nat) (details : CommandDetails) : Prop :=
  ∃ raw, past.command? n = some raw ∧ Command.repeated raw = details

variable {past : TerminalHistory} {t : Terminal} {n : Nat} {details : CommandDetails}
  {event : Input × Reaction} {given due : List Nat}

theorem Asks.lt_length (h : past.Asks n details) : n < past.length := by
  obtain ⟨raw, hraw, -⟩ := h
  exact lt_length_of_command? hraw

theorem Asks.older (h : past.Asks n details) : Asks (event :: past) n details := by
  have hne := Nat.ne_of_lt h.lt_length
  obtain ⟨raw, hraw, hd⟩ := h
  exact ⟨raw, by rw [command?, if_neg hne, hraw], hd⟩

/-- The number of the next event, if that is a command. -/
def next (past : TerminalHistory) (input : Input) : List Nat :=
  (input.command?.map fun _ => past.length).toList

theorem eq_length_of_mem_next {input : Input} (h : n ∈ past.next input) : n = past.length := by
  simp only [next, Option.mem_toList, Option.map_eq_some_iff] at h
  obtain ⟨raw, -, rfl⟩ := h
  rfl

theorem asks_next (input : Input) (r : Reaction) :
    List.Forall₂ (Asks ((input, r) :: past)) (past.next input) input.asked := by
  unfold next Input.asked
  cases hc : input.command? with
  | none => exact .nil
  | some raw => exact .cons ⟨raw, by rw [command?, if_pos rfl, hc], rfl⟩ .nil

/-- Commands for all answers that were given and all that are owed, none for two of them. -/
structure Ledger (past : TerminalHistory) (t : Terminal) (given due : List Nat) : Prop where
  distinct : (given ++ due).Nodup
  known : ∀ n ∈ given ++ due, n < past.length
  given : List.Forall₂ (fun n answer => n ≤ answer.1 ∧ past.Asks n answer.2.details) given
    past.answers
  due : List.Forall₂ past.Asks due t.owed

theorem Ledger.distinct_next (h : past.Ledger t given due) (input : Input) :
    (given ++ (due ++ past.next input)).Nodup := by
  rw [← List.append_assoc, List.nodup_append]
  refine ⟨h.distinct, ?_, ?_⟩
  · unfold next
    cases input.command? <;> simp
  · intro n hn m hm
    rw [eq_length_of_mem_next hm]
    exact Nat.ne_of_lt (h.known n hn)

/-- The answers of a step take their commands from what was owed and from what has just come. -/
theorem Ledger.step (h : past.Ledger t given due) (keyed : t.table.Keyed) (host : Host)
    (input : Input) :
    ∃ given' due', Ledger ((input, (t.step host input).2) :: past) (t.step host input).1 given'
      due' := by
  have balanced := t.balanced_step keyed host input
  rcases hstep : t.step host input with ⟨t', r⟩
  rw [hstep] at balanced
  have hall := List.rel_append (h.due.imp fun _ _ ha => ha.older) (asks_next input r)
  have hsub : (r.responses.map (·.details) ++ t'.owed).Subperm (t.owed ++ input.asked) := by
    rw [List.subperm_ext_iff]
    intro d _
    rw [List.count_append, List.count_append]
    exact balanced.covered d
  -- Commands for what is answered now and what is owed then, in this order.
  obtain ⟨ms, hms, hR⟩ := forall₂_of_subperm hall hsub
  have hanswered := List.forall₂_take_append ms _ _ hR
  have howed := List.forall₂_drop_append ms _ _ hR
  let count := (r.responses.map (·.details)).length
  have hjoin : given ++ ms.take count ++ ms.drop count = given ++ ms := by
    rw [List.append_assoc, List.take_append_drop]
  refine ⟨given ++ ms.take count, ms.drop count, ?_, ?_, ?_, howed⟩
  · rw [hjoin]
    obtain ⟨l, hperm, hsublist⟩ := (List.subperm_append_left given).mpr hms
    exact hperm.nodup_iff.mp ((h.distinct_next input).sublist hsublist)
  · intro n hn
    rw [hjoin, List.mem_append] at hn
    rw [List.length_cons]
    rcases hn with hn | hn
    · exact Nat.lt_succ_of_lt (h.known n (List.mem_append_left _ hn))
    · rcases List.mem_append.mp (hms.subset hn) with hdue | hnext
      · exact Nat.lt_succ_of_lt (h.known n (List.mem_append_right _ hdue))
      · exact Nat.lt_succ_of_le (Nat.le_of_eq (eq_length_of_mem_next hnext))
  · refine List.rel_append (h.given.imp fun _ _ ⟨hle, ha⟩ => ⟨hle, ha.older⟩) ?_
    rw [List.forall₂_map_right_iff] at hanswered ⊢
    exact hanswered.imp fun _ _ ha => ⟨Nat.le_of_lt_succ ha.lt_length, ha⟩

end TerminalHistory

variable {config : Config} {past : TerminalHistory} {t : Terminal}

/-- Along every run there are commands for all answers that were given and all that are owed. -/
theorem TerminalRun.ledger (run : TerminalRun config past t) :
    t.table.Keyed ∧ ∃ given due, past.Ledger t given due := by
  induction run with
  | start =>
    refine ⟨?_, [], [], List.nodup_nil, by simp, .nil, .nil⟩
    simp [ChannelTable.Keyed, Terminal.ofConfig, ChannelTable.ofConfig]
  | @step past t run host input ih =>
    obtain ⟨keyed, given, due, h⟩ := ih
    exact ⟨(t.balanced_step keyed host input).keyed, h.step keyed host input⟩

/-- In every run each answer has a command of its own that came before it. The answer repeats the
details of that command, or details of zeros that must be understood when the command's own cannot
be read, and these are the details that the bytes of the answer show. -/
theorem answers_have_own_commands (run : TerminalRun config past t) :
    ∃ asked : Fin past.answers.length → Nat, Function.Injective asked ∧
      ∀ i, asked i ≤ (past.answers.get i).1 ∧
        (∃ raw, past.command? (asked i) = some raw ∧
          (past.answers.get i).2.details = (Command.detailsIn raw).getD ⟨0, 0, 0, true⟩) ∧
        ∀ bytes, (past.answers.get i).2.encode = .ok bytes →
          Command.detailsIn bytes = some (past.answers.get i).2.details := by
  obtain ⟨-, given, due, h⟩ := run.ledger
  have hlength := h.given.length_eq
  have hnodup : given.Nodup := (List.nodup_append.mp h.distinct).1
  refine ⟨fun i => given.get (i.cast hlength.symm), ?_, fun i => ?_⟩
  · intro i j hij
    have hval := congrArg Fin.val (List.nodup_iff_injective_get.mp hnodup hij)
    exact Fin.ext hval
  · obtain ⟨hle, raw, hraw, hd⟩ := h.given.get (hlength.symm ▸ i.isLt) i.isLt
    exact ⟨hle, ⟨raw, hraw, hd.symm⟩, fun bytes hb => TerminalResponse.detailsIn_encode hb⟩

/-- A command that opens a client inside the terminal. -/
def openCommand : Bytes :=
  [0x81, 0x03, 0x01, 0x40, 0x01, 0x82, 0x02, 0x81, 0x82, 0xB9, 0x02, 0x01, 0x00, 0xBC, 0x03, 0x04,
    0x00, 0x09]

/-- A command for the status of all channels. -/
def statusCommand : Bytes := [0x81, 0x03, 0x02, 0x44, 0x00, 0x82, 0x02, 0x81, 0x82]

/-- While an open is under way another command and bytes that are no command are answered, and then
the open is, each once and under the details that it has. -/
theorem open_answered_after_later_commands :
    ∃ past t, TerminalRun .standard past t ∧
      past.answers.map (fun answer => (answer.1, answer.2.details)) =
        [(1, ⟨2, 0x44, 0x00, true⟩), (2, ⟨0, 0, 0, true⟩), (3, ⟨1, 0x40, 0x01, true⟩)] ∧
      ∃ asked : Fin past.answers.length → Nat, Function.Injective asked ∧
        ∀ i, asked i ≤ (past.answers.get i).1 ∧
          ∃ raw, past.command? (asked i) = some raw ∧
            (past.answers.get i).2.details = (Command.detailsIn raw).getD ⟨0, 0, 0, true⟩ := by
  let host := SteadyHost.connected.answers
  have run := (TerminalRun.start : TerminalRun .standard _ _)
    |>.step host (.command openCommand)
    |>.step host (.command statusCommand)
    |>.step host (.command [0x99])
    |>.step host (.report 1 1 .ready)
  obtain ⟨asked, hasked, h⟩ := answers_have_own_commands run
  exact ⟨_, _, run, by decide +kernel, asked, hasked, fun i => ⟨(h i).1, (h i).2.1⟩⟩

end CardChannels
