import CardChannels.Proofs.Table.Answers
import Mathlib.Data.List.Perm.Basic

/-!
# Answers that are owed

A channel that has an open or a send under way owes the answer to it. Whatever a step of the table
answers was owed before, or is asked for by the step itself, and what is answered is no longer owed.
That needs no assumption on what socket tasks report: an answer may be lost, but none is made up.
-/
namespace CardChannels

/-- The details that a channel in use has to answer. -/
def Slot.owes (s : Slot) : List CommandDetails := (s.pending.map (·.reply.details)).toList

/-- The details that an effect answers. -/
def Effect.answered? : Effect → Option CommandDetails
  | .respond r => some r.details
  | .raise _ | .retry .. => none

/-- The details that are answered, in order. -/
def Output.answered (out : Output) : List CommandDetails := out.effects.filterMap Effect.answered?

@[simp] theorem Output.answered_append (a b : Output) :
    (a ++ b).answered = a.answered ++ b.answered := List.filterMap_append

@[simp] theorem Output.answered_none : Output.none.answered = [] := rfl

@[simp] theorem Output.answered_call (calls : List HostCall) : (call calls).answered = [] := rfl

@[simp] theorem Output.answered_respond (r : TerminalResponse) :
    (respond r).answered = [r.details] := rfl

@[simp] theorem Output.answered_raise (e : EventDownload) : (raise e).answered = [] := rfl

@[simp] theorem Slot.answered_orders (s : Slot) (orders : List Order) :
    (s.orders orders).answered = [] := rfl

@[simp] theorem ChannelTable.answered_free (t : ChannelTable) (k : UInt8) :
    (t.free k).2.answered = [] := rfl

@[simp] theorem Reply.details_success (r : Reply) (result : ResultCode) (data : Option Payload) :
    (r.success result data).details = r.details := rfl

@[simp] theorem Reply.details_failure (r : Reply) (refusal : Refusal) (data : Option Payload) :
    (r.failure refusal data).details = r.details := rfl

theorem Slot.owes_of_pending {s : Slot} {p : PendingReply} (hp : s.pending = some p) :
    s.owes = [p.reply.details] := by
  simp [owes, hp]

@[simp] theorem Slot.owes_nothing (channel : Channel) (phase : Phase) :
    owes ⟨channel, phase, none⟩ = [] := rfl

namespace ChannelMap

variable {α : Type} {m : ChannelMap α} {k : UInt8} {v : α}

theorem nodup_entries (m : ChannelMap α) : m.entries.Nodup :=
  m.ascending.imp fun hlt heq => UInt8.ne_of_lt hlt (congrArg Prod.fst heq)

/-- A map is made of one value and of the others. -/
theorem perm_erase (h : m.get? k = some v) : m.values.Perm (v :: (m.erase k).values) := by
  have hnodup : ((k, v) :: (m.erase k).entries).Nodup := by
    refine List.nodup_cons.mpr ⟨fun hmem => ?_, (m.erase k).nodup_entries⟩
    have hget := get?_eq_some_iff.mpr hmem
    rw [get?_erase, if_pos rfl] at hget
    cases hget
  have hperm : m.entries.Perm ((k, v) :: (m.erase k).entries) := by
    rw [List.perm_ext_iff_of_nodup m.nodup_entries hnodup]
    rintro ⟨j, w⟩
    rw [List.mem_cons, ← get?_eq_some_iff, ← get?_eq_some_iff, get?_erase, Prod.mk.injEq]
    by_cases hj : j = k
    · rw [hj, h, if_pos rfl]
      simp [eq_comm]
    · simp [hj]
  exact hperm.map _

end ChannelMap

namespace ChannelTable

/-- Everything that is owed. -/
def owed (t : ChannelTable) : List CommandDetails := t.slots.values.flatMap Slot.owes

/-- What the channel of one number owes. -/
def owedBy (t : ChannelTable) (k : UInt8) : List CommandDetails :=
  (t.slots.get? k).elim [] Slot.owes

/-- Every slot is kept under its channel's number. -/
def Keyed (t : ChannelTable) : Prop := ∀ k s, t.slots.get? k = some s → s.channel.id = k

/-- The result of a step that answers nothing but what was owed or what it is asked, and that does
not owe anything else afterwards. -/
structure Balanced (t : ChannelTable) (asked : List CommandDetails)
    (result : ChannelTable × Output) : Prop where
  keyed : result.1.Keyed
  covered : ∀ d, result.2.answered.count d + result.1.owed.count d ≤
    t.owed.count d + asked.count d

variable {t t' : ChannelTable} {k : UInt8} {s : Slot} {out : Output}
  {result : ChannelTable × Output} {asked : List CommandDetails} {channel : Channel}

/-- What is owed is what one number owes and what the others owe. -/
theorem count_owed (t : ChannelTable) (k : UInt8) (d : CommandDetails) :
    t.owed.count d = (t.owedBy k).count d +
      ((t.slots.erase k).values.flatMap Slot.owes).count d := by
  unfold owed owedBy
  rcases hs : t.slots.get? k with _ | s
  · rw [ChannelMap.erase_of_none hs, Option.elim_none, List.count_nil, Nat.zero_add]
  · rw [((ChannelMap.perm_erase hs).flatMap_right Slot.owes).count_eq, List.flatMap_cons,
      List.count_append, Option.elim_some]

theorem owedBy_self (keyed : t.Keyed) (hs : t.slots.get? k = some s) :
    t.owedBy s.channel.id = s.owes := by
  rw [owedBy, keyed k s hs, hs, Option.elim_some]

/-- A step that changes one slot is balanced when it is for that slot. -/
theorem balanced_of_slots (keyed : t.Keyed) (k : UInt8) (after : Option Slot)
    (slots : ∀ j, t'.slots.get? j = if j = k then after else t.slots.get? j)
    (id : ∀ s, after = some s → s.channel.id = k)
    (covered : ∀ d, out.answered.count d + (after.elim [] Slot.owes).count d ≤
      (t.owedBy k).count d + asked.count d) : t.Balanced asked (t', out) := by
  constructor
  · intro j s hs
    rw [slots] at hs
    split at hs
    · rename_i hj
      exact hj ▸ id s hs
    · exact keyed j s hs
  · intro d
    -- The other slots owe what they did before, so that only this one counts.
    have hothers : t'.slots.erase k = t.slots.erase k := by
      apply ChannelMap.eq_of_get?_eq
      intro j
      rw [ChannelMap.get?_erase, ChannelMap.get?_erase, slots]
      split <;> rfl
    have hself : t'.owedBy k = after.elim [] Slot.owes := by rw [owedBy, slots, if_pos rfl]
    have hown := covered d
    rw [count_owed t k, count_owed t' k, hothers, hself]
    dsimp only
    omega

/-- A channel goes on, and owes what is left of what it owed or was asked. -/
theorem balanced_put (keyed : t.Keyed) (own : t.owedBy s.channel.id = s.owes)
    (continues : s.channel.Continues channel) (phase : Phase) (pending : Option PendingReply)
    (covered : ∀ d, out.answered.count d + (Slot.owes ⟨channel, phase, pending⟩).count d ≤
      s.owes.count d + asked.count d) :
    t.Balanced asked (t.put ⟨channel, phase, pending⟩, out) := by
  refine balanced_of_slots keyed s.channel.id (some ⟨channel, phase, pending⟩) ?_ ?_ fun d => ?_
  · intro j
    rw [get?_put, continues.id]
  · rintro s' h
    cases h
    exact continues.id
  · rw [own]
    exact covered d

/-- A channel ends, and what it owed is answered or dropped. -/
theorem balanced_free (keyed : t.Keyed) (k : UInt8)
    (covered : ∀ d, out.answered.count d ≤ (t.owedBy k).count d + asked.count d) :
    t.Balanced asked ((t.free k).1, out) :=
  balanced_of_slots keyed k none (t.get?_free k) (by simp) covered

namespace Balanced

theorem unchanged (keyed : t.Keyed) (h : out.answered = []) : t.Balanced asked (t, out) :=
  ⟨keyed, fun d => by simp [h]⟩

theorem refused (keyed : t.Keyed) {details : CommandDetails} (h : out.answered = [details]) :
    t.Balanced [details] (t, out) :=
  ⟨keyed, fun d => by simp [h, Nat.add_comm]⟩

/-- A step after a step; what the first is asked may be left for the second. -/
theorem trans (h : t.Balanced asked (t', out)) (h' : t'.Balanced [] result) :
    t.Balanced asked (result.1, out ++ result.2) := by
  refine ⟨h'.keyed, fun d => ?_⟩
  have h := h.covered d
  have h' := h'.covered d
  simp only [Output.answered_append, List.count_append, List.count_nil] at h h' ⊢
  omega

/-- Calls to the host and orders to socket tasks have no part in it. -/
theorem behind (h : t.Balanced asked result) {first : Output} (hfirst : first.answered = []) :
    t.Balanced asked (result.1, first ++ result.2) := by
  refine ⟨h.keyed, fun d => ?_⟩
  rw [Output.answered_append, hfirst, List.nil_append]
  exact h.covered d

/-- Neither has which bearers there are. -/
theorem ofBearers {bearers : BearerRegistry}
    (h : Balanced { t with bearers := bearers } asked result) : t.Balanced asked result :=
  ⟨h.keyed, h.covered⟩

end Balanced

/-! An open that goes on -/

theorem balanced_giveUpOpen (keyed : t.Keyed) (own : t.owedBy s.channel.id = s.owes)
    (refusal : Refusal) : t.Balanced [] (t.giveUpOpen s refusal) := by
  unfold giveUpOpen
  dsimp only
  split
  · rename_i reply modified hp
    refine balanced_free keyed s.channel.id fun d => ?_
    rw [own, Slot.owes_of_pending hp]
    simp [PendingReply.reply]
  · exact balanced_free keyed s.channel.id fun d => by simp

theorem balanced_startSocket (keyed : t.Keyed) (own : t.owedBy s.channel.id = s.owes) :
    t.Balanced [] (t.startSocket s) := by
  unfold startSocket
  dsimp only
  split
  · rename_i channel orders hstart
    refine balanced_put keyed own (Channel.start_continues hstart) .opening s.pending fun d => ?_
    simp [Slot.owes]
  · exact balanced_giveUpOpen (s := { s with phase := .opening }) keyed own _

theorem balanced_afterBearer (keyed : t.Keyed) (own : t.owedBy s.channel.id = s.owes)
    (outcome : BearerAnswer) : t.Balanced [] (t.afterBearer s outcome) := by
  cases outcome with
  | ready => exact balanced_startSocket keyed own
  | pending => exact .unchanged keyed rfl
  | retryAfter delay => exact .unchanged keyed rfl
  | failed refusal => exact balanced_giveUpOpen keyed own refusal

/-! Commands -/

theorem balanced_openChannel (keyed : t.Keyed) (host : Host) (reply : Reply)
    (settings : ChannelSettings) :
    t.Balanced [reply.details] (t.openChannel host reply settings) := by
  unfold openChannel
  split
  · exact .refused keyed rfl
  · split
    · exact .refused keyed rfl
    · rename_i k hfree
      have hk : t.slots.get? k = none := by
        simpa [ChannelMap.contains] using List.find?_some hfree
      let size := negotiate settings.bufferSize t.maxBufferSize
      let slot : Slot := ⟨.new k (t.generation + 1)
        { settings with bufferSize := size.1, channel := some k }, .awaitingBearer,
        some (.opening reply size.2)⟩
      let opened := { t with generation := t.generation + 1 }.put slot
      have hopened : t.Balanced [reply.details] (opened, .none) := by
        refine balanced_of_slots keyed k (some slot) (get?_put _ slot) ?_ fun d => ?_
        · rintro s h
          cases h
          rfl
        · simp [Slot.owes_of_pending (s := slot) rfl, PendingReply.reply]
      have own : opened.owedBy slot.channel.id = slot.owes :=
        owedBy_self hopened.keyed ((get?_put ..).trans (if_pos rfl))
      dsimp only
      split
      · exact hopened.trans (balanced_startSocket hopened.keyed own)
      · rename_i bearer _
        let answer := t.bearers.request host k bearer settings.accessName
        let looked := { opened with bearers := answer.1 }
        have h := (balanced_afterBearer (t := looked) hopened.keyed own answer.2.1).behind
          (Output.answered_call answer.2.2)
        exact hopened.trans h.ofBearers

theorem balanced_closeChannel (keyed : t.Keyed) (reply : Reply) (k : UInt8)
    (keepListening : Bool) :
    t.Balanced [reply.details] (t.closeChannel reply k keepListening) := by
  unfold closeChannel
  split
  · exact .refused keyed rfl
  · rename_i s hs
    have own := owedBy_self keyed hs
    have continues := Channel.close_continues (c := s.channel) keepListening
    rcases hclose : s.channel.close keepListening with ⟨closed, outcome, orders⟩
    rw [hclose] at continues
    cases outcome with
    | released =>
      refine balanced_free keyed k fun d => ?_
      simp
    | listening =>
      refine balanced_put keyed own continues s.phase s.pending fun d => ?_
      simp [Slot.owes, Nat.add_comm]

theorem balanced_sendData (keyed : t.Keyed) (reply : Reply) (data : Transfer)
    (immediate : Bool) : t.Balanced [reply.details] (t.sendData reply data immediate) := by
  unfold sendData
  split
  · exact .refused keyed rfl
  · rename_i s hs
    have own := owedBy_self keyed hs
    split
    · exact .refused keyed rfl
    · have continues := Channel.send_continues (c := s.channel) data.data immediate
      rcases hsend : s.channel.send data.data immediate with ⟨channel, outcome, orders⟩
      rw [hsend] at continues
      have answered (r : TerminalResponse) (hr : r.details = reply.details) :
          t.Balanced [reply.details] (t.put { s with channel := channel }, .respond r) := by
        refine balanced_put keyed own continues s.phase s.pending fun d => ?_
        simp [hr, Slot.owes, Nat.add_comm]
      cases outcome with
      | buffered free => exact answered _ rfl
      | flushing free =>
        refine balanced_put keyed own continues s.phase (some (.sending reply free)) fun d => ?_
        simp [Slot.owes, PendingReply.reply]
      | closed => exact answered _ rfl

theorem balanced_receiveData (keyed : t.Keyed) (reply : Reply) (data : Transfer) :
    t.Balanced [reply.details] (t.receiveData reply data) := by
  unfold receiveData
  split
  · exact .refused keyed rfl
  · rename_i s hs
    have own := owedBy_self keyed hs
    have continues := Channel.receive_continues (c := s.channel) data.length
    rcases hreceive : s.channel.receive data.length with ⟨channel, outcome, orders⟩
    rw [hreceive] at continues
    refine balanced_put keyed own continues s.phase s.pending fun d => ?_
    cases outcome <;> simp [Slot.owes, Nat.add_comm]

/-! Reports -/

/-- What a report means answers only what the channel owes. -/
theorem balanced_applyUpshot (keyed : t.Keyed) (own : t.owedBy s.channel.id = s.owes)
    (continues : s.channel.Continues channel) (told : Upshot) :
    t.Balanced [] (t.applyUpshot { s with channel := channel } told) := by
  have own' : t.owedBy channel.id = s.owes := by rw [continues.id, own]
  have kept (phase : Phase) {out : Output} (h : ∀ d, out.answered.count d ≤ s.owes.count d) :
      t.Balanced [] (t.put ⟨channel, phase, none⟩, out) :=
    balanced_put keyed own continues phase none fun d => by simpa using h d
  have worked {out : Output} (h : out.answered = []) :
      t.Balanced [] (t.put { s with channel := channel }, out) :=
    balanced_put keyed own continues s.phase s.pending fun d => by simp [h, Slot.owes]
  cases told with
  | opened status =>
    refine kept .opened fun d => ?_
    dsimp only
    split
    · rename_i hp
      simp [Slot.owes_of_pending hp, PendingReply.reply]
    · simp
  | openFailed cause => exact balanced_giveUpOpen (s := { s with channel := channel }) keyed own' _
  | sent =>
    refine kept s.phase fun d => ?_
    dsimp only
    split
    · rename_i hp
      simp [Slot.owes_of_pending hp, PendingReply.reply]
    · simp
  | sendFailed =>
    unfold applyUpshot
    dsimp only
    split
    · rename_i hp
      refine balanced_free keyed channel.id fun d => ?_
      simp [own', Slot.owes_of_pending hp, PendingReply.reply]
    · exact balanced_free keyed channel.id fun d => by simp
  | dataAvailable status available => exact worked rfl
  | statusChanged status =>
    unfold applyUpshot
    dsimp only
    split
    · exact worked rfl
    · refine kept s.phase fun d => ?_
      split
      · rename_i hp
        simp [Slot.owes_of_pending hp, PendingReply.reply]
      · simp
  | ignored => exact worked rfl

theorem balanced_report (keyed : t.Keyed) (k : UInt8) (g : Nat) (r : Report) :
    t.Balanced [] (t.report k g r) := by
  unfold report
  split
  · exact .unchanged keyed rfl
  · rename_i s hs
    have own := owedBy_self keyed (of_current? hs).1
    exact (balanced_applyUpshot keyed own (Channel.report_continues r) _).behind rfl

theorem balanced_taskEnded (keyed : t.Keyed) (k : UInt8) (g : Nat) :
    t.Balanced [] (t.taskEnded k g, .none) := by
  unfold taskEnded
  split
  · exact .unchanged keyed rfl
  · rename_i s hs
    have own := owedBy_self keyed (of_current? hs).1
    have continues : s.channel.Continues { s.channel with ended := true } := ⟨rfl, rfl⟩
    exact balanced_put keyed own continues s.phase s.pending fun d => by simp [Slot.owes]

/-! Bearers -/

theorem balanced_bearerRetry (keyed : t.Keyed) (host : Host) (k : UInt8) (g : Nat) :
    t.Balanced [] (t.bearerRetry host k g) := by
  unfold bearerRetry
  split
  · exact .unchanged keyed rfl
  · rename_i s hs
    have own := owedBy_self keyed (of_current? hs).1
    split
    · exact .unchanged keyed rfl
    · let looked := { t with bearers := (t.bearers.retry host k).1 }
      dsimp only
      split
      · exact (Balanced.unchanged (t := looked) keyed rfl).ofBearers
      · exact ((balanced_afterBearer (t := looked) keyed own _).behind rfl).ofBearers

theorem balanced_bearerLost (keyed : t.Keyed) (own : t.owedBy s.channel.id = s.owes) :
    t.Balanced [] (t.bearerLost s) := by
  unfold bearerLost
  dsimp only
  split
  all_goals
    rename_i hp
    refine balanced_free keyed s.channel.id fun d => ?_
    simp [own, Slot.owes, hp, PendingReply.reply]

theorem balanced_bearerChange (keyed : t.Keyed) (k : UInt8) (told : BearerChange) :
    t.Balanced [] (t.bearerChange k told) := by
  unfold bearerChange
  split
  · exact .unchanged keyed rfl
  · rename_i s hs
    have own := owedBy_self keyed hs
    cases told with
    | ready =>
      dsimp only
      split
      · exact balanced_startSocket keyed own
      · exact .unchanged keyed rfl
    | failed refusal =>
      dsimp only
      split
      · exact balanced_giveUpOpen keyed own refusal
      · exact .unchanged keyed rfl
    | lost => exact balanced_bearerLost keyed own

/-! Several channels in turn, and ends -/

theorem balanced_each {α : Type} {f : ChannelTable → α → ChannelTable × Output}
    (hf : ∀ (t : ChannelTable) (a : α), t.Keyed → t.Balanced [] (f t a)) (keyed : t.Keyed)
    (l : List α) : t.Balanced [] (t.each f l) := by
  induction l generalizing t with
  | nil => exact .unchanged keyed rfl
  | cons a rest ih =>
    have h := hf t a keyed
    exact h.trans (ih h.keyed)

theorem balanced_connectionChanged (keyed : t.Keyed) (change : ConnectionChange) :
    t.Balanced [] (t.connectionChanged change) := by
  let rest := { t with bearers := (t.bearers.connectionChanged change).1 }
  have h : rest.Balanced [] (rest.bearerChanges (t.bearers.changes change)) :=
    balanced_each (t := rest) (fun t a keyed => balanced_bearerChange keyed a.1 a.2) keyed _
  exact (h.behind rfl).ofBearers

/-- The end of the session drops the answer that a channel owes. -/
theorem balanced_endSession (keyed : t.Keyed) (s : Slot) : t.Balanced [] (t.endSession s) := by
  have freed {out : Output} (h : out.answered = []) :
      t.Balanced [] ((t.free s.channel.id).1, out) :=
    balanced_free keyed s.channel.id fun d => by simp [h]
  unfold endSession
  split
  · exact freed rfl
  · have continues := Channel.sessionEnd_continues (c := s.channel)
    rcases hend : s.channel.sessionEnd with ⟨channel, outcome, orders⟩
    rw [hend] at continues
    cases outcome with
    | keep =>
      refine balanced_of_slots keyed s.channel.id (some ⟨channel, s.phase, none⟩) ?_ ?_ fun d => ?_
      · intro j
        rw [get?_put, continues.id]
      · intro s' h
        cases h
        exact continues.id
      · simp
    | release => exact freed rfl

theorem balanced_sessionEnd (keyed : t.Keyed) : t.Balanced [] t.sessionEnd := by
  let rest := { t with bearers := t.bearers.dropUnready.1 }
  have h : rest.Balanced [] (rest.endSessions t.slots.values) :=
    balanced_each (t := rest) (fun t s keyed => balanced_endSession keyed s) keyed _
  exact (h.behind rfl).ofBearers

theorem balanced_cardRemoved (t : ChannelTable) : t.Balanced [] t.cardRemoved := by
  constructor
  · intro k s hs
    cases hs
  · intro d
    exact Nat.zero_le _

end ChannelTable

end CardChannels
