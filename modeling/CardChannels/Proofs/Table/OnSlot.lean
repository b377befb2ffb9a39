import CardChannels.Proofs.Channel.Operations
import CardChannels.Proofs.Table.Run

/-!
# What an operation does to one slot

Nearly every operation of the table is about one channel: it leaves the other slots as they are
and gives orders to no other task. Each such operation has one lemma here that says what becomes
of its slot, which effects there are, and which orders its task gets.
-/
namespace CardChannels

namespace Output

variable {a b : Output}

@[simp] theorem effects_append (a b : Output) : (a ++ b).effects = a.effects ++ b.effects := rfl
@[simp] theorem orders_append (a b : Output) : (a ++ b).orders = a.orders ++ b.orders := rfl
@[simp] theorem calls_append (a b : Output) : (a ++ b).calls = a.calls ++ b.calls := rfl
@[simp] theorem effects_call (calls : List HostCall) : (call calls).effects = [] := rfl
@[simp] theorem orders_call (calls : List HostCall) : (call calls).orders = [] := rfl
@[simp] theorem effects_respond (r : TerminalResponse) : (respond r).effects = [.respond r] := rfl
@[simp] theorem orders_respond (r : TerminalResponse) : (respond r).orders = [] := rfl
@[simp] theorem calls_respond (r : TerminalResponse) : (respond r).calls = [] := rfl
@[simp] theorem effects_raise (e : EventDownload) : (raise e).effects = [.raise e] := rfl
@[simp] theorem orders_raise (e : EventDownload) : (raise e).orders = [] := rfl
@[simp] theorem effects_none : none.effects = [] := rfl

@[simp] theorem append_none (a : Output) : a ++ none = a := by
  obtain ⟨effects, calls, orders⟩ := a
  change Output.mk (effects ++ []) (calls ++ []) (orders ++ []) = _
  simp only [List.append_nil]

theorem append_assoc (a b c : Output) : a ++ b ++ c = a ++ (b ++ c) := by
  change Output.mk (a.effects ++ b.effects ++ c.effects) (a.calls ++ b.calls ++ c.calls)
    (a.orders ++ b.orders ++ c.orders) = Output.mk (a.effects ++ (b.effects ++ c.effects))
    (a.calls ++ (b.calls ++ c.calls)) (a.orders ++ (b.orders ++ c.orders))
  simp only [List.append_assoc]

@[simp] theorem told_append (a b : Output) (k : UInt8) (g : Nat) :
    (a ++ b).told k g = a.told k g ++ b.told k g := by
  simp [told]

theorem told_of_orders_nil (h : a.orders = []) (k : UInt8) (g : Nat) : a.told k g = [] := by
  simp [told, h]

/-- Some response repeats the details of a command. -/
def Answers (out : Output) (reply : Reply) : Prop :=
  ∃ r, .respond r ∈ out.effects ∧ r.details = reply.details

theorem Answers.mono {reply : Reply} (h : a.Answers reply)
    (sub : ∀ e ∈ a.effects, e ∈ b.effects) : b.Answers reply := by
  obtain ⟨r, hr, hd⟩ := h
  exact ⟨r, sub _ hr, hd⟩

end Output

@[simp] theorem Slot.effects_orders (s : Slot) (orders : List Order) :
    (s.orders orders).effects = [] := rfl

@[simp] theorem Slot.orders_orders (s : Slot) (orders : List Order) :
    (s.orders orders).orders = orders.map fun o => ⟨s.channel.id, s.channel.generation, o⟩ := rfl

theorem Slot.orders_continues (s : Slot) {channel : Channel} (h : s.channel.Continues channel)
    (phase : Phase) (pending : Option PendingReply) (orders : List Order) :
    (Slot.mk channel phase pending).orders orders = s.orders orders := by
  simp only [Slot.orders, h.id, h.generation]

namespace Slot

/-- The answer to a send that is under way. -/
def sendAnswer (s : Slot) (answer : Reply → Nat → TerminalResponse) : List Effect :=
  match s.pending with
  | some (.sending reply free) => [.respond (answer reply free)]
  | _ => []

variable {s : Slot} {answer : Reply → Nat → TerminalResponse}

theorem mem_sendAnswer_iff {r : TerminalResponse} :
    .respond r ∈ s.sendAnswer answer ↔
      ∃ reply free, s.pending = some (.sending reply free) ∧ r = answer reply free := by
  unfold sendAnswer
  split
  · rename_i reply free hp
    rw [List.mem_singleton, Effect.respond.injEq]
    constructor
    · exact fun h => ⟨reply, free, hp, h⟩
    · rintro ⟨reply', free', hp', rfl⟩
      cases hp.symm.trans hp'
      rfl
  · rename_i hne
    simp only [List.not_mem_nil, false_iff]
    rintro ⟨reply, free, hp, -⟩
    exact hne reply free hp

/-- What answers the send that is under way answers its command. -/
theorem answers_of_sendAnswer {out : Output} {more : List Effect} {reply : Reply} {free : Nat}
    (h : out.effects = s.sendAnswer answer ++ more)
    (details : ∀ reply free, (answer reply free).details = reply.details)
    (hp : s.pending = some (.sending reply free)) : out.Answers reply := by
  have hmem : .respond (answer reply free) ∈ s.sendAnswer answer :=
    mem_sendAnswer_iff.mpr ⟨reply, free, hp, rfl⟩
  exact ⟨answer reply free, h ▸ List.mem_append_left more hmem, details reply free⟩

end Slot

/-- The result of an operation on one channel: what becomes of its slot, the effects, and the
orders for its task. -/
structure ChannelTable.OnSlot (t : ChannelTable) (k : UInt8) (g : Nat) (after : Option Slot)
    (effects : List Effect) (orders : List Order) (result : ChannelTable × Output) : Prop where
  slots : ∀ j, result.1.slots.get? j = if j = k then after else t.slots.get? j
  generation : result.1.generation = t.generation
  effects : result.2.effects = effects
  orders : result.2.orders = orders.map fun o => ⟨k, g, o⟩

namespace ChannelTable

variable {t : ChannelTable} {k j : UInt8} {g n : Nat} {after : Option Slot}
  {effects : List Effect} {orders : List Order} {result : ChannelTable × Output} {s : Slot}
  {reply : Reply} {modified : Bool} {refusal : Refusal}

namespace OnSlot

theorem self (h : t.OnSlot k g after effects orders result) : result.1.slots.get? k = after := by
  rw [h.slots, if_pos rfl]

theorem other (h : t.OnSlot k g after effects orders result) (hj : j ≠ k) :
    result.1.slots.get? j = t.slots.get? j := by
  rw [h.slots, if_neg hj]

theorem told_self (h : t.OnSlot k g after effects orders result) :
    result.2.told k g = orders := by
  simp [Output.told, h.orders, List.filter_map, Function.comp_def]

theorem told_other (h : t.OnSlot k g after effects orders result) (hj : j ≠ k) :
    result.2.told j n = [] := by
  simp [Output.told, h.orders, List.filter_map, Function.comp_def, Ne.symm hj]

end OnSlot

@[simp] theorem get?_put (t : ChannelTable) (s : Slot) (j : UInt8) :
    (t.put s).slots.get? j = if j = s.channel.id then some s else t.slots.get? j := by
  simp [put]

@[simp] theorem get?_free (t : ChannelTable) (k j : UInt8) :
    (t.free k).1.slots.get? j = if j = k then none else t.slots.get? j := by
  simp [free]

theorem giveUpOpen_fst (t : ChannelTable) (s : Slot) (refusal : Refusal) :
    (t.giveUpOpen s refusal).1 = (t.free s.channel.id).1 := by
  unfold giveUpOpen
  dsimp only
  split <;> rfl

theorem bearerLost_fst (t : ChannelTable) (s : Slot) :
    (t.bearerLost s).1 = (t.free s.channel.id).1 := by
  unfold bearerLost
  dsimp only
  split <;> rfl

/-! Results put together -/

namespace OnSlot

theorem unchanged (hs : t.slots.get? k = after) : t.OnSlot k g after [] [] (t, .none) := by
  constructor
  · intro j
    split
    · rename_i hj
      rw [hj, hs]
    · rfl
  · rfl
  · rfl
  · rfl

/-- The slot's channel goes on, in whatever phase. -/
theorem put (t : ChannelTable) (g : Nat) {channel : Channel} (h : s.channel.Continues channel)
    (phase : Phase) (pending : Option PendingReply) :
    t.OnSlot s.channel.id g (some ⟨channel, phase, pending⟩) [] []
      (t.put ⟨channel, phase, pending⟩, .none) := by
  constructor
  · intro j
    rw [get?_put, h.id]
  · rfl
  · rfl
  · rfl

theorem call (h : t.OnSlot k g after effects orders result) (calls : List HostCall) :
    t.OnSlot k g after effects orders (result.1, .call calls ++ result.2) :=
  ⟨h.slots, h.generation, h.effects, h.orders⟩

theorem respond (h : t.OnSlot k g after effects orders result) (r : TerminalResponse) :
    t.OnSlot k g after (effects ++ [.respond r]) orders (result.1, result.2 ++ .respond r) :=
  ⟨h.slots, h.generation, by simp [h.effects], by simp [h.orders]⟩

theorem raise (h : t.OnSlot k g after effects orders result) (e : EventDownload) :
    t.OnSlot k g after (effects ++ [.raise e]) orders (result.1, result.2 ++ .raise e) :=
  ⟨h.slots, h.generation, by simp [h.effects], by simp [h.orders]⟩

theorem order (h : t.OnSlot s.channel.id s.channel.generation after effects orders result)
    (first : List Order) :
    t.OnSlot s.channel.id s.channel.generation after effects (first ++ orders)
      (result.1, s.orders first ++ result.2) :=
  ⟨h.slots, h.generation, by simp [h.effects], by simp [h.orders]⟩

end OnSlot

theorem free_onSlot (t : ChannelTable) (k : UInt8) (g : Nat) :
    t.OnSlot k g none [] [] (t.free k) := by
  constructor
  · exact t.get?_free k
  · rfl
  · rfl
  · rfl

/-! An open that goes on -/

/-- How an open can go on: it waits as before, it is given up with an answer, or its socket task is
started. -/
inductive Progress (t : ChannelTable) (s : Slot) (reply : Reply) (result : ChannelTable × Output) :
    Prop
  | waits (effects : List Effect)
    (onSlot : t.OnSlot s.channel.id s.channel.generation (some s) effects [] result)
  | givenUp (refusal : Refusal)
    (onSlot : t.OnSlot s.channel.id s.channel.generation none
      [.respond (reply.failure refusal (some s.failureData))] [] result)
  | started (channel : Channel) (continues : s.channel.Continues channel) (orders : List Order)
    (onSlot : t.OnSlot s.channel.id s.channel.generation (some ⟨channel, .opening, s.pending⟩) []
      orders result)

theorem Progress.call (h : t.Progress s reply result) (calls : List HostCall) :
    t.Progress s reply (result.1, .call calls ++ result.2) := by
  cases h with
  | waits effects h => exact .waits effects (h.call calls)
  | givenUp refusal h => exact .givenUp refusal (h.call calls)
  | started channel hc orders h => exact .started channel hc orders (h.call calls)

/-- Which bearers there are has no part in it. -/
theorem Progress.ofBearers {bearers : BearerRegistry}
    (h : Progress { t with bearers := bearers } s reply result) : t.Progress s reply result := by
  cases h with
  | waits effects h => exact .waits effects ⟨h.slots, h.generation, h.effects, h.orders⟩
  | givenUp refusal h => exact .givenUp refusal ⟨h.slots, h.generation, h.effects, h.orders⟩
  | started channel hc orders h =>
    exact .started channel hc orders ⟨h.slots, h.generation, h.effects, h.orders⟩

theorem giveUpOpen_onSlot (t : ChannelTable) (refusal : Refusal)
    (hp : s.pending = some (.opening reply modified)) :
    t.OnSlot s.channel.id s.channel.generation none
      [.respond (reply.failure refusal (some s.failureData))] [] (t.giveUpOpen s refusal) := by
  have h : t.giveUpOpen s refusal =
      ((t.free s.channel.id).1, (t.free s.channel.id).2 ++
        .respond (reply.failure refusal (some s.failureData))) := by
    simp only [giveUpOpen, hp]
  rw [h]
  exact (t.free_onSlot _ _).respond _

theorem startSocket_progress (t : ChannelTable) (hp : s.pending = some (.opening reply modified)) :
    t.Progress s reply (t.startSocket s) := by
  unfold startSocket
  dsimp only
  split
  · rename_i channel orders hstart
    have hc := Channel.start_continues hstart
    have h := (OnSlot.put t s.channel.generation hc .opening s.pending).order orders
    rw [Output.append_none, List.append_nil] at h
    exact .started channel hc orders h
  · exact .givenUp _ (t.giveUpOpen_onSlot (s := { s with phase := .opening }) _ hp)

theorem afterBearer_progress (hs : t.slots.get? s.channel.id = some s)
    (hp : s.pending = some (.opening reply modified)) (outcome : BearerAnswer) :
    t.Progress s reply (t.afterBearer s outcome) := by
  cases outcome with
  | ready => exact t.startSocket_progress hp
  | pending => exact .waits [] (.unchanged hs)
  | retryAfter delay =>
    have h := OnSlot.unchanged (g := s.channel.generation) hs
    exact .waits _ ⟨h.slots, h.generation, rfl, rfl⟩
  | failed refusal => exact .givenUp refusal (t.giveUpOpen_onSlot refusal hp)

theorem openChannel_progress (t : ChannelTable) (host : Host) (reply : Reply)
    (settings : ChannelSettings) :
    (∃ cause, t.openChannel host reply settings = (t, refuseOpen reply settings cause)) ∨
      ∃ s modified, t.slots.get? s.channel.id = none ∧ s.channel.generation = t.generation + 1 ∧
        s.phase = .awaitingBearer ∧ s.pending = some (.opening reply modified) ∧
        Progress ({ t with generation := t.generation + 1 }.put s) s reply
          (t.openChannel host reply settings) := by
  unfold openChannel
  split
  · exact .inl ⟨_, rfl⟩
  · split
    · exact .inl ⟨_, rfl⟩
    · rename_i k hfree
      have hk : t.slots.get? k = none := by
        simpa [ChannelMap.contains] using List.find?_some hfree
      let size := negotiate settings.bufferSize t.maxBufferSize
      let agreed := { settings with bufferSize := size.1, channel := some k }
      refine .inr ⟨⟨.new k (t.generation + 1) agreed, .awaitingBearer,
        some (.opening reply size.2)⟩, size.2, hk, rfl, rfl, rfl, ?_⟩
      dsimp only
      split
      · exact startSocket_progress _ rfl
      · exact ((afterBearer_progress (by simp) rfl _).ofBearers).call _

end ChannelTable

end CardChannels
