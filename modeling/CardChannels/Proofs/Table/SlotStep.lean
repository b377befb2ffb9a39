import CardChannels.Proofs.Table.Operations

/-!
# What a step does to a slot

Whatever a table has to deal with, a slot changes in one of a few ways. They are told apart by what
becomes of the phase and of the answer that the slot waits to give, since that is all that the
promises about answers and events depend on. What holds along runs is proved from this list, not
from the operations.
-/
namespace CardChannels

/-- A slot in which an open waits for its answer as long as it is not over. -/
structure Slot.Sound (k : UInt8) (s : Slot) : Prop where
  id : s.channel.id = k
  pending : s.phase ≠ .opened ↔ ∃ reply modified, s.pending = some (.opening reply modified)

/-- How one step can change the slot of a channel. The newest generation is `last` before the step
and `next` after it. -/
inductive SlotStep (last next : Nat) (k : UInt8) (input : TableInput) (out : Output) :
    Option Slot → Option Slot → Prop
  | unused : SlotStep last next k input out none none
  /-- An open has got the number. -/
  | created {s : Slot} {reply : Reply} {modified : Bool} (id : s.channel.id = k)
    (new : last < s.channel.generation) (known : s.channel.generation ≤ next)
    (phase : s.phase ≠ .opened)
    (pending : s.pending = some (.opening reply modified))
    (unheard : input.heard k s.channel.generation = none) :
    SlotStep last next k input out none (some s)
  /-- The channel works, and nothing is begun or settled. -/
  | worked {s : Slot} {channel : Channel} (continues : s.channel.Continues channel)
    (minor : ∀ o ∈ out.told k s.channel.generation, o.minor = true)
    (heard : ∀ r, input.heard k s.channel.generation = some r →
      s.phase = .opened ∧ r.tellsSent = false) :
    SlotStep last next k input out (some s) (some { s with channel := channel })
  /-- The socket task of an open is started. -/
  | started {s : Slot} {channel : Channel} {reply : Reply} {modified : Bool}
    (continues : s.channel.Continues channel)
    (pending : s.pending = some (.opening reply modified))
    (unheard : input.heard k s.channel.generation = none) :
    SlotStep last next k input out (some s) (some ⟨channel, .opening, s.pending⟩)
  /-- The channel is open. -/
  | completed {s : Slot} {channel : Channel} {reply : Reply} {modified : Bool}
    (continues : s.channel.Continues channel)
    (pending : s.pending = some (.opening reply modified))
    (heard : input.heard k s.channel.generation = some .ready) (answered : out.Answers reply) :
    SlotStep last next k input out (some s) (some ⟨channel, .opened, none⟩)
  /-- The bytes of a send are on their way. -/
  | flushing {s : Slot} {channel : Channel} {reply : Reply} {data : Transfer} {bytes : Bytes}
    {free : Nat} (continues : s.channel.Continues channel)
    (sends : input = .sendData reply data true) (phase : s.phase = .opened)
    (pending : s.pending = none) (told : out.told k s.channel.generation = [.write bytes]) :
    SlotStep last next k input out (some s) (some ⟨channel, s.phase, some (.sending reply free)⟩)
  /-- A send is answered, if one is under way. -/
  | settled {s : Slot} {channel : Channel} (continues : s.channel.Continues channel)
    (phase : s.phase = .opened)
    (answered : ∀ reply free, s.pending = some (.sending reply free) → out.Answers reply) :
    SlotStep last next k input out (some s) (some ⟨channel, s.phase, none⟩)
  /-- An open has failed. -/
  | givenUp {s : Slot} {reply : Reply} {modified : Bool}
    (pending : s.pending = some (.opening reply modified)) (answered : out.Answers reply) :
    SlotStep last next k input out (some s) none
  /-- The card has closed the channel. -/
  | closed {s : Slot} {reply : Reply} {keepListening : Bool}
    (closes : input = .closeChannel reply k keepListening) :
    SlotStep last next k input out (some s) none
  /-- The socket task could not send. -/
  | sendFailed {s : Slot} (heard : input.heard k s.channel.generation = some (.sent false))
    (phase : s.phase = .opened)
    (answered : ∀ reply free, s.pending = some (.sending reply free) → out.Answers reply) :
    SlotStep last next k input out (some s) none
  /-- An open channel has lost its bearer. -/
  | lost {s : Slot} {status : ChannelStatus}
    (unheard : input.heard k s.channel.generation = none) (phase : s.phase = .opened)
    (answered : ∀ reply free, s.pending = some (.sending reply free) → out.Answers reply)
    (raised : .raise (.channelStatus status) ∈ out.effects) (names : status.channel = k) :
    SlotStep last next k input out (some s) none
  /-- The session is over. -/
  | ended {s : Slot} {after : Option Slot} (ends : input.endsSession = true)
    (phase : after = none ∨ s.phase = .opened ∧
      ∃ channel, s.channel.Continues channel ∧ after = some ⟨channel, s.phase, none⟩) :
    SlotStep last next k input out (some s) after

namespace SlotStep

variable {last next : Nat} {k : UInt8} {input : TableInput} {out out' : Output}
  {before after : Option Slot}

/-- Nothing happens to the slot. -/
theorem same (htold : ∀ g, out.told k g = [])
    (hheard : ∀ s, before = some s → input.heard k s.channel.generation = none) :
    SlotStep last next k input out before before := by
  cases before with
  | none => exact .unused
  | some s =>
    refine .worked ⟨rfl, rfl⟩ ?_ ?_
    · rw [htold]
      simp
    · intro r hr
      rw [hheard s rfl] at hr
      cases hr

/-- More effects take nothing away. -/
theorem mono (h : SlotStep last next k input out before after)
    (htold : ∀ g, out'.told k g = out.told k g) (heffects : ∀ e ∈ out.effects, e ∈ out'.effects) :
    SlotStep last next k input out' before after := by
  cases h with
  | unused => exact .unused
  | created id new known phase pending unheard =>
    exact .created id new known phase pending unheard
  | worked continues minor heard => exact .worked continues (by rwa [htold]) heard
  | started continues pending unheard => exact .started continues pending unheard
  | completed continues pending heard answered =>
    exact .completed continues pending heard (answered.mono heffects)
  | flushing continues sends phase pending told =>
    exact .flushing continues sends phase pending (by rwa [htold])
  | settled continues phase answered =>
    exact .settled continues phase fun reply free hp => (answered reply free hp).mono heffects
  | givenUp pending answered => exact .givenUp pending (answered.mono heffects)
  | closed closes => exact .closed closes
  | sendFailed heard phase answered =>
    exact .sendFailed heard phase fun reply free hp => (answered reply free hp).mono heffects
  | lost unheard phase answered raised names =>
    exact .lost unheard phase (fun reply free hp => (answered reply free hp).mono heffects)
      (heffects _ raised) names
  | ended ends phase => exact .ended ends phase

end SlotStep

/-- A step in which every slot changes in one of these ways, and which gives no orders to channels
that do not exist yet. -/
structure ChannelTable.Stepped (t : ChannelTable) (input : TableInput)
    (result : ChannelTable × Output) : Prop where
  slot : ∀ k, SlotStep t.generation result.1.generation k input result.2 (t.slots.get? k)
    (result.1.slots.get? k)
  generation : t.generation ≤ result.1.generation
  told : ∀ k g, result.1.generation < g → result.2.told k g = []

namespace ChannelTable

variable {t : ChannelTable} {input : TableInput} {result : ChannelTable × Output} {s : Slot}
  {k : UInt8} {g : Nat} {after : Option Slot} {effects : List Effect} {orders : List Order}
  {reply : Reply} {modified : Bool}

theorem OnSlot.told_eq_nil (h : t.OnSlot k g after effects orders result) {j : UInt8} {n : Nat}
    (hn : n ≠ g) : result.2.told j n = [] := by
  simp [Output.told, h.orders, List.filter_map, Function.comp_def, Ne.symm hn]

/-- An operation on one channel is a step when it is one for that channel. -/
theorem OnSlot.stepped (h : t.OnSlot k g after effects orders result) (hg : g ≤ t.generation)
    (own : SlotStep t.generation result.1.generation k input result.2 (t.slots.get? k) after)
    (unheard : ∀ j ≠ k, ∀ n, input.heard j n = none) : t.Stepped input result := by
  constructor
  · intro j
    by_cases hj : j = k
    · subst hj
      rw [h.self]
      exact own
    · rw [h.other hj]
      exact .same (fun n => h.told_other hj) fun _ _ => unheard j hj _
  · exact Nat.le_of_eq h.generation.symm
  · intro j n hn
    rw [h.generation] at hn
    exact h.told_eq_nil (by omega)

/-- Nothing happens to any slot. -/
theorem stepped_of_unchanged (hslots : result.1.slots = t.slots)
    (hgen : t.generation ≤ result.1.generation) (horders : result.2.orders = [])
    (unheard : ∀ k s, t.slots.get? k = some s → input.heard k s.channel.generation = none) :
    t.Stepped input result := by
  have htold := Output.told_of_orders_nil horders
  constructor
  · intro k
    rw [hslots]
    exact .same (htold k) (unheard k)
  · exact hgen
  · exact fun k g _ => htold k g

theorem Progress.onSlot (h : t.Progress s reply result) :
    ∃ after effects orders,
      t.OnSlot s.channel.id s.channel.generation after effects orders result := by
  cases h with
  | waits effects h => exact ⟨_, _, _, h⟩
  | givenUp refusal h => exact ⟨_, _, _, h⟩
  | started channel continues orders h => exact ⟨_, _, _, h⟩

/-- An open that goes on is a step for its slot. -/
theorem Progress.slotStep (h : t.Progress s reply result)
    (hp : s.pending = some (.opening reply modified))
    (unheard : input.heard s.channel.id s.channel.generation = none) {last next : Nat} :
    SlotStep last next s.channel.id input result.2 (some s) (result.1.slots.get? s.channel.id) := by
  cases h with
  | waits effects h =>
    rw [h.self]
    refine .worked ⟨rfl, rfl⟩ ?_ ?_
    · simp [h.told_self]
    · simp [unheard]
  | givenUp refusal h =>
    rw [h.self]
    exact .givenUp hp ⟨reply.failure refusal (some s.failureData), by simp [h.effects], rfl⟩
  | started channel continues orders h =>
    rw [h.self]
    exact .started continues hp unheard

/-- A table whose slots are sound and have generations that were given out. -/
structure Sound (t : ChannelTable) : Prop where
  slot : ∀ k s, t.slots.get? k = some s → s.Sound k
  generation : ∀ k s, t.slots.get? k = some s → s.channel.generation ≤ t.generation

end ChannelTable

end CardChannels
