import CardChannels.Proofs.Table.Generations

/-!
# Operations on different channels

Commands and reports that are about different channels can change places: neither reads or changes
what the other is about, so the table comes out the same, and each gives out the same effects and
orders. Only the calls to the host need not: when the last two channels of a type are closed, it is
the second close that gives the type up.
-/
namespace CardChannels

namespace ChannelTable

namespace ActsOn

variable {t : ChannelTable} {j k : UInt8} {f g : ChannelTable → ChannelTable × Output}

/-- Operations on different channels can change places. -/
theorem comm (hf : ActsOn j (t.slots.get? j) f) (hg : ActsOn k (t.slots.get? k) g)
    (hjk : j ≠ k) :
    (g (f t).1).1 = (f (g t).1).1 ∧
      (f (g t).1).2.effects = (f t).2.effects ∧ (f (g t).1).2.orders = (f t).2.orders := by
  obtain ⟨a, effects, orders, -, hf⟩ := hf
  obtain ⟨b, effects', orders', -, hg⟩ := hg
  obtain ⟨htable, heffects, horders⟩ := hf t rfl
  obtain ⟨htable', -, -⟩ := hg t rfl
  -- Neither finds the slot of its channel changed by the other.
  have hslot : (g t).1.slots.get? j = t.slots.get? j := by
    rw [htable', get?_settle, if_neg hjk]
  have hslot' : (f t).1.slots.get? k = t.slots.get? k := by
    rw [htable, get?_settle, if_neg hjk.symm]
  obtain ⟨hlast, heffects', horders'⟩ := hf (g t).1 hslot
  obtain ⟨hlast', -, -⟩ := hg (f t).1 hslot'
  refine ⟨?_, heffects'.trans heffects.symm, horders'.trans horders.symm⟩
  rw [hlast, hlast', htable, htable', settle_comm hjk]

/-- An operation on one channel leaves the others as they are. -/
theorem frame (hf : ActsOn k (t.slots.get? k) f) (hj : j ≠ k) :
    (f t).1.slots.get? j = t.slots.get? j ∧
      (f t).1.bearers.requests.get? j = t.bearers.requests.get? j := by
  obtain ⟨fate, effects, orders, -, hf⟩ := hf
  rw [(hf t rfl).1, get?_settle, requests_settle, if_neg hj, if_neg hj]
  exact ⟨rfl, rfl⟩

end ActsOn

/-- Two inputs that can change places: the table comes out the same, and each gives out the same
effects and orders whichever comes first. -/
structure Commute (t : ChannelTable) (a b : TableInput) : Prop where
  table : ((t.step a).1.step b).1 = ((t.step b).1.step a).1
  effects : ((t.step b).1.step a).2.effects = (t.step a).2.effects
  effects' : ((t.step a).1.step b).2.effects = (t.step b).2.effects
  orders : ((t.step b).1.step a).2.orders = (t.step a).2.orders
  orders' : ((t.step a).1.step b).2.orders = (t.step b).2.orders

/-- An input that leaves the slots and the bearer requests of all channels but one as they are. -/
structure Confined (t : ChannelTable) (k : UInt8) (a : TableInput) : Prop where
  slots : ∀ j ≠ k, (t.step a).1.slots.get? j = t.slots.get? j
  requests : ∀ j ≠ k, (t.step a).1.bearers.requests.get? j = t.bearers.requests.get? j

end ChannelTable

/-- In every run, commands and reports that are about different channels can change places, and each
of them leaves all other channels and their bearer requests as they are. -/
theorem different_channels_commute (config : Config) (inputs : List TableInput) {a b : TableInput}
    {j k : UInt8} (ha : a.subject? = some j) (hb : b.subject? = some k) (hjk : j ≠ k) :
    (replay config inputs).2.Commute a b ∧ (replay config inputs).2.Confined j a ∧
      (replay config inputs).2.Confined k b := by
  have keyed := (among_replay config inputs).keyed
  have first := ChannelTable.actsOn_step ha (keyed j)
  have second := ChannelTable.actsOn_step hb (keyed k)
  obtain ⟨table, effects, orders⟩ := first.comm second hjk
  obtain ⟨-, effects', orders'⟩ := second.comm first hjk.symm
  refine ⟨⟨table, effects, effects', orders, orders'⟩, ?_, ?_⟩
  · exact ⟨fun i hi => (first.frame hi).1, fun i hi => (first.frame hi).2⟩
  · exact ⟨fun i hi => (second.frame hi).1, fun i hi => (second.frame hi).2⟩

/-- Two channels over access points of one type. -/
def twoOfOneType : List TableInput :=
  let host := { SteadyHost.connected with points := [⟨"bip.example", ["bip"]⟩] }
  let settings := { ChannelSettings.loopback with
    bearer := some packetBearer, accessName := some "bip.example" }
  [.openChannel host.answers (.toCommand 2 .openChannel 0) settings,
    .openChannel host.answers (.toCommand 1 .openChannel 0) settings]

/-- A close of a channel. -/
def TableInput.close (number channel : UInt8) : TableInput :=
  .closeChannel (.toCommand number .closeChannel 0) channel false

/-- Two channels of one type can be closed in either order. Only the call by which the type is given
up comes with the later close. -/
theorem closes_commute :
    (replay .standard twoOfOneType).2.Commute (.close 3 1) (.close 4 2) ∧
      (replay .standard twoOfOneType).2.Confined 1 (.close 3 1) ∧
      ((replay .standard twoOfOneType).2.step (.close 3 1)).2.calls = [] ∧
      (((replay .standard twoOfOneType).2.step (.close 4 2)).1.step (.close 3 1)).2.calls =
        [.disable "bip"] := by
  obtain ⟨commute, confined, -⟩ := different_channels_commute .standard twoOfOneType
    (show (TableInput.close 3 1).subject? = some 1 from rfl)
    (show (TableInput.close 4 2).subject? = some 2 from rfl) (by decide)
  exact ⟨commute, confined, by decide +kernel, by decide +kernel⟩

end CardChannels
