import CardChannels.Proofs.Bearer.Account
import CardChannels.Proofs.Table.Operations

/-!
# What is done to one channel alone

A close, a send, a receive, a report and the end of a socket task read the slot of the channel that
they are about, and the slot alone tells what they do: they leave it, replace it by one with which
the channel goes on, or free it together with the bearer request of its number. Nothing else in the
table is changed. Nothing is assumed of what socket tasks report.
-/
namespace CardChannels

namespace ChannelMap

variable {α : Type} {m : ChannelMap α} {j k : UInt8}

/-- The map with the value of a channel made from the one it has, if it has one. -/
def alter (m : ChannelMap α) (k : UInt8) (f : Option α → Option α) : ChannelMap α :=
  match f (m.get? k) with
  | some v => m.insert k v
  | none => m.erase k

@[simp] theorem get?_alter (m : ChannelMap α) (k j : UInt8) (f : Option α → Option α) :
    (m.alter k f).get? j = if j = k then f (m.get? k) else m.get? j := by
  unfold alter
  split
  · rename_i v hv
    rw [get?_insert, hv]
  · rename_i hv
    rw [get?_erase, hv]

theorem alter_id (m : ChannelMap α) (k : UInt8) : m.alter k id = m := by
  apply eq_of_get?_eq
  intro j
  rw [get?_alter]
  by_cases hj : j = k
  · rw [if_pos hj, hj, id]
  · rw [if_neg hj]

/-- Changes of the values of different channels can change places. -/
theorem alter_comm (hjk : j ≠ k) (f g : Option α → Option α) :
    (m.alter j f).alter k g = (m.alter k g).alter j f := by
  apply eq_of_get?_eq
  intro i
  simp only [get?_alter, if_neg hjk, if_neg hjk.symm]
  by_cases hj : i = j
  · rw [hj, if_neg hjk, if_pos rfl, if_pos rfl]
  · rw [if_neg hj, if_neg hj]

end ChannelMap

/-- What is done to a channel: nothing, or it has another slot afterwards, or none and no bearer
request either. -/
inductive Fate where
  | left
  | kept (s : Slot)
  | freed

namespace Fate

/-- What becomes of the channel's slot. -/
def slot : Fate → Option Slot → Option Slot
  | left, before => before
  | kept s, _ => some s
  | freed, _ => none

/-- What becomes of the channel's bearer request. -/
def request : Fate → Option BearerRequest → Option BearerRequest
  | left, before | kept _, before => before
  | freed, _ => none

/-- Whether another slot goes on with the channel that there was. -/
def Follows : Fate → Option Slot → Prop
  | kept s', found => ∃ s, found = some s ∧ s.channel.Continues s'.channel
  | left, _ | freed, _ => True

end Fate

namespace ChannelTable

variable {t : ChannelTable} {j k : UInt8} {f g : ChannelTable → ChannelTable × Output}
  {found : Option Slot} {s : Slot} {channel : Channel}

/-- The table after something was done to one channel. -/
def settle (t : ChannelTable) (k : UInt8) (fate : Fate) : ChannelTable :=
  { t with
    slots := t.slots.alter k fate.slot
    bearers := { t.bearers with requests := t.bearers.requests.alter k fate.request } }

theorem get?_settle (t : ChannelTable) (k j : UInt8) (fate : Fate) :
    (t.settle k fate).slots.get? j =
      if j = k then fate.slot (t.slots.get? k) else t.slots.get? j :=
  ChannelMap.get?_alter ..

theorem requests_settle (t : ChannelTable) (k j : UInt8) (fate : Fate) :
    (t.settle k fate).bearers.requests.get? j =
      if j = k then fate.request (t.bearers.requests.get? k) else t.bearers.requests.get? j :=
  ChannelMap.get?_alter ..

theorem settle_left (t : ChannelTable) (k : UInt8) : t.settle k .left = t := by
  have hslots : t.slots.alter k Fate.left.slot = t.slots := t.slots.alter_id k
  have hrequests : t.bearers.requests.alter k Fate.left.request = t.bearers.requests :=
    t.bearers.requests.alter_id k
  rw [settle, hslots, hrequests]

theorem put_eq_settle (hk : s.channel.id = k) : t.put s = t.settle k (.kept s) := by
  have hrequests : t.bearers.requests.alter k (Fate.kept s).request = t.bearers.requests :=
    t.bearers.requests.alter_id k
  rw [settle, hrequests, ← hk]
  rfl

theorem free_eq_settle (t : ChannelTable) (k : UInt8) : (t.free k).1 = t.settle k .freed := by
  unfold free
  dsimp only
  rw [BearerRegistry.release_fst]
  rfl

/-- What is done to different channels can change places. -/
theorem settle_comm (hjk : j ≠ k) (a b : Fate) :
    (t.settle j a).settle k b = (t.settle k b).settle j a := by
  simp only [settle]
  rw [ChannelMap.alter_comm hjk, ChannelMap.alter_comm hjk]

/-- Whether what an operation does is done to one channel, and told by the slot that is found there,
as are the effects and the orders that it gives out. -/
def ActsOn (k : UInt8) (found : Option Slot) (f : ChannelTable → ChannelTable × Output) : Prop :=
  ∃ fate effects orders, fate.Follows found ∧ ∀ t : ChannelTable, t.slots.get? k = found →
    (f t).1 = t.settle k fate ∧ (f t).2.effects = effects ∧ (f t).2.orders = orders

namespace ActsOn

theorem left (k : UInt8) (found : Option Slot) (out : Output) :
    ActsOn k found fun t => (t, out) :=
  ⟨.left, out.effects, out.orders, trivial, fun t _ => ⟨(t.settle_left k).symm, rfl, rfl⟩⟩

/-- The channel goes on, in whatever phase. -/
theorem goOn (continues : s.channel.Continues channel) (hk : s.channel.id = k) (phase : Phase)
    (pending : Option PendingReply) (out : Output) :
    ActsOn k (some s) fun t => (t.put ⟨channel, phase, pending⟩, out) := by
  refine ⟨.kept ⟨channel, phase, pending⟩, out.effects, out.orders, ⟨s, rfl, continues⟩, ?_⟩
  exact fun t _ => ⟨put_eq_settle (continues.id.trans hk), rfl, rfl⟩

/-- The channel goes away. -/
theorem freed (k : UInt8) (found : Option Slot) (first last : Output) :
    ActsOn k found fun t => ((t.free k).1, first ++ (t.free k).2 ++ last) := by
  refine ⟨.freed, first.effects ++ last.effects, first.orders ++ last.orders, trivial,
    fun t _ => ⟨t.free_eq_settle k, ?_, ?_⟩⟩
  · simp [free]
  · simp [free]

theorem congr (h : ActsOn k found g)
    (same : ∀ t : ChannelTable, t.slots.get? k = found → f t = g t) : ActsOn k found f := by
  obtain ⟨fate, effects, orders, follows, h⟩ := h
  refine ⟨fate, effects, orders, follows, fun t hs => ?_⟩
  rw [same t hs]
  exact h t hs

/-- What is given out first makes no difference. -/
theorem behind (h : ActsOn k found f) (first : Output) :
    ActsOn k found fun t => ((f t).1, first ++ (f t).2) := by
  obtain ⟨fate, effects, orders, follows, h⟩ := h
  refine ⟨fate, first.effects ++ effects, first.orders ++ orders, follows, fun t hs => ?_⟩
  obtain ⟨table, heffects, horders⟩ := h t hs
  rw [← heffects, ← horders]
  exact ⟨table, rfl, rfl⟩

end ActsOn

/-! The operations -/

theorem actsOn_giveUpOpen (hk : s.channel.id = k) (refusal : Refusal) :
    ActsOn k found fun t => t.giveUpOpen s refusal := by
  subst hk
  unfold giveUpOpen
  rcases s.pending with _ | ⟨reply, modified⟩ | ⟨reply, free⟩
  · exact .freed _ found .none .none
  · exact .freed _ found .none (.respond (reply.failure refusal (some s.failureData)))
  · exact .freed _ found .none .none

/-- What a report means is done to its channel alone. -/
theorem actsOn_applyUpshot (continues : s.channel.Continues channel) (hk : s.channel.id = k)
    (told : Upshot) :
    ActsOn k (some s) fun t => t.applyUpshot { s with channel := channel } told := by
  have hk' := continues.id.trans hk
  have kept := ActsOn.goOn continues hk
  unfold applyUpshot
  cases told with
  | opened status => exact kept .opened none _
  | openFailed cause => exact actsOn_giveUpOpen hk' _
  | sent => exact kept s.phase none _
  | sendFailed =>
    subst hk'
    rcases s.pending with _ | ⟨reply, modified⟩ | ⟨reply, free⟩
    · exact .freed _ (some s) .none .none
    · exact .freed _ (some s) .none .none
    · exact .freed _ (some s) .none (.respond (reply.failure (.ofCause .channelClosed) none))
  | dataAvailable status available => exact kept s.phase s.pending _
  | statusChanged status =>
    dsimp only
    by_cases hl : status.state = .established
    · simp only [if_pos hl]
      exact kept s.phase s.pending _
    · simp only [if_neg hl]
      exact kept s.phase none _
  | ignored => exact kept s.phase s.pending _

theorem actsOn_report (id : ∀ s, found = some s → s.channel.id = k) (g : Nat) (r : Report) :
    ActsOn k found fun t => t.report k g r := by
  rcases found with _ | s
  · refine (ActsOn.left k none .none).congr fun t hs => ?_
    simp only [report, current?, hs, Option.filter_none]
  · by_cases hg : s.channel.generation = g
    · have continues := Channel.report_continues (c := s.channel) r
      rcases hr : s.channel.report r with ⟨channel, told, orders⟩
      rw [hr] at continues
      refine ((actsOn_applyUpshot continues (id s rfl) told).behind
        (s.orders orders)).congr fun t hs => ?_
      have hcurrent : t.current? k g = some s := by simp [current?, hs, hg]
      simp only [report, hcurrent, hr]
    · refine (ActsOn.left k (some s) .none).congr fun t hs => report_stale (fun s' hs' => ?_) r
      cases hs.symm.trans hs'
      exact hg

theorem actsOn_taskEnded (id : ∀ s, found = some s → s.channel.id = k) (g : Nat) :
    ActsOn k found fun t => (t.taskEnded k g, .none) := by
  rcases found with _ | s
  · refine (ActsOn.left k none .none).congr fun t hs => ?_
    simp only [taskEnded, current?, hs, Option.filter_none]
  · by_cases hg : s.channel.generation = g
    · have continues : s.channel.Continues { s.channel with ended := true } := ⟨rfl, rfl⟩
      refine (ActsOn.goOn continues (id s rfl) s.phase s.pending .none).congr fun t hs => ?_
      have hcurrent : t.current? k g = some s := by simp [current?, hs, hg]
      simp only [taskEnded, hcurrent]
    · refine (ActsOn.left k (some s) .none).congr fun t hs => ?_
      rw [taskEnded_stale fun s' hs' => ?_]
      cases hs.symm.trans hs'
      exact hg

theorem actsOn_closeChannel (id : ∀ s, found = some s → s.channel.id = k) (reply : Reply)
    (keepListening : Bool) : ActsOn k found fun t => t.closeChannel reply k keepListening := by
  let answer : Output := .respond (reply.success .ok none)
  rcases found with _ | s
  · let refused := reply.failure (.ofCause .channelIdNotValid) none
    refine (ActsOn.left k none (.respond refused)).congr fun t hs => ?_
    simp only [closeChannel, hs, refused]
  · have continues := Channel.close_continues (c := s.channel) keepListening
    rcases hclose : s.channel.close keepListening with ⟨closed, outcome, orders⟩
    rw [hclose] at continues
    cases outcome with
    | released =>
      refine (ActsOn.freed k (some s) (s.orders orders) answer).congr fun t hs => ?_
      simp only [closeChannel, hs, hclose, answer]
    | listening =>
      refine (ActsOn.goOn continues (id s rfl) s.phase s.pending
        (s.orders orders ++ .none ++ answer)).congr fun t hs => ?_
      simp only [closeChannel, hs, hclose, answer]

theorem actsOn_sendData {data : Transfer}
    (id : ∀ s, found = some s → s.channel.id = data.channel) (reply : Reply) (immediate : Bool) :
    ActsOn data.channel found fun t => t.sendData reply data immediate := by
  let refused (cause : ChannelCause) : Output := .respond (reply.failure (.ofCause cause) none)
  rcases found with _ | s
  · refine (ActsOn.left data.channel none (refused .channelIdNotValid)).congr fun t hs => ?_
    simp only [sendData, hs, refused]
  · by_cases hopen : s.phase ≠ .opened ∨ s.pending.isSome = true
    · refine (ActsOn.left data.channel _ (refused .channelClosed)).congr fun t hs => ?_
      simp only [sendData, hs, if_pos hopen, refused]
    · have continues := Channel.send_continues (c := s.channel) data.data immediate
      rcases hsend : s.channel.send data.data immediate with ⟨channel, outcome, orders⟩
      rw [hsend] at continues
      have kept := ActsOn.goOn continues (id s rfl) s.phase
      cases outcome with
      | buffered free =>
        let stored := reply.success .ok (some (.sendData free))
        refine (kept s.pending (.respond stored)).congr fun t hs => ?_
        simp only [sendData, hs, if_neg hopen, hsend, stored]
      | flushing free =>
        refine (kept (some (.sending reply free)) (s.orders orders)).congr fun t hs => ?_
        simp only [sendData, hs, if_neg hopen, hsend]
        rw [← s.orders_continues continues s.phase s.pending orders]
      | closed =>
        refine (kept s.pending (refused .channelClosed)).congr fun t hs => ?_
        simp only [sendData, hs, if_neg hopen, hsend, refused]

theorem actsOn_receiveData {data : Transfer}
    (id : ∀ s, found = some s → s.channel.id = data.channel) (reply : Reply) :
    ActsOn data.channel found fun t => t.receiveData reply data := by
  rcases found with _ | s
  · let refused := reply.failure (.ofCause .channelIdNotValid) none
    refine (ActsOn.left data.channel none (.respond refused)).congr fun t hs => ?_
    simp only [receiveData, hs, refused]
  · have continues := Channel.receive_continues (c := s.channel) data.length
    rcases hreceive : s.channel.receive data.length with ⟨channel, outcome, orders⟩
    rw [hreceive] at continues
    have answered (r : TerminalResponse) :=
      ActsOn.goOn continues (id s rfl) s.phase s.pending (s.orders orders ++ .respond r)
    cases outcome with
    | data result bytes remaining =>
      let fetched := reply.success result (some (.receiveData bytes remaining))
      refine (answered fetched).congr fun t hs => ?_
      simp only [receiveData, hs, hreceive, fetched]
    | closed =>
      let refused := reply.failure (.ofCause .channelClosed) none
      refine (answered refused).congr fun t hs => ?_
      simp only [receiveData, hs, hreceive, refused]

end ChannelTable

/-- The channel whose slot alone tells what an input does, if there is one. -/
def TableInput.subject? : TableInput → Option UInt8
  | .closeChannel _ channel _ | .report channel _ _ | .taskEnded channel _ => some channel
  | .sendData _ data _ | .receiveData _ data => some data.channel
  | _ => none

/-- A command or a report that is about one channel is done to that channel alone. -/
theorem ChannelTable.actsOn_step {k : UInt8} {found : Option Slot} {input : TableInput}
    (hk : input.subject? = some k) (id : ∀ s, found = some s → s.channel.id = k) :
    ActsOn k found fun t => t.step input := by
  cases input with
  | closeChannel reply j keepListening =>
    cases hk
    exact actsOn_closeChannel id reply keepListening
  | sendData reply data immediate =>
    cases hk
    exact actsOn_sendData id reply immediate
  | receiveData reply data =>
    cases hk
    exact actsOn_receiveData id reply
  | report j g r =>
    cases hk
    exact actsOn_report id g r
  | taskEnded j g =>
    cases hk
    exact actsOn_taskEnded id g
  | openChannel | channelStatus | bearerRetry | connectionChanged | sessionEnd | cardRemoved =>
    cases hk

end CardChannels
