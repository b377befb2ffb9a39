import CardChannels.Proofs.Channel.Links
import CardChannels.Proofs.Table.Unopened

/-!
# Who is told to listen

Only the socket task of a server is ever told to listen. A task that was not told so serves a single
partner and reports nothing any more once that partner is gone, so in every run this is how it is
with the tasks of clients.
-/
namespace CardChannels

theorem Order.not_listens_of_minor {o : Order} (h : o.minor = true) : o.listens = false := by
  cases o with
  | resume | dropClient | stop => rfl
  | listen | connect | exchange | write => cases h

/-- Only a server's task starts by listening. -/
theorem Channel.kind_of_listens {c c' : Channel} {timeout : Nat} {orders : List Order}
    (start : c.start timeout = .ok (c', orders)) {o : Order} (given : o ∈ orders)
    (listens : o.listens = true) : c.kind = .tcpServer := by
  have starts := c.starts_start timeout
  rw [start] at starts
  cases starts with
  | begun begins =>
    rcases List.mem_append.mp given with stop | begun
    · rw [Order.not_listens_of_minor (minor_stopOrders o stop)] at listens
      cases listens
    · obtain rfl := List.mem_singleton.mp begun
      cases begins with
      | listens server => exact server
      | connects | exchanges => cases listens

/-- Output whose orders to listen all go to channels of some numbers and generations. -/
def Output.ListenAt (out : Output) (served : UInt8 → Nat → Prop) : Prop :=
  ∀ o ∈ out.orders, o.order.listens = true → served o.channel o.generation

namespace Output.ListenAt

variable {a b : Output} {served served' : UInt8 → Nat → Prop}

theorem of_orders_nil (h : a.orders = []) : a.ListenAt served := by
  simp [ListenAt, h]

theorem append (ha : a.ListenAt served) (hb : b.ListenAt served) : (a ++ b).ListenAt served := by
  intro o ho
  rcases List.mem_append.mp ho with ho | ho
  · exact ha o ho
  · exact hb o ho

theorem mono (h : a.ListenAt served) (sub : ∀ k g, served k g → served' k g) :
    a.ListenAt served' :=
  fun o ho listens => sub _ _ (h o ho listens)

theorem of_unlistening {s : Slot} {orders : List Order}
    (h : ∀ o ∈ orders, o.listens = false) : (s.orders orders).ListenAt served := by
  intro o ho listens
  obtain ⟨order, given, rfl⟩ := List.mem_map.mp ho
  rw [h order given] at listens
  cases listens

theorem of_minor {s : Slot} {orders : List Order} (h : ∀ o ∈ orders, o.minor = true) :
    (s.orders orders).ListenAt served :=
  of_unlistening fun o ho => Order.not_listens_of_minor (h o ho)

end Output.ListenAt

namespace ChannelTable

/-- Whether a number and a generation are those of a server's channel. -/
def Serves (t : ChannelTable) (k : UInt8) (g : Nat) : Prop :=
  ∃ s, t.slots.get? k = some s ∧ s.channel.generation = g ∧ s.channel.kind = .tcpServer

/-- Whether a number and a generation are those of a server's channel, or of one that an input asks
for. -/
def ServesBy (t : ChannelTable) (input : TableInput) (k : UInt8) (g : Nat) : Prop :=
  t.Serves k g ∨ g = t.generation + 1 ∧ ∃ host reply settings,
    input = .openChannel host reply settings ∧ settings.protocol.kind = .tcpServer

variable {t t' : ChannelTable} {k : UInt8} {g : Nat} {s s' : Slot} {reply : Reply}
  {settings : ChannelSettings} {input : TableInput} {served : UInt8 → Nat → Prop}

open Output (ListenAt)

theorem Goes.serves {told : List Order} (h : t.Goes told s s')
    (server : s'.channel.kind = .tcpServer) :
    s'.channel.generation = s.channel.generation ∧ s.channel.kind = .tcpServer := by
  rcases h with rfl | ⟨-, channel, orders, start, -, rfl⟩
  · exact ⟨rfl, server⟩
  · obtain ⟨rfl, -⟩ := Channel.of_start start
    exact ⟨rfl, server⟩

/-! Operations -/

theorem orders_giveUpOpen (t : ChannelTable) (s : Slot) (refusal : Refusal) :
    (t.giveUpOpen s refusal).2.orders = [] := by
  unfold giveUpOpen
  dsimp only
  split <;> rfl

theorem listenAt_startSocket (hs : t.slots.get? s.channel.id = some s) :
    (t.startSocket s).2.ListenAt t.Serves := by
  unfold startSocket
  dsimp only
  split
  · rename_i channel orders start
    intro o ho listens
    obtain ⟨order, given, rfl⟩ := List.mem_map.mp ho
    exact ⟨s, hs, rfl, Channel.kind_of_listens start given listens⟩
  · exact .of_orders_nil (orders_giveUpOpen ..)

theorem listenAt_afterBearer (hs : t.slots.get? s.channel.id = some s) (outcome : BearerAnswer) :
    (t.afterBearer s outcome).2.ListenAt t.Serves := by
  cases outcome with
  | ready => exact listenAt_startSocket hs
  | pending | retryAfter => exact .of_orders_nil rfl
  | failed refusal => exact .of_orders_nil (orders_giveUpOpen ..)

theorem listenAt_openChannel (host : Host) :
    (t.openChannel host reply settings).2.ListenAt
      (t.ServesBy (.openChannel host reply settings)) := by
  rcases t.openChannel_cases host reply settings with ⟨cause, hopen⟩ | ⟨j, -, hopen⟩
  · rw [hopen]
    exact .of_orders_nil rfl
  · rw [hopen]
    have enrolled : (t.enroll (t.newSlot j reply settings)).slots.get?
        (t.newSlot j reply settings).channel.id = some (t.newSlot j reply settings) := by
      rw [enroll, get?_put, if_pos rfl]
    have begun := listenAt_afterBearer (t := { t.enroll (t.newSlot j reply settings) with
      bearers := (t.bearers.ask host j settings).1 }) enrolled (t.bearers.ask host j settings).2.1
    refine .append (.of_orders_nil rfl) (begun.mono ?_)
    rintro k g ⟨s, hs, generation, server⟩
    rcases of_get?_put hs with ⟨-, rfl⟩ | ⟨-, hs⟩
    · exact .inr ⟨generation.symm, host, reply, settings, rfl, server⟩
    · exact .inl ⟨s, hs, generation, server⟩

theorem listenAt_closeChannel (reply : Reply) (k : UInt8) (keepListening : Bool) :
    (t.closeChannel reply k keepListening).2.ListenAt served := by
  unfold closeChannel
  split
  · exact .of_orders_nil rfl
  · rename_i s hs
    have minor := Channel.minor_close (c := s.channel) keepListening
    dsimp only
    generalize s.channel.close keepListening = closed at minor ⊢
    rcases closed with ⟨channel, released | listening, orders⟩
    · exact .append (.append (.of_minor minor) (.of_orders_nil rfl)) (.of_orders_nil rfl)
    · exact .append (.append (.of_minor minor) (.of_orders_nil rfl)) (.of_orders_nil rfl)

theorem listenAt_sendData (reply : Reply) (data : Transfer) (immediate : Bool) :
    (t.sendData reply data immediate).2.ListenAt served := by
  unfold sendData
  split
  · exact .of_orders_nil rfl
  · rename_i s hs
    split
    · exact .of_orders_nil rfl
    · have given := Channel.send_orders (c := s.channel) data.data immediate
      dsimp only
      generalize s.channel.send data.data immediate = sending at given ⊢
      rcases sending with ⟨channel, outcome, orders⟩
      cases outcome with
      | buffered free | closed => exact .of_orders_nil rfl
      | flushing free =>
        refine .of_unlistening fun o ho => ?_
        rcases given with ⟨free', bytes, -, same⟩ | ⟨none, -⟩
        · obtain ⟨-, rfl⟩ := Prod.mk.inj same
          rw [List.mem_singleton.mp ho]
          rfl
        · obtain rfl : orders = [] := none
          cases ho

theorem listenAt_receiveData (reply : Reply) (data : Transfer) :
    (t.receiveData reply data).2.ListenAt served := by
  unfold receiveData
  split
  · exact .of_orders_nil rfl
  · exact .append (.of_minor (Channel.minor_receive _)) (.of_orders_nil rfl)

theorem listenAt_report (k : UInt8) (g : Nat) (r : Report) :
    (t.report k g r).2.ListenAt served := by
  unfold report
  split
  · exact .of_orders_nil rfl
  · refine .append (.of_minor (Channel.minor_report r)) (.of_orders_nil ?_)
    unfold applyUpshot
    split
    · dsimp only
      split <;> rfl
    · exact orders_giveUpOpen ..
    · dsimp only
      split <;> rfl
    · dsimp only
      split <;> rfl
    · rfl
    · split
      · rfl
      · dsimp only
        split <;> rfl
    · rfl

theorem listenAt_bearerRetry (keyed : t.Keyed) (host : Host) (k : UInt8) (g : Nat) :
    (t.bearerRetry host k g).2.ListenAt t.Serves := by
  rcases t.bearerRetry_cases host k g with ⟨idle, -⟩ | ⟨s, r, hs, -, -, -, -, looked⟩
  · rw [idle]
    exact .of_orders_nil rfl
  · rw [looked]
    exact .append (.of_orders_nil rfl)
      (listenAt_afterBearer (t := { t with bearers := (t.bearers.check host k r).1 })
        ((keyed k s hs).symm ▸ hs) _)

theorem listenAt_bearerChange (keyed : t.Keyed) (k : UInt8) (change : BearerChange) :
    (t.bearerChange k change).2.ListenAt t.Serves := by
  unfold bearerChange
  split
  · exact .of_orders_nil rfl
  · rename_i s hs
    cases change with
    | ready =>
      dsimp only
      split
      · exact listenAt_startSocket ((keyed k s hs).symm ▸ hs)
      · exact .of_orders_nil rfl
    | failed refusal =>
      dsimp only
      split
      · exact .of_orders_nil (orders_giveUpOpen ..)
      · exact .of_orders_nil rfl
    | lost =>
      have closing : ((s.orders (s.channel.close false).2.2) ++
          (t.free s.channel.id).2).ListenAt t.Serves :=
        .append (.of_minor (Channel.minor_close false)) (.of_orders_nil rfl)
      dsimp only
      unfold bearerLost
      dsimp only
      split
      · exact closing.append (.of_orders_nil rfl)
      · exact (closing.append (.of_orders_nil rfl)).append (.of_orders_nil rfl)
      · exact closing.append (.of_orders_nil rfl)

/-- A server that is told to listen in the course of several changes was there before them. -/
theorem listenAt_bearerChanges (keyed : t.Keyed) (changes : List (UInt8 × BearerChange)) :
    (t.bearerChanges changes).2.ListenAt t.Serves := by
  induction changes generalizing t with
  | nil => exact .of_orders_nil rfl
  | cons first rest ih =>
    have later := ih (keyed_bearerChange keyed first.1 first.2)
    refine .append (listenAt_bearerChange keyed first.1 first.2) (later.mono ?_)
    rintro k g ⟨s', hs', generation, server⟩
    obtain ⟨s, hs, goes⟩ := goes_bearerChange keyed first.2 hs'
    obtain ⟨same, serves⟩ := goes.serves server
    exact ⟨s, hs, same.symm.trans generation, serves⟩

theorem listenAt_endSession (s : Slot) : (t.endSession s).2.ListenAt served := by
  unfold endSession
  split
  · exact .append (.of_minor Channel.minor_stopOrders) (.of_orders_nil rfl)
  · have minor := Channel.minor_sessionEnd (c := s.channel)
    dsimp only
    generalize s.channel.sessionEnd = ending at minor ⊢
    rcases ending with ⟨channel, keep | release, orders⟩
    · exact .append (.of_minor minor) (.of_orders_nil rfl)
    · exact .append (.of_minor minor) (.of_orders_nil rfl)

theorem listenAt_endSessions (t : ChannelTable) (ended : List Slot) :
    (t.endSessions ended).2.ListenAt served := by
  induction ended generalizing t with
  | nil => exact .of_orders_nil rfl
  | cons s rest ih => exact .append (listenAt_endSession s) (ih _)

theorem listenAt_cardRemoved : t.cardRemoved.2.ListenAt served := by
  intro o ho listens
  obtain ⟨s, -, ho⟩ := List.mem_flatMap.mp ho
  have stops : (s.orders s.channel.stopOrders).ListenAt served :=
    .of_minor Channel.minor_stopOrders
  exact stops o ho listens

/-- A step has no task listen but those of servers. -/
theorem listenAt_step (keyed : t.Keyed) (input : TableInput) :
    (t.step input).2.ListenAt (t.ServesBy input) := by
  cases input with
  | openChannel host reply settings => exact listenAt_openChannel host
  | closeChannel reply k keepListening => exact listenAt_closeChannel reply k keepListening
  | sendData reply data immediate => exact listenAt_sendData reply data immediate
  | receiveData reply data => exact listenAt_receiveData reply data
  | channelStatus reply => exact .of_orders_nil rfl
  | report k g r => exact listenAt_report k g r
  | bearerRetry host k g => exact (listenAt_bearerRetry keyed host k g).mono fun _ _ => .inl
  | connectionChanged change =>
    have changed := listenAt_bearerChanges
      (t := { t with bearers := (t.bearers.connectionChanged change).1 }) keyed
      (t.bearers.connectionChanged change).2.1
    exact .append (.of_orders_nil rfl) (changed.mono fun _ _ => .inl)
  | taskEnded k g => exact .of_orders_nil rfl
  | sessionEnd => exact .append (.of_orders_nil rfl) (listenAt_endSessions _ _)
  | cardRemoved => exact listenAt_cardRemoved

end ChannelTable

/-! Runs -/

variable {config : Config} {past : TableHistory} {t : ChannelTable} {input : TableInput}
  {k : UInt8} {s s' : Slot} {told : Nat → List Order} {before : Option Slot}

/-- A channel that was there before a step keeps its generation and its kind. -/
theorem Slot.Origin.same_kind (origin : s'.Origin t k input told before) (hs : before = some s) :
    s'.channel.generation = s.channel.generation ∧ s'.channel.kind = s.channel.kind := by
  refine origin.channel_induction
    (P := fun c => c.generation = s.channel.generation ∧ c.kind = s.channel.kind) ?_ ?_ ?_
  · intro host reply settings asked none
    cases hs.symm.trans none
  · intro s₀ hs₀
    cases hs.symm.trans hs₀
    exact ⟨rfl, rfl⟩
  · intro c done h _
    exact ⟨(c.step_continues done).generation.trans h.1, (c.kind_step done).trans h.2⟩

/-- A channel that was not there before a step has the next generation and the kind that an open
asks for. -/
theorem Slot.Origin.new_kind (origin : s'.Origin t k input told before) (hs : before = none) :
    s'.channel.generation = t.generation + 1 ∧ ∃ host reply settings,
      input = .openChannel host reply settings ∧ s'.channel.kind = settings.protocol.kind := by
  refine origin.channel_induction (P := fun c => c.generation = t.generation + 1 ∧
    ∃ host reply settings, input = .openChannel host reply settings ∧
      c.kind = settings.protocol.kind) ?_ ?_ ?_
  · intro host reply settings asked none
    exact ⟨rfl, host, reply, settings, asked, rfl⟩
  · intro s₀ hs₀
    cases hs.symm.trans hs₀
  · rintro c done ⟨generation, host, reply, settings, asked, kind⟩ _
    exact ⟨(c.step_continues done).generation.trans generation, host, reply, settings, asked,
      (c.kind_step done).trans kind⟩

/-- In every run only a server's task was told to listen. -/
theorem TableRun.kind_of_listens (run : TableRun config past t) (hs : t.slots.get? k = some s)
    (listens : (past.told k s.channel.generation).any Order.listens = true) :
    s.channel.kind = .tcpServer := by
  induction run generalizing s with
  | start => cases hs
  | @step past t run input admitted ih =>
    have origin := t.origin_step run.keyed input hs
    rw [TableHistory.told_cons, List.any_append, Bool.or_eq_true] at listens
    rcases listens with now | earlier
    · -- The order of this step goes to a server, and that is this channel.
      obtain ⟨order, given, listens⟩ := List.any_eq_true.mp now
      obtain ⟨o, kept, rfl⟩ := List.mem_map.mp given
      obtain ⟨ho, about⟩ := List.mem_filter.mp kept
      obtain ⟨rfl, generation⟩ : o.channel = k ∧ o.generation = s.channel.generation := by
        simpa using about
      rcases ChannelTable.listenAt_step run.keyed input o ho listens with
        ⟨s₀, hs₀, generation₀, server⟩ | ⟨new, host, reply, settings, asked, server⟩
      · rw [(origin.same_kind hs₀).2, server]
      · rcases hbefore : t.slots.get? o.channel with _ | s₀
        · obtain ⟨-, host', reply', settings', asked', kind⟩ := origin.new_kind hbefore
          cases asked.symm.trans asked'
          rw [kind, server]
        · have known := run.fits.known o.channel s₀ hbefore
          have same := (origin.same_kind hbefore).1
          omega
    · rcases hbefore : t.slots.get? k with _ | s₀
      · have fresh := (run.fits.fresh k _ (Nat.lt_succ_self t.generation)).1
        rw [(origin.new_kind hbefore).1, fresh] at earlier
        cases earlier
      · obtain ⟨generation, kind⟩ := origin.same_kind hbefore
        rw [kind]
        exact ih hbefore (generation ▸ earlier)

end CardChannels
