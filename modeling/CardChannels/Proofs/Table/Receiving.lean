import CardChannels.Proofs.Table.NewChannel

/-!
# Receiving until nothing is left

A receive is answered with the first bytes that wait on its channel: as many as were asked for, as
an answer can carry, and as there are. It takes just those away. Only a channel without a link on
which nothing waits is told to be closed. The main statement says that of every receive from a
channel in use, and that equal receives, with nothing for the channel in between, hand over all the
bytes that wait, in order, and in as many answers as it takes to carry them.
-/
namespace CardChannels

/-- How many bytes a receive gets. -/
def fetchCount (requested available : Nat) : Nat := min (min requested maxReceive) available

namespace Reply

/-- The result of a receive that gets bytes. -/
def fetchResult (r : Reply) (requested available : Nat) : ResultCode :=
  if min requested maxReceive > available then .missingInformation
  else if requested > maxReceive then .modified
  else if r.iconNotDisplayed then .iconNotDisplayed
  else .ok

/-- The answer to a receive from a channel on which bytes wait. -/
def fetched (r : Reply) (requested : Nat) (waiting : Bytes) : TerminalResponse :=
  let count := fetchCount requested waiting.length
  ⟨r.details, r.fetchResult requested waiting.length, none,
    some (.receiveData (waiting.take count) (waiting.length - count))⟩

end Reply

/-- The slot of a channel from which the first bytes were taken away. Its task may have been told to
read again, and nothing else of it has changed. -/
structure Slot.Fetched (s : Slot) (count : Nat) (s' : Slot) : Prop where
  received : s'.channel.received.bytes = s.channel.received.bytes.drop count
  capacity : s'.channel.received.capacity = s.channel.received.capacity
  rest : s' = { s with channel :=
    { s.channel with received := s'.channel.received, paused := s'.channel.paused } }

/-- Whether there is nothing to receive and nothing to come. -/
def Channel.Dry (c : Channel) : Prop := c.received.bytes = [] ∧ c.link ≠ .established

namespace TableInput

/-- Whether an input is a receive from a channel. -/
def fetchesFrom (k : UInt8) : TableInput → Bool
  | .receiveData _ data => data.channel = k
  | _ => false

end TableInput

/-- Whether an input has nothing to do with a channel in use. -/
def ChannelTable.Spares (t : ChannelTable) (k : UInt8) : TableInput → Prop
  | .openChannel .. | .channelStatus _ => True
  | .closeChannel _ j _ | .report j _ _ | .bearerRetry _ j _ | .taskEnded j _ => j ≠ k
  | .sendData _ data _ | .receiveData _ data => data.channel ≠ k
  | .connectionChanged change => t.bearers.changeOf change k = none
  | .sessionEnd | .cardRemoved => False

/-- Whether inputs, the newest first, ask a channel for so many bytes each time or have nothing to
do with it. -/
def Fetching (config : Config) (before : List TableInput) (k : UInt8) (requested : Nat) :
    List TableInput → Prop
  | [] => True
  | input :: later => Fetching config before k requested later ∧
    ((∃ reply data, data.channel = k ∧ data.length = requested ∧
        input = .receiveData reply data) ∨
      (replay config (later ++ before)).2.Spares k input)

/-- The data that an answer carries. -/
def Effect.carried : Effect → Bytes
  | .respond ⟨_, _, _, some (.receiveData bytes _)⟩ => bytes
  | _ => []

/-- The data of all answers to receives from a channel. -/
def carriedFrom (config : Config) (before : List TableInput) (k : UInt8) :
    List TableInput → Bytes
  | [] => []
  | input :: later => carriedFrom config before k later ++
    if input.fetchesFrom k then
      ((replay config (later ++ before)).2.step input).2.effects.flatMap Effect.carried
    else []

/-! One receive -/

theorem fetchPlan_fst (requested available : Nat) :
    (fetchPlan requested available).1 = fetchCount requested available := by
  unfold fetchPlan fetchCount
  split
  · omega
  · split <;> omega

/-- That the buffer ends makes no difference to the bytes that are taken. -/
theorem take_fetchCount (bytes : Bytes) (requested : Nat) :
    bytes.take (fetchCount requested bytes.length) = bytes.take (min requested maxReceive) :=
  List.take_eq_take_iff.mpr (by simp only [fetchCount]; omega)

theorem drop_fetchCount (bytes : Bytes) (requested : Nat) :
    bytes.drop (fetchCount requested bytes.length) = bytes.drop (min requested maxReceive) := by
  rcases Nat.le_total (min requested maxReceive) bytes.length with fits | exceeds
  · rw [fetchCount, Nat.min_eq_left fits]
  · rw [fetchCount, Nat.min_eq_right exceeds, List.drop_length, List.drop_of_length_le exceeds]

theorem Reply.success_fetchPlan (r : Reply) (requested available : Nat) (data : Option Payload) :
    r.success (fetchPlan requested available).2 data =
      ⟨r.details, r.fetchResult requested available, none, data⟩ := by
  unfold fetchPlan Reply.fetchResult Reply.success
  split
  · rfl
  · split
    · rfl
    · cases r.iconNotDisplayed <;> rfl

namespace Channel

variable {c : Channel}

theorem receive_of_dry (dry : c.Dry) (requested : Nat) :
    c.receive requested = (c, .closed, []) := by
  unfold receive
  exact if_pos ⟨List.isEmpty_iff.mpr dry.1, dry.2⟩

/-- The channel without the first bytes that wait. -/
def without (c : Channel) (count : Nat) : Channel :=
  { c with received := (c.received.read count).2 }

/-- A receive gets the first bytes, and the task is told to read again if none are left. -/
theorem receive_of_not_dry (dry : ¬c.Dry) (requested : Nat) :
    let count := fetchCount requested c.received.size
    c.receive requested =
      ((c.without count).resume.1, .data (fetchPlan requested c.received.size).2
        (c.received.bytes.take count) (c.received.size - count), (c.without count).resume.2) := by
  intro count
  have goes : ¬(c.received.isEmpty = true ∧ c.link ≠ .established) := fun h =>
    dry ⟨List.isEmpty_iff.mp h.1, h.2⟩
  have left : (c.received.read count).2.size = c.received.size - count := List.length_drop
  have plan := fetchPlan_fst requested c.received.size
  unfold receive
  rw [if_neg goes, ← left]
  simp only [plan]
  rfl

end Channel

/-- The slot whose channel was received from. -/
def Slot.without (s : Slot) (count : Nat) : Slot :=
  { s with channel := (s.channel.without count).resume.1 }

theorem Slot.fetched_without (s : Slot) (count : Nat) : s.Fetched count (s.without count) := by
  have received : (s.without count).channel.received = (s.channel.received.read count).2 :=
    Channel.received_resume _
  have rest : (s.without count).channel = { s.channel.without count with
      paused := (s.without count).channel.paused } := Channel.resume_eq_with_paused _
  refine ⟨congrArg Buffer.bytes received, (congrArg Buffer.capacity received).trans rfl, ?_⟩
  rw [received]
  exact congrArg (fun channel => { s with channel := channel }) rest

namespace ChannelTable

variable {t : ChannelTable} {k : UInt8} {s : Slot} {reply : Reply} {data : Transfer}

/-- A receive from a channel that is dry is refused, and changes nothing. -/
theorem receiveData_of_dry (id : s.channel.id = data.channel)
    (hs : t.slots.get? data.channel = some s) (dry : s.channel.Dry) (reply : Reply) :
    t.receiveData reply data = (t, .respond (reply.failure (.ofCause .channelClosed) none)) := by
  simp only [receiveData, hs, Channel.receive_of_dry dry]
  rw [put_self (id ▸ hs)]
  rfl

/-- A receive from a channel that is not dry is answered with the first bytes and takes them
away. -/
theorem receiveData_of_not_dry (id : s.channel.id = data.channel)
    (hs : t.slots.get? data.channel = some s) (dry : ¬s.channel.Dry) (reply : Reply) :
    (t.receiveData reply data).2.effects =
        [.respond (reply.fetched data.length s.channel.received.bytes)] ∧
      ∃ s', (t.receiveData reply data).1.slots.get? data.channel = some s' ∧
        s.Fetched (fetchCount data.length s.channel.received.size) s' := by
  have receive := Channel.receive_of_not_dry dry data.length
  have fetched := s.fetched_without (fetchCount data.length s.channel.received.size)
  have id' : (s.without (fetchCount data.length s.channel.received.size)).channel.id =
      data.channel := by
    rw [fetched.rest]
    exact id
  dsimp only at receive
  simp only [receiveData, hs, receive, Reply.success_fetchPlan]
  refine ⟨rfl, s.without _, ?_, fetched⟩
  exact (get?_put ..).trans (if_pos id'.symm)

/-- A receive from a channel in use hands over what it takes away, and leaves the rest. -/
theorem receiveData_carries (keyed : t.Keyed) (hs : t.slots.get? k = some s)
    (about : data.channel = k) (reply : Reply) :
    ((t.receiveData reply data).2.effects.flatMap Effect.carried =
        s.channel.received.bytes.take (min data.length maxReceive)) ∧
      ∃ s', (t.receiveData reply data).1.slots.get? k = some s' ∧
        s'.channel.received.bytes =
          s.channel.received.bytes.drop (min data.length maxReceive) := by
  subst about
  by_cases dry : s.channel.Dry
  · rw [receiveData_of_dry (keyed _ s hs) hs dry reply]
    refine ⟨?_, s, hs, ?_⟩
    · rw [dry.1, List.take_nil]
      rfl
    · rw [dry.1, List.drop_nil]
  · obtain ⟨effects, s', hs', fetched⟩ :=
      receiveData_of_not_dry (keyed _ s hs) hs dry reply
    rw [effects, ← take_fetchCount, ← drop_fetchCount]
    exact ⟨List.append_nil _, s', hs', fetched.received⟩

theorem fetchesFrom_of_spares {input : TableInput} (spares : t.Spares k input) :
    input.fetchesFrom k = false := by
  cases input with
  | receiveData reply data => exact decide_eq_false spares
  | _ => rfl

/-- What has nothing to do with a channel in use leaves its slot. -/
theorem slot_of_spares (keyed : t.Keyed) (hs : t.slots.get? k = some s) {input : TableInput}
    (spares : t.Spares k input) : (t.step input).1.slots.get? k = some s := by
  have ofView {t' : ChannelTable} (h : t'.view k = t.view k) : t'.slots.get? k = some s :=
    (congrArg ChannelView.slot h).trans hs
  have aboutOther {j : UInt8} (hj : input.subject? = some j) (hk : j ≠ k) :
      (t.step input).1.slots.get? k = some s :=
    ofView (view_actsOn_of_ne (actsOn_step hj (keyed j)) hk.symm)
  cases input with
  | openChannel host reply settings =>
    exact ofView (view_openChannel_of_held hs host reply settings)
  | channelStatus reply => exact hs
  | closeChannel | sendData | receiveData | report | taskEnded => exact aboutOther rfl spares
  | bearerRetry host j g => exact ofView (view_bearerRetry_of_ne keyed host g (Ne.symm spares))
  | connectionChanged change =>
    have unchanged : (t.view k).changeOf change = none := spares
    have view := view_connectionChanged keyed change k
    rw [ChannelView.connectionChanged, unchanged] at view
    exact (congrArg ChannelView.slot view).trans hs
  | sessionEnd | cardRemoved => cases spares

end ChannelTable

/-! Receiving again and again -/

section Runs

variable {config : Config} {before later : List TableInput} {k : UInt8} {s : Slot} {n : Nat}

/-- The receives so far have handed over the first bytes that waited, and have left the others. -/
theorem carried_and_left (hs : (replay config before).2.slots.get? k = some s)
    (fetching : Fetching config before k n later) :
    carriedFrom config before k later =
        s.channel.received.bytes.take (later.countP (·.fetchesFrom k) * min n maxReceive) ∧
      ∃ s', (replay config (later ++ before)).2.slots.get? k = some s' ∧
        s'.channel.received.bytes =
          s.channel.received.bytes.drop (later.countP (·.fetchesFrom k) * min n maxReceive) := by
  induction later with
  | nil => simpa [carriedFrom] using ⟨s, hs, rfl⟩
  | cons input later ih =>
    obtain ⟨fetching, next⟩ := fetching
    obtain ⟨carried, s', hs', left⟩ := ih fetching
    have keyed := (among_replay config (later ++ before)).keyed
    rcases next with ⟨reply, data, about, rfl, rfl⟩ | spares
    · obtain ⟨now, s'', hs'', rest⟩ :=
        ChannelTable.receiveData_carries keyed hs' about reply
      have fetches : (TableInput.receiveData reply data).fetchesFrom k = true := by
        simp [TableInput.fetchesFrom, about]
      rw [carriedFrom, if_pos fetches, List.countP_cons_of_pos fetches, Nat.succ_mul, List.take_add,
        ← List.drop_drop, ← carried, ← left]
      exact ⟨congrArg _ now, s'', hs'', rest⟩
    · have other := ChannelTable.fetchesFrom_of_spares spares
      have notFetches : ¬input.fetchesFrom k = true := Bool.not_eq_true _ ▸ other
      rw [carriedFrom, if_neg notFetches, List.append_nil, List.countP_cons_of_neg notFetches]
      exact ⟨carried, s', ChannelTable.slot_of_spares keyed hs' spares, left⟩

/-- In every run a receive from a channel in use is told that the channel is closed exactly when
nothing waits and there is no link. Any other is answered with the first bytes and takes just those
away, and no receive touches another channel. Receives of at least one byte, each of so many and
with nothing for the channel in between, hand over the bytes that wait, in order, and nothing is
left exactly when there were as many receives as it takes answers to carry them. -/
theorem receives_hand_over_what_waits (config : Config) (before : List TableInput)
    (hs : (replay config before).2.slots.get? k = some s) :
    let t := (replay config before).2
    let waiting := s.channel.received.bytes
    (∀ reply data, data.channel = k →
      let after := t.step (.receiveData reply data)
      (after.2.effects = [.respond (reply.failure (.ofCause .channelClosed) none)] ↔
        s.channel.Dry) ∧
      (s.channel.Dry → after.1 = t) ∧
      (¬s.channel.Dry →
        after.2.effects = [.respond (reply.fetched data.length waiting)] ∧
        ∃ s', after.1.slots.get? k = some s' ∧
          s.Fetched (fetchCount data.length waiting.length) s') ∧
      ∀ j ≠ k, after.1.view j = t.view j) ∧
    ∀ requested later, 1 ≤ requested → Fetching config before k requested later →
      let most := min requested maxReceive
      let answers := later.countP (·.fetchesFrom k)
      carriedFrom config before k later = waiting.take (answers * most) ∧
      ((waiting.length + most - 1) / most ≤ answers →
        carriedFrom config before k later = waiting) ∧
      ∃ s', (replay config (later ++ before)).2.slots.get? k = some s' ∧
        s'.channel.received.bytes = waiting.drop (answers * most) ∧
        (s'.channel.received.bytes = [] ↔ (waiting.length + most - 1) / most ≤ answers) := by
  intro t waiting
  have keyed : t.Keyed := (among_replay config before).keyed
  refine ⟨?one, ?many⟩
  case one =>
    rintro reply data rfl
    have others j (hj : j ≠ data.channel) :
        (t.step (.receiveData reply data)).1.view j = t.view j :=
      ChannelTable.view_actsOn_of_ne (ChannelTable.actsOn_step rfl (keyed _)) hj
    by_cases dry : s.channel.Dry
    · have refused : t.step (.receiveData reply data) =
          (t, .respond (reply.failure (.ofCause .channelClosed) none)) :=
        ChannelTable.receiveData_of_dry (keyed _ s hs) hs dry reply
      refine ⟨?_, fun _ => by rw [refused], fun h => absurd dry h, others⟩
      rw [refused]
      exact iff_of_true rfl dry
    · obtain ⟨effects, fetched⟩ :=
        ChannelTable.receiveData_of_not_dry (keyed _ s hs) hs dry reply
      have effects : (t.step (.receiveData reply data)).2.effects =
          [.respond (reply.fetched data.length waiting)] := effects
      refine ⟨?_, fun h => absurd h dry, fun _ => ⟨effects, fetched⟩, others⟩
      rw [effects]
      refine iff_of_false ?_ dry
      simp [Reply.fetched, Reply.failure]
  case many =>
    intro requested later positive fetching most answers
    obtain ⟨carried, s', hs', left⟩ := carried_and_left hs fetching
    have enough : (waiting.length + most - 1) / most ≤ answers ↔
        waiting.length ≤ answers * most := by
      have some : 0 < most := Nat.lt_min.mpr ⟨positive, by decide⟩
      rw [Nat.div_le_iff_le_mul_add_pred some, Nat.mul_comm]
      omega
    refine ⟨carried, fun h => ?_, s', hs', left, ?_⟩
    · rw [carried, List.take_of_length_le (enough.mp h)]
    · rw [left, List.drop_eq_nil_iff, enough]

end Runs

/-- A channel inside the terminal on which five bytes wait. -/
def fiveBytesWait : List TableInput :=
  [.report 1 1 (.data [1, 2, 3, 4, 5]), .report 1 1 .ready,
    .openChannel SteadyHost.connected.answers (.toCommand 1 .openChannel 0) .loopback]

/-- A receive of two bytes. -/
def TableInput.fetchTwo (number : UInt8) : TableInput :=
  .receiveData (.toCommand number .receiveData 0) ⟨1, 2, []⟩

/-- The bytes are fetched in three steps, and meanwhile another channel is opened and closed. -/
def fetchedByTwo : List TableInput :=
  [.fetchTwo 6, .closeChannel (.toCommand 5 .closeChannel 0) 2 false, .fetchTwo 4,
    .openChannel SteadyHost.connected.answers (.toCommand 3 .openChannel 0) .loopback,
    .fetchTwo 2]

theorem fiveBytesWait_fetchedByTwo :
    ∃ s, (replay .standard fiveBytesWait).2.slots.get? 1 = some s ∧
      s.channel.received.bytes = [1, 2, 3, 4, 5] ∧
      Fetching .standard fiveBytesWait 1 2 fetchedByTwo ∧
      carriedFrom .standard fiveBytesWait 1 fetchedByTwo = [1, 2, 3, 4, 5] ∧
      ∃ s', (replay .standard (fetchedByTwo ++ fiveBytesWait)).2.slots.get? 1 = some s' ∧
        s'.channel.received.bytes = [] := by
  have slot : ((replay .standard fiveBytesWait).2.slots.get? 1).map (·.channel.received.bytes) =
      some [1, 2, 3, 4, 5] := by decide +kernel
  obtain ⟨s, hs, waiting⟩ := Option.map_eq_some_iff.mp slot
  have fetching : Fetching .standard fiveBytesWait 1 2 fetchedByTwo := by
    refine ⟨⟨⟨⟨⟨trivial, ?_⟩, .inr trivial⟩, ?_⟩, .inr (show (2 : UInt8) ≠ 1 by decide)⟩, ?_⟩
    all_goals exact .inl ⟨_, _, rfl, rfl, rfl⟩
  obtain ⟨-, all⟩ := receives_hand_over_what_waits .standard fiveBytesWait hs
  obtain ⟨-, carried, s', hs', -, empty⟩ := all 2 fetchedByTwo (by decide) fetching
  rw [waiting] at carried empty
  exact ⟨s, hs, waiting, fetching, carried (by decide), s', hs', empty.mpr (by decide)⟩

end CardChannels
