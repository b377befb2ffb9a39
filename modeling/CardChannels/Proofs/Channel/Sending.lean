import CardChannels.Proofs.Channel.BackPressure
import CardChannels.Proofs.Channel.Operations

/-!
# Sending keeps the order

What the card stores waits in a buffer until a send has all of it sent at once. The buffer takes
the first bytes of a send, as many as it has room for, and a reset empties it. The main statement
is about any run in which every send comes while the channel has a link and a task that takes
orders: since the last reset the batches that the task was given, and what waits behind them, are
what the sends took, in order; a batch is what was taken since the last batch or reset; and what
waits, what a send takes and what it tells to be free make up the size of the buffer.
-/
namespace CardChannels

/-- The bytes that an order has the task send. -/
def Order.batch? : Order → Option Bytes
  | .write data => some data
  | _ => none

theorem Order.batch?_of_minor {order : Order} (h : order.minor = true) : order.batch? = none := by
  cases order with
  | write | listen | connect | exchange => cases h
  | resume | dropClient | stop => rfl

/-- Whether all that waits is to be sent at once. -/
def ChannelInput.flushes : ChannelInput → Bool
  | .send _ immediate => immediate
  | _ => false

namespace Channel

/-- A channel with a link and a task that takes orders. -/
structure Linked (c : Channel) : Prop where
  link : c.link = .established
  runs : c.takesOrders = true

/-- Whether every send of a run comes while the channel has a link and a task that takes orders. -/
def SendsLinked (c : Channel) : List ChannelInput → Prop
  | [] => True
  | .send _ _ :: past => (c.after past).Linked ∧ c.SendsLinked past
  | _ :: past => c.SendsLinked past

/-- The orders that an input has the channel give to its task. -/
def given (c : Channel) : ChannelInput → List Order
  | .start timeout =>
    match c.start timeout with
    | .ok (_, orders) => orders
    | .error _ => []
  | .close keepListening => (c.close keepListening).2.2
  | .send data immediate => (c.send data immediate).2.2
  | .receive requested => (c.receive requested).2.2
  | .sessionEnd => c.sessionEnd.2.2
  | .report r => (c.report r).2.2
  | .taskEnded => []

/-- The first bytes of a send, as many as there is room for. -/
def takes (c : Channel) (data : Bytes) : Bytes :=
  data.take (min data.length (c.queued.capacity - c.queued.size))

/-- The bytes that an input has the channel take from the card. -/
def takesFrom (c : Channel) : ChannelInput → Bytes
  | .send data _ => c.takes data
  | _ => []

/-- The batches of bytes that the task was given since the last reset. -/
def batches (c : Channel) : List ChannelInput → List Bytes
  | [] => []
  | input :: past =>
    if (c.after past).resets input then []
    else c.batches past ++ ((c.after past).given input).filterMap Order.batch?

/-- The bytes that were taken from the card since the last reset. -/
def taken (c : Channel) : List ChannelInput → Bytes
  | [] => []
  | input :: past =>
    if (c.after past).resets input then [] else c.taken past ++ (c.after past).takesFrom input

/-- The bytes that were taken from the card since the last send at once or reset. -/
def unsent (c : Channel) : List ChannelInput → Bytes
  | [] => []
  | input :: past =>
    if input.flushes ∨ (c.after past).resets input then []
    else c.unsent past ++ (c.after past).takesFrom input

variable {c : Channel} {input : ChannelInput} {past : List ChannelInput}

theorem SendsLinked.tail (h : c.SendsLinked (input :: past)) : c.SendsLinked past := by
  cases input with
  | send data immediate => exact h.2
  | start | close | receive | sessionEnd | report | taskEnded => exact h

/-! One input -/

theorem Begins.batch?_eq_none {timeout : Nat} {order : Order} (h : c.Begins timeout order) :
    order.batch? = none := by
  cases h with
  | listens | connects | exchanges => rfl

/-- Only a send has the task send. -/
theorem no_batch_of_not_send (notSend : ∀ data immediate, input ≠ .send data immediate) :
    (c.given input).filterMap Order.batch? = [] := by
  have minor {orders : List Order} (h : ∀ o ∈ orders, o.minor = true) :
      orders.filterMap Order.batch? = [] :=
    List.filterMap_eq_nil_iff.mpr fun o ho => Order.batch?_of_minor (h o ho)
  cases input with
  | start timeout =>
    have starts := c.starts_start timeout
    rw [given]
    generalize c.start timeout = started at starts ⊢
    cases starts with
    | begun begins => simp [minor minor_stopOrders, begins.batch?_eq_none]
    | nowhere => rfl
  | close keepListening => exact minor (minor_close keepListening)
  | send data immediate => exact absurd rfl (notSend data immediate)
  | receive requested => exact minor (minor_receive requested)
  | sessionEnd => exact minor minor_sessionEnd
  | report r => exact minor (minor_report r)
  | taskEnded => rfl

theorem Linked.attached (h : c.Linked) : c.attached = true := by
  have runs := h.runs
  simp only [takesOrders, Bool.and_eq_true] at runs
  exact runs.1

/-- A send that is not to be done at once stores what it takes. -/
theorem send_later (h : c.Linked) (data : Bytes) :
    c.send data false =
      ({ c with queued := c.queued.append data }, .buffered (c.queued.append data).free, []) := by
  simp [send, h.link, h.attached]

/-- A send that is to be done at once has the task send all that waits and what it takes. -/
theorem send_now (h : c.Linked) (data : Bytes) :
    c.send data true =
      ({ c with queued := c.queued.clear }, .flushing (c.queued.append data).free,
        [.write (c.queued.bytes ++ c.takes data)]) := by
  have cleared : (c.queued.append data).clear = c.queued.clear := rfl
  simp only [send, h.link, h.attached, h.runs, cleared, Buffer.bytes_append]
  rfl

/-- What waits, what a send takes and what is free behind it make up the buffer. -/
theorem size_add_takes_add_free (c : Channel) (data : Bytes) :
    c.queued.size + (c.takes data).length + (c.queued.append data).free = c.queued.capacity := by
  have whole := (c.queued.append data).size_add_free
  have size : (c.queued.append data).size = c.queued.size + (c.takes data).length :=
    List.length_append
  rw [size] at whole
  exact whole

/-- What the task is given and what waits behind it is what waited and what was taken. -/
theorem batch_append_queued (sends : c.SendsLinked (input :: past))
    (resets : (c.after past).resets input = false) :
    (((c.after past).given input).filterMap Order.batch?).flatten ++
        ((c.after past).step input).queued.bytes =
      (c.after past).queued.bytes ++ (c.after past).takesFrom input := by
  have others (notSend : ∀ data immediate, input ≠ .send data immediate)
      (none : (c.after past).takesFrom input = []) :
      (((c.after past).given input).filterMap Order.batch?).flatten ++
          ((c.after past).step input).queued.bytes =
        (c.after past).queued.bytes ++ (c.after past).takesFrom input := by
    rw [no_batch_of_not_send notSend, queued_of_not_resets resets notSend, none]
    exact (List.append_nil _).symm
  cases input with
  | send data immediate =>
    cases immediate with
    | false =>
      simp only [given, step, send_later sends.1]
      rfl
    | true => simp [given, step, send_now sends.1, Order.batch?, takesFrom]
  | _ => exact others (by simp) rfl

/-! Whole runs -/

theorem batches_append_queued (empty : c.queued.bytes = []) (sends : c.SendsLinked past) :
    (c.batches past).flatten ++ (c.after past).queued.bytes = c.taken past := by
  induction past with
  | nil => exact empty
  | cons input past ih =>
    by_cases resets : (c.after past).resets input = true
    · rw [batches, taken, if_pos resets, if_pos resets, after, (step_of_resets resets).2.1]
      rfl
    · rw [batches, taken, if_neg resets, if_neg resets, List.flatten_append, List.append_assoc,
        after, batch_append_queued sends (Bool.not_eq_true _ ▸ resets), ← List.append_assoc,
        ih sends.tail]

theorem queued_eq_unsent (empty : c.queued.bytes = []) (sends : c.SendsLinked past) :
    (c.after past).queued.bytes = c.unsent past := by
  induction past with
  | nil => exact empty
  | cons input past ih =>
    rw [unsent, after, ← ih sends.tail]
    by_cases resets : (c.after past).resets input = true
    · rw [if_pos (.inr resets), (step_of_resets resets).2.1]
      rfl
    · have others (notSend : ∀ data immediate, input ≠ .send data immediate)
          (keeps : input.flushes = false) (none : (c.after past).takesFrom input = []) :
          ((c.after past).step input).queued.bytes =
            if input.flushes ∨ (c.after past).resets input then []
            else (c.after past).queued.bytes ++ (c.after past).takesFrom input := by
        rw [if_neg (by simp [keeps, resets]), none, List.append_nil,
          queued_of_not_resets (Bool.not_eq_true _ ▸ resets) notSend]
      cases input with
      | send data immediate =>
        cases immediate with
        | false =>
          rw [step, send_later sends.1, if_neg (by simp [ChannelInput.flushes, resets])]
          rfl
        | true =>
          rw [step, send_now sends.1, if_pos (.inl rfl)]
          rfl
      | _ => exact others (by simp) rfl rfl

/-- In a run from an empty buffer in which every send comes while the channel has a link and a task
that takes orders, the size of the buffer stays, a reset empties it, the batches since the last
reset and what waits behind them are what was taken since then, and what waits is what was taken
since the last batch or reset. A send takes as many of the first bytes as there is room for, and it
tells how many more there is room for. It stores what it takes, or has the task send all that was
taken since the last batch or reset. -/
theorem sends_keep_order (c : Channel) (empty : c.queued.bytes = []) (past : List ChannelInput)
    (sends : c.SendsLinked past) :
    let now := c.after past
    now.queued.capacity = c.queued.capacity ∧
    (c.batches past).flatten ++ now.queued.bytes = c.taken past ∧
    now.queued.bytes = c.unsent past ∧
    (∀ input, now.resets input = true → (now.step input).queued.bytes = []) ∧
    ∀ data, now.Linked →
      let taken := data.take (min data.length (c.queued.capacity - now.queued.size))
      ∃ free, now.queued.size + taken.length + free = c.queued.capacity ∧
        (now.send data false).2 = (.buffered free, []) ∧
        (now.send data false).1.queued.bytes = c.unsent past ++ taken ∧
        (now.send data true).2 = (.flushing free, [.write (c.unsent past ++ taken)]) ∧
        (now.send data true).1.queued.bytes = [] := by
  have capacity := queued_capacity_after c past
  have waits := queued_eq_unsent empty sends
  refine ⟨capacity, batches_append_queued empty sends, waits, fun input resets => ?reset,
    fun data linked => ?send⟩
  case reset =>
    rw [(step_of_resets resets).2.1]
    rfl
  case send =>
    have whole := size_add_takes_add_free (c.after past) data
    simp only [takes] at whole
    rw [capacity] at whole
    refine ⟨_, whole, ?_⟩
    rw [send_later linked, send_now linked, ← waits, ← capacity]
    exact ⟨rfl, rfl, rfl, rfl⟩

end Channel

/-- Five bytes are sent in two steps on a channel with room for four, the second time at once. Then
the partner goes away, the channel is started again, and four more bytes are sent in the same
way. -/
def sentInSteps : List ChannelInput :=
  [.send [9] false, .send [8] true, .send [6, 7] false, .report .ready, .start 0,
    .report .readFailed, .send [4, 5] true, .send [1, 2, 3] false, .report .ready]

theorem sends_sentInSteps :
    Channel.smallClient.queued.bytes = [] ∧ Channel.smallClient.SendsLinked sentInSteps ∧
      (Channel.smallClient.after sentInSteps).Linked ∧
      [[6, 7, 8]].flatten ++ (Channel.smallClient.after sentInSteps).queued.bytes =
        [6, 7, 8, 9] ∧
      ((Channel.smallClient.after sentInSteps).send [1, 2, 3, 4, 5] true).2 =
        (.flushing 0, [.write [9, 1, 2, 3]]) := by
  have linked : (Channel.smallClient.after sentInSteps).Linked := ⟨by decide +kernel, rfl⟩
  have sends : Channel.smallClient.SendsLinked sentInSteps := by
    refine ⟨?_, ?_, ?_, ?_, ?_, trivial⟩
    all_goals exact ⟨by decide +kernel, by decide +kernel⟩
  have batches : Channel.smallClient.batches sentInSteps = [[6, 7, 8]] := by decide +kernel
  have size : (Channel.smallClient.after sentInSteps).queued.size = 1 := by decide +kernel
  obtain ⟨-, order, -, -, send⟩ := Channel.smallClient.sends_keep_order rfl sentInSteps sends
  obtain ⟨free, whole, -, -, now, -⟩ := send [1, 2, 3, 4, 5] linked
  rw [size] at whole now
  have full : free = 0 := Nat.add_left_cancel (n := 4) whole
  refine ⟨rfl, sends, linked, ?_, ?_⟩
  · rw [← batches, order]
    decide +kernel
  · rw [now, full]
    decide +kernel

end CardChannels
