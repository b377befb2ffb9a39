import CardChannels.Proofs.Channel.Clients

/-!
# Receiving under back-pressure

The buffer for the card is as large as the most that the task reads at once, and after it has
reported data the task is held back until the card has fetched all of it. So the buffer is empty
whenever data comes. The main statement is that a channel that keeps its link and its task hands
over what the task has reported, all of it and in order, that it announces every report with its
length, and that the task is held back exactly while bytes wait.
-/
namespace CardChannels

/-- The bytes that an input brings from the task. -/
def ChannelInput.brought : ChannelInput → Bytes
  | .report (.data bytes) => bytes
  | _ => []

/-- The bytes that the task has reported in a run. -/
def reported : List ChannelInput → Bytes
  | [] => []
  | input :: past => reported past ++ input.brought

namespace Channel

/-- The bytes that an input has the channel hand over to the card. -/
def handsOver (c : Channel) : ChannelInput → Bytes
  | .receive requested => c.fetched requested
  | _ => []

/-- The bytes that the card has been handed in a run. -/
def handed (c : Channel) : List ChannelInput → Bytes
  | [] => []
  | input :: past => c.handed past ++ (c.after past).handsOver input

/-- Whether an input can come while a channel keeps its link and its task. The task reports data
only while it is not held back, and never more than the buffer can hold. -/
def Admits (c : Channel) : ChannelInput → Prop
  | .report (.data bytes) => bytes ≠ [] ∧ bytes.length ≤ c.received.capacity ∧ c.paused = false
  | .taskEnded => False
  | input => c.resets input = false

/-- A run in which the channel keeps its link and its task. -/
def Undisturbed (c : Channel) : List ChannelInput → Prop
  | [] => True
  | input :: past => c.Undisturbed past ∧ (c.after past).Admits input

/-- A task takes orders, and it is held back exactly while bytes wait for the card. -/
structure Paced (c : Channel) : Prop where
  runs : c.takesOrders = true
  held : c.paused = true ↔ c.received.bytes ≠ []

variable {c : Channel} {input : ChannelInput} {past : List ChannelInput} {bytes : Bytes}

theorem Idle.paced (h : c.Idle) (runs : c.takesOrders = true) : c.Paced :=
  ⟨runs, by simp [h.free, h.empty]⟩

theorem Paced.empty (h : c.Paced) (free : c.paused = false) : c.received.bytes = [] := by
  by_cases waits : c.received.bytes = []
  · exact waits
  · simp [h.held.mpr waits] at free

theorem Admits.not_resets (h : c.Admits input) : c.resets input = false := by
  cases input with
  | report r => cases r with
    | data bytes => rfl
    | _ => exact h
  | taskEnded => cases h
  | _ => exact h

/-! One step -/

/-- A task that is told to go on once nothing is left is held back while something is. -/
theorem paced_resume (runs : c.takesOrders = true)
    (held : c.received.bytes ≠ [] → c.paused = true) : c.resume.1.Paced := by
  unfold resume
  split
  · rename_i h
    have empty : c.received.bytes = [] := List.isEmpty_iff.mp h.2.1
    exact ⟨runs, by simp [empty]⟩
  · rename_i h
    refine ⟨runs, fun paused empty => h ⟨paused, ?_, runs⟩, held⟩
    exact List.isEmpty_iff.mpr empty

theorem Paced.receive (h : c.Paced) (requested : Nat) : (c.receive requested).1.Paced := by
  unfold Channel.receive
  split
  · exact h
  · refine paced_resume (c := { c with received := _ }) h.runs fun waits => h.held.mpr ?_
    intro empty
    simp [Buffer.read, empty] at waits

theorem Paced.send (h : c.Paced) (data : Bytes) (immediate : Bool) :
    (c.send data immediate).1.Paced := by
  unfold Channel.send
  dsimp only
  split
  · exact h
  · split
    · exact ⟨h.runs, h.held⟩
    · split <;> exact ⟨h.runs, h.held⟩

theorem Paced.started (h : c.Paced) (timeout : Nat) : (c.started timeout).Paced := by
  unfold Channel.started start
  cases c.startOrder timeout with
  | ok order => exact ⟨rfl, h.held⟩
  | error cause => exact h

/-- An empty buffer holds all that a task reads at once. -/
theorem room_of_empty (empty : c.received.bytes = [])
    (fits : bytes.length ≤ c.received.capacity) : c.received.room bytes = bytes.length := by
  simpa [Buffer.room, Buffer.free, Buffer.size, empty] using Nat.min_eq_left fits

/-- Data that comes while nothing waits is kept whole and announced with its length. -/
theorem store_of_empty (empty : c.received.bytes = []) (nonempty : bytes ≠ [])
    (fits : bytes.length ≤ c.received.capacity) :
    c.store bytes = ({ c with received := c.received.append bytes, paused := true },
      .dataAvailable c.status bytes.length, []) := by
  have room := room_of_empty empty fits
  have stored : (c.received.append bytes).size = bytes.length := by
    simp [Buffer.size, room, empty]
  have news : c.received.isEmpty = true ∧ 0 < c.received.room bytes := by
    rw [room]
    exact ⟨List.isEmpty_iff.mpr empty, List.length_pos_iff.mpr nonempty⟩
  simp only [store, if_pos news, stored]
  rfl

theorem Paced.report (h : c.Paced) {r : Report} (ha : c.Admits (.report r)) :
    (c.report r).1.Paced := by
  cases r with
  | data bytes =>
    -- The task was not held back, so nothing waits and all of the data has room.
    obtain ⟨nonempty, fits, free⟩ := ha
    have empty := h.empty free
    rw [report_data, store_of_empty empty nonempty fits]
    refine ⟨h.runs, ?_⟩
    simp [room_of_empty empty fits, nonempty]
  | sent ok => cases ok with
    | true =>
      unfold Channel.report
      split <;> exact ⟨h.runs, h.held⟩
    | false => cases ha
  | ready | accepted =>
    unfold Channel.report
    split <;> exact ⟨h.runs, h.held⟩
  | clientLost =>
    have client : c.kind ≠ .tcpServer := by simpa [Admits, resets] using ha
    unfold Channel.report
    split
    · contradiction
    · exact h
    · exact h
  | openFailed | readFailed => cases ha

/-- Every input that can come leaves the task held back exactly while bytes wait. -/
theorem Paced.step (h : c.Paced) (ha : c.Admits input) : (c.step input).Paced := by
  cases input with
  | start timeout => exact h.started timeout
  | close keepListening => cases ha
  | send data immediate => exact h.send data immediate
  | receive requested => exact h.receive requested
  | sessionEnd =>
    have client : c.kind ≠ .tcpServer := by simpa [Admits, resets] using ha
    simp only [Channel.step, sessionEnd, if_neg client]
    exact paced_resume h.runs h.held.mpr
  | report r => exact h.report ha
  | taskEnded => cases ha

/-- What an input brings goes behind what waits, and what it hands over comes from the front. -/
theorem handsOver_append_received (h : c.Paced) (ha : c.Admits input) :
    c.handsOver input ++ (c.step input).received.bytes = c.received.bytes ++ input.brought := by
  have others (notData : ∀ bytes, input ≠ .report (.data bytes))
      (notReceive : ∀ requested, input ≠ .receive requested) :
      (c.step input).received.bytes = c.received.bytes ++ [] := by
    rw [received_of_not_resets ha.not_resets notData notReceive, List.append_nil]
  cases input with
  | receive requested =>
    simp [handsOver, Channel.step, fetched_append_received, ChannelInput.brought]
  | report r => cases r with
    | data bytes =>
      obtain ⟨-, fits, free⟩ := ha
      have room := room_of_empty (h.empty free) fits
      simp [handsOver, Channel.step, report_data, room, ChannelInput.brought]
    | _ => exact others (by simp) (by simp)
  | _ => exact others (by simp) (by simp)

/-! Whole runs -/

theorem paced_after (start : c.Paced) (h : c.Undisturbed past) : (c.after past).Paced := by
  induction past with
  | nil => exact start
  | cons input past ih => exact (ih h.1).step h.2

/-- What was handed over and what waits is what was reported. -/
theorem handed_append_received (start : c.Paced) (empty : c.received.bytes = [])
    (h : c.Undisturbed past) :
    c.handed past ++ (c.after past).received.bytes = reported past := by
  induction past with
  | nil => exact empty
  | cons input past ih =>
    have now := handsOver_append_received (paced_after start h.1) h.2
    calc c.handed (input :: past) ++ (c.after (input :: past)).received.bytes
      _ = c.handed past ++
          ((c.after past).handsOver input ++ ((c.after past).step input).received.bytes) :=
        List.append_assoc ..
      _ = (c.handed past ++ (c.after past).received.bytes) ++ input.brought := by
        rw [now, List.append_assoc]
      _ = reported (input :: past) := by rw [ih h.1, reported]

/-! The agreed size -/

theorem capacity_receive (c : Channel) (requested : Nat) :
    (c.receive requested).1.received.capacity = c.received.capacity := by
  unfold Channel.receive
  split
  · rfl
  · simp only [received_resume]
    rfl

theorem capacity_step (c : Channel) (input : ChannelInput) :
    (c.step input).received.capacity = c.received.capacity := by
  by_cases resets : c.resets input = true
  · rw [(step_of_resets resets).1]
    rfl
  · have others (notData : ∀ bytes, input ≠ .report (.data bytes))
        (notReceive : ∀ requested, input ≠ .receive requested) :
        (c.step input).received.capacity = c.received.capacity := by
      rw [received_of_not_resets (Bool.not_eq_true _ ▸ resets) notData notReceive]
    cases input with
    | receive requested => exact capacity_receive c requested
    | report r => cases r with
      | data bytes => simp [Channel.step, report_data]
      | _ => exact others (by simp) (by simp)
    | _ => exact others (by simp) (by simp)

theorem capacity_after (c : Channel) (past : List ChannelInput) :
    (c.after past).received.capacity = c.received.capacity := by
  induction past with
  | nil => rfl
  | cons input past ih => rw [after, capacity_step, ih]

/-- The buffer for what the card stores keeps its size too. -/
theorem queued_capacity_step (c : Channel) (input : ChannelInput) :
    (c.step input).queued.capacity = c.queued.capacity := by
  by_cases resets : c.resets input = true
  · rw [(step_of_resets resets).2.1]
    rfl
  · have others (notSend : ∀ data immediate, input ≠ .send data immediate) :
        (c.step input).queued.capacity = c.queued.capacity := by
      rw [queued_of_not_resets (Bool.not_eq_true _ ▸ resets) notSend]
    cases input with
    | send data immediate =>
      unfold step send
      dsimp only
      split
      · rfl
      · split
        · rfl
        · split <;> rfl
    | _ => exact others (by simp)

theorem queued_capacity_after (c : Channel) (past : List ChannelInput) :
    (c.after past).queued.capacity = c.queued.capacity := by
  induction past with
  | nil => rfl
  | cons input past ih => rw [after, queued_capacity_step, ih]

/-- A channel that is opened or reset is idle, and its buffer has the agreed size ever after it was
opened. While an idle channel then keeps its link and its task, what was handed over and what waits
is what was reported, the task is held back exactly while bytes wait, and data that is reported is
kept whole and announced with its length. -/
theorem lossless_under_back_pressure :
    (∀ id generation settings timeout past,
      ((new id generation settings).started timeout).Idle ∧
      (((new id generation settings).started timeout).after past).received.capacity =
        settings.bufferSize.toNat) ∧
    (∀ (c : Channel) (input : ChannelInput), c.resets input = true → (c.step input).Idle) ∧
    ∀ c : Channel, c.Idle → c.takesOrders = true → ∀ past, c.Undisturbed past →
      c.handed past ++ (c.after past).received.bytes = reported past ∧
      ((c.after past).paused = true ↔ (c.after past).received.bytes ≠ []) ∧
      ∀ bytes, (c.after past).Admits (.report (.data bytes)) →
        (c.after past).received.room bytes = bytes.length ∧
        ((c.after past).report (.data bytes)).2.1 =
          .dataAvailable (c.after past).status bytes.length := by
  refine ⟨fun id generation settings timeout past => ?opened, fun c input => idle_of_resets,
    fun c idle runs past h => ?period⟩
  case opened =>
    refine ⟨idle_started_new .., ?_⟩
    rw [capacity_after, received_started]
    rfl
  case period =>
    have paced := paced_after (idle.paced runs) h
    refine ⟨handed_append_received (idle.paced runs) idle.empty h, paced.held, ?_⟩
    intro bytes ⟨nonempty, fits, free⟩
    have empty := paced.empty free
    rw [report_data, store_of_empty empty nonempty fits]
    exact ⟨room_of_empty empty fits, rfl⟩

end Channel

/-- An open client inside the terminal, with room for four bytes. -/
def Channel.smallClient : Channel :=
  started (.new 1 1 { ChannelSettings.server with protocol := .tcpClientLocal, bufferSize := 4 }) 0

/-- The task reports four bytes, the card fetches them in two steps with the end of the session in
between, and the task reports one more byte. -/
def fetchedInSteps : List ChannelInput :=
  [.report (.data [5]), .receive 9, .sessionEnd, .receive 3, .report (.data [1, 2, 3, 4]),
    .report .ready]

theorem lossless_fetchedInSteps :
    Channel.smallClient.Idle ∧ Channel.smallClient.takesOrders = true ∧
      Channel.smallClient.Undisturbed fetchedInSteps ∧
      Channel.smallClient.handed fetchedInSteps ++
        (Channel.smallClient.after fetchedInSteps).received.bytes = [1, 2, 3, 4, 5] := by
  have idle : Channel.smallClient.Idle := Channel.idle_started_new ..
  have steady : Channel.smallClient.Undisturbed fetchedInSteps :=
    ⟨⟨⟨⟨⟨⟨trivial, rfl⟩, by decide, by decide, rfl⟩, rfl⟩, rfl⟩, rfl⟩,
      by decide, by decide +kernel, by decide +kernel⟩
  have h := Channel.lossless_under_back_pressure.2.2 Channel.smallClient idle rfl _ steady
  exact ⟨idle, rfl, steady, h.1.trans (by decide)⟩

end CardChannels
