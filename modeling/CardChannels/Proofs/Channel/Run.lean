import CardChannels.Channel.Basic

/-!
# Runs of one channel

A channel is started, closed, sent on, received from, told that the session is over, and told what
its socket task reports. A run is any sequence of that, kept with the newest input first. The
lemmas say what each operation does to the bytes that wait for the card, and that no operation
changes the settings.
-/
namespace CardChannels

/-- What can happen to a channel. -/
inductive ChannelInput where
  | start (timeout : Nat)
  | close (keepListening : Bool)
  | send (data : Bytes) (immediate : Bool)
  | receive (requested : Nat)
  | sessionEnd
  | report (r : Report)
  | taskEnded
deriving DecidableEq

/-- The bytes that a receive hands over to the card. -/
def Handover.bytes : Handover → Bytes
  | .data _ bytes _ => bytes
  | .closed => []

namespace Channel

/-- The channel with its task started, or as it is when it has nowhere to connect to. -/
def started (c : Channel) (timeout : Nat) : Channel :=
  match c.start timeout with
  | .ok (channel, _) => channel
  | .error _ => c

/-- The channel after an input. -/
def step (c : Channel) : ChannelInput → Channel
  | .start timeout => c.started timeout
  | .close keepListening => (c.close keepListening).1
  | .send data immediate => (c.send data immediate).1
  | .receive requested => (c.receive requested).1
  | .sessionEnd => c.sessionEnd.1
  | .report r => (c.report r).1
  | .taskEnded => { c with ended := true }

/-- The channel after a run. -/
def after (c : Channel) : List ChannelInput → Channel
  | [] => c
  | input :: past => (c.after past).step input

/-- The bytes that a receive hands over to the card. -/
def fetched (c : Channel) (requested : Nat) : Bytes := (c.receive requested).2.1.bytes

variable {c : Channel}

/-- A task that is told to read again is no longer held back, and nothing else changes. -/
theorem resume_eq_with_paused (c : Channel) :
    c.resume.1 = { c with paused := c.resume.1.paused } := by
  unfold resume
  split <;> rfl

/-! Settings -/

@[simp] theorem settings_resume (c : Channel) : c.resume.1.settings = c.settings := by
  unfold resume
  split <;> rfl

@[simp] theorem settings_close (c : Channel) (keepListening : Bool) :
    (c.close keepListening).1.settings = c.settings := by
  unfold close
  split <;> rfl

@[simp] theorem settings_send (c : Channel) (data : Bytes) (immediate : Bool) :
    (c.send data immediate).1.settings = c.settings := by
  unfold send
  dsimp only
  split
  · rfl
  · split
    · rfl
    · split <;> rfl

@[simp] theorem settings_receive (c : Channel) (requested : Nat) :
    (c.receive requested).1.settings = c.settings := by
  unfold receive
  split
  · rfl
  · exact settings_resume _

@[simp] theorem settings_sessionEnd (c : Channel) : c.sessionEnd.1.settings = c.settings := by
  unfold sessionEnd
  split
  · rfl
  · exact settings_resume c

@[simp] theorem settings_store (c : Channel) (data : Bytes) :
    (c.store data).1.settings = c.settings := by
  unfold store
  dsimp only
  split
  · rfl
  · split
    · exact settings_resume _
    · rfl

@[simp] theorem settings_report (c : Channel) (r : Report) :
    (c.report r).1.settings = c.settings := by
  unfold report
  split
  all_goals
    cases r with
    | data bytes => exact settings_store c bytes
    | sent ok => cases ok <;> rfl
    | _ => rfl

theorem settings_start {c c' : Channel} {timeout : Nat} {orders : List Order}
    (h : c.start timeout = .ok (c', orders)) : c'.settings = c.settings := by
  unfold start at h
  split at h
  · cases h
    rfl
  · cases h

@[simp] theorem settings_started (c : Channel) (timeout : Nat) :
    (c.started timeout).settings = c.settings := by
  unfold started
  split
  · rename_i h
    exact settings_start h
  · rfl

@[simp] theorem settings_step (c : Channel) (input : ChannelInput) :
    (c.step input).settings = c.settings := by
  cases input <;> simp [step]

@[simp] theorem settings_after (c : Channel) (past : List ChannelInput) :
    (c.after past).settings = c.settings := by
  induction past with
  | nil => rfl
  | cons input past ih => rw [after, settings_step, ih]

/-- The kind of a channel stays. -/
@[simp] theorem kind_after (c : Channel) (past : List ChannelInput) :
    (c.after past).kind = c.kind := by
  simp only [kind, settings_after]

/-! The bytes that wait for the card -/

@[simp] theorem received_resume (c : Channel) : c.resume.1.received = c.received := by
  unfold resume
  split <;> rfl

@[simp] theorem received_send (c : Channel) (data : Bytes) (immediate : Bool) :
    (c.send data immediate).1.received = c.received := by
  unfold send
  dsimp only
  split
  · rfl
  · split
    · rfl
    · split <;> rfl

@[simp] theorem received_store (c : Channel) (data : Bytes) :
    (c.store data).1.received = c.received.append data := by
  unfold store
  dsimp only
  split
  · rfl
  · split
    · exact received_resume _
    · rfl

@[simp] theorem received_started (c : Channel) (timeout : Nat) :
    (c.started timeout).received = c.received := by
  unfold started start
  cases c.startOrder timeout <;> rfl

@[simp] theorem paused_started (c : Channel) (timeout : Nat) :
    (c.started timeout).paused = c.paused := by
  unfold started start
  cases c.startOrder timeout <;> rfl

/-! The bytes that wait for the task -/

@[simp] theorem queued_resume (c : Channel) : c.resume.1.queued = c.queued := by
  unfold resume
  split <;> rfl

@[simp] theorem queued_receive (c : Channel) (requested : Nat) :
    (c.receive requested).1.queued = c.queued := by
  unfold receive
  split
  · rfl
  · exact queued_resume _

@[simp] theorem queued_store (c : Channel) (data : Bytes) :
    (c.store data).1.queued = c.queued := by
  unfold store
  dsimp only
  split
  · rfl
  · split
    · exact queued_resume _
    · rfl

@[simp] theorem queued_started (c : Channel) (timeout : Nat) :
    (c.started timeout).queued = c.queued := by
  unfold started start
  cases c.startOrder timeout <;> rfl

/-! Handing over -/

/-- A receive hands over the first bytes and leaves the others. -/
theorem fetched_append_received (c : Channel) (requested : Nat) :
    c.fetched requested ++ (c.receive requested).1.received.bytes = c.received.bytes := by
  unfold fetched receive
  split
  · rfl
  · simp only [Handover.bytes, received_resume, Buffer.read_fst_append_bytes]

theorem report_data (c : Channel) (bytes : Bytes) :
    c.report (.data bytes) = c.store bytes := by
  unfold report
  split <;> rfl

/-! Resets -/

/-- Nothing waits for the card, and the task is free to read. -/
structure Idle (c : Channel) : Prop where
  empty : c.received.bytes = []
  free : c.paused = false

/-- A channel that opens is idle. -/
theorem idle_started_new (id : UInt8) (generation : Nat) (settings : ChannelSettings)
    (timeout : Nat) : ((new id generation settings).started timeout).Idle :=
  ⟨congrArg Buffer.bytes (received_started ..), paused_started ..⟩

/-- Whether an input empties the buffers of a channel. A client outlives the session, and only a
server can lose a client. -/
def resets (c : Channel) : ChannelInput → Bool
  | .close _ | .report .openFailed | .report .readFailed | .report (.sent false) => true
  | .sessionEnd | .report .clientLost => c.kind = .tcpServer
  | _ => false

/-- A reset empties the buffers and lets the task read. -/
theorem step_of_resets {input : ChannelInput} (h : c.resets input = true) :
    (c.step input).received = c.received.clear ∧ (c.step input).queued = c.queued.clear ∧
      (c.step input).paused = false := by
  cases input with
  | close keepListening =>
    simp only [step, close]
    split <;> exact ⟨rfl, rfl, rfl⟩
  | sessionEnd =>
    have server : c.kind = .tcpServer := by simpa [resets] using h
    simp only [step, sessionEnd, if_pos server]
    exact ⟨rfl, rfl, rfl⟩
  | report r =>
    simp only [step, report]
    cases r with
    | sent ok => cases ok with
      | true => cases h
      | false => split <;> exact ⟨rfl, rfl, rfl⟩
    | openFailed | readFailed => split <;> exact ⟨rfl, rfl, rfl⟩
    | clientLost =>
      have server : c.kind = .tcpServer := by simpa [resets] using h
      simp only [server]
      exact ⟨rfl, rfl, rfl⟩
    | ready | accepted | data => cases h
  | start | send | receive | taskEnded => cases h

theorem idle_of_resets {input : ChannelInput} (h : c.resets input = true) :
    (c.step input).Idle := by
  obtain ⟨received, -, free⟩ := step_of_resets h
  exact ⟨congrArg Buffer.bytes received, free⟩

/-- What neither brings nor fetches bytes and does not reset the channel leaves them. -/
theorem received_of_not_resets {input : ChannelInput} (h : c.resets input = false)
    (notData : ∀ bytes, input ≠ .report (.data bytes))
    (notReceive : ∀ requested, input ≠ .receive requested) :
    (c.step input).received = c.received := by
  cases input with
  | start timeout => exact received_started c timeout
  | send data immediate => exact received_send c data immediate
  | receive requested => exact absurd rfl (notReceive requested)
  | taskEnded => rfl
  | close => cases h
  | sessionEnd =>
    have client : c.kind ≠ .tcpServer := by simpa [resets] using h
    simp only [step, sessionEnd, if_neg client, received_resume]
  | report r =>
    simp only [step, report]
    cases r with
    | data bytes => exact absurd rfl (notData bytes)
    | sent ok => cases ok with
      | true => split <;> rfl
      | false => cases h
    | ready | accepted => split <;> rfl
    | clientLost =>
      have client : c.kind ≠ .tcpServer := by simpa [resets] using h
      split
      · contradiction
      · rfl
      · rfl
    | openFailed | readFailed => cases h

/-- Only a send or a reset changes what waits for the task. -/
theorem queued_of_not_resets {input : ChannelInput} (h : c.resets input = false)
    (notSend : ∀ data immediate, input ≠ .send data immediate) :
    (c.step input).queued = c.queued := by
  cases input with
  | start timeout => exact queued_started c timeout
  | send data immediate => exact absurd rfl (notSend data immediate)
  | receive requested => exact queued_receive c requested
  | taskEnded => rfl
  | close => cases h
  | sessionEnd =>
    have client : c.kind ≠ .tcpServer := by simpa [resets] using h
    simp only [step, sessionEnd, if_neg client, queued_resume]
  | report r =>
    simp only [step]
    cases r with
    | data bytes => rw [report_data, queued_store]
    | sent ok => cases ok with
      | true =>
        unfold report
        split <;> rfl
      | false => cases h
    | ready | accepted =>
      unfold report
      split <;> rfl
    | clientLost =>
      have client : c.kind ≠ .tcpServer := by simpa [resets] using h
      unfold report
      split
      · contradiction
      · rfl
      · rfl
    | openFailed | readFailed => cases h

end Channel

end CardChannels
