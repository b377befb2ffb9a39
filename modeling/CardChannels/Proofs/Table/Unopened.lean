import CardChannels.Proofs.Table.Origin

/-!
# Channels that are not open yet

A channel whose open is not over holds no bytes. Its link is closed, with one exception: a close
that is to keep a server listening also reaches a server that does not listen yet, and shows it as
listening from then on. The main statement says that this is the only exception, and what the status
of the channel is then.
-/
namespace CardChannels

/-- Whether an input is a close that is to keep the server of a channel listening. -/
def TableInput.keepsListening (k : UInt8) : TableInput → Bool
  | .closeChannel _ channel keepListening => channel = k && keepListening
  | _ => false

namespace TableHistory

/-- Whether a close was to keep the server of a channel listening after its socket task had been
told to listen. -/
def keptListening (k : UInt8) (g : Nat) : TableHistory → Bool
  | [] => false
  | (input, _) :: past =>
    input.keepsListening k && (told past k g).any Order.listens || keptListening k g past

/-- A server is only kept listening after it was told to listen. -/
theorem listens_of_keptListening {past : TableHistory} {k : UInt8} {g : Nat}
    (h : past.keptListening k g = true) : (past.told k g).any Order.listens = true := by
  induction past with
  | nil => cases h
  | cons event past ih =>
    have before : (told past k g).any Order.listens = true := by
      rw [keptListening, Bool.or_eq_true, Bool.and_eq_true] at h
      rcases h with ⟨-, listens⟩ | kept
      · exact listens
      · exact ih kept
    rw [told_cons, List.any_append, before, Bool.or_true]

end TableHistory

namespace Channel

variable {c c' : Channel} {timeout : Nat} {orders : List Order}

/-- The start of a channel changes nothing but its task, and has a server listen. -/
theorem of_start (h : c.start timeout = .ok (c', orders)) :
    c' = { c with attached := true, ended := false } ∧
      (c.kind = .tcpServer → ∃ source, .listen source ∈ orders) := by
  have starts := c.starts_start timeout
  rw [h] at starts
  cases starts with
  | begun begins =>
    refine ⟨rfl, fun server => ?_⟩
    cases begins with
    | listens => exact ⟨_, List.mem_append_right _ (List.mem_singleton_self _)⟩
    | connects client | exchanges client => cases server.symm.trans client

/-- A close that keeps a server listening finds a server with a task. -/
theorem of_close_listening (h : c.close true = (c', .listening, orders)) :
    c.kind = .tcpServer ∧ c.attached = true ∧ c' = c.listenAgain := by
  unfold close at h
  split at h
  · rename_i keeps
    cases h
    exact ⟨keeps.1, keeps.2.2, rfl⟩
  · cases h

/-- Where nothing was received and there is no partner, a receive changes nothing. -/
theorem receive_of_empty (empty : c.received.bytes = []) (link : c.link ≠ .established)
    (requested : Nat) : (c.receive requested).1 = c := by
  unfold receive
  rw [if_pos ⟨by simp [Buffer.isEmpty, empty], link⟩]

end Channel

/-- A slot without bytes whose channel was never linked: it is closed, or shown as listening where a
close was to keep it so. The orders are those that its task was given. -/
structure Slot.Unlinked (told : List Order) (kept : Bool) (s : Slot) : Prop where
  received : s.channel.received.bytes = []
  queued : s.channel.queued.bytes = []
  dropped : s.channel.dropped = false
  link : s.channel.link = if kept then .listening else .closed
  listens : s.channel.kind = .tcpServer → s.channel.attached = true →
    told.any Order.listens = true

variable {config : Config} {past : TableHistory} {t : ChannelTable} {input : TableInput}
  {k : UInt8} {g : Nat} {s s' : Slot}

namespace Slot.Unlinked

variable {told more : List Order} {kept : Bool}

theorem link_ne (h : s.Unlinked told kept) : s.channel.link ≠ .established := by
  rw [h.link]
  split <;> simp

/-- The task may be told more. -/
theorem mono (h : s.Unlinked told kept) (sub : told ⊆ more) : s.Unlinked more kept := by
  refine ⟨h.received, h.queued, h.dropped, h.link, fun server attached => ?_⟩
  obtain ⟨o, ho, listens⟩ := List.any_eq_true.mp (h.listens server attached)
  exact List.any_eq_true.mpr ⟨o, sub ho, listens⟩

theorem new (told : List Order) (k : UInt8) (reply : Reply) (settings : ChannelSettings) :
    (t.newSlot k reply settings).Unlinked told false :=
  ⟨rfl, rfl, rfl, rfl, fun _ attached => by cases attached⟩

/-- The start of its task leaves a channel unlinked. -/
theorem start (h : s.Unlinked told kept) {timeout : Nat} {channel : Channel} {orders : List Order}
    (start : s.channel.start timeout = .ok (channel, orders)) (given : orders ⊆ more)
    (phase : Phase) (pending : Option PendingReply) :
    Slot.Unlinked more kept ⟨channel, phase, pending⟩ := by
  obtain ⟨rfl, listen⟩ := Channel.of_start start
  refine ⟨h.received, h.queued, h.dropped, h.link, fun server _ => ?_⟩
  obtain ⟨source, hsource⟩ := listen server
  exact List.any_eq_true.mpr ⟨_, given hsource, rfl⟩

end Slot.Unlinked

/-- A step leaves a channel that is not open yet unlinked. -/
theorem Slot.Origin.unlinked {told : Nat → List Order} {before : Option Slot}
    (origin : s'.Origin t k input told before) (unopened : s'.phase ≠ .opened)
    (hold : ∀ s, before = some s → s.phase ≠ .opened →
      s.Unlinked (past.told k s.channel.generation) (past.keptListening k s.channel.generation))
    (first : ∀ s r, before = some s → input = .report k s.channel.generation r →
      (s.phase ≠ .opened ↔ r = .ready ∨ r = .openFailed))
    (fresh : past.told k (t.generation + 1) = []) :
    s'.Unlinked (told s'.channel.generation ++ past.told k s'.channel.generation)
      (input.keepsListening k && (past.told k s'.channel.generation).any Order.listens ||
        past.keptListening k s'.channel.generation) := by
  have freshKept : past.keptListening k (t.generation + 1) = false := by
    by_contra kept
    have listens := TableHistory.listens_of_keptListening (by simpa using kept)
    rw [fresh] at listens
    cases listens
  cases origin with
  | stays unclosed =>
    have none : input.keepsListening k = false := by
      cases input with
      | closeChannel reply j keepListening =>
        have other : j ≠ k := fun same => unclosed reply keepListening (same ▸ rfl)
        simp [TableInput.keepsListening, other]
      | _ => rfl
    rw [none]
    exact (hold _ rfl unopened).mono (List.subset_append_right ..)
  | @started s channel orders uncommanded waits start given =>
    have none : input.keepsListening k = false := by
      cases input with
      | closeChannel => cases uncommanded
      | _ => rfl
    have unlinked := hold s rfl (by simp [waits])
    obtain ⟨rfl, -⟩ := Channel.of_start start
    rw [none]
    exact unlinked.start start (fun o ho => List.mem_append_left _ (given o ho)) _ _
  | new asked =>
    subst asked
    change Slot.Unlinked _ (false && _ || past.keptListening k (t.generation + 1)) _
    rw [freshKept]
    exact .new _ k _ _
  | newStarted asked start given =>
    subst asked
    obtain ⟨rfl, -⟩ := Channel.of_start start
    change Slot.Unlinked _ (false && _ || past.keptListening k (t.generation + 1)) _
    rw [freshKept]
    exact (Slot.Unlinked.new [] k _ _).start start
      (fun o ho => List.mem_append_left _ (given o ho)) _ _
  | @kept s reply channel orders asked closed =>
    obtain ⟨server, attached, rfl⟩ := Channel.of_close_listening closed
    have unlinked := hold s rfl unopened
    have listens := unlinked.listens server attached
    subst asked
    have kept : TableInput.keepsListening k (.closeChannel reply k true) = true := by
      simp [TableInput.keepsListening]
    refine ⟨rfl, rfl, unlinked.dropped, ?_, fun _ _ => ?_⟩
    · simp [Channel.listenAgain, kept, listens, Channel.reset]
    · rw [List.any_append]
      simp [Channel.listenAgain, listens, Channel.reset]
  | sent asked about opened free send => exact absurd rfl unopened
  | @fetched s reply data asked about =>
    have unlinked := hold s rfl unopened
    have same := Channel.receive_of_empty unlinked.received unlinked.link_ne data.length
    subst asked
    rw [same]
    exact unlinked.mono (List.subset_append_right ..)
  | @reported s s' r channel upshot orders heard report left =>
    -- The first report of a task ends the open, and any later one meets an open channel.
    have meaning := s.channel.meaning_report r
    rw [report] at meaning
    rcases upshot.phase_of_slot? left with opened | ⟨phase, notOpened⟩
    · exact absurd opened unopened
    · rcases (first s r rfl heard).mp (phase ▸ unopened) with rfl | rfl
      · cases meaning with
        | ready status => exact absurd rfl (notOpened status)
        | left of | ignored of => rcases of with h | h <;> cases h
      · cases meaning with
        | openFailed cause => cases left
        | left of | ignored of => rcases of with h | h <;> cases h
  | @ended s heard =>
    subst heard
    have unlinked := (hold s rfl unopened).mono
      (List.subset_append_right (told s.channel.generation) _)
    exact ⟨unlinked.received, unlinked.queued, unlinked.dropped, unlinked.link, unlinked.listens⟩
  | outlived ending opened client => exact absurd rfl unopened

theorem TableRun.unlinked (run : TableRun config past t) (hs : t.slots.get? k = some s)
    (unopened : s.phase ≠ .opened) :
    s.Unlinked (past.told k s.channel.generation)
      (past.keptListening k s.channel.generation) := by
  induction run generalizing s with
  | start => cases hs
  | @step past t run input admitted ih =>
    refine (t.origin_step run.keyed input hs).unlinked unopened (fun s => ih) ?_ ?_
    · intro s₀ r hs₀ heard
      refine run.fits.first admitted k s₀ r hs₀ ?_
      simp [heard, TableInput.heard]
    · exact (run.fits.fresh k _ (Nat.lt_succ_self _)).1

/-- The status command tells of every number the word of its channel. -/
theorem ChannelTable.word_mem (hs : t.slots.get? k = some s) (number : k ∈ numbers) :
    (k, s.channel.status.word) ∈ numbers.zip t.words := by
  have paired : (k, k) ∈ numbers.zip numbers := by
    have same : numbers.zip numbers = numbers.map fun j => (j, j) := rfl
    rw [same]
    exact List.mem_map_of_mem number
  rw [words, List.zip_map_right]
  refine List.mem_map.mpr ⟨(k, k), paired, ?_⟩
  rw [Prod.map_apply, hs]
  rfl

/-- In every run a channel whose open is not over holds no bytes, and its status is that of a closed
channel, unless a close was to keep its server listening after the server's task had been started.
Then the channel is shown as listening. -/
theorem unopened_closed_unless_kept_listening (run : TableRun config past t)
    (hs : t.slots.get? k = some s) (unopened : s.phase ≠ .opened) :
    s.channel.received.bytes = [] ∧ s.channel.queued.bytes = [] ∧
      s.channel.link = (if past.keptListening k s.channel.generation then .listening
        else .closed) ∧
      (k, (ChannelStatus.plain k s.channel.link).word) ∈ ChannelTable.numbers.zip t.words := by
  have unlinked := run.unlinked hs unopened
  refine ⟨unlinked.received, unlinked.queued, unlinked.link, ?_⟩
  have allotted := run.tracks.inStep.slot k s hs
  have status : s.channel.status = .plain k s.channel.link := by
    simp [Channel.status, unlinked.dropped, allotted.id]
  rw [← status]
  exact ChannelTable.word_mem hs allotted.number

/-- A server inside the terminal is opened, and a client after it. Before the server listens the
card closes it and is to keep it listening. -/
def keptServerAndClient : List TableInput :=
  [.closeChannel (.toCommand 3 .closeChannel Qualifier.keepListening) 1 true,
    .openChannel SteadyHost.connected.answers (.toCommand 2 .openChannel 0) .loopback,
    .openChannel SteadyHost.connected.answers (.toCommand 1 .openChannel 0)
      { ChannelSettings.loopback with protocol := .tcpServer }]

/-- Of two channels that wait for their sockets, the client is shown as closed, and the server that
was to be kept listening is not. -/
theorem kept_server_listening_and_client_closed :
    ∃ past t s₁ s₂, TableRun .standard past t ∧
      t.slots.get? 1 = some s₁ ∧ s₁.phase ≠ .opened ∧ s₁.channel.received.bytes = [] ∧
      s₁.channel.link = .listening ∧
      t.slots.get? 2 = some s₂ ∧ s₂.phase ≠ .opened ∧ s₂.channel.link = .closed ∧
      (1, 0x4100) ∈ ChannelTable.numbers.zip t.words ∧
      (2, 0x0200) ∈ ChannelTable.numbers.zip t.words := by
  have run := Admissible.run (show Admissible .standard keptServerAndClient by decide +kernel)
  have hphases : ([1, 2].map fun k =>
      ((replay .standard keptServerAndClient).2.slots.get? k).map fun s =>
        (s.phase, s.channel.generation)) =
      [some (.opening, 1), some (.opening, 2)] := by decide +kernel
  simp only [List.map_cons, List.map_nil, List.cons.injEq, Option.map_eq_some_iff,
    and_true] at hphases
  obtain ⟨⟨s₁, hs₁, h₁⟩, s₂, hs₂, h₂⟩ := hphases
  obtain ⟨opening₁, generation₁⟩ := Prod.mk.inj h₁
  obtain ⟨opening₂, generation₂⟩ := Prod.mk.inj h₂
  have unopened₁ : s₁.phase ≠ .opened := by simp [opening₁]
  have unopened₂ : s₂.phase ≠ .opened := by simp [opening₂]
  have server := unopened_closed_unless_kept_listening run hs₁ unopened₁
  have client := unopened_closed_unless_kept_listening run hs₂ unopened₂
  have kept : (replay .standard keptServerAndClient).1.keptListening 1 1 = true := by
    decide +kernel
  have notKept : (replay .standard keptServerAndClient).1.keptListening 2 2 = false := by
    decide +kernel
  rw [generation₁, kept] at server
  rw [generation₂, notKept] at client
  obtain ⟨received, -, listening, shown⟩ := server
  obtain ⟨-, -, closed, shown'⟩ := client
  rw [listening] at shown
  rw [closed] at shown'
  exact ⟨_, _, s₁, s₂, run, hs₁, unopened₁, received, listening, hs₂, unopened₂, closed, shown,
    shown'⟩

/-- A server that does not listen yet is told to give up its client, and is then reported as
listening while its open command still waits for an answer. -/
theorem opening_server_reported_as_listening :
    ∃ past t s reply modified, TableRun .standard past t ∧
      past.map (·.1) = [.closeChannel (.toCommand 2 .closeChannel Qualifier.keepListening) 1 true,
        .openChannel SteadyHost.connected.answers (.toCommand 1 .openChannel 0)
          { ChannelSettings.loopback with protocol := .tcpServer }] ∧
      t.slots.get? 1 = some s ∧ s.phase = .opening ∧ s.pending = some (.opening reply modified) ∧
      s.channel.link ≠ .closed ∧ t.words = [0x4100, 0, 0, 0, 0, 0, 0] := by
  let inputs : List TableInput :=
    [.closeChannel (.toCommand 2 .closeChannel Qualifier.keepListening) 1 true,
      .openChannel SteadyHost.connected.answers (.toCommand 1 .openChannel 0)
        { ChannelSettings.loopback with protocol := .tcpServer }]
  have run := Admissible.run (show Admissible .standard inputs by decide +kernel)
  have hslot : ((replay .standard inputs).2.slots.get? 1).map
      (fun s => (s.phase, s.pending, s.channel.link)) =
      some (.opening, some (.opening (.toCommand 1 .openChannel 0) false), .listening) := by
    decide +kernel
  obtain ⟨s, hs, h⟩ := Option.map_eq_some_iff.mp hslot
  simp only [Prod.mk.injEq] at h
  obtain ⟨opening, pending, listening⟩ := h
  exact ⟨_, _, s, _, _, run, rfl, hs, opening, pending, by simp [listening], by decide +kernel⟩

end CardChannels
