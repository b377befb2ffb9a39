import CardChannels.Proofs.Table.Coherent
import CardChannels.Proofs.Table.Origin
import CardChannels.Proofs.Table.Refusal

/-!
# What outlasts a session

The end of a session gives up every open that is under way, ends every server, and drops the
answers that sends still wait for. What is left are open clients with their bytes and their links.
The main statement is that nothing else is left of any table that a run leads to, neither a channel
nor a bearer request, that every open client is, and that to end the session once more changes
nothing and gives nothing out.
-/
namespace CardChannels

/-- An open client that owes no answer, with the channel that it had in an earlier slot, of which
only the task may have been told to read again. -/
structure Slot.Outlasts (before after : Slot) : Prop where
  phase : after.phase = .opened
  client : after.channel.kind = .tcpClient ∨ after.channel.kind = .udpClient
  owes : after.pending = none
  channel : after.channel = { before.channel with paused := after.channel.paused }

namespace Channel

/-- A task that was told to read again is not told twice. -/
theorem resume_resume (c : Channel) : c.resume.1.resume = (c.resume.1, []) := by
  unfold resume
  split <;> rfl

theorem kind_resume (c : Channel) : c.resume.1.kind = c.kind := by
  rw [kind, settings_resume, kind]

theorem client_of_ne {c : Channel} (h : c.kind ≠ .tcpServer) :
    c.kind = .tcpClient ∨ c.kind = .udpClient := by
  cases hkind : c.kind with
  | tcpServer => exact absurd hkind h
  | tcpClient => exact .inl rfl
  | udpClient => exact .inr rfl

end Channel

namespace Slot

variable {s s' : Slot}

/-- What the end of the session leaves of a slot is an open client as it was. -/
theorem outlasts_of_outlasting? (h : s.outlasting? = some s') : s.Outlasts s' := by
  obtain ⟨⟨-, client⟩, rfl⟩ := outlasting?_eq_some_iff.mp h
  refine ⟨rfl, Channel.client_of_ne ?_, rfl, s.channel.resume_eq_with_paused⟩
  rwa [Channel.kind_resume]

/-- A slot that the end of the session would leave as it is, without an order to its task. -/
structure Settled (s : Slot) : Prop where
  phase : s.phase = .opened
  client : s.channel.kind ≠ .tcpServer
  owes : s.pending = none
  reads : s.channel.resume = (s.channel, [])

theorem settled_of_outlasting? (h : s.outlasting? = some s') : s'.Settled := by
  obtain ⟨⟨-, client⟩, rfl⟩ := outlasting?_eq_some_iff.mp h
  refine ⟨rfl, ?_, rfl, s.channel.resume_resume⟩
  rwa [Channel.kind_resume]

end Slot

/-! The end of a session that has ended -/

/-- Where every request is up, there is none to drop. -/
theorem BearerRegistry.dropUnready_eq_self {c : BearerRegistry}
    (up : ∀ k r, c.requests.get? k = some r → r.state = .active) :
    c.dropUnready = (c, [], []) := by
  have none : c.unready = [] := by
    rw [unready, List.map_eq_nil_iff, List.filter_eq_nil_iff]
    rintro ⟨k, r⟩ mem
    simp [up k r (ChannelMap.get?_eq_some_iff.mpr mem)]
  rw [dropUnready, none]
  rfl

namespace ChannelTable

variable {t : ChannelTable}

theorem each_eq_self {α : Type} {f : ChannelTable → α → ChannelTable × Output} {l : List α}
    (h : ∀ a ∈ l, f t a = (t, .none)) : t.each f l = (t, .none) := by
  induction l with
  | nil => rfl
  | cons first rest ih =>
    obtain ⟨own, others⟩ := List.forall_mem_cons.mp h
    simp only [each, own, ih others]
    rfl

theorem endSession_eq_self {s : Slot} (hs : t.slots.get? s.channel.id = some s)
    (settled : s.Settled) : t.endSession s = (t, .none) := by
  have same : (⟨s.channel, .opened, none⟩ : Slot) = s := by
    rw [← settled.phase, ← settled.owes]
  simp only [endSession, ne_eq, settled.phase, not_true_eq_false, if_false, Channel.sessionEnd,
    if_neg settled.client, settled.reads]
  rw [same, put_self hs]
  rfl

/-- Where nothing is left but open clients and bearers that are up, the session has ended. -/
theorem sessionEnd_eq_self (keyed : t.Keyed)
    (settled : ∀ k s, t.slots.get? k = some s → s.Settled)
    (up : ∀ k r, t.bearers.requests.get? k = some r → r.state = .active) :
    t.sessionEnd = (t, .none) := by
  have ended : t.endSessions t.slots.values = (t, .none) := by
    refine each_eq_self fun s mem => ?_
    obtain ⟨k, hs⟩ := ChannelMap.mem_values_iff.mp mem
    exact endSession_eq_self (keyed k s hs ▸ hs) (settled k s hs)
  rw [sessionEnd, BearerRegistry.dropUnready_eq_self up]
  simp only [ended]
  rfl

end ChannelTable

section Runs

variable {config : Config} {past : TableHistory} {t : ChannelTable}

/-- Where every channel is open, each bearer request belongs to one of them and is up. -/
theorem TableRun.up_of_opened (run : TableRun config past t)
    (opened : ∀ k s, t.slots.get? k = some s → s.phase = .opened) {k : UInt8} {r : BearerRequest}
    (hr : t.bearers.requests.get? k = some r) :
    r.state = .active ∧ ∃ s, t.slots.get? k = some s := by
  have wanted := run.tracks.inStep.upOf k
  have up : t.bearers.up? k = some r.isUp := by rw [BearerRegistry.up?, hr, Option.map_some]
  rw [up] at wanted
  obtain ⟨s, hs, wants⟩ := Option.bind_eq_some_iff.mp wanted.symm
  rw [Slot.wanted?_of_not_waiting (by simp [opened k s hs])] at wants
  obtain ⟨-, -, isUp⟩ := Option.map_eq_some_iff.mp wants
  exact ⟨by simpa [BearerRequest.isUp] using isUp.symm, s, hs⟩

/-- After the end of a session of a run, every channel is an open client that owes no answer, with
its bytes and its link as they were; every client that was open is there; every bearer request is
up and belongs to a channel; and to end the session again changes nothing and gives nothing out. -/
theorem only_quiet_clients_outlast_session (run : TableRun config past t) :
    let after := t.sessionEnd.1
    (∀ k s', after.slots.get? k = some s' → ∃ s, t.slots.get? k = some s ∧ s.Outlasts s') ∧
      (∀ k s, t.slots.get? k = some s → s.phase = .opened → s.channel.kind ≠ .tcpServer →
        ∃ s', after.slots.get? k = some s') ∧
      (∀ k r, after.bearers.requests.get? k = some r →
        r.state = .active ∧ ∃ s', after.slots.get? k = some s') ∧
      after.sessionEnd = (after, .none) := by
  have slots := ChannelTable.get?_sessionEnd run.keyed
  have run' : TableRun config _ t.sessionEnd.1 := run.step .sessionEnd trivial
  have outlasting {k s'} (hs' : t.sessionEnd.1.slots.get? k = some s') :
      ∃ s, t.slots.get? k = some s ∧ s.outlasting? = some s' :=
    Option.bind_eq_some_iff.mp ((slots k).symm.trans hs')
  have settled k s' (hs' : t.sessionEnd.1.slots.get? k = some s') : s'.Settled := by
    obtain ⟨s, -, outlasts⟩ := outlasting hs'
    exact Slot.settled_of_outlasting? outlasts
  have up k r (hr : t.sessionEnd.1.bearers.requests.get? k = some r) :=
    run'.up_of_opened (fun k s' hs' => (settled k s' hs').phase) hr
  refine ⟨fun k s' hs' => ?left, fun k s hs opened client => ?stays, up, ?again⟩
  case left =>
    obtain ⟨s, hs, outlasts⟩ := outlasting hs'
    exact ⟨s, hs, Slot.outlasts_of_outlasting? outlasts⟩
  case stays =>
    rw [slots k, hs, Option.bind_some, Slot.outlasting?, if_pos ⟨opened, client⟩]
    exact ⟨_, rfl⟩
  case again =>
    exact ChannelTable.sessionEnd_eq_self run'.keyed settled fun k r hr => (up k r hr).1

end Runs

/-- A client with a send under way, a server that listens, a client that waits for its bearer, and
one whose bearer is up. -/
def mixedSession : List TableInput :=
  [.report 4 4 .ready,
    .openChannel SteadyHost.connected.answers (.toCommand 5 .openChannel 0)
      { ChannelSettings.loopback with bearer := some .plain },
    .openChannel { SteadyHost.connected with state := .connecting }.answers
      (.toCommand 4 .openChannel 0) { ChannelSettings.loopback with bearer := some .plain },
    .report 2 2 .ready,
    .openChannel SteadyHost.connected.answers (.toCommand 3 .openChannel 0)
      { ChannelSettings.loopback with protocol := .tcpServer }] ++
  flushOnLoopback

theorem mixedSession_outlasted :
    ∃ past t, TableRun .standard past t ∧ t.slots.keys = [1, 2, 3, 4] ∧
      t.sessionEnd.1.slots.keys = [1, 4] ∧ t.sessionEnd.1.bearers.requests.keys = [4] ∧
      (∀ k s', t.sessionEnd.1.slots.get? k = some s' →
        ∃ s, t.slots.get? k = some s ∧ s.Outlasts s') ∧
      t.sessionEnd.1.sessionEnd = (t.sessionEnd.1, .none) := by
  have run := Admissible.run (show Admissible .standard mixedSession by decide +kernel)
  obtain ⟨left, -, -, again⟩ := only_quiet_clients_outlast_session run
  exact ⟨_, _, run, by decide +kernel, by decide +kernel, by decide +kernel, left, again⟩

end CardChannels
