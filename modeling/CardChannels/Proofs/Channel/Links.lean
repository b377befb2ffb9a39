import CardChannels.Proofs.Channel.Operations
import CardChannels.Proofs.Channel.Run

/-!
# What a channel shows of its link

A channel shows a link only while a socket task is attached to it, shows itself as listening only
when it is a server, and is marked as dropped only when it is a client without a link. Every
operation keeps that; a report does so as long as its task is still attached.
-/
namespace CardChannels.Channel

/-- A channel with the link, the mark, the task and the settings of another. -/
structure SameLink (c c' : Channel) : Prop where
  link : c'.link = c.link
  dropped : c'.dropped = c.dropped
  attached : c'.attached = c.attached
  settings : c'.settings = c.settings

/-- A channel that shows no link that it does not have. -/
structure Truthful (c : Channel) : Prop where
  attached : c.link ≠ .closed → c.attached = true
  listening : c.link = .listening → c.kind = .tcpServer
  dropped : c.dropped = true → c.kind ≠ .tcpServer ∧ c.link = .closed

variable {c c' : Channel}

theorem resume_sameLink (c : Channel) : c.SameLink c.resume.1 := by
  unfold resume
  split <;> exact ⟨rfl, rfl, rfl, rfl⟩

theorem store_sameLink (c : Channel) (data : Bytes) : c.SameLink (c.store data).1 := by
  unfold store
  dsimp only
  split
  · exact ⟨rfl, rfl, rfl, rfl⟩
  · split
    · obtain ⟨link, dropped, attached, settings⟩ := resume_sameLink
        { c with received := c.received.append data, paused := true }
      exact ⟨link, dropped, attached, settings⟩
    · exact ⟨rfl, rfl, rfl, rfl⟩

theorem send_sameLink (c : Channel) (data : Bytes) (immediate : Bool) :
    c.SameLink (c.send data immediate).1 := by
  unfold send
  dsimp only
  split
  · exact ⟨rfl, rfl, rfl, rfl⟩
  · split
    · exact ⟨rfl, rfl, rfl, rfl⟩
    · split <;> exact ⟨rfl, rfl, rfl, rfl⟩

theorem receive_sameLink (c : Channel) (requested : Nat) :
    c.SameLink (c.receive requested).1 := by
  unfold receive
  split
  · exact ⟨rfl, rfl, rfl, rfl⟩
  · obtain ⟨link, dropped, attached, settings⟩ := resume_sameLink
      { c with received := (c.received.read (fetchPlan requested c.received.size).1).2 }
    exact ⟨link, dropped, attached, settings⟩

theorem attached_start {timeout : Nat} {orders : List Order}
    (h : c.start timeout = .ok (c', orders)) : c'.attached = true := by
  unfold start at h
  split at h
  · cases h
    rfl
  · cases h

/-- A server that goes on listening keeps its task. -/
theorem attached_close (c : Channel) (keepListening : Bool)
    (h : (c.close keepListening).2.1 = .listening) :
    (c.close keepListening).1.attached = c.attached := by
  unfold close at h ⊢
  split
  · rfl
  · rename_i hclose
    rw [if_neg hclose] at h
    cases h

/-- Whatever is done to a channel leaves its number and generation. -/
theorem step_continues (c : Channel) (input : ChannelInput) : c.Continues (c.step input) := by
  cases input with
  | start timeout =>
    unfold step started
    dsimp only
    split
    · rename_i h
      exact start_continues h
    · exact ⟨rfl, rfl⟩
  | close keepListening => exact close_continues keepListening
  | send data immediate => exact send_continues data immediate
  | receive requested => exact receive_continues requested
  | sessionEnd => exact sessionEnd_continues
  | report r => exact report_continues r
  | taskEnded => exact ⟨rfl, rfl⟩

@[simp] theorem kind_step (c : Channel) (input : ChannelInput) : (c.step input).kind = c.kind :=
  congrArg (·.protocol.kind) (settings_step c input)

/-- A server is never marked as dropped. -/
theorem dropped_step_of_server (server : c.kind = .tcpServer) (h : c.dropped = false)
    (input : ChannelInput) : (c.step input).dropped = false := by
  have started (timeout : Nat) : (c.started timeout).dropped = c.dropped := by
    unfold Channel.started start
    cases c.startOrder timeout <;> rfl
  cases input with
  | start timeout => exact (started timeout).trans h
  | close keepListening =>
    unfold step close
    dsimp only
    split <;> exact h
  | send data immediate => exact (c.send_sameLink data immediate).dropped.trans h
  | receive requested => exact (c.receive_sameLink requested).dropped.trans h
  | sessionEnd =>
    rw [step, sessionEnd, if_pos server]
    exact h
  | report r =>
    rw [step, report, server]
    cases r with
    | accepted => rfl
    | data bytes => exact (c.store_sameLink bytes).dropped.trans h
    | sent ok => cases ok <;> exact h
    | ready | openFailed | clientLost | readFailed => exact h
  | taskEnded => exact h

namespace Truthful

theorem new (id : UInt8) (generation : Nat) (settings : ChannelSettings) :
    (Channel.new id generation settings).Truthful :=
  ⟨fun linked => absurd rfl linked, nofun, nofun⟩

theorem congr (h : c.Truthful) (same : c.SameLink c') : c'.Truthful := by
  have kind : c'.kind = c.kind := congrArg (·.protocol.kind) same.settings
  refine ⟨?_, ?_, ?_⟩
  · rw [same.link, same.attached]
    exact h.attached
  · rw [same.link, kind]
    exact h.listening
  · rw [same.dropped, same.link, kind]
    exact h.dropped

theorem shutDown (h : c.Truthful) : c.shutDown.Truthful :=
  ⟨fun linked => absurd rfl linked, nofun, fun dropped => ⟨(h.dropped dropped).1, rfl⟩⟩

theorem listenAgain (h : c.Truthful) (server : c.kind = .tcpServer) (attached : c.attached = true) :
    c.listenAgain.Truthful :=
  ⟨fun _ => attached, fun _ => server, fun dropped => absurd server (h.dropped dropped).1⟩

/-- A link that has come up takes the mark away. -/
theorem established (attached : c.attached = true) :
    Truthful { c with link := .established, dropped := false } :=
  ⟨fun _ => attached, nofun, nofun⟩

theorem started (h : c.Truthful) (timeout : Nat) : (c.started timeout).Truthful := by
  unfold Channel.started start
  cases c.startOrder timeout with
  | error cause => exact h
  | ok order => exact ⟨fun _ => rfl, h.listening, h.dropped⟩

theorem close (h : c.Truthful) (keepListening : Bool) : (c.close keepListening).1.Truthful := by
  unfold Channel.close
  split
  · rename_i keeps
    exact h.listenAgain keeps.1 keeps.2.2
  · exact h.shutDown

theorem sessionEnd (h : c.Truthful) : c.sessionEnd.1.Truthful := by
  unfold Channel.sessionEnd
  split
  · exact h.shutDown
  · exact h.congr (resume_sameLink c)

theorem clientReport (h : c.Truthful) (client : c.kind ≠ .tcpServer) (attached : c.attached = true)
    (r : Report) : (c.clientReport r).1.Truthful := by
  cases r with
  | ready => exact .established attached
  | openFailed => exact h.shutDown
  | data bytes => exact h.congr (store_sameLink c bytes)
  | sent ok => cases ok with
    | true => exact h
    | false => exact h.shutDown
  | readFailed =>
    exact ⟨fun linked => absurd rfl linked, nofun, fun _ => ⟨client, rfl⟩⟩
  | accepted | clientLost => exact h

theorem serverReport (h : c.Truthful) (server : c.kind = .tcpServer) (attached : c.attached = true)
    (r : Report) : (c.serverReport r).1.Truthful := by
  cases r with
  | ready =>
    exact ⟨fun _ => attached, fun _ => server, fun dropped => absurd server (h.dropped dropped).1⟩
  | openFailed => exact h.shutDown
  | accepted => exact .established attached
  | clientLost | readFailed => exact h.listenAgain server attached
  | data bytes => exact h.congr (store_sameLink c bytes)
  | sent ok => cases ok with
    | true => exact h
    | false => exact h.shutDown

theorem report (h : c.Truthful) (attached : c.attached = true) (r : Report) :
    (c.report r).1.Truthful := by
  unfold Channel.report
  split
  · exact h.serverReport ‹_› attached r
  · exact h.clientReport (by simp [*]) attached r
  · exact h.clientReport (by simp [*]) attached r

/-- Whatever is done to a channel keeps it truthful, as long as reports come from a task that is
attached. -/
theorem step (h : c.Truthful) (input : ChannelInput)
    (heard : ∀ r, input = .report r → c.attached = true) : (c.step input).Truthful := by
  cases input with
  | start timeout => exact h.started timeout
  | close keepListening => exact h.close keepListening
  | send data immediate => exact h.congr (send_sameLink c data immediate)
  | receive requested => exact h.congr (receive_sameLink c requested)
  | sessionEnd => exact h.sessionEnd
  | report r => exact h.report (heard r rfl) r
  | taskEnded => exact ⟨h.attached, h.listening, h.dropped⟩

end Truthful

end CardChannels.Channel
