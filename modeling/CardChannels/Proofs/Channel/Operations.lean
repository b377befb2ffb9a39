import CardChannels.Channel.Basic

/-!
# What the operations of a channel keep

No operation changes a channel's number or generation. Which orders an operation gives follows
from its outcome: only the start of a task has it begin, and only a send under way has it send.
-/
namespace CardChannels

/-- Whether an order neither makes a task begin nor sends bytes. -/
def Order.minor : Order → Bool
  | .resume | .dropClient | .stop => true
  | .listen _ | .connect .. | .exchange .. | .write _ => false

namespace Channel

/-- A channel that has kept its number and generation. -/
structure Continues (c c' : Channel) : Prop where
  id : c'.id = c.id
  generation : c'.generation = c.generation

variable {c c' : Channel} {r : Report} {orders : List Order} {timeout : Nat}

theorem minor_stopOrders : ∀ o ∈ c.stopOrders, o.minor = true := by
  unfold stopOrders
  split <;> simp [Order.minor]

/-- How a channel's task begins: a server's listens, and a client's goes to the partner. -/
inductive Begins (c : Channel) (timeout : Nat) : Order → Prop
  | listens (server : c.kind = .tcpServer) :
    Begins c timeout (.listen (c.settings.ownEnd c.settings.port))
  | connects {target : Endpoint} (client : c.kind = .tcpClient)
    (partner : c.settings.partner? = some target) : Begins c timeout (.connect target timeout)
  | exchanges {target : Endpoint} (client : c.kind = .udpClient)
    (partner : c.settings.partner? = some target) :
    Begins c timeout (.exchange (c.settings.ownEnd 0) target)

/-- What the start of a channel comes to: only its task changes, and only a client without a partner
cannot be started. -/
inductive Starts (c : Channel) (timeout : Nat) : Except ChannelCause (Channel × List Order) → Prop
  | begun {order : Order} (begins : c.Begins timeout order) :
    Starts c timeout (.ok ({ c with attached := true, ended := false }, c.stopOrders ++ [order]))
  | nowhere (client : c.kind ≠ .tcpServer) (none : c.settings.partner? = none) :
    Starts c timeout (.error .remoteDeviceNotReachable)

theorem starts_start (c : Channel) (timeout : Nat) : c.Starts timeout (c.start timeout) := by
  unfold start startOrder
  cases kind : c.kind with
  | tcpServer => exact .begun (.listens kind)
  | tcpClient =>
    cases partner : c.settings.partner? with
    | none => exact .nowhere (by simp [kind]) partner
    | some target => exact .begun (.connects kind partner)
  | udpClient =>
    cases partner : c.settings.partner? with
    | none => exact .nowhere (by simp [kind]) partner
    | some target => exact .begun (.exchanges kind partner)

theorem start_continues (h : c.start timeout = .ok (c', orders)) : c.Continues c' := by
  have starts := c.starts_start timeout
  rw [h] at starts
  cases starts with
  | begun => exact ⟨rfl, rfl⟩

theorem close_continues (keepListening : Bool) : c.Continues (c.close keepListening).1 := by
  unfold close
  split
  · exact ⟨rfl, rfl⟩
  · exact ⟨rfl, rfl⟩

theorem minor_close (keepListening : Bool) :
    ∀ o ∈ (c.close keepListening).2.2, o.minor = true := by
  unfold close
  split
  · dsimp only
    split <;> simp [Order.minor]
  · exact minor_stopOrders

theorem send_continues (data : Bytes) (immediate : Bool) :
    c.Continues (c.send data immediate).1 := by
  unfold send
  dsimp only
  split
  · exact ⟨rfl, rfl⟩
  · split
    · exact ⟨rfl, rfl⟩
    · split
      · exact ⟨rfl, rfl⟩
      · exact ⟨rfl, rfl⟩

/-- Bytes are on their way when they were to be sent at once and the task took them. -/
theorem send_orders (data : Bytes) (immediate : Bool) :
    (∃ free bytes, immediate = true ∧
        (c.send data immediate).2 = (.flushing free, [.write bytes])) ∨
      (c.send data immediate).2.2 = [] ∧ ∀ free, (c.send data immediate).2.1 ≠ .flushing free := by
  unfold send
  dsimp only
  split
  · exact .inr ⟨rfl, by simp⟩
  · split
    · exact .inr ⟨rfl, by simp⟩
    · rename_i himm
      split
      · exact .inl ⟨_, _, by simpa using himm, rfl⟩
      · exact .inr ⟨rfl, by simp⟩

theorem resume_continues : c.Continues c.resume.1 := by
  unfold resume
  split
  · exact ⟨rfl, rfl⟩
  · exact ⟨rfl, rfl⟩

theorem minor_resume : ∀ o ∈ c.resume.2, o.minor = true := by
  unfold resume
  split <;> simp [Order.minor]

theorem receive_continues (requested : Nat) : c.Continues (c.receive requested).1 := by
  unfold receive
  split
  · exact ⟨rfl, rfl⟩
  · exact ⟨resume_continues.id, resume_continues.generation⟩

theorem minor_receive (requested : Nat) :
    ∀ o ∈ (c.receive requested).2.2, o.minor = true := by
  unfold receive
  split
  · simp
  · exact minor_resume

theorem sessionEnd_continues : c.Continues c.sessionEnd.1 := by
  unfold sessionEnd
  split
  · exact ⟨rfl, rfl⟩
  · exact resume_continues

theorem minor_sessionEnd : ∀ o ∈ c.sessionEnd.2.2, o.minor = true := by
  unfold sessionEnd
  split
  · exact minor_stopOrders
  · exact minor_resume

theorem store_continues (data : Bytes) : c.Continues (c.store data).1 := by
  unfold store
  dsimp only
  split
  · exact ⟨rfl, rfl⟩
  · split
    · exact ⟨resume_continues.id, resume_continues.generation⟩
    · exact ⟨rfl, rfl⟩

theorem minor_store (data : Bytes) : ∀ o ∈ (c.store data).2.2, o.minor = true := by
  unfold store
  dsimp only
  split
  · simp
  · split
    · exact minor_resume
    · simp

theorem store_upshot (data : Bytes) :
    (c.store data).2.1 = .ignored ∨
      ∃ status size, (c.store data).2.1 = .dataAvailable status size := by
  unfold store
  dsimp only
  split
  · exact .inr ⟨_, _, rfl⟩
  · split
    · exact .inl rfl
    · exact .inl rfl

theorem report_eq (c : Channel) (r : Report) :
    c.report r = c.serverReport r ∨ c.report r = c.clientReport r := by
  unfold report
  split
  · exact .inl rfl
  · exact .inr rfl
  · exact .inr rfl

theorem report_continues (r : Report) : c.Continues (c.report r).1 := by
  rcases c.report_eq r with h | h
  all_goals
    rw [h]
    cases r with
    | data bytes => exact store_continues bytes
    | sent ok => cases ok <;> exact ⟨rfl, rfl⟩
    | _ => exact ⟨rfl, rfl⟩

theorem minor_report (r : Report) : ∀ o ∈ (c.report r).2.2, o.minor = true := by
  have none : ∀ o ∈ ([] : List Order), o.minor = true := by simp
  rcases c.report_eq r with h | h
  · rw [h]
    cases r with
    | data bytes => exact minor_store bytes
    | sent ok => cases ok with
      | true => exact none
      | false => exact minor_stopOrders
    | openFailed => exact minor_stopOrders
    | _ => exact none
  · rw [h]
    cases r with
    | data bytes => exact minor_store bytes
    | sent ok => cases ok with
      | true => exact none
      | false => exact minor_stopOrders
    | openFailed | readFailed => exact minor_stopOrders
    | _ => exact none

/-- What a report can come to. Only the first one has to do with an open, and only one that a write
is over has to do with a send. -/
inductive Meaning : Report → Upshot → Prop
  | ready (status : ChannelStatus) : Meaning .ready (.opened status)
  | openFailed (cause : ChannelCause) : Meaning .openFailed (.openFailed cause)
  | sent : Meaning (.sent true) .sent
  | sendFailed : Meaning (.sent false) .sendFailed
  | arrived (bytes : Bytes) (status : ChannelStatus) (size : Nat) :
    Meaning (.data bytes) (.dataAvailable status size)
  | stored (bytes : Bytes) : Meaning (.data bytes) .ignored
  | came (status : ChannelStatus) (link : status.state = .established) :
    Meaning .accepted (.statusChanged status)
  | left {r : Report} (of : r = .clientLost ∨ r = .readFailed) (status : ChannelStatus)
    (link : status.state ≠ .established) : Meaning r (.statusChanged status)
  | ignored {r : Report} (of : r = .accepted ∨ r = .clientLost) : Meaning r .ignored

theorem Meaning.of_sent {ok : Bool} {told : Upshot} (h : Meaning (.sent ok) told) :
    told = if ok then .sent else .sendFailed := by
  cases h with
  | sent => rfl
  | sendFailed => rfl
  | left of | ignored of => rcases of with h | h <;> cases h

theorem meaning_store (data : Bytes) : Meaning (.data data) (c.store data).2.1 := by
  rcases store_upshot (c := c) data with h | ⟨status, size, h⟩
  · rw [h]
    exact .stored data
  · rw [h]
    exact .arrived data status size

theorem state_status_ne (c : Channel) (h : c.link ≠ .established) :
    c.status.state ≠ .established := by
  unfold status
  dsimp only
  split
  · simp [ChannelStatus.dropped]
  · exact h

theorem state_status_eq (c : Channel) (hl : c.link = .established) (hd : c.dropped = false) :
    c.status.state = .established := by
  simp [status, hd, ChannelStatus.plain, hl]

theorem meaning_report (c : Channel) (r : Report) : Meaning r (c.report r).2.1 := by
  rcases c.report_eq r with h | h
  · rw [h]
    cases r with
    | ready => exact .ready _
    | openFailed => exact .openFailed _
    | accepted => exact .came _ (state_status_eq _ rfl rfl)
    | clientLost => exact .left (.inl rfl) _ (state_status_ne _ (by simp [listenAgain]))
    | readFailed => exact .left (.inr rfl) _ (state_status_ne _ (by simp [listenAgain]))
    | data bytes => exact meaning_store bytes
    | sent ok => cases ok with
      | true => exact .sent
      | false => exact .sendFailed
  · rw [h]
    cases r with
    | ready => exact .ready _
    | openFailed => exact .openFailed _
    | accepted => exact .ignored (.inl rfl)
    | clientLost => exact .ignored (.inr rfl)
    | readFailed => exact .left (.inr rfl) _ (state_status_ne _ (by simp [shutDown]))
    | data bytes => exact meaning_store bytes
    | sent ok => cases ok with
      | true => exact .sent
      | false => exact .sendFailed

end Channel

end CardChannels
