import CardChannels.Proofs.Channel.Run

/-!
# Whose bytes a server hands over

A server serves one client after another through one buffer, which it empties when it parts with a
client. A report about data that its task had made before may still be on its way then, and it is
applied as if the client were there. The main statement is that the card gets a byte of a client
that is gone exactly when the report about it was applied after the client had gone. When the task
reports no data of a client that it has reported lost, only a close by the card lets that happen.
-/
namespace CardChannels

namespace ChannelInput

/-- Whether the card has the server part with its client. -/
def closes : ChannelInput → Bool
  | .close _ | .sessionEnd => true
  | _ => false

/-- Whether the task reports that the client, or all of the link, is gone. -/
def loses : ChannelInput → Bool
  | .report .clientLost | .report .readFailed | .report .openFailed | .report (.sent false) => true
  | _ => false

/-- Whether the server parts with its client. -/
def parts (input : ChannelInput) : Bool := input.closes || input.loses

end ChannelInput

/-- How many clients have come in a run. The newest one has this number. -/
def clients (past : List ChannelInput) : Nat := past.count (.report .accepted)

/-- Whether the server has parted with a client of a number, in a certain way. -/
def parted (way : ChannelInput → Bool) (client : Nat) : List ChannelInput → Bool
  | [] => false
  | input :: past => (way input && clients past = client) || parted way client past

/-- Whether a client of a number is gone. -/
def gone (client : Nat) (past : List ChannelInput) : Bool := parted ChannelInput.parts client past

/-- Whether the task reports data only of clients that it has not reported lost. -/
def InTaskOrder : List ChannelInput → Prop
  | [] => True
  | .report (.data _) :: past =>
    parted ChannelInput.loses (clients past) past = false ∧ InTaskOrder past
  | _ :: past => InTaskOrder past

theorem InTaskOrder.tail {input : ChannelInput} {past : List ChannelInput}
    (h : InTaskOrder (input :: past)) : InTaskOrder past := by
  unfold InTaskOrder at h
  split at h
  · cases ‹_ = []›
  · cases ‹_ :: _ = _›
    exact h.2
  · cases ‹_ :: _ = _›
    exact h

/-- A byte from the partner, with the client it was read from. -/
structure Arrival where
  byte : UInt8
  client : Nat
  /-- The client was gone when the report about the byte was applied. -/
  late : Bool
deriving DecidableEq

/-- The arrival of bytes after a run. They were read from the newest client. -/
def arrivals (past : List ChannelInput) (bytes : Bytes) : List Arrival :=
  bytes.map fun b => ⟨b, clients past, gone (clients past) past⟩

namespace Channel

/-- The arrivals that wait for the card after a run of a server. -/
def held (c : Channel) : List ChannelInput → List Arrival
  | [] => []
  | .report (.data bytes) :: past =>
    c.held past ++ arrivals past (bytes.take ((c.after past).received.room bytes))
  | .receive requested :: past => (c.held past).drop ((c.after past).fetched requested).length
  | input :: past => if input.parts then [] else c.held past

/-- The arrivals that a receive after a run hands over to the card. -/
def handedOver (c : Channel) (past : List ChannelInput) (requested : Nat) : List Arrival :=
  (c.held past).take ((c.after past).fetched requested).length

variable {c : Channel} {past : List ChannelInput} {a : Arrival} {n requested : Nat}

/-- A server parts with its client exactly when it is reset. -/
theorem resets_eq_parts (server : c.kind = .tcpServer) (input : ChannelInput) :
    c.resets input = input.parts := by
  cases input with
  | sessionEnd => simp [resets, server, ChannelInput.parts, ChannelInput.closes]
  | report r => cases r with
    | sent ok => cases ok <;> rfl
    | clientLost => simp [resets, server, ChannelInput.parts, ChannelInput.loses]
    | _ => rfl
  | _ => rfl

/-- The arrivals that wait are the bytes that wait. -/
theorem bytes_held (server : c.kind = .tcpServer) (fresh : c.received.bytes = [])
    (past : List ChannelInput) : (c.held past).map (·.byte) = (c.after past).received.bytes := by
  fun_induction held c past with
  | case1 => exact fresh.symm
  | case2 bytes past ih =>
    simp [after, step, report_data, ih, arrivals, Function.comp_def]
  | case3 requested past ih =>
    have hsplit := fetched_append_received (c.after past) requested
    rw [List.map_drop, ih, ← hsplit, List.drop_left]
    rfl
  | case4 input past notData notReceive parts =>
    rw [← resets_eq_parts ((kind_after c past).trans server)] at parts
    exact (idle_of_resets parts).empty.symm
  | case5 input past notData notReceive parts ih =>
    rw [← resets_eq_parts ((kind_after c past).trans server)] at parts
    rw [ih, after, received_of_not_resets (Bool.not_eq_true _ ▸ parts) notData notReceive]

/-- The arrivals that are handed over are the bytes that the card gets. -/
theorem bytes_handedOver (server : c.kind = .tcpServer) (fresh : c.received.bytes = [])
    (past : List ChannelInput) (requested : Nat) :
    (c.handedOver past requested).map (·.byte) = (c.after past).fetched requested := by
  have hsplit := fetched_append_received (c.after past) requested
  rw [handedOver, List.map_take, bytes_held server fresh, ← hsplit, List.take_left]

theorem parted_cons_of_not {way : ChannelInput → Bool} {input : ChannelInput}
    (h : way input = false) (n : Nat) (past : List ChannelInput) :
    parted way n (input :: past) = parted way n past := by
  simp [parted, h]

/-- What waits for the card comes from a client that is gone exactly when it arrived late. -/
theorem gone_iff_late_of_mem_held (ha : a ∈ c.held past) :
    gone a.client past = true ↔ a.late = true := by
  fun_induction held c past with
  | case1 => cases ha
  | case2 bytes past ih =>
    rw [gone, parted_cons_of_not rfl]
    rcases List.mem_append.mp ha with ha | ha
    · exact ih ha
    · obtain ⟨b, -, rfl⟩ := List.mem_map.mp ha
      rfl
  | case3 requested past ih =>
    rw [gone, parted_cons_of_not rfl]
    exact ih (List.mem_of_mem_drop ha)
  | case4 input past notData notReceive parts => cases ha
  | case5 input past notData notReceive parts ih =>
    rw [gone, parted_cons_of_not (Bool.not_eq_true _ ▸ parts)]
    exact ih ha

theorem gone_eq_or (n : Nat) (past : List ChannelInput) :
    gone n past = (parted ChannelInput.closes n past || parted ChannelInput.loses n past) := by
  induction past with
  | nil => rfl
  | cons input past ih =>
    rw [gone, parted, parted, parted, ← gone, ih, ChannelInput.parts, Bool.and_or_distrib_right]
    ac_rfl

theorem parted_cons_of_parted {way : ChannelInput → Bool} (h : parted way n past = true)
    (input : ChannelInput) : parted way n (input :: past) = true := by
  simp [parted, h]

/-- When the task reports in order, the card has closed the client of what arrives late. -/
theorem closed_of_late (order : InTaskOrder past) (ha : a ∈ c.held past) (late : a.late = true) :
    parted ChannelInput.closes a.client past = true := by
  fun_induction held c past with
  | case1 => cases ha
  | case2 bytes past ih =>
    rcases List.mem_append.mp ha with ha | ha
    · exact parted_cons_of_parted (ih order.2 ha) _
    · obtain ⟨b, -, rfl⟩ := List.mem_map.mp ha
      dsimp only at late ⊢
      rw [gone_eq_or, order.1, Bool.or_false] at late
      exact parted_cons_of_parted late _
  | case3 requested past ih =>
    exact parted_cons_of_parted (ih order (List.mem_of_mem_drop ha)) _
  | case4 input past notData notReceive parts => cases ha
  | case5 input past notData notReceive parts ih =>
    exact parted_cons_of_parted (ih order.tail ha) _

/-- The card gets the bytes of arrivals. Such a byte comes from a client that is gone exactly when
the report about it was applied after the client had gone, and when the task reports in order, the
card had then closed the client. -/
theorem handedOver_of_gone_iff_late (server : c.kind = .tcpServer) (fresh : c.received.bytes = [])
    (past : List ChannelInput) (requested : Nat) :
    (c.handedOver past requested).map (·.byte) = (c.after past).fetched requested ∧
      ∀ a ∈ c.handedOver past requested, (gone a.client past = true ↔ a.late = true) ∧
        (InTaskOrder past → a.late = true →
          parted ChannelInput.closes a.client past = true) := by
  refine ⟨bytes_handedOver server fresh past requested, fun a ha => ?_⟩
  have hmem := List.mem_of_mem_take ha
  exact ⟨gone_iff_late_of_mem_held hmem, fun order => closed_of_late order hmem⟩

end Channel

/-- A server inside the terminal. -/
def ChannelSettings.server : ChannelSettings where
  channel := some 1
  protocol := .tcpServer
  port := 9
  bufferSize := 64
  destination := none
  localAddress := none
  bearer := none
  accessName := none
  login := none
  password := none

/-- A report about data of the first client is applied after the card has closed that client. Then a
second client comes and sends a byte. -/
def dataAfterClose : List ChannelInput :=
  [.report (.data [4]), .report .accepted, .report (.data [1, 2, 3]), .close true,
    .report .accepted, .report .ready, .start 0]

theorem handedOver_dataAfterClose :
    ∃ c : Channel, c.kind = .tcpServer ∧ c.received.bytes = [] ∧
      (c.handedOver dataAfterClose 4).map (·.byte) = [1, 2, 3, 4] ∧
      ∀ a ∈ c.handedOver dataAfterClose 4, gone a.client dataAfterClose = true ↔ a.late = true := by
  have h := (Channel.new 1 1 .server).handedOver_of_gone_iff_late rfl rfl dataAfterClose 4
  refine ⟨.new 1 1 .server, rfl, rfl, h.1.trans (by decide +kernel), fun a ha => (h.2 a ha).1⟩

/-- Bytes of the first client, whom the card has closed, are handed over after the second client has
come. -/
theorem closed_client_reaches_card :
    ∃ (c : Channel) (past : List ChannelInput), c.kind = .tcpServer ∧ c.received.bytes = [] ∧
      InTaskOrder past ∧ parted ChannelInput.closes 1 past = true ∧ clients past = 2 ∧
      (c.after past).fetched 3 = [1, 2, 3] ∧
      c.handedOver past 3 = [⟨1, 1, true⟩, ⟨2, 1, true⟩, ⟨3, 1, true⟩] := by
  refine ⟨.new 1 1 .server, dataAfterClose, rfl, rfl, ?_, by decide, by decide,
    by decide +kernel, by decide +kernel⟩
  exact ⟨by decide, by decide, trivial⟩

end CardChannels
