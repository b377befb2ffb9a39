import CardChannels.Proofs.Bearer.Looking
import CardChannels.Proofs.Table.Coherent

/-!
# How an open begins

An open that gets a number has a slot before anything can fail. It then asks for its bearer, and
goes on as it is told; a channel that needs no bearer goes on at once. Whatever it has asked for,
the registry has no other request changed.
-/
namespace CardChannels

namespace BearerRegistry

/-- Asks for the bearer that some settings name. A channel that needs none can go on. -/
def ask (c : BearerRegistry) (host : Host) (k : UInt8) (settings : ChannelSettings) :
    BearerRegistry × BearerAnswer × List HostCall :=
  match settings.bearer with
  | none => (c, .ready, [])
  | some bearer => c.request host k bearer settings.accessName

/-- Apart from its own request, a channel that asks for its bearer leaves the registry as it is. -/
theorem forget_ask (c : BearerRegistry) (host : Host) (k : UInt8) (settings : ChannelSettings) :
    (c.ask host k settings).1.forget k = c.forget k := by
  unfold ask
  split
  · rfl
  · exact forget_request ..

theorem refusal_of_ask {c : BearerRegistry} {host : Host} {k : UInt8} {settings : ChannelSettings}
    {refusal : Refusal} (h : (c.ask host k settings).2.1 = .failed refusal) :
    refusal = .beyondCapability ∨ refusal = .busyOnCall := by
  unfold ask at h
  split at h
  · cases h
  · exact refusal_of_request h

end BearerRegistry

namespace ChannelTable

variable {t : ChannelTable} {k : UInt8} {s : Slot}

/-- The slot of a channel that gets a number. -/
def newSlot (t : ChannelTable) (k : UInt8) (reply : Reply) (settings : ChannelSettings) : Slot :=
  let size := negotiate settings.bufferSize t.maxBufferSize
  ⟨.new k (t.generation + 1) { settings with bufferSize := size.1, channel := some k },
    .awaitingBearer, some (.opening reply size.2)⟩

/-- The table with the slot of a new channel. -/
def enroll (t : ChannelTable) (s : Slot) : ChannelTable :=
  { t with generation := t.generation + 1 }.put s

theorem get?_of_firstFree? (h : t.firstFree? = some k) : t.slots.get? k = none := by
  simpa [ChannelMap.contains] using List.find?_some h

/-- An open that gets a number asks for the bearer of the channel that it has made, and goes on as
it is told. -/
theorem openChannel_of_firstFree? {settings : ChannelSettings} (size : settings.bufferSize ≠ 0)
    (hfree : t.firstFree? = some k) (host : Host) (reply : Reply) :
    let s := t.newSlot k reply settings
    let asked := t.bearers.ask host k settings
    let result := { t.enroll s with bearers := asked.1 }.afterBearer s asked.2.1
    t.openChannel host reply settings = (result.1, .call asked.2.2 ++ result.2) := by
  dsimp only [openChannel, BearerRegistry.ask]
  rw [if_neg size, hfree]
  cases hb : settings.bearer with
  | none => simp only [newSlot, hb]; rfl
  | some bearer => simp only [newSlot, hb]; rfl

/-- An open has no number to get, or gets one. -/
theorem openChannel_cases (t : ChannelTable) (host : Host) (reply : Reply)
    (settings : ChannelSettings) :
    (∃ cause, t.openChannel host reply settings = (t, refuseOpen reply settings cause)) ∨
      ∃ k, t.firstFree? = some k ∧
        let s := t.newSlot k reply settings
        let asked := t.bearers.ask host k settings
        let result := { t.enroll s with bearers := asked.1 }.afterBearer s asked.2.1
        t.openChannel host reply settings = (result.1, .call asked.2.2 ++ result.2) := by
  by_cases size : settings.bufferSize = 0
  · exact .inl ⟨.bufferSizeNotAvailable, if_pos size⟩
  · rcases hfree : t.firstFree? with _ | k
    · refine .inl ⟨.noChannelAvailable, ?_⟩
      rw [openChannel, if_neg size, hfree]
    · exact .inr ⟨k, rfl, openChannel_of_firstFree? size hfree host reply⟩

end ChannelTable

end CardChannels
