import CardChannels.Proofs.Response.ReadBack
import CardChannels.Proofs.Table.Origin
import CardChannels.Proofs.Terminal.Silence

/-!
# Answers carry what their commands ask for

What an answer carries depends on the kind of its command, and the commands of channels are kept
until their answers can be given. So a channel keeps only what goes with its open or its sends, and
what it keeps and what the table answers is never too long to be written.
-/
namespace CardChannels

/-- The kind of command whose answers carry such data. -/
def Payload.kind : Payload → CommandKind
  | .openChannel .. => .openChannel
  | .sendData _ => .sendData
  | .receiveData .. => .receiveData
  | .channelStatus _ => .getChannelStatus

/-- A bearer description that can be written. -/
def BearerDescription.Fits (b : BearerDescription) : Prop := b.toTlv.length ≤ Tlv.maxLength

/-- Settings whose bearer, if they have one, can be written. -/
def ChannelSettings.Fits (s : ChannelSettings) : Prop := ∀ b, s.bearer = some b → b.Fits

/-- Data that is short enough to be answered. -/
def Payload.Fits : Payload → Prop
  | .openChannel _ bearer _ => ∀ b, bearer = some b → b.Fits
  | .receiveData data _ => data.length ≤ maxReceive
  | .sendData _ | .channelStatus _ => True

/-- An answer that carries nothing, or short enough data of its command's kind. -/
def TerminalResponse.Apt (r : TerminalResponse) : Prop :=
  ∀ data, r.data = some data → r.details.kind? = some data.kind ∧ data.Fits

/-- An effect that answers aptly, if it answers. -/
def Effect.Apt : Effect → Prop
  | .respond r => r.Apt
  | .raise _ | .retry .. => True

/-- A reply that is kept for a command of its kind. -/
def PendingReply.Apt : PendingReply → Prop
  | .opening reply _ => reply.details.kind? = some .openChannel
  | .sending reply _ => reply.details.kind? = some .sendData

/-- A slot that keeps what goes with its open or its sends. -/
structure Slot.Apt (s : Slot) : Prop where
  bearer : s.channel.settings.Fits
  pending : ∀ p, s.pending = some p → p.Apt

/-- An input that carries out what the details of its command say. -/
def TableInput.Apt : TableInput → Prop
  | .openChannel _ reply settings => reply.details.kind? = some .openChannel ∧ settings.Fits
  | .sendData reply _ _ => reply.details.kind? = some .sendData
  | .receiveData reply _ => reply.details.kind? = some .receiveData
  | .channelStatus reply => reply.details.kind? = some .getChannelStatus
  | .closeChannel .. | .report .. | .bearerRetry .. | .connectionChanged _ | .taskEnded ..
  | .sessionEnd | .cardRemoved => True

variable {t : ChannelTable} {input : TableInput} {k : UInt8} {s s' : Slot} {reply : Reply}
  {settings : ChannelSettings}

namespace TerminalResponse

theorem apt_of_data_none {r : TerminalResponse} (h : r.data = none) : r.Apt := by
  intro data hdata
  cases h.symm.trans hdata

theorem apt_of_data {r : TerminalResponse} {data : Payload} (h : r.data = some data)
    (kind : r.details.kind? = some data.kind) (fits : data.Fits) : r.Apt := by
  intro data' hdata
  cases h.symm.trans hdata
  exact ⟨kind, fits⟩

end TerminalResponse

theorem fetchPlan_le (requested available : Nat) :
    (fetchPlan requested available).1 ≤ maxReceive := by
  unfold fetchPlan
  split
  · exact Nat.le_of_lt (Nat.lt_of_lt_of_le ‹_› (Nat.min_le_right ..))
  · split
    · exact Nat.le_refl _
    · exact Nat.not_lt.mp ‹_›

/-- A receive hands over no more than an answer can carry. -/
theorem Channel.length_receive_le {c c' : Channel} {requested remaining : Nat}
    {result : ResultCode} {bytes : Bytes} {orders : List Order}
    (h : c.receive requested = (c', .data result bytes remaining, orders)) :
    bytes.length ≤ maxReceive := by
  unfold receive at h
  split at h
  · cases h
  · cases h
    rw [List.length_take]
    exact Nat.le_trans (Nat.min_le_left ..) (fetchPlan_le ..)

/-! Slots -/

theorem ChannelTable.apt_newSlot (t : ChannelTable) (k : UInt8)
    (kind : reply.details.kind? = some .openChannel) (fits : settings.Fits) :
    (t.newSlot k reply settings).Apt := by
  refine ⟨fits, ?_⟩
  rintro _ ⟨⟩
  exact kind

/-- A channel keeps its settings, and so its slot stays apt as long as it keeps an apt reply. -/
theorem Slot.Apt.goOn (h : s.Apt) {channel : Channel}
    (settings : channel.settings = s.channel.settings) (phase : Phase)
    {pending : Option PendingReply} (kept : pending = s.pending ∨ pending = none) :
    Slot.Apt ⟨channel, phase, pending⟩ := by
  refine ⟨settings ▸ h.bearer, ?_⟩
  rintro p hp
  rcases kept with rfl | rfl
  · exact h.pending p hp
  · cases hp

/-- Apt inputs leave apt slots. -/
theorem Slot.Origin.apt {told : Nat → List Order} {before : Option Slot}
    (origin : s'.Origin t k input told before) (asked : input.Apt)
    (hold : ∀ s, before = some s → s.Apt) : s'.Apt := by
  cases origin with
  | stays unclosed => exact hold _ rfl
  | started uncommanded waits start given =>
    exact (hold _ rfl).goOn (Channel.settings_start start) _ (.inl rfl)
  | new asked' =>
    subst asked'
    exact t.apt_newSlot k asked.1 asked.2
  | newStarted asked' start given =>
    subst asked'
    exact (t.apt_newSlot k asked.1 asked.2).goOn (Channel.settings_start start) _ (.inl rfl)
  | @kept s reply channel orders asked' closed =>
    have settings := s.channel.settings_close true
    rw [closed] at settings
    exact (hold _ rfl).goOn settings _ (.inl rfl)
  | @sent s reply data immediate channel outcome orders asked' about opened free send =>
    have settings := s.channel.settings_send data.data immediate
    rw [send] at settings
    subst asked'
    have kept := (hold _ rfl).goOn settings .opened (.inr rfl)
    cases outcome with
    | buffered | closed => exact kept
    | flushing free' =>
      refine ⟨kept.bearer, ?_⟩
      rintro _ ⟨⟩
      exact asked
  | fetched asked' about => exact (hold _ rfl).goOn (Channel.settings_receive ..) _ (.inl rfl)
  | @reported s s' r channel upshot orders heard report left =>
    have settings := s.channel.settings_report r
    rw [report] at settings
    have kept {phase : Phase} {pending : Option PendingReply}
        (kept : pending = s.pending ∨ pending = none) : Slot.Apt ⟨channel, phase, pending⟩ :=
      (hold s rfl).goOn settings phase kept
    cases upshot with
    | opened status =>
      cases left
      exact kept (.inr rfl)
    | openFailed | sendFailed => cases left
    | sent =>
      cases left
      exact kept (.inr rfl)
    | dataAvailable | ignored =>
      cases left
      exact kept (.inl rfl)
    | statusChanged status =>
      cases left
      refine kept ?_
      split
      · exact .inl rfl
      · exact .inr rfl
  | ended heard => exact ⟨(hold _ rfl).bearer, (hold _ rfl).pending⟩
  | outlived ending opened client =>
    exact (hold _ rfl).goOn (Channel.settings_resume _) _ (.inr rfl)

/-! Effects -/

/-- Effects that answer aptly. -/
def AptAll (effects : List Effect) : Prop := ∀ e ∈ effects, e.Apt

namespace AptAll

theorem nil : AptAll [] := by simp [AptAll]

theorem respond {r : TerminalResponse} (h : r.Apt) : AptAll [.respond r] :=
  List.forall_mem_singleton.mpr h

theorem raise (e : EventDownload) : AptAll [.raise e] := List.forall_mem_singleton.mpr trivial

theorem append {a b : List Effect} (ha : AptAll a) (hb : AptAll b) : AptAll (a ++ b) :=
  List.forall_mem_append.mpr ⟨ha, hb⟩

end AptAll

namespace Slot.Apt

/-- An open that failed is answered with the settings of its channel. -/
theorem failure (h : s.Apt) {modified : Bool} (hp : s.pending = some (.opening reply modified))
    (refusal : Refusal) : (reply.failure refusal (some s.failureData)).Apt :=
  TerminalResponse.apt_of_data rfl (h.pending _ hp) h.bearer

theorem givenUpTold (h : s.Apt) (refusal : Refusal) : AptAll (s.givenUpTold refusal) := by
  unfold Slot.givenUpTold
  split
  · rename_i hp
    exact .respond (h.failure hp refusal)
  · exact .nil
  · exact .nil

theorem startedTold (h : s.Apt) (timeout : Nat) : AptAll (s.startedTold timeout) := by
  unfold Slot.startedTold
  split
  · exact .nil
  · exact h.givenUpTold _

theorem wentOnTold (h : s.Apt) (timeout : Nat) (outcome : BearerAnswer) :
    AptAll (s.wentOnTold timeout outcome) := by
  cases outcome with
  | ready => exact h.startedTold timeout
  | pending => exact .nil
  | retryAfter delay => exact List.forall_mem_singleton.mpr trivial
  | failed refusal => exact h.givenUpTold refusal

theorem lossTold (h : s.Apt) : AptAll s.lossTold := by
  unfold Slot.lossTold
  dsimp only
  split
  · rename_i hp
    exact .respond (h.failure hp _)
  · exact .append (.respond (TerminalResponse.apt_of_data_none rfl)) (.raise _)
  · exact .raise _

end Slot.Apt

namespace ChannelTable

/-- A table whose slots keep what goes with them. -/
def Apt (t : ChannelTable) : Prop := ∀ k s, t.slots.get? k = some s → s.Apt

theorem apt_effects_openChannel (kind : reply.details.kind? = some .openChannel)
    (fits : settings.Fits) (host : Host) :
    AptAll (t.openChannel host reply settings).2.effects := by
  rcases t.openChannel_cases host reply settings with ⟨cause, hopen⟩ | ⟨k, -, hopen⟩
  · rw [hopen]
    exact .respond (TerminalResponse.apt_of_data rfl kind fits)
  · rw [hopen, Output.effects_append, effects_afterBearer]
    exact (t.apt_newSlot k kind fits).wentOnTold _ _

theorem apt_effects_closeChannel (reply : Reply) (k : UInt8) (keepListening : Bool) :
    AptAll (t.closeChannel reply k keepListening).2.effects := by
  have answered : (reply.success .ok none).Apt := TerminalResponse.apt_of_data_none rfl
  unfold closeChannel
  split
  · exact .respond (TerminalResponse.apt_of_data_none rfl)
  · rename_i s hs
    rcases s.channel.close keepListening with ⟨channel, released | listening, orders⟩
    · exact .respond answered
    · exact .respond answered

theorem apt_effects_sendData (kind : reply.details.kind? = some .sendData) (data : Transfer)
    (immediate : Bool) : AptAll (t.sendData reply data immediate).2.effects := by
  have refused (cause : ChannelCause) : (reply.failure (.ofCause cause) none).Apt :=
    TerminalResponse.apt_of_data_none rfl
  unfold sendData
  split
  · exact .respond (refused _)
  · split
    · exact .respond (refused _)
    · dsimp only
      split
      · exact .respond (TerminalResponse.apt_of_data rfl kind trivial)
      · exact .nil
      · exact .respond (refused _)

theorem apt_effects_receiveData (kind : reply.details.kind? = some .receiveData)
    (data : Transfer) : AptAll (t.receiveData reply data).2.effects := by
  unfold receiveData
  split
  · exact .respond (TerminalResponse.apt_of_data_none rfl)
  · rename_i s hs
    rcases hreceive : s.channel.receive data.length with
      ⟨channel, ⟨result, bytes, remaining⟩ | closed, orders⟩
    · refine .respond (TerminalResponse.apt_of_data rfl kind ?_)
      exact Channel.length_receive_le hreceive
    · exact .respond (TerminalResponse.apt_of_data_none rfl)

theorem apt_effects_applyUpshot {channel : Channel} (h : s.Apt)
    (settings : channel.settings = s.channel.settings) (upshot : Upshot) :
    AptAll (t.applyUpshot { s with channel := channel } upshot).2.effects := by
  have kept : Slot.Apt { s with channel := channel } := h.goOn settings s.phase (.inl rfl)
  unfold applyUpshot
  cases upshot with
  | opened status =>
    dsimp only
    split
    · rename_i hp
      exact .respond (TerminalResponse.apt_of_data rfl (h.pending _ hp) kept.bearer)
    · exact .nil
  | openFailed cause =>
    rw [effects_giveUpOpen_eq]
    exact kept.givenUpTold _
  | sent =>
    dsimp only
    split
    · rename_i hp
      exact .respond (TerminalResponse.apt_of_data rfl (h.pending _ hp) trivial)
    · exact .nil
  | sendFailed =>
    dsimp only
    split
    · exact .respond (TerminalResponse.apt_of_data_none rfl)
    · exact .nil
  | dataAvailable status available => exact .raise _
  | statusChanged status =>
    dsimp only
    split
    · exact .raise _
    · refine .append ?_ (.raise _)
      split
      · exact .respond (TerminalResponse.apt_of_data_none rfl)
      · exact .nil
  | ignored => exact .nil

theorem apt_effects_report (h : t.Apt) (k : UInt8) (g : Nat) (r : Report) :
    AptAll (t.report k g r).2.effects := by
  unfold report
  split
  · exact .nil
  · rename_i s hs
    exact apt_effects_applyUpshot (h k s (of_current? hs).1) (s.channel.settings_report r) _

theorem apt_effects_bearerRetry (h : t.Apt) (host : Host) (k : UInt8) (g : Nat) :
    AptAll (t.bearerRetry host k g).2.effects := by
  rcases t.bearerRetry_cases host k g with ⟨idle, -⟩ | ⟨s, r, hs, -, -, -, -, looked⟩
  · rw [idle]
    exact .nil
  · rw [looked, Output.effects_append, effects_afterBearer]
    exact (h k s hs).wentOnTold _ _

theorem apt_changeTold (h : t.Apt) (k : UInt8) (told : BearerChange) :
    AptAll ((t.view k).changeTold told) := by
  have hslot : (t.view k).slot = t.slots.get? k := rfl
  unfold ChannelView.changeTold
  rw [hslot]
  rcases hs : t.slots.get? k with _ | s
  · exact .nil
  · cases told with
    | ready =>
      dsimp only
      split
      · exact (h k s hs).startedTold _
      · exact .nil
    | failed refusal =>
      dsimp only
      split
      · exact (h k s hs).givenUpTold _
      · exact .nil
    | lost => exact (h k s hs).lossTold

theorem apt_effects_connectionChanged (h : t.Apt) (keyed : t.Keyed) (change : ConnectionChange) :
    AptAll (t.connectionChanged change).2.effects := by
  rw [effects_connectionChanged keyed]
  intro e he
  obtain ⟨a, -, he⟩ := List.mem_flatMap.mp he
  rw [changeEffects_eq, ChannelView.connectionTold] at he
  rcases htold : (t.view a.1).changeOf change with _ | told
  · rw [htold] at he
    cases he
  · rw [htold] at he
    exact apt_changeTold h a.1 told e he

/-- Apt inputs leave the table apt, and it answers aptly. -/
theorem apt_step (h : t.Apt) (keyed : t.Keyed) (asked : input.Apt) :
    (t.step input).1.Apt ∧ AptAll (t.step input).2.effects := by
  constructor
  · intro k s hs
    exact (t.origin_step keyed input hs).apt asked (h k)
  · cases input with
    | openChannel host reply settings => exact apt_effects_openChannel asked.1 asked.2 host
    | closeChannel reply k keepListening => exact apt_effects_closeChannel reply k keepListening
    | sendData reply data immediate => exact apt_effects_sendData asked data immediate
    | receiveData reply data => exact apt_effects_receiveData asked data
    | channelStatus reply => exact .respond (TerminalResponse.apt_of_data rfl asked trivial)
    | report k g r => exact apt_effects_report h k g r
    | bearerRetry host k g => exact apt_effects_bearerRetry h host k g
    | connectionChanged change => exact apt_effects_connectionChanged h keyed change
    | taskEnded k g => exact .nil
    | sessionEnd =>
      rw [step, t.effects_sessionEnd]
      exact .nil
    | cardRemoved => exact .nil

end ChannelTable

end CardChannels
