import CardChannels.Proofs.Command.Icons

/-!
# The partner that a command names

A client has to have a partner to connect to. Whether an open command has to name one is decided
when the command is read, and whether there is one when the channel is started. The two agree but
for the default bearer: settings that can be read have no partner exactly when the bearer is the
default one and no address stands behind the transport.
-/
namespace CardChannels

theorem ChannelSettings.partner?_eq_none_iff {s : ChannelSettings} :
    s.partner? = none ↔ s.destination = none ∧ s.protocol.isRemote = true := by
  unfold partner?
  cases s.destination with
  | some ip => simp
  | none => simp

theorem TransportProtocol.not_isRemote_of_isTerminalLocal {p : TransportProtocol}
    (h : p.isTerminalLocal = true) : p.isRemote = false := by
  cases p <;> first | rfl | cases h

/-- Only the packet services need the address of the partner. -/
theorem BearerType.eq_default_iff {type : BearerType} :
    type = .default ↔ type.isPacketSwitched = false := by
  cases type <;> simp [isPacketSwitched]

namespace OpenChannel

variable {objects : List Tlv} {s : ChannelSettings}

/-- Objects that name the default bearer and no partner. -/
def Parts.Nowhere (p : Parts) : Prop :=
  p.bearer.bind bearerType? = some .default ∧ p.partner = none

theorem acceptable_of_settings (h : settings objects = .ok s) : (parts objects).Acceptable := by
  refine acceptable_iff.mpr (firstFault_eq_none.mp ?_)
  rw [← of?_settings, h]
  rfl

/-- Without a bearer the partner's address is not looked at. -/
theorem Parts.Give.destination_eq_none_iff {p : Parts} (h : p.Give s) :
    s.destination = none ↔ p.bearer = none ∨ p.partner = none := by
  have same := congrArg Option.isNone h.destination
  cases hbearer : p.bearer with
  | none => simpa [hbearer] using same
  | some b =>
    have same : s.destination.isNone = p.partner.isNone := by simpa [hbearer] using same
    rw [← Option.isNone_iff_eq_none, same, Option.isNone_iff_eq_none]
    simp

/-- Settings that can be read have no partner exactly when they are for the default bearer and no
address was given. -/
theorem partner?_eq_none_iff_nowhere (h : settings objects = .ok s) :
    s.partner? = none ↔ (parts objects).Nowhere := by
  have give := give_of_settings h
  obtain ⟨t, named, -, protocol, known, fits⟩ := (acceptable_of_settings h).link
  obtain ⟨t', named', rest, value⟩ := give.transport
  obtain rfl : t = t' := Option.some.inj (named.symm.trans named')
  obtain rfl : s.protocol = protocol := by
    have read : protocol? t = some s.protocol := by
      simp [protocol?, value, TransportProtocol.ofCode?_code]
    exact Option.some.inj (read.symm.trans known)
  rw [ChannelSettings.partner?_eq_none_iff, give.destination_eq_none_iff, Parts.Nowhere]
  rcases fits with ⟨bearer, stays⟩ | ⟨b, bearer, type, supported, leaves, -, packets⟩
  · simp [bearer, TransportProtocol.not_isRemote_of_isTerminalLocal stays]
  · have bearer : (parts objects).bearer = some b := bearer
    have supported : bearerType? b = some type := supported
    simp only [bearer, leaves, supported, Option.bind_some, reduceCtorEq, false_or, and_true,
      Option.some.injEq]
    refine ⟨fun missing => ⟨?_, missing⟩, And.right⟩
    rw [BearerType.eq_default_iff, ← Bool.not_eq_true]
    exact fun switched => packets switched missing

end OpenChannel

end CardChannels
