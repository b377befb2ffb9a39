import CardChannels.Proofs.Command.OpenObjects

/-!
# The checks of an open command

The objects of an open command go through checks in a fixed order, each with its refusal. Objects
are acceptable exactly when they pass all checks, and readings one after the other are refused by
the first check that fails when each of them is.
-/
namespace CardChannels

/-- The refusal in a result. -/
def Refusal.of? {α : Type} : Except Refusal α → Option Refusal
  | .ok _ => none
  | .error refusal => some refusal

namespace OpenChannel

inductive Check where
  | transportReadable
  | bearerReadable
  | linkNamed
  | localWithoutBearer
  | bearerSupported
  | transportNamed
  | remoteWithBearer
  | partnerReadable
  | partnerNamed
  | sizeNamed
  | sizeReadable
  | ownReadable
  | accessReadable
  | passwordReadable
  | loginReadable
deriving DecidableEq

namespace Check

/-- The checks in the order in which they count. -/
def table : List Check :=
  [transportReadable, bearerReadable, linkNamed, localWithoutBearer, bearerSupported,
   transportNamed, remoteWithBearer, partnerReadable, partnerNamed, sizeNamed, sizeReadable,
   ownReadable, accessReadable, passwordReadable, loginReadable]

/-- What a command that fails a check is refused with. -/
def refusal : Check → Refusal
  | linkNamed | partnerNamed | sizeNamed => .valuesMissing
  | bearerSupported => .beyondCapability
  | _ => .dataNotUnderstood

/-- Whether objects pass a check. One that is about an object that is not there is passed. -/
def holds (p : Parts) : Check → Bool
  | transportReadable => p.transport.all fun t => 3 ≤ t.value.length && (protocol? t).isSome
  | bearerReadable => p.bearer.all fun b => !b.value.isEmpty
  | linkNamed => p.transport.isSome || p.bearer.isSome
  | localWithoutBearer =>
    p.bearer.isSome || p.transport.all fun t => (protocol? t).all (·.isTerminalLocal)
  | bearerSupported => p.bearer.all fun b => (bearerType? b).isSome
  | transportNamed => p.bearer.isNone || p.transport.isSome
  | remoteWithBearer =>
    p.bearer.isNone || p.transport.all fun t => (protocol? t).all (·.isRemote)
  | partnerReadable => p.bearer.isNone || p.partner.all isAddress
  | partnerNamed =>
    p.partner.isSome || p.bearer.all fun b => (bearerType? b).all (!·.isPacketSwitched)
  | sizeNamed => p.size.isSome
  | sizeReadable => p.size.all fun t => 2 ≤ t.value.length
  | ownReadable => p.own.all fun t => t.value.isEmpty || isAddress t
  | accessReadable => p.access.all fun t => (AccessName.decode t.value).isOk
  | passwordReadable => p.password.all fun t => (TextString.decode t.value).isOk
  | loginReadable => p.login.all fun t => (TextString.decode t.value).isOk

/-- The refusal of the first check that fails. -/
def firstFault (p : Parts) (checks : List Check) : Option Refusal :=
  (checks.find? (!·.holds p)).map refusal

end Check

/-- Objects that a channel can be opened with. -/
structure Parts.Acceptable (p : Parts) : Prop where
  /-- A link inside the terminal takes no bearer, one into the network takes a supported one, and
  the packet services also the partner's address. -/
  link : ∃ t ∈ p.transport, 3 ≤ t.value.length ∧ ∃ protocol ∈ protocol? t,
    (p.bearer = none ∧ protocol.isTerminalLocal = true) ∨
    ∃ b ∈ p.bearer, ∃ type ∈ bearerType? b, protocol.isRemote = true ∧
      (∀ a ∈ p.partner, isAddress a = true) ∧ (type.isPacketSwitched = true → p.partner ≠ none)
  size : ∃ t ∈ p.size, 2 ≤ t.value.length
  own : ∀ t ∈ p.own, t.value = [] ∨ isAddress t = true
  access : ∀ t ∈ p.access, (AccessName.decode t.value).isOk = true
  texts : ∀ t, t ∈ p.login ∨ t ∈ p.password → (TextString.decode t.value).isOk = true

open Check

variable {α β : Type} {objects : List Tlv} {p : Parts} {refusal : Refusal}

/-! What is acceptable -/

theorem filled_of_bearerType? {b : Tlv} {type : BearerType} (h : bearerType? b = some type) :
    b.value.isEmpty = false := by
  cases value : b.value with
  | nil => simp [bearerType?, value] at h
  | cons code rest => rfl

/-- A link takes a transport, with a bearer and without. -/
theorem transport_isSome (named : linkNamed.holds p = true)
    (withBearer : transportNamed.holds p = true) : p.transport.isSome = true := by
  simp only [holds, Bool.or_eq_true] at named withBearer
  rcases named with named | named
  · exact named
  · simpa [Option.isNone_iff_eq_none, Option.isSome_iff_ne_none.mp named] using withBearer

theorem Parts.Acceptable.holds (h : p.Acceptable) (check : Check) : check.holds p = true := by
  obtain ⟨t, named, long, protocol, known, either⟩ := h.link
  obtain ⟨u, sized, room⟩ := h.size
  simp only [Option.mem_def] at named known sized
  cases check with
  | transportReadable => simp [Check.holds, named, known, long]
  | linkNamed => simp [Check.holds, named]
  | transportNamed => simp [Check.holds, named]
  | sizeNamed => simp [Check.holds, sized]
  | sizeReadable => simp [Check.holds, sized, room]
  | ownReadable =>
    simpa [Check.holds, Option.all_eq_true] using h.own
  | accessReadable => simpa [Check.holds, Option.all_eq_true] using h.access
  | passwordReadable =>
    simpa [Check.holds, Option.all_eq_true] using fun t ht => h.texts t (.inr ht)
  | loginReadable => simpa [Check.holds, Option.all_eq_true] using fun t ht => h.texts t (.inl ht)
  | bearerReadable | localWithoutBearer | bearerSupported | remoteWithBearer | partnerReadable
  | partnerNamed =>
    rcases either with ⟨bearer, stays⟩ | ⟨b, bearer, type, supported, leaves, address, packets⟩
    · simp [Check.holds, bearer, named, known, stays]
    · simp only [Option.mem_def] at bearer supported
      have filled := filled_of_bearerType? supported
      have partner : p.partner.isSome = true ∨ type.isPacketSwitched = false := by
        cases switched : type.isPacketSwitched with
        | false => exact .inr rfl
        | true => exact .inl (Option.isSome_iff_ne_none.mpr (packets switched))
      have addressed : p.partner.all isAddress = true := by
        simpa [Option.all_eq_true] using address
      simp [Check.holds, bearer, named, known, filled, supported, leaves, addressed, partner]

/-- The transport and the bearer of objects that pass every check fit together. -/
theorem link_of_holds (h : ∀ check : Check, check.holds p = true) {t : Tlv}
    (named : p.transport = some t) {protocol : TransportProtocol}
    (known : protocol? t = some protocol) :
    (p.bearer = none ∧ protocol.isTerminalLocal = true) ∨
      ∃ b ∈ p.bearer, ∃ type ∈ bearerType? b, protocol.isRemote = true ∧
        (∀ a ∈ p.partner, isAddress a = true) ∧
        (type.isPacketSwitched = true → p.partner ≠ none) := by
  cases bearer : p.bearer with
  | none =>
    have stays : protocol.isTerminalLocal = true := by
      simpa [Check.holds, bearer, named, known] using h localWithoutBearer
    exact .inl ⟨rfl, stays⟩
  | some b =>
    obtain ⟨type, supported⟩ : ∃ type, bearerType? b = some type := by
      simpa [Check.holds, bearer, Option.isSome_iff_exists] using h bearerSupported
    have leaves : protocol.isRemote = true := by
      simpa [Check.holds, bearer, named, known] using h remoteWithBearer
    have address : p.partner.all isAddress = true := by
      simpa [Check.holds, bearer] using h partnerReadable
    have packets : p.partner.isSome = true ∨ type.isPacketSwitched = false := by
      simpa [Check.holds, bearer, supported] using h partnerNamed
    refine .inr ⟨b, rfl, type, supported, leaves, (Option.all_eq_true ..).mp address, ?_⟩
    intro switched
    rcases packets with found | other
    · exact Option.isSome_iff_ne_none.mp found
    · simp [switched] at other

theorem acceptable_of_holds (h : ∀ check : Check, check.holds p = true) : p.Acceptable := by
  obtain ⟨t, named⟩ := Option.isSome_iff_exists.mp (transport_isSome (h _) (h _))
  obtain ⟨u, sized⟩ := Option.isSome_iff_exists.mp (h sizeNamed)
  have readable := h transportReadable
  simp only [Check.holds, named, Option.all_some, Bool.and_eq_true, decide_eq_true_eq] at readable
  obtain ⟨protocol, known⟩ := Option.isSome_iff_exists.mp readable.2
  have link := link_of_holds h named known
  refine ⟨⟨t, named, readable.1, protocol, known, link⟩, ⟨u, sized, ?size⟩, ?own, ?access,
    ?texts⟩
  case size => simpa [Check.holds, sized] using h sizeReadable
  case own => simpa [Check.holds, Option.all_eq_true] using h ownReadable
  case access => simpa [Check.holds, Option.all_eq_true] using h accessReadable
  case texts =>
    rintro t (login | password)
    · exact (Option.all_eq_true ..).mp (h loginReadable) t login
    · exact (Option.all_eq_true ..).mp (h passwordReadable) t password

/-- Objects are acceptable exactly when they pass every check. -/
theorem acceptable_iff : p.Acceptable ↔ ∀ check ∈ table, check.holds p = true := by
  constructor
  · exact fun h check _ => h.holds check
  · exact fun h => acceptable_of_holds fun check => h check (by cases check <;> decide)

/-! Refusals of a chain of readings -/

@[simp] theorem of?_ok (a : α) : Refusal.of? (.ok a) = none := rfl

@[simp] theorem of?_error : Refusal.of? (.error refusal : Except Refusal α) = some refusal := rfl

@[simp] theorem of?_map (x : Except Refusal α) (f : α → β) :
    Refusal.of? (x.map f) = Refusal.of? x := by
  cases x <;> rfl

@[simp] theorem of?_understood (r : Except Field.Error α) :
    Refusal.of? (Objects.understood r) = if r.isOk then none else some .dataNotUnderstood := by
  cases r <;> rfl

theorem of?_bind_ok (x : Except Refusal α) (f : α → β) :
    Refusal.of? (x >>= fun a => .ok (f a)) = Refusal.of? x := by
  cases x <;> rfl

@[simp] theorem firstFault_nil (p : Parts) : firstFault p [] = none := rfl

@[simp] theorem firstFault_cons (p : Parts) (check : Check) (checks : List Check) :
    firstFault p (check :: checks) =
      if check.holds p then firstFault p checks else some check.refusal := by
  unfold firstFault
  rw [List.find?_cons]
  cases check.holds p <;> rfl

theorem firstFault_eq_none {checks : List Check} :
    firstFault p checks = none ↔ ∀ check ∈ checks, check.holds p = true := by
  simp [firstFault]

theorem firstFault_append (p : Parts) (first later : List Check) :
    firstFault p (first ++ later) = (firstFault p first).or (firstFault p later) := by
  simp [firstFault, List.find?_append, Option.map_or]

/-- Readings one after the other are refused by the first check that fails. -/
theorem of?_bind {x : Except Refusal α} {f : α → Except Refusal β} {first later : List Check}
    (hx : Refusal.of? x = firstFault p first)
    (hf : ∀ a, x = .ok a → Refusal.of? (f a) = firstFault p later) :
    Refusal.of? (x >>= f) = firstFault p (first ++ later) := by
  rw [firstFault_append, ← hx]
  cases x with
  | error refusal => rfl
  | ok a => exact hf a rfl

/-- An optional field has one check. -/
theorem of?_optional {tag : Tag} {read : Tlv → Except Field.Error α} {check : Check}
    (refusal : check.refusal = .dataNotUnderstood)
    (holds : check.holds p = (Tlv.find? objects tag).all fun t => (read t).isOk) :
    Refusal.of? (Objects.optional objects tag read) = firstFault p [check] := by
  rw [firstFault_cons, firstFault_nil, holds, refusal]
  unfold Objects.optional
  cases Tlv.find? objects tag <;> simp

end OpenChannel

end CardChannels
