import CardChannels.Proofs.Command.OpenChecks

/-!
# The decision table of an open command

Each part of the settings has its checks, and what is read of it is what its object says. The main
statement is that the settings are refused exactly with the refusal of the first check that fails,
that they can therefore be read exactly when the objects are acceptable, and that they are read
from the objects that were checked.
-/
namespace CardChannels.OpenChannel

/-- Settings that say what objects say. -/
structure Parts.Give (p : Parts) (s : ChannelSettings) : Prop where
  channel : s.channel = none
  transport : ∃ t ∈ p.transport, ∃ rest,
    t.value = s.protocol.code :: Bytes.ofWord s.port ++ rest
  size : ∃ t ∈ p.size, ∃ rest, t.value = Bytes.ofWord s.bufferSize ++ rest
  bearer : s.bearer.map (·.toTlv.value) = p.bearer.map (·.value)
  /-- Without a bearer the partner's address is not looked at. -/
  destination : s.destination.map (·.toTlv.value) =
    if p.bearer.isSome then p.partner.map (·.value) else none
  localAddress : s.localAddress.map (·.toTlv.value) = (p.own.map (·.value)).filter (· ≠ [])
  /-- An empty name is none. -/
  access : s.accessName ≠ some "" ∧ (p.access = none → s.accessName = none) ∧
    ∀ t ∈ p.access, AccessName.decode t.value = .ok (s.accessName.getD "")
  login : (p.login = none → s.login = none) ∧
    ∀ t ∈ p.login, TextString.decode t.value = .ok s.login
  password : (p.password = none → s.password = none) ∧
    ∀ t ∈ p.password, TextString.decode t.value = .ok s.password

open Check

variable {α β : Type} {objects : List Tlv}

/-! Readings that succeed -/

theorem bind_eq_ok {x : Except Refusal α} {f : α → Except Refusal β} {b : β} :
    (x >>= f) = .ok b ↔ ∃ a, x = .ok a ∧ f a = .ok b := by
  cases x <;> simp [bind, Except.bind]

theorem map_eq_ok {x : Except Refusal α} {f : α → β} {b : β} :
    x.map f = .ok b ↔ ∃ a, x = .ok a ∧ f a = b := by
  cases x <;> simp [Except.map]

theorem understood_eq_ok {r : Except Field.Error α} {a : α} :
    Objects.understood r = .ok a ↔ r = .ok a := by
  cases r <;> simp [Objects.understood]

theorem optional_eq_ok {tag : Tag} {read : Tlv → Except Field.Error α} {a : Option α}
    (h : Objects.optional objects tag read = .ok a) :
    (Tlv.find? objects tag = none ∧ a = none) ∨
      ∃ t b, Tlv.find? objects tag = some t ∧ read t = .ok b ∧ a = some b := by
  unfold Objects.optional at h
  split at h
  · rename_i t found
    obtain ⟨b, hb, rfl⟩ := map_eq_ok.mp h
    exact .inr ⟨t, b, found, understood_eq_ok.mp hb, rfl⟩
  · cases h
    exact .inl ⟨‹_›, rfl⟩

/-! The readings -/

theorem of?_transport (objects : List Tlv) :
    Refusal.of? (transport objects) = firstFault (parts objects) [transportReadable] := by
  unfold transport
  cases h : Tlv.findFrom? objects .transportLevel 0 with
  | none =>
    have found := Tlv.findFrom?_object objects .transportLevel 0
    rw [h, List.drop_zero, Option.map_none] at found
    simp [holds, parts, ← found]
  | some entry =>
    simp [holds, (findFrom?_transport h).1, isOk_transport, Check.refusal]

/-- What is known of the transport once it was read. -/
inductive TransportRead (objects : List Tlv) : Option (Nat × TransportLevel) → Prop
  | absent (missing : (parts objects).transport = none) : TransportRead objects none
  | present (i : Nat) (level : TransportLevel) (t : Tlv)
    (found : (parts objects).transport = some t) (read : TransportLevel.ofTlv t = .ok level)
    (front : objects.take i = front objects) (behind : objects.drop (i + 1) = behind objects) :
    TransportRead objects (some (i, level))

theorem transportRead_of_ok {tr : Option (Nat × TransportLevel)} (h : transport objects = .ok tr) :
    TransportRead objects tr := by
  unfold transport at h
  split at h
  · rename_i i t found
    obtain ⟨level, read, rfl⟩ := map_eq_ok.mp h
    obtain ⟨named, front, behind⟩ := findFrom?_transport found
    exact .present i level t named (understood_eq_ok.mp read) front behind
  · rename_i found
    cases h
    have missing := Tlv.findFrom?_object objects .transportLevel 0
    rw [found, List.drop_zero, Option.map_none] at missing
    exact .absent missing.symm

/-- What is known of the bearer once it was read. -/
inductive BearerRead (objects : List Tlv) : Option BearerDescription → Prop
  | absent (missing : (parts objects).bearer = none) : BearerRead objects none
  | present (b : BearerDescription) (t : Tlv) (found : (parts objects).bearer = some t)
    (read : BearerDescription.ofTlv t = .ok b) : BearerRead objects (some b)

theorem bearerRead_of_ok {bearer : Option BearerDescription}
    (h : Objects.optional objects .bearerDescription BearerDescription.ofTlv = .ok bearer) :
    BearerRead objects bearer := by
  rcases optional_eq_ok h with ⟨missing, rfl⟩ | ⟨t, b, found, read, rfl⟩
  · exact .absent missing
  · exact .present b t found read

/-- What looking for the partner's address comes to. -/
inductive PartnerRead (p : Parts) (type : BearerType) :
    Except Refusal (Option Ipv4) → Prop
  | absent (missing : p.partner = none) (optional : type.isPacketSwitched = false) :
    PartnerRead p type (.ok none)
  | required (missing : p.partner = none) (packets : type.isPacketSwitched = true) :
    PartnerRead p type (.error .valuesMissing)
  | named (t : Tlv) (found : p.partner = some t) (ip : Ipv4) (written : t.value = ip.toTlv.value) :
    PartnerRead p type (.ok (some ip))
  | unreadable (t : Tlv) (found : p.partner = some t) (other : isAddress t = false) :
    PartnerRead p type (.error .dataNotUnderstood)

theorem partnerRead {i : Nat} (type : BearerType)
    (behind : objects.drop (i + 1) = behind objects) :
    PartnerRead (parts objects) type (destination objects i type) := by
  have found := Tlv.findFrom?_object objects .otherAddress (i + 1)
  rw [behind] at found
  unfold destination
  cases h : Tlv.findFrom? objects .otherAddress (i + 1) with
  | none =>
    rw [h] at found
    by_cases packets : type.isPacketSwitched = true
    · simp only [if_pos packets]
      exact .required found.symm packets
    · simp only [if_neg packets]
      exact .absent found.symm (Bool.not_eq_true _ ▸ packets)
  | some entry =>
    rw [h] at found
    have read := addressRead entry.2
    dsimp only
    generalize Ipv4.ofTlv entry.2 = r at read
    cases read with
    | any empty => exact .unreadable entry.2 found.symm (not_isAddress_of_empty empty)
    | address ip written => exact .named entry.2 found.symm ip written
    | unreadable fault filled other => exact .unreadable entry.2 found.symm other

theorem of?_destination {i : Nat} {type : BearerType} {b : Tlv}
    (behind : objects.drop (i + 1) = behind objects) (bearer : (parts objects).bearer = some b)
    (known : bearerType? b = some type) :
    Refusal.of? (destination objects i type) =
      firstFault (parts objects) [partnerReadable, partnerNamed] := by
  have read := partnerRead type behind
  generalize destination objects i type = r at read
  cases read with
  | absent missing optional => simp [holds, missing, bearer, known, optional]
  | required missing packets => simp [holds, missing, bearer, known, packets, Check.refusal]
  | named t found ip written => simp [holds, found, isAddress_of_written written]
  | unreadable t found other => simp [holds, found, bearer, other, Check.refusal]

/-- The partner's address is the one that was found. -/
theorem value_destination {i : Nat} {type : BearerType} {ip : Option Ipv4}
    (behind : objects.drop (i + 1) = behind objects) (h : destination objects i type = .ok ip) :
    ip.map (·.toTlv.value) = (parts objects).partner.map (·.value) := by
  have read := partnerRead type behind
  rw [h] at read
  cases read with
  | absent missing => rw [missing, Option.map_none, Option.map_none]
  | named t found ip written => rw [found, Option.map_some, Option.map_some, written]

theorem link_of_unsupported {b : BearerDescription} (type : b.type? = none)
    (tr : Option (Nat × TransportLevel)) :
    link objects (some b) tr = .error .beyondCapability := by
  simp only [link, supportedBearer, type]
  rfl

theorem link_of_supported {b : BearerDescription} {kind : BearerType} (type : b.type? = some kind)
    (tr : Option (Nat × TransportLevel)) :
    link objects (some b) tr = match tr with
      | none => .error .dataNotUnderstood
      | some (i, level) =>
        if level.protocol.isRemote then (destination objects i kind).map fun ip => (level, ip)
        else .error .dataNotUnderstood := by
  simp only [link, supportedBearer, type]
  rfl

/-- The checks that bring transport and bearer together. -/
def linkChecks : List Check :=
  [linkNamed, localWithoutBearer, bearerSupported, transportNamed, remoteWithBearer,
   partnerReadable, partnerNamed]

theorem of?_link {bearer : Option BearerDescription} {tr : Option (Nat × TransportLevel)}
    (ht : TransportRead objects tr) (hb : BearerRead objects bearer) :
    Refusal.of? (link objects bearer tr) = firstFault (parts objects) linkChecks := by
  cases hb with
  | absent missing =>
    cases ht with
    | absent none => simp [link, linkChecks, holds, none, missing, Check.refusal]
    | present i level t found read =>
      have protocol := (value_transport read).1
      by_cases stays : level.protocol.isTerminalLocal = true
      · simp [link, linkChecks, holds, found, missing, protocol, stays]
      · simp [link, linkChecks, holds, found, missing, protocol, stays, Check.refusal]
  | present b u named read =>
    have type := (value_bearer read).2
    cases known : bearerType? u with
    | none =>
      rw [link_of_unsupported (type.trans known)]
      simp [linkChecks, holds, named, known, Check.refusal]
    | some kind =>
      rw [link_of_supported (type.trans known)]
      cases ht with
      | absent none => simp [linkChecks, holds, named, known, none, Check.refusal]
      | present i level t found read front behind =>
        have protocol := (value_transport read).1
        dsimp only
        by_cases leaves : level.protocol.isRemote = true
        · rw [if_pos leaves, of?_map, of?_destination behind named known]
          simp [linkChecks, holds, named, known, found, protocol, leaves]
        · rw [if_neg leaves]
          simp [linkChecks, holds, named, known, found, protocol, leaves, Check.refusal]

theorem of?_requestedSize (objects : List Tlv) :
    Refusal.of? (requestedSize objects) =
      firstFault (parts objects) [sizeNamed, sizeReadable] := by
  unfold requestedSize
  cases h : Tlv.find? objects .bufferSize with
  | none => simp [holds, parts, h, Check.refusal]
  | some t => simp [holds, parts, h, isOk_size, Check.refusal]

theorem of?_localAddress {tr : Option (Nat × TransportLevel)} (ht : TransportRead objects tr)
    (named : (parts objects).transport.isSome = true) :
    Refusal.of? (localAddress objects tr) = firstFault (parts objects) [ownReadable] := by
  cases ht with
  | absent missing => simp [missing] at named
  | present i level t found read front behind =>
    rw [localAddress, of?_map]
    apply of?_optional rfl
    rw [front]
    simp only [isOk_address]
    rfl

theorem of?_accessName (objects : List Tlv) :
    Refusal.of? (accessName objects) = firstFault (parts objects) [accessReadable] := by
  rw [accessName, of?_map]
  exact of?_optional rfl rfl

/-- The text of a text string that need not be there. -/
def readText (t : Option Tlv) : Except Refusal (Option String) :=
  match t with
  | some t => Objects.understood (TextString.decode t.value)
  | none => .ok none

theorem credentials_eq (objects : List Tlv) :
    credentials objects = readText (parts objects).password >>= fun password =>
      readText (parts objects).login >>= fun login => .ok (login, password) := by
  unfold credentials
  cases h : Tlv.findFrom? objects .textString 0 with
  | none =>
    obtain ⟨login, password⟩ := findFrom?_text_none h
    rw [login, password]
    rfl
  | some entry =>
    obtain ⟨login, password⟩ := findFrom?_text h
    rw [login, ← password]
    dsimp only
    cases Tlv.findFrom? objects .textString (entry.1 + 1) <;> rfl

theorem of?_readText (t : Option Tlv) :
    Refusal.of? (readText t) = if t.all fun t => (TextString.decode t.value).isOk then none
      else some .dataNotUnderstood := by
  cases t <;> simp [readText]

theorem of?_credentials (objects : List Tlv) :
    Refusal.of? (credentials objects) =
      firstFault (parts objects) [passwordReadable, loginReadable] := by
  rw [credentials_eq]
  change _ = firstFault _ ([passwordReadable] ++ [loginReadable])
  apply of?_bind
  · rw [of?_readText, firstFault_cons]
    rfl
  · intro password _
    rw [of?_bind_ok, of?_readText, firstFault_cons]
    rfl

/-- The settings are refused with the refusal of the first check that fails. -/
theorem of?_settings (objects : List Tlv) :
    Refusal.of? (settings objects) = firstFault (parts objects) table := by
  change _ = firstFault _ ([transportReadable] ++ ([bearerReadable] ++ (linkChecks ++
    ([sizeNamed, sizeReadable] ++ ([ownReadable] ++ ([accessReadable] ++
      ([passwordReadable, loginReadable] ++ [])))))))
  apply of?_bind (of?_transport objects)
  intro tr htr
  have ht := transportRead_of_ok htr
  apply of?_bind (of?_optional rfl (by simp only [isOk_bearer]; rfl))
  intro bearer hbearer
  apply of?_bind (of?_link ht (bearerRead_of_ok hbearer))
  intro linked hlinked
  apply of?_bind (of?_requestedSize objects)
  intro size _
  -- Own addresses are looked for in front of the transport, which is there once the link was read.
  have named : (parts objects).transport.isSome = true := by
    have passed := of?_link ht (bearerRead_of_ok hbearer)
    rw [hlinked, of?_ok, eq_comm, firstFault_eq_none] at passed
    exact transport_isSome (passed _ (by simp [linkChecks])) (passed _ (by simp [linkChecks]))
  apply of?_bind (of?_localAddress ht named)
  intro own _
  apply of?_bind (of?_accessName objects)
  intro name _
  apply of?_bind (of?_credentials objects)
  intro texts _
  rfl

/-! What the settings say -/

/-- A link is over the transport that was read, and to the partner that was found if it takes a
bearer. -/
theorem value_link {bearer : Option BearerDescription} {tr : Option (Nat × TransportLevel)}
    {level : TransportLevel} {ip : Option Ipv4} (ht : TransportRead objects tr)
    (h : link objects bearer tr = .ok (level, ip)) :
    (∃ i, tr = some (i, level)) ∧ ip.map (·.toTlv.value) =
      if bearer.isSome then (parts objects).partner.map (·.value) else none := by
  cases bearer with
  | none =>
    cases ht with
    | absent missing => cases h
    | present i other t found read =>
      simp only [link] at h
      split at h
      · cases h
        exact ⟨⟨i, rfl⟩, rfl⟩
      · cases h
  | some b =>
    obtain ⟨type, -, h⟩ := bind_eq_ok.mp h
    cases ht with
    | absent missing => cases h
    | present i other t found read front behind =>
      dsimp only at h
      split at h
      · obtain ⟨partner, hpartner, h⟩ := bind_eq_ok.mp h
        cases h
        exact ⟨⟨i, rfl⟩, value_destination behind hpartner⟩
      · cases h

theorem value_localAddress {tr : Option (Nat × TransportLevel)} {own : Option Ipv4}
    (named : tr.isSome = true) (ht : TransportRead objects tr)
    (h : localAddress objects tr = .ok own) :
    own.map (·.toTlv.value) = ((parts objects).own.map (·.value)).filter (· ≠ []) := by
  cases ht with
  | absent missing => cases named
  | present i level t found read front =>
    obtain ⟨ip, hip, rfl⟩ := map_eq_ok.mp h
    rw [front] at hip
    rcases optional_eq_ok hip with ⟨missing, rfl⟩ | ⟨t, ip, found, read, rfl⟩
    · simp [parts, missing]
    · have value := value_address read
      simpa [parts, found] using value

theorem value_requestedSize {size : UInt16} (h : requestedSize objects = .ok size) :
    ∃ t ∈ (parts objects).size, ∃ rest, t.value = Bytes.ofWord size ++ rest := by
  unfold requestedSize at h
  split at h
  · rename_i t found
    exact ⟨t, found, value_size (understood_eq_ok.mp h)⟩
  · cases h

/-- The bearer is there when an object names one, and says what that object says. -/
theorem value_bearerRead {bearer : Option BearerDescription} (hb : BearerRead objects bearer) :
    bearer.map (·.toTlv.value) = (parts objects).bearer.map (·.value) ∧
      bearer.isSome = (parts objects).bearer.isSome := by
  cases hb with
  | absent missing => simp [missing]
  | present b t found read => simp [found, (value_bearer read).1]

theorem value_accessName {name : Option String} (h : accessName objects = .ok name) :
    name ≠ some "" ∧ ((parts objects).access = none → name = none) ∧
      ∀ t ∈ (parts objects).access, AccessName.decode t.value = .ok (name.getD "") := by
  obtain ⟨read, hread, rfl⟩ := map_eq_ok.mp h
  rcases optional_eq_ok hread with ⟨missing, rfl⟩ | ⟨t, text, found, read, rfl⟩
  · simp [parts, missing]
  · have named : (parts objects).access = some t := found
    by_cases empty : text = ""
    · rw [Option.filter_some_neg (by simpa using empty)]
      simp [named, read, empty]
    · rw [Option.filter_some_pos (by simpa using empty)]
      simp [named, read, empty]

theorem value_readText {t : Option Tlv} {text : Option String} (h : readText t = .ok text) :
    (t = none → text = none) ∧ ∀ u ∈ t, TextString.decode u.value = .ok text := by
  cases t with
  | none =>
    cases h
    simp
  | some t => simpa using understood_eq_ok.mp h

/-- The settings say what the objects say. -/
theorem give_of_settings {s : ChannelSettings} (h : settings objects = .ok s) :
    (parts objects).Give s := by
  obtain ⟨tr, htr, h⟩ := bind_eq_ok.mp h
  obtain ⟨bearer, hbearer, h⟩ := bind_eq_ok.mp h
  obtain ⟨⟨level, ip⟩, hlink, h⟩ := bind_eq_ok.mp h
  obtain ⟨size, hsize, h⟩ := bind_eq_ok.mp h
  obtain ⟨own, hown, h⟩ := bind_eq_ok.mp h
  obtain ⟨name, hname, h⟩ := bind_eq_ok.mp h
  obtain ⟨⟨login, password⟩, htexts, h⟩ := bind_eq_ok.mp h
  cases h
  have ht := transportRead_of_ok htr
  obtain ⟨⟨i, rfl⟩, destination⟩ := value_link ht hlink
  rw [credentials_eq] at htexts
  obtain ⟨second, hsecond, htexts⟩ := bind_eq_ok.mp htexts
  obtain ⟨first, hfirst, htexts⟩ := bind_eq_ok.mp htexts
  cases htexts
  obtain ⟨same, named⟩ := value_bearerRead (bearerRead_of_ok hbearer)
  rw [named] at destination
  have localAddress := value_localAddress rfl ht hown
  cases ht with
  | present _ _ t found read =>
    exact {
      channel := rfl
      transport := ⟨t, found, (value_transport read).2⟩
      size := value_requestedSize hsize
      bearer := same
      destination := destination
      localAddress := localAddress
      access := value_accessName hname
      login := value_readText hfirst
      password := value_readText hsecond }

/-- The settings of an open command follow its decision table: they can be read exactly when its
objects are acceptable, they then say what these say, and otherwise the first check that fails
fixes the refusal. -/
theorem settings_follow_table (objects : List Tlv) :
    ((∃ s, settings objects = .ok s) ↔ (parts objects).Acceptable) ∧
    (∀ s, settings objects = .ok s → (parts objects).Give s) ∧
    ∀ refusal, settings objects = .error refusal ↔
      firstFault (parts objects) table = some refusal := by
  have refused := of?_settings objects
  refine ⟨?accepted, fun s => give_of_settings, ?refused⟩
  case accepted =>
    rw [acceptable_iff, ← firstFault_eq_none, ← refused]
    cases settings objects <;> simp
  case refused =>
    intro refusal
    rw [← refused]
    cases settings objects <;> simp

/-- A packet service with an address on either side of the transport. The transport and the address
that come last do not count. -/
def bothAddresses : List Tlv :=
  [.known .otherAddress [0x21, 192, 168, 1, 2], .known .textString [0x04, 0x75],
   .known .bufferSize [0x03, 0xE8], .known .transportLevel [0x02, 0x01, 0xBB],
   .known .textString [0x04, 0x70], .known .otherAddress [0x21, 10, 1, 2, 3],
   .known .transportLevel [0x09], .known .bearerDescription [0x02], .known .otherAddress []]

theorem settings_bothAddresses :
    ∃ s, settings bothAddresses = .ok s ∧ (parts bothAddresses).Give s ∧
      s.destination.map (·.toTlv.value) = some [0x21, 10, 1, 2, 3] ∧
      s.localAddress.map (·.toTlv.value) = some [0x21, 192, 168, 1, 2] := by
  have table := settings_follow_table bothAddresses
  have passed : firstFault (parts bothAddresses) Check.table = none := by decide +kernel
  obtain ⟨s, hs⟩ := table.1.mpr (acceptable_iff.mpr (firstFault_eq_none.mp passed))
  have give := table.2.1 s hs
  exact ⟨s, hs, give, give.destination.trans (by decide +kernel),
    give.localAddress.trans (by decide +kernel)⟩

end CardChannels.OpenChannel
