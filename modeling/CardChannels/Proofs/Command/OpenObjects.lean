import CardChannels.Command.OpenChannel
import Mathlib.Data.List.Basic

/-!
# The objects that an open command is read from

Of all objects with a tag the first one counts, and for addresses the first one on either side of
the transport. The lemmas say that looking objects up by position finds these, and what the bytes
of an object must be for its field to be read.
-/
namespace CardChannels

namespace Tlv

variable {objects : List Tlv} {tag : Tag} {start i : Nat} {t : Tlv}

/-- A look-up from a position on is a look-up among the objects from there. -/
theorem findFrom?_object (objects : List Tlv) (tag : Tag) (start : Nat) :
    (findFrom? objects tag start).map (·.2) = find? (objects.drop start) tag := by
  have plain : ((objects.drop start).zipIdx start).map (·.1) = objects.drop start :=
    List.zipIdx_map_fst ..
  conv_rhs => rw [find?, ← plain, List.find?_map]
  rw [findFrom?, Option.map_map]
  rfl

/-- What is found stands behind objects with other tags. -/
theorem split_of_findFrom? (h : findFrom? objects tag 0 = some (i, t)) :
    ∃ front behind, objects = front ++ t :: behind ∧ front.length = i ∧ t.hasTag tag = true ∧
      ∀ u ∈ front, u.hasTag tag = false := by
  obtain ⟨⟨u, j⟩, found, same⟩ := Option.map_eq_some_iff.mp h
  cases same
  obtain ⟨tagged, front, behind, split, others⟩ := List.find?_eq_some_iff_append.mp found
  have whole : objects = front.map (·.1) ++ t :: behind.map (·.1) := by
    have plain : (objects.zipIdx 0).map (·.1) = objects := List.zipIdx_map_fst ..
    rw [List.drop_zero] at split
    rw [← plain, split, List.map_append, List.map_cons]
  refine ⟨front.map (·.1), behind.map (·.1), whole, ?_, tagged, ?_⟩
  · -- An object is paired with its position, which is how many objects stand in front of it.
    have position : (objects.zipIdx 0)[front.length]? = some (t, i) := by
      rw [List.drop_zero] at split
      simp [split]
    rw [List.getElem?_zipIdx] at position
    obtain ⟨u, -, same⟩ := Option.map_eq_some_iff.mp position
    simp only [Prod.mk.injEq] at same
    simpa using same.2
  · intro u hu
    obtain ⟨entry, hentry, rfl⟩ := List.mem_map.mp hu
    simpa using others entry hentry

end Tlv

namespace OpenChannel

/-- The objects that decide about an open command. -/
structure Parts where
  transport : Option Tlv
  bearer : Option Tlv
  /-- The first address behind the transport. -/
  partner : Option Tlv
  /-- The first address in front of the transport. -/
  own : Option Tlv
  size : Option Tlv
  access : Option Tlv
  /-- The first two text strings. -/
  login : Option Tlv
  password : Option Tlv

/-- The objects in front of the transport. -/
def front (objects : List Tlv) : List Tlv := objects.takeWhile (!·.hasTag .transportLevel)

/-- The objects behind the transport. -/
def behind (objects : List Tlv) : List Tlv := (objects.dropWhile (!·.hasTag .transportLevel)).tail

def texts (objects : List Tlv) : List Tlv := objects.filter (·.hasTag .textString)

def parts (objects : List Tlv) : Parts where
  transport := Tlv.find? objects .transportLevel
  bearer := Tlv.find? objects .bearerDescription
  partner := Tlv.find? (behind objects) .otherAddress
  own := Tlv.find? (front objects) .otherAddress
  size := Tlv.find? objects .bufferSize
  access := Tlv.find? objects .networkAccessName
  login := (texts objects)[0]?
  password := (texts objects)[1]?

variable {objects : List Tlv} {i : Nat} {t : Tlv}

theorem findFrom?_transport (h : Tlv.findFrom? objects .transportLevel 0 = some (i, t)) :
    (parts objects).transport = some t ∧ objects.take i = front objects ∧
      objects.drop (i + 1) = behind objects := by
  have found := Tlv.findFrom?_object objects .transportLevel 0
  rw [h, List.drop_zero] at found
  obtain ⟨a, b, rfl, rfl, tagged, others⟩ := Tlv.split_of_findFrom? h
  refine ⟨found.symm, ?_, ?_⟩
  · rw [front, List.takeWhile_append_of_pos (by simpa using others)]
    simp [tagged]
  · rw [behind, List.dropWhile_append_of_pos (by simpa using others)]
    simp [tagged]

theorem findFrom?_text (h : Tlv.findFrom? objects .textString 0 = some (i, t)) :
    (parts objects).login = some t ∧
      (Tlv.findFrom? objects .textString (i + 1)).map (·.2) = (parts objects).password := by
  obtain ⟨a, b, rfl, rfl, tagged, others⟩ := Tlv.split_of_findFrom? h
  have filtered : texts (a ++ t :: b) = t :: b.filter (·.hasTag .textString) := by
    have none : a.filter (·.hasTag .textString) = [] := by simpa using others
    rw [texts, List.filter_append, none, List.nil_append]
    exact List.filter_cons_of_pos tagged
  rw [Tlv.findFrom?_object]
  simp [parts, filtered, Tlv.find?, ← List.head?_eq_getElem?]

theorem findFrom?_text_none (h : Tlv.findFrom? objects .textString 0 = none) :
    (parts objects).login = none ∧ (parts objects).password = none := by
  have found := Tlv.findFrom?_object objects .textString 0
  rw [h, List.drop_zero, Option.map_none, Tlv.find?, eq_comm, List.find?_eq_none] at found
  have none : texts objects = [] := by simpa [texts] using found
  simp [parts, none]

/-! The bytes of a field -/

/-- The protocol that the first byte of a transport names. -/
def protocol? (t : Tlv) : Option TransportProtocol := t.value.head?.bind TransportProtocol.ofCode?

/-- The supported bearer that the first byte of a bearer description names. -/
def bearerType? (t : Tlv) : Option BearerType := t.value.head?.bind BearerType.ofCode?

/-- Whether an object is the kind byte of an address and four bytes of address. -/
def isAddress (t : Tlv) : Bool := t.value.head? = some 0x21 ∧ t.value.length = 5

theorem isOk_transport (t : Tlv) :
    (TransportLevel.ofTlv t).isOk = (3 ≤ t.value.length && (protocol? t).isSome) := by
  rcases h : t.value with _ | ⟨code, _ | ⟨high, _ | ⟨low, rest⟩⟩⟩
  case cons.cons.cons =>
    cases known : TransportProtocol.ofCode? code <;>
      simp [TransportLevel.ofTlv, protocol?, h, known, Except.isOk, Except.toBool]
  all_goals simp [TransportLevel.ofTlv, h, Except.isOk, Except.toBool]

theorem isOk_bearer (t : Tlv) :
    (BearerDescription.ofTlv t).isOk = !t.value.isEmpty := by
  cases h : t.value <;> simp [BearerDescription.ofTlv, h, Except.isOk, Except.toBool]

/-- What reading an address comes to. -/
inductive AddressRead (t : Tlv) : Except Field.Error (Option Ipv4) → Prop
  | any (empty : t.value = []) : AddressRead t (.ok none)
  | address (ip : Ipv4) (written : t.value = ip.toTlv.value) : AddressRead t (.ok (some ip))
  | unreadable (fault : Field.Error) (filled : t.value ≠ []) (other : isAddress t = false) :
    AddressRead t (.error fault)

theorem addressRead (t : Tlv) : AddressRead t (Ipv4.ofTlv t) := by
  unfold Ipv4.ofTlv
  split
  · exact .any ‹_›
  · rename_i kind address value
    by_cases known : kind = Ipv4.kind
    · rw [if_pos known]
      split
      · rename_i a b c d
        exact .address ⟨a, b, c, d⟩ (by rw [value, known]; rfl)
      · rename_i other
        refine .unreadable _ (by simp [value]) ?_
        rcases address with _ | ⟨a, _ | ⟨b, _ | ⟨c, _ | ⟨d, _ | ⟨e, rest⟩⟩⟩⟩⟩
        case cons.cons.cons.cons.nil => exact absurd rfl (other a b c d)
        all_goals simp [isAddress, value]
    · rw [if_neg known]
      have other : kind ≠ 0x21 := known
      exact .unreadable _ (by simp [value]) (by simp [isAddress, value, other])

theorem isAddress_of_written {ip : Ipv4} (h : t.value = ip.toTlv.value) : isAddress t = true := by
  rw [isAddress, h]
  rfl

theorem not_isAddress_of_empty (h : t.value = []) : isAddress t = false := by
  simp [isAddress, h]

theorem isOk_address (t : Tlv) : (Ipv4.ofTlv t).isOk = (t.value.isEmpty || isAddress t) := by
  have read := addressRead t
  generalize Ipv4.ofTlv t = r at read
  cases read with
  | any empty => simp [empty, Except.isOk, Except.toBool]
  | address ip written => simp [isAddress_of_written written, Except.isOk, Except.toBool]
  | unreadable fault filled other => simp [filled, other, Except.isOk, Except.toBool]

theorem isOk_size (t : Tlv) : (BufferSize.ofTlv t).isOk = decide (2 ≤ t.value.length) := by
  rcases h : t.value with _ | ⟨high, _ | ⟨low, rest⟩⟩ <;>
    simp [BufferSize.ofTlv, h, Except.isOk, Except.toBool]

/-- A transport is its protocol's code and the port. -/
theorem value_transport {level : TransportLevel} (h : TransportLevel.ofTlv t = .ok level) :
    protocol? t = some level.protocol ∧
      ∃ rest, t.value = level.protocol.code :: Bytes.ofWord level.port ++ rest := by
  unfold TransportLevel.ofTlv at h
  split at h
  · rename_i code high low rest value
    cases known : TransportProtocol.ofCode? code with
    | none => simp [known] at h
    | some p =>
      simp only [known, Except.ok.injEq] at h
      subst h
      have coded : p.code = code := by simpa using List.find?_some known
      refine ⟨by simp [protocol?, value, known], rest, ?_⟩
      simp [value, coded, Bytes.ofWord_word]
  · cases h

theorem value_bearer {b : BearerDescription} (h : BearerDescription.ofTlv t = .ok b) :
    b.toTlv.value = t.value ∧ b.type? = bearerType? t := by
  unfold BearerDescription.ofTlv at h
  split at h
  · rename_i typeCode parameters value
    cases h
    exact ⟨value.symm, by simp [BearerDescription.type?, bearerType?, value]⟩
  · cases h

theorem value_address {ip : Option Ipv4} (h : Ipv4.ofTlv t = .ok ip) :
    ip.map (·.toTlv.value) = (some t.value).filter (· ≠ []) := by
  have read := addressRead t
  rw [h] at read
  cases read with
  | any empty =>
    rw [empty]
    rfl
  | address ip written =>
    rw [written]
    rfl

theorem value_size {size : UInt16} (h : BufferSize.ofTlv t = .ok size) :
    ∃ rest, t.value = Bytes.ofWord size ++ rest := by
  unfold BufferSize.ofTlv at h
  split at h
  · rename_i high low rest value
    cases h
    exact ⟨rest, by rw [value, Bytes.ofWord_word]; rfl⟩
  · cases h

end OpenChannel

end CardChannels
