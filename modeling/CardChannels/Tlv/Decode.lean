import CardChannels.Tlv.Basic

/-!
# Reading objects

Objects are read one after another until the data ends or padding follows: a byte `0x00`, `0x80`
or `0xFF` where a tag would stand. A fault ends the sequence; the objects before it are kept.
What is read is always a leaf, whose value may be read as objects in turn.
-/
namespace CardChannels.Tlv

/-- Bytes that stand in place of a tag after the last object. -/
def isPadding (b : UInt8) : Bool := b = 0x00 || b = 0x80 || b = 0xFF

/-- A tag, its flag and how many bytes they take. -/
structure Header where
  tag : UInt16
  required : Bool
  used : Nat

/-- Reads the tag that starts with `first` at `offset` and goes on in `rest`. -/
def readTag (offset : Nat) (first : UInt8) (rest : Bytes) : Except Error Header :=
  if first = 0x7F then
    match rest with
    | high :: low :: _ =>
      let word := (Bytes.word high low).toNat
      .ok ⟨UInt16.ofNat (word % 0x8000), 0x8000 ≤ word, 3⟩
    | _ => .error (.unexpectedEnd (offset + 1) .tag)
  else .ok ⟨UInt16.ofNat (first.toNat % 0x80), 0x80 ≤ first, 1⟩

/--
Reads the object at the front of `bs`, which starts at `offset` of the data: the object and how
many bytes it takes, or nothing at the end and at padding.
-/
def read (offset : Nat) (bs : Bytes) : Except Error (Option (Tlv × Nat)) :=
  match bs with
  | [] => .ok none
  | first :: rest =>
    if isPadding first then .ok none
    else do
      let header ← readTag offset first rest
      let (length, used) ← readLength (offset + header.used) (bs.drop header.used)
      let value := (bs.drop (header.used + used)).take length
      if value.length < length then .error (.unexpectedEnd (offset + bs.length) .value)
      else .ok (some (.leaf header.tag header.required value, header.used + used + length))

/-- The object at `index` of the data and the index behind it. -/
def decode (data : Bytes) (index : Nat) : Except Error (Option (Tlv × Nat)) :=
  (read index (data.drop index)).map fun found => found.map fun (t, used) => (t, index + used)

theorem readTag_used {offset : Nat} {first : UInt8} {rest : Bytes} {header : Header}
    (h : readTag offset first rest = .ok header) : 0 < header.used := by
  unfold readTag at h
  split at h
  · split at h <;> simp at h
    simp [← h]
  · simp at h
    simp [← h]

theorem read_used {offset : Nat} {bs : Bytes} {t : Tlv} {used : Nat}
    (h : read offset bs = .ok (some (t, used))) : 0 < used ∧ bs ≠ [] := by
  unfold read at h
  split at h
  · simp at h
  · split at h
    · simp at h
    · simp only [bind, Except.bind] at h
      split at h
      · simp at h
      · rename_i header hh
        have := readTag_used hh
        split at h
        · simp at h
        · split at h
          · simp at h
          · simp only [Except.ok.injEq, Option.some.injEq, Prod.mk.injEq] at h
            exact ⟨by omega, by simp⟩

/-- The objects in `bs`, which starts at `offset`, and the fault that ended them, if one did. -/
def readAll (offset : Nat) (bs : Bytes) : List Tlv × Option Error :=
  match _h : read offset bs with
  | .error e => ([], some e)
  | .ok none => ([], none)
  | .ok (some (t, used)) =>
    let (ts, fault) := readAll (offset + used) (bs.drop used)
    (t :: ts, fault)
termination_by bs.length
decreasing_by
  have ⟨hu, hb⟩ := read_used _h
  have : 0 < bs.length := List.length_pos_iff.mpr hb
  simp only [List.length_drop]
  omega

/-- The objects from `index` on, and the fault that ended them, if one did. -/
def decodeFrom (data : Bytes) (index : Nat) : List Tlv × Option Error :=
  readAll index (data.drop index)

/-- All objects of the data, or its first fault. -/
def decodeAll (data : Bytes) : Except Error (List Tlv) :=
  match decodeFrom data 0 with
  | (ts, none) => .ok ts
  | (_, some e) => .error e

end CardChannels.Tlv
