import CardChannels.Proofs.Tlv.Fields

/-!
# Round trip over whole trees

Reading gives leaves only: of a constructed object one sees the bytes of the objects inside, which
can be read in turn. The main statement is that a tree written among any other bytes is read back
that way, the root as a leaf with its tag, flag and contents, and at every level the objects inside
as the sequence that they were.
-/
namespace CardChannels.Tlv

/-- The bytes of the value field. -/
def contents : Tlv → Bytes
  | leaf _ _ v => v
  | node _ _ cs => allBytes cs

/-- What is seen of an object when it is read: a leaf with its contents. -/
def image (t : Tlv) : Tlv := .leaf t.tag t.required t.contents

mutual

/-- The object and all objects inside it. -/
def subtrees : Tlv → List Tlv
  | leaf t r v => [leaf t r v]
  | node t r cs => node t r cs :: allSubtrees cs

/-- Objects in a row and all objects inside them. -/
def allSubtrees : List Tlv → List Tlv
  | [] => []
  | c :: cs => c.subtrees ++ allSubtrees cs

end

/-! Induction over a tree, from the objects inside an object to the object -/

mutual

@[elab_as_elim]
theorem tree_induction {P : Tlv → Prop} (leaf : ∀ tag required value, P (.leaf tag required value))
    (node : ∀ tag required cs, (∀ c ∈ cs, P c) → P (.node tag required cs)) : (t : Tlv) → P t
  | .leaf _ _ _ => leaf _ _ _
  | .node _ _ cs => node _ _ cs (forall_mem_of_tree leaf node cs)

theorem forall_mem_of_tree {P : Tlv → Prop}
    (leaf : ∀ tag required value, P (.leaf tag required value))
    (node : ∀ tag required cs, (∀ c ∈ cs, P c) → P (.node tag required cs)) :
    (cs : List Tlv) → ∀ c ∈ cs, P c
  | [] => by simp
  | c :: cs =>
    List.forall_mem_cons.mpr ⟨tree_induction leaf node c, forall_mem_of_tree leaf node cs⟩

end

variable {t u c : Tlv} {cs : List Tlv}

/-! The objects of a tree -/

theorem allSubtrees_eq (cs : List Tlv) : allSubtrees cs = cs.flatMap subtrees := by
  induction cs with
  | nil => rfl
  | cons c cs ih => rw [allSubtrees, ih, List.flatMap_cons]

@[simp] theorem mem_subtrees_node {tag : UInt16} {required : Bool} :
    u ∈ (node tag required cs).subtrees ↔
      u = .node tag required cs ∨ ∃ c ∈ cs, u ∈ c.subtrees := by
  rw [subtrees, allSubtrees_eq, List.mem_cons, List.mem_flatMap]

@[simp] theorem mem_subtrees_leaf {tag : UInt16} {required : Bool} {value : Bytes} :
    u ∈ (leaf tag required value).subtrees ↔ u = .leaf tag required value := by
  rw [subtrees, List.mem_singleton]

theorem self_mem_subtrees (t : Tlv) : t ∈ t.subtrees := by
  cases t <;> simp

/-- An object inside an object of a tree is an object of the tree. -/
theorem mem_subtrees_of_mem_children (hu : u ∈ t.subtrees) (hc : c ∈ u.children) :
    c ∈ t.subtrees := by
  induction t using tree_induction with
  | leaf tag required value =>
    rw [mem_subtrees_leaf] at hu
    subst hu
    cases hc
  | node tag required cs ih =>
    rw [mem_subtrees_node] at hu ⊢
    rcases hu with rfl | ⟨d, hd, hu⟩
    · exact .inr ⟨c, hc, c.self_mem_subtrees⟩
    · exact .inr ⟨d, hd, ih d hd hu⟩

/-! Lengths -/

theorem length_lt_totalSize (hc : c ∈ cs) : c.length < totalSize cs := by
  induction cs with
  | nil => cases hc
  | cons d ds ih =>
    rw [totalSize]
    rcases List.mem_cons.mp hc with rfl | hc
    · have htag : 0 < tagSize c.tag := by
        unfold tagSize
        split <;> decide
      omega
    · have := ih hc
      omega

/-- Nothing inside an object is longer than the object. -/
theorem length_le_of_mem_subtrees (hu : u ∈ t.subtrees) : u.length ≤ t.length := by
  induction t using tree_induction with
  | leaf tag required value => exact Nat.le_of_eq (congrArg length (mem_subtrees_leaf.mp hu))
  | node tag required cs ih =>
    rcases mem_subtrees_node.mp hu with rfl | ⟨c, hc, hu⟩
    · exact Nat.le_refl _
    · exact Nat.le_trans (ih c hc hu) (Nat.le_of_lt (length_lt_totalSize hc))

theorem anyOversize?_eq_none (h : ∀ c ∈ cs, c.oversize? = none) : anyOversize? cs = none := by
  induction cs with
  | nil => rfl
  | cons c cs ih =>
    have hcons := List.forall_mem_cons.mp h
    rw [anyOversize?, hcons.1, ih hcons.2]
    rfl

/-- An object that is not too long has no object inside that is. -/
theorem oversize?_eq_none (h : t.length ≤ maxLength) : t.oversize? = none := by
  induction t using tree_induction with
  | leaf tag required value =>
    rw [length] at h
    rw [oversize?, if_neg (Nat.not_lt.mpr h)]
  | node tag required cs ih =>
    rw [length] at h
    rw [oversize?, if_neg (Nat.not_lt.mpr h)]
    exact anyOversize?_eq_none fun c hc =>
      ih c hc (Nat.le_trans (Nat.le_of_lt (length_lt_totalSize hc)) h)

theorem encode_eq_ok (h : t.length ≤ maxLength) : t.encode = .ok t.bytes := by
  rw [encode, oversize?_eq_none h]

theorem encodeAll_eq_ok (h : ∀ c ∈ cs, c.length ≤ maxLength) :
    encodeAll cs = .ok (allBytes cs) := by
  induction cs with
  | nil => rfl
  | cons c cs ih =>
    have hcons := List.forall_mem_cons.mp h
    rw [encodeAll, encode_eq_ok hcons.1, ih hcons.2]
    rfl

/-! Bytes -/

theorem bytes_eq (t : Tlv) :
    t.bytes = tagField t.tag t.required ++ (lengthField t.length ++ t.contents) := by
  cases t <;> rfl

theorem length_tagField (tag : UInt16) (required : Bool) :
    (tagField tag required).length = tagSize tag := by
  unfold tagField tagSize
  split <;> rfl

theorem length_allBytes (h : ∀ c ∈ cs, c.contents.length = c.length) :
    (allBytes cs).length = totalSize cs := by
  induction cs with
  | nil => rfl
  | cons c cs ih =>
    have hcons := List.forall_mem_cons.mp h
    rw [allBytes, List.length_append, ih hcons.2, bytes_eq, List.length_append,
      List.length_append, length_tagField, length_lengthField, hcons.1, totalSize]
    omega

/-- The length of an object is that of its contents. -/
theorem length_contents (t : Tlv) : t.contents.length = t.length := by
  induction t using tree_induction with
  | leaf tag required value => rfl
  | node tag required cs ih => exact length_allBytes ih

/-- An object and what is seen of it are written alike. -/
theorem bytes_image (t : Tlv) : t.image.bytes = t.bytes := by
  rw [bytes_eq t, ← length_contents t]
  rfl

/-! Reading back -/

/-- An object in front of others is read back as a leaf with its contents. -/
theorem read_bytes (htag : t.tag ≤ 0x7FFF) (hlength : t.length ≤ maxLength) (offset : Nat)
    (rest : Bytes) : read offset (t.bytes ++ rest) = .ok (some (t.image, t.bytes.length)) := by
  rw [← bytes_image]
  exact read_leaf htag t.required (by rwa [length_contents]) offset rest

theorem readAll_of_read {offset used : Nat} {bs : Bytes}
    (h : read offset bs = .ok (some (t, used))) :
    readAll offset bs = (t :: (readAll (offset + used) (bs.drop used)).1,
      (readAll (offset + used) (bs.drop used)).2) := by
  rw [readAll]
  split
  all_goals
    rename_i hread
    rw [h] at hread
    cases hread
  rfl

/-- Objects in a row are read back in order, each as a leaf. -/
theorem readAll_allBytes (h : ∀ c ∈ cs, c.tag ≤ 0x7FFF ∧ c.length ≤ maxLength) (offset : Nat) :
    readAll offset (allBytes cs) = (cs.map image, none) := by
  induction cs generalizing offset with
  | nil =>
    rw [allBytes, readAll]
    rfl
  | cons c cs ih =>
    have hcons := List.forall_mem_cons.mp h
    rw [allBytes, readAll_of_read (read_bytes hcons.1.1 hcons.1.2 offset _), List.drop_left,
      ih hcons.2, List.map_cons]

/-- A tree whose tags and length fit is written whole. Among any other bytes it is read back as a
leaf with its tag, flag and contents, up to its own end. The contents of each constructed object in
it are the encodings of the objects inside, which are read back from there in turn. -/
theorem decode_encode (tags : ∀ u ∈ t.subtrees, u.tag ≤ 0x7FFF) (fits : t.length ≤ maxLength)
    (front back : Bytes) :
    ∃ bs, t.appendTo front = (front ++ bs, none) ∧
      decode (front ++ bs ++ back) front.length =
        .ok (some (.leaf t.tag t.required t.contents, front.length + bs.length)) ∧
      ∀ u ∈ t.subtrees, encodeAll u.children = .ok (allBytes u.children) ∧
        decodeAll (allBytes u.children) =
          .ok (u.children.map fun c => .leaf c.tag c.required c.contents) := by
  refine ⟨t.bytes, ?_, ?_, ?_⟩
  · rw [appendTo, encode_eq_ok fits]
  · have hread := read_bytes (tags t t.self_mem_subtrees) fits front.length back
    rw [decode, List.append_assoc, List.drop_left, hread]
    rfl
  · intro u hu
    have inside : ∀ c ∈ u.children, c.tag ≤ 0x7FFF ∧ c.length ≤ maxLength := by
      intro c hc
      have hmem := mem_subtrees_of_mem_children hu hc
      exact ⟨tags c hmem, Nat.le_trans (length_le_of_mem_subtrees hmem) fits⟩
    refine ⟨encodeAll_eq_ok fun c hc => (inside c hc).2, ?_⟩
    rw [decodeAll, decodeFrom, List.drop_zero, readAll_allBytes inside]
    rfl

/-- A tree of three levels whose tags look like padding or like the mark of the longer form. -/
def sample : Tlv :=
  .node 0x7F true [.leaf 0x80 false [0x00, 0xFF], .node 0 true [.leaf 0x7E true []]]

theorem decode_encode_sample :
    (∀ u ∈ sample.subtrees, u.tag ≤ 0x7FFF) ∧ sample.length ≤ maxLength ∧
      ∃ bs, sample.appendTo [0x7F] = ([0x7F] ++ bs, none) ∧
        decode ([0x7F] ++ bs ++ [0x00]) 1 =
          .ok (some (.leaf 0x7F true sample.contents, 1 + bs.length)) ∧
        decodeAll sample.contents =
          .ok [.leaf 0x80 false [0x00, 0xFF], .leaf 0 true [0xFE, 0x00]] := by
  have tags : ∀ u ∈ sample.subtrees, u.tag ≤ 0x7FFF := by decide
  have fits : sample.length ≤ maxLength := by decide
  obtain ⟨bs, hout, hback, hlevels⟩ := decode_encode tags fits [0x7F] [0x00]
  exact ⟨tags, fits, bs, hout, hback, (hlevels sample sample.self_mem_subtrees).2⟩

end CardChannels.Tlv
