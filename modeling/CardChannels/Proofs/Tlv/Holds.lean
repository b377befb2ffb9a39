import CardChannels.Proofs.Tlv.Grammar

/-!
# The objects that data holds

Data holds the objects of the longest run of images at its start, and it does so in one way. They
are what is read of it, with a fault unless the objects end behind them.
-/
namespace CardChannels.Tlv

/-- The objects at the start of some data, up to its end, to padding or to an object that is
malformed. -/
structure Holds (data : Bytes) (objects : List Tlv) (rest : Bytes) : Prop where
  split : ∃ images, Split data images objects rest
  stops : ∀ image t behind, Image image t → rest ≠ image ++ behind

variable {data rest rest' : Bytes} {images : List Bytes} {objects objects' : List Tlv}

/-- Data holds the objects behind which there are none. -/
theorem Split.holds (h : Split data images objects rest) (ends : EndsObjects rest) :
    Holds data objects rest :=
  ⟨⟨images, h⟩, ends.stops⟩

/-- What is read of some data are the objects that it holds. -/
theorem holds_decodeFrom (data : Bytes) :
    ∃ rest, Holds data (decodeFrom data 0).1 rest ∧
      ((decodeFrom data 0).2 = none ↔ EndsObjects rest) := by
  obtain ⟨images, rest, split, ⟨whole, ends⟩ | ⟨fault, behind, faulty, hread⟩⟩ :=
    split_readAll 0 data
  · exact ⟨rest, split.holds ends, fun _ => ends, fun _ => whole⟩
  · refine ⟨rest, ⟨⟨images, split⟩, stops_of_fault hread⟩, ?_, ?_⟩
    · intro whole
      cases whole.symm.trans faulty
    · intro ends
      cases hread.symm.trans (read_eq_none_iff.mpr ends)

theorem Holds.unique (h : Holds data objects rest) (h' : Holds data objects' rest') :
    objects = objects' ∧ rest = rest' := by
  obtain ⟨images, split⟩ := h.split
  obtain ⟨images', split'⟩ := h'.split
  exact (split.unique h.stops split' h'.stops).2

/-- Reading gives the objects that some data holds, and no fault when the objects end there. -/
theorem Holds.decodeFrom (h : Holds data objects rest) :
    (decodeFrom data 0).1 = objects ∧ ((decodeFrom data 0).2 = none ↔ EndsObjects rest) := by
  obtain ⟨rest', h', whole⟩ := holds_decodeFrom data
  obtain ⟨same, rfl⟩ := h'.unique h
  exact ⟨same, whole⟩

/-- Behind an image, data holds the object of the image and what it held before. -/
theorem Holds.cons {image : Bytes} {t : Tlv} (himage : Image image t)
    (h : Holds data objects rest) : Holds (image ++ data) (t :: objects) rest := by
  obtain ⟨images, split⟩ := h.split
  exact ⟨⟨image :: images, split.cons himage⟩, h.stops⟩

theorem Holds.behind (h : Holds data objects rest) (front : List.Forall₂ Image images objects') :
    Holds (images.flatten ++ data) (objects' ++ objects) rest := by
  induction front with
  | nil => exact h
  | cons himage _ ih =>
    rw [List.flatten_cons, List.append_assoc]
    exact ih.cons himage

end CardChannels.Tlv
