import CardChannels.Proofs.Tlv.Images
import CardChannels.Proofs.Tlv.RoundTrip
import CardChannels.Tlv.Cursor

/-!
# The grammar of object sequences

A sequence of objects is their images one after another and then a tail, which is empty or starts
with padding. The main statement is that reading succeeds exactly on such data, which splits in one
way only, and that on any other data it gives the objects of the longest run of images and then one
fault.
-/
namespace CardChannels.Tlv

/-- Data that starts with the images of objects. -/
structure Split (data : Bytes) (images : List Bytes) (objects : List Tlv) (rest : Bytes) :
    Prop where
  data : data = images.flatten ++ rest
  images : List.Forall₂ Image images objects

variable {data bs rest rest' image image' : Bytes} {images images' : List Bytes}
  {objects objects' : List Tlv} {offset index next used n : Nat} {t u : Tlv} {fault : Error}

/-! Runs of images -/

/-- No image is the start of another. -/
theorem image_unique (h : Image image t) (h' : Image image' u)
    (same : image ++ rest = image' ++ rest') : image = image' ∧ t = u := by
  have hread := read_image h 0 rest
  rw [same, read_image h' 0 rest'] at hread
  obtain ⟨rfl, hlength⟩ := Prod.mk.inj (Option.some.inj (Except.ok.inj hread))
  exact ⟨List.append_inj_left same hlength.symm, rfl⟩

/-- Every run of images at the start of some data is part of one that no image follows. -/
theorem Split.isPrefix (h : Split data images objects rest)
    (stops : ∀ image t behind, Image image t → rest ≠ image ++ behind)
    (h' : Split data images' objects' rest') : images' <+: images ∧ objects' <+: objects := by
  obtain ⟨rfl, himages⟩ := h
  obtain ⟨same, himages'⟩ := h'
  induction himages' generalizing images objects with
  | nil => exact ⟨List.nil_prefix, List.nil_prefix⟩
  | @cons image' u images' objects' h' _ ih =>
    rw [List.flatten_cons, List.append_assoc] at same
    cases himages with
    | nil => exact absurd same (stops image' u _ h')
    | cons h himages =>
      rw [List.flatten_cons, List.append_assoc] at same
      obtain ⟨rfl, rfl⟩ := image_unique h h' same
      obtain ⟨hi, ho⟩ := ih himages (List.append_cancel_left same)
      exact ⟨(List.prefix_cons_inj _).mpr hi, (List.prefix_cons_inj _).mpr ho⟩

/-- Data splits in one way into a run of images and what no image starts. -/
theorem Split.unique (h : Split data images objects rest)
    (stops : ∀ image t behind, Image image t → rest ≠ image ++ behind)
    (h' : Split data images' objects' rest')
    (stops' : ∀ image t behind, Image image t → rest' ≠ image ++ behind) :
    images = images' ∧ objects = objects' ∧ rest = rest' := by
  have hle := h.isPrefix stops h'
  have hge := h'.isPrefix stops' h
  obtain rfl := hge.1.eq_of_length_le hle.1.length_le
  obtain rfl := hge.2.eq_of_length_le hle.2.length_le
  exact ⟨rfl, rfl, List.append_cancel_left (h.data.symm.trans h'.data)⟩

theorem Split.image_of_mem (h : Split data images objects rest) (ht : t ∈ objects) :
    ∃ image, Image image t := by
  obtain ⟨-, all⟩ := h
  induction all with
  | nil => cases ht
  | cons himage _ ih =>
    rcases List.mem_cons.mp ht with rfl | ht
    · exact ⟨_, himage⟩
    · exact ih ht

theorem Split.cons (h : Image image t) (hrest : Split bs images objects rest) :
    Split (image ++ bs) (image :: images) (t :: objects) rest := by
  refine ⟨?_, .cons h hrest.images⟩
  rw [hrest.data, List.flatten_cons, List.append_assoc]

theorem EndsObjects.stops (h : EndsObjects rest) (image : Bytes) (t : Tlv) (behind : Bytes)
    (himage : Image image t) : rest ≠ image ++ behind := by
  rintro rfl
  have hread := read_image himage 0 behind
  rw [read_eq_none_iff.mpr h] at hread
  cases hread

/-- Where an image stands an object is read, so none stands at a fault. -/
theorem stops_of_fault (hread : read offset rest = .error fault) (image : Bytes) (t : Tlv)
    (behind : Bytes) (himage : Image image t) : rest ≠ image ++ behind := by
  rintro rfl
  cases hread.symm.trans (read_image himage offset behind)

/-! Reading -/

theorem readAll_of_end (h : EndsObjects bs) (offset : Nat) : readAll offset bs = ([], none) := by
  have hread : read offset bs = .ok none := read_eq_none_iff.mpr h
  rw [readAll]
  split
  all_goals
    rename_i hcase
    cases hread.symm.trans hcase
  rfl

/-- The objects of a run of images are read, and what follows is read behind them. -/
theorem readAll_flatten (h : List.Forall₂ Image images objects) (offset : Nat) (rest : Bytes) :
    readAll offset (images.flatten ++ rest) =
      (objects ++ (readAll (offset + images.flatten.length) rest).1,
        (readAll (offset + images.flatten.length) rest).2) := by
  induction h generalizing offset with
  | nil => rfl
  | @cons image t images objects himage _ ih =>
    rw [List.flatten_cons, List.append_assoc, readAll_of_read (read_image himage offset _),
      List.drop_left, ih, List.length_append, Nat.add_assoc]
    rfl

/-- What is read are the objects of a run of images. The objects end behind it, or what follows
cannot be read. -/
theorem split_readAll (offset : Nat) (bs : Bytes) :
    ∃ images rest, Split bs images (readAll offset bs).1 rest ∧
      ((readAll offset bs).2 = none ∧ EndsObjects rest ∨
        ∃ fault behind, (readAll offset bs).2 = some fault ∧ read behind rest = .error fault) := by
  fun_induction readAll offset bs with
  | case1 offset bs fault h => exact ⟨[], bs, ⟨rfl, .nil⟩, .inr ⟨fault, offset, rfl, h⟩⟩
  | case2 offset bs h => exact ⟨[], bs, ⟨rfl, .nil⟩, .inl ⟨rfl, read_eq_none_iff.mp h⟩⟩
  | case3 offset bs t used h ts fault hrest ih =>
    obtain ⟨image, behind, himage, rfl, rfl⟩ := read_eq_some_iff.mp h
    obtain ⟨images, rest, hsplit, hstop⟩ := ih
    rw [List.drop_left] at hsplit hstop hrest
    rw [hrest] at hsplit hstop
    exact ⟨image :: images, rest, .cons himage hsplit, hstop⟩

/-- All objects are read exactly from their images and a tail behind which there are none. -/
theorem decodeAll_eq_ok_iff : decodeAll data = .ok objects ↔
    ∃ images tail, Split data images objects tail ∧ EndsObjects tail := by
  rw [decodeAll, decodeFrom, List.drop_zero]
  constructor
  · intro h
    obtain ⟨images, rest, hsplit, hstop⟩ := split_readAll 0 data
    rcases hread : readAll 0 data with ⟨ts, _ | fault⟩
    · simp only [hread] at h hsplit hstop
      cases h
      rcases hstop with ⟨-, hends⟩ | ⟨fault, behind, hfault, -⟩
      · exact ⟨images, rest, hsplit, hends⟩
      · cases hfault
    · rw [hread] at h
      cases h
  · rintro ⟨images, tail, ⟨rfl, himages⟩, hends⟩
    rw [readAll_flatten himages, readAll_of_end hends, List.append_nil]

theorem decodeAll_of_fault (h : (readAll 0 data).2 = some fault) :
    decodeAll data = .error fault := by
  rw [decodeAll, decodeFrom, List.drop_zero]
  rcases hread : readAll 0 data with ⟨ts, _ | fault'⟩
  · rw [hread] at h
    cases h
  · rw [hread] at h
    cases h
    rfl

/-! One object at a time -/

namespace Cursor

theorem item_stopped (c : Cursor) (h : c.stopped = true) (n : Nat) : c.item n = none := by
  have hnext : c.next = (none, c) := if_pos h
  induction n with
  | zero => rw [item, hnext]
  | succ n ih => rw [item, hnext, ih]

/-- What a cursor gives when it stops is the last that it gives. -/
theorem item_of_stop {c c' : Cursor} {last : Option (Except Error Tlv)} (h : c.next = (last, c'))
    (stopped : c'.stopped = true) (n : Nat) : c.item n = last.toList[n]? := by
  cases n with
  | zero =>
    rw [item, h]
    cases last <;> rfl
  | succ n =>
    rw [item, h, item_stopped c' stopped]
    cases last <;> rfl

/-- A cursor gives the objects that are read, then the fault if there is one, and nothing more. -/
theorem item_start (data : Bytes) (index n : Nat) :
    (start data index).item n = ((decodeFrom data index).1.map .ok ++
      (decodeFrom data index).2.toList.map .error)[n]? := by
  rw [decodeFrom]
  generalize hbs : data.drop index = bs
  fun_induction readAll index bs generalizing n with
  | case1 index bs fault h =>
    have hnext : (start data index).next = (some (.error fault), ⟨data, index, true⟩) := by
      simp [next, start, decode, hbs, h, Except.map]
    exact item_of_stop hnext rfl n
  | case2 index bs h =>
    have hnext : (start data index).next = (none, ⟨data, index, true⟩) := by
      simp [next, start, decode, hbs, h, Except.map]
    exact item_of_stop hnext rfl n
  | case3 index bs t used h ts fault hrest ih =>
    have hnext : (start data index).next = (some (.ok t), start data (index + used)) := by
      simp [next, start, decode, hbs, h, Except.map]
    cases n with
    | zero => rw [item, hnext]; rfl
    | succ n =>
      rw [item, hnext, ih n (by rw [← hbs, List.drop_drop]), hrest]
      rfl

end Cursor

/-- An object that is read from some index on takes at least one byte and ends within the data. -/
theorem lt_of_decode (h : decode data index = .ok (some (t, next))) :
    index < next ∧ next ≤ data.length := by
  obtain ⟨image, rest, himage, hdrop, rfl⟩ := decode_eq_some_iff.mp h
  have hused := (read_used (read_image himage index rest)).1
  have hlength := congrArg List.length hdrop
  rw [List.length_drop, List.length_append] at hlength
  omega

/-- Data is read as objects exactly when it is their images and a tail behind which there are none,
and it is that in one way only. On any other data reading fails; a cursor then gives the objects of
the longest run of images, the fault, and nothing more. Each object takes bytes, and only such that
are there. -/
theorem decodeAll_accepts_grammar (data : Bytes) :
    (∀ objects, decodeAll data = .ok objects ↔
        ∃ images tail, Split data images objects tail ∧ EndsObjects tail) ∧
      (∀ images images' objects objects' tail tail',
        Split data images objects tail → EndsObjects tail →
          Split data images' objects' tail' → EndsObjects tail' →
            images = images' ∧ objects = objects' ∧ tail = tail') ∧
      ((¬∃ images objects tail, Split data images objects tail ∧ EndsObjects tail) →
        ∃ images objects rest fault, decodeAll data = .error fault ∧
          Split data images objects rest ∧
          (∀ images' objects' rest', Split data images' objects' rest' →
            images' <+: images ∧ objects' <+: objects) ∧
          ∀ n, (Cursor.start data 0).item n = (objects.map .ok ++ [.error fault])[n]?) ∧
      ∀ index t next, decode data index = .ok (some (t, next)) →
        index < next ∧ next ≤ data.length := by
  refine ⟨fun objects => decodeAll_eq_ok_iff, ?_, ?_, fun index t next => lt_of_decode⟩
  · intro images images' objects objects' tail tail' h ends h' ends'
    exact h.unique ends.stops h' ends'.stops
  · intro notGrammar
    obtain ⟨images, rest, hsplit, ⟨-, hends⟩ | ⟨fault, behind, hfault, hread⟩⟩ :=
      split_readAll 0 data
    · exact absurd ⟨images, _, rest, hsplit, hends⟩ notGrammar
    · refine ⟨images, _, rest, fault, decodeAll_of_fault hfault, hsplit, ?_, ?_⟩
      · intro images' objects' rest' h'
        exact hsplit.isPrefix (stops_of_fault hread) h'
      · intro n
        rw [Cursor.item_start, decodeFrom, List.drop_zero, hfault]
        rfl

/-- A whole object, and one that the data is too short for. -/
def cutShort : Bytes := [0x01, 0x01, 0xAA, 0x82, 0x05, 0x01]

theorem decodeAll_cutShort :
    (¬∃ images objects tail, Split cutShort images objects tail ∧ EndsObjects tail) ∧
      ∃ images objects rest, decodeAll cutShort = .error (.unexpectedEnd 6 .value) ∧
        Split cutShort images objects rest ∧
        ∀ n, (Cursor.start cutShort 0).item n =
          (objects.map .ok ++ [.error (.unexpectedEnd 6 .value)])[n]? := by
  have faulty : decodeAll cutShort = .error (.unexpectedEnd 6 .value) := by
    apply decodeAll_of_fault
    rw [cutShort, readAll_of_read rfl, readAll]
    rfl
  obtain ⟨accepts, -, refuses, -⟩ := decodeAll_accepts_grammar cutShort
  have notGrammar :
      ¬∃ images objects tail, Split cutShort images objects tail ∧ EndsObjects tail := by
    rintro ⟨images, objects, tail, split, ends⟩
    have whole := (accepts objects).mpr ⟨images, tail, split, ends⟩
    cases faulty.symm.trans whole
  obtain ⟨images, objects, rest, fault, refused, split, -, given⟩ := refuses notGrammar
  cases faulty.symm.trans refused
  exact ⟨notGrammar, images, objects, rest, faulty, split, given⟩

end CardChannels.Tlv
