import CardChannels.Proofs.Tlv.Images
import CardChannels.Proofs.Tlv.RoundTrip

/-!
# Writing what was read

The length of an object has one spelling and its value is copied, so data can differ from what is
written for it in the tag alone: behind the mark may stand a tag that one byte could carry. The
main statement is that an object which was read is written as the bytes it was read from, but for
such a tag, which becomes one byte, and that what was written once stays as it is.
-/
namespace CardChannels.Tlv

/-- The tag that two bytes behind the mark spell; their top bit is the flag. -/
def markedTag (high low : UInt8) : Nat := (Bytes.word high low).toNat % 0x8000

/-- The one byte for a tag and a flag that two bytes behind the mark spell. -/
def shortMarked (high low : UInt8) : UInt8 :=
  UInt8.ofNat (markedTag high low + if 0x8000 ≤ (Bytes.word high low).toNat then 0x80 else 0)

/-- The second bytes are the first with one byte in place of the mark and a tag behind it that one
byte can carry. -/
inductive Shortens : Bytes → Bytes → Prop
  | mk (high low : UInt8) (fields : Bytes)
    (small : 0x01 ≤ markedTag high low ∧ markedTag high low ≤ 0x7E) :
    Shortens (0x7F :: high :: low :: fields) (shortMarked high low :: fields)

/-- The object at an index of the data, written. -/
def rewritten (data : Bytes) (index : Nat) : Option Bytes :=
  match decode data index with
  | .ok (some (t, _)) => t.encode.toOption
  | _ => none

variable {tagBytes image data : Bytes} {tag : UInt16} {required : Bool} {high low : UInt8}
  {index next : Nat} {t : Tlv}

/-! Tags -/

theorem tag_le_of_tagImage (h : TagImage tagBytes tag required) : tag ≤ 0x7FFF := by
  have largest : (0x7FFF : UInt16).toNat = 0x7FFF := rfl
  apply UInt16.le_iff_toNat_le.mpr
  cases h with
  | short b range =>
    rw [UInt16.toNat_ofNat', largest]
    omega
  | long high low =>
    rw [UInt16.toNat_ofNat', largest]
    omega

theorem toNat_markedTag (high low : UInt8) :
    (UInt16.ofNat (markedTag high low)).toNat = markedTag high low := by
  rw [UInt16.toNat_ofNat', markedTag]
  omega

theorem shortTag_markedTag_iff : shortTag (UInt16.ofNat (markedTag high low)) = true ↔
    0x01 ≤ markedTag high low ∧ markedTag high low ≤ 0x7E := by
  simp only [shortTag, decide_eq_true_eq, UInt16.le_iff_toNat_le, toNat_markedTag]
  rfl

/-- A tag that was read from one byte is written as that byte. -/
theorem tagField_of_byte {b : UInt8} (range : 0x01 ≤ b ∧ b ≤ 0x7E ∨ 0x81 ≤ b ∧ b ≤ 0xFE) :
    tagField (UInt16.ofNat (b.toNat % 0x80)) (0x80 ≤ b) = [b] := by
  have hb := b.toNat_lt
  simp only [UInt8.le_iff_toNat_le, UInt8.reduceToNat] at range
  have htag : (UInt16.ofNat (b.toNat % 0x80)).toNat = b.toNat % 0x80 := by
    rw [UInt16.toNat_ofNat']
    omega
  have hshort : shortTag (UInt16.ofNat (b.toNat % 0x80)) = true := by
    simp only [shortTag, decide_eq_true_eq, UInt16.le_iff_toNat_le, htag, UInt16.reduceToNat]
    omega
  rw [tagField, if_pos hshort, htag, List.cons.injEq]
  refine ⟨?_, rfl⟩
  apply UInt8.toNat_inj.mp
  simp only [UInt8.toNat_ofNat', decide_eq_true_eq, UInt8.le_iff_toNat_le, UInt8.reduceToNat]
  split <;> omega

/-- A tag that was read behind the mark is written there, unless one byte can carry it. -/
theorem tagField_of_marked (large : ¬(0x01 ≤ markedTag high low ∧ markedTag high low ≤ 0x7E)) :
    tagField (UInt16.ofNat (markedTag high low)) (0x8000 ≤ (Bytes.word high low).toNat) =
      [0x7F, high, low] := by
  have hword := (Bytes.word high low).toNat_lt
  have whole : markedTag high low % 0x8000 +
      (if decide (0x8000 ≤ (Bytes.word high low).toNat) = true then 0x8000 else 0) =
        (Bytes.word high low).toNat := by
    simp only [markedTag, decide_eq_true_eq]
    split <;> omega
  simp only [tagField, if_neg (mt shortTag_markedTag_iff.mp large), toNat_markedTag, whole,
    UInt16.ofNat_toNat, Bytes.ofWord_word]

theorem tagField_of_small (small : 0x01 ≤ markedTag high low ∧ markedTag high low ≤ 0x7E) :
    tagField (UInt16.ofNat (markedTag high low)) (0x8000 ≤ (Bytes.word high low).toNat) =
      [shortMarked high low] := by
  rw [tagField, if_pos (shortTag_markedTag_iff.mpr small), toNat_markedTag, shortMarked]
  simp only [decide_eq_true_eq]

/-! Objects -/

theorem Shortens.starts_with_mark {first : UInt8} {rest shorter : Bytes}
    (h : Shortens (first :: rest) shorter) : first = 0x7F := by
  cases h
  rfl

/-- An object is written as its image, but for a tag behind the mark that one byte can carry. -/
theorem bytes_of_image (h : Image image t) :
    Shortens image t.bytes ∧ t.bytes.length + 2 = image.length ∨
      (∀ shorter, ¬Shortens image shorter) ∧ t.bytes = image := by
  obtain ⟨tagged, measured⟩ := h
  obtain ⟨-, rfl⟩ := lengthImage_iff.mp measured
  rw [bytes]
  cases tagged with
  | short b range =>
    refine .inr ⟨fun shorter h => ?_, ?_⟩
    · obtain rfl : b = 0x7F := h.starts_with_mark
      exact absurd range (by decide)
    · rw [tagField_of_byte range]
  | long high low =>
    by_cases small : 0x01 ≤ markedTag high low ∧ markedTag high low ≤ 0x7E
    · refine .inl ?_
      rw [← markedTag, tagField_of_small small]
      exact ⟨.mk high low _ small, rfl⟩
    · refine .inr ⟨fun shorter h => ?_, ?_⟩
      · cases h with
        | mk high low fields small' => exact small small'
      · rw [← markedTag, tagField_of_marked small]

theorem fits_of_image (h : Image image t) : t.tag ≤ 0x7FFF ∧ t.length ≤ maxLength := by
  obtain ⟨tagged, measured⟩ := h
  exact ⟨tag_le_of_tagImage tagged, (lengthImage_iff.mp measured).1⟩

theorem image_eq_self (h : Image image t) : t.image = t := by
  cases h
  rfl

/-- The bytes that an object was read from are its image. -/
theorem image_of_decode (h : decode data index = .ok (some (t, next))) :
    Image (data.extract index next) t := by
  obtain ⟨image, rest, himage, hdrop, rfl⟩ := decode_eq_some_iff.mp h
  rwa [List.extract_eq_take_drop, hdrop, Nat.add_sub_cancel_left, List.take_left]

/-- What is written for an object that was read is read as the same object, whatever stands around
it. -/
theorem decode_bytes (h : Image image t) (front back : Bytes) :
    decode (front ++ t.bytes ++ back) front.length =
      .ok (some (t, front.length + t.bytes.length)) := by
  have hread := read_bytes (fits_of_image h).1 (fits_of_image h).2 front.length back
  rw [decode, List.append_assoc, List.drop_left, hread, image_eq_self h]
  rfl

theorem rewritten_of_decode (h : decode data index = .ok (some (t, next))) :
    rewritten data index = some t.bytes := by
  rw [rewritten, h]
  simp only [encode_eq_ok (fits_of_image (image_of_decode h)).2]
  rfl

/-- An object that was read can be written. What is written are the bytes that it was read from,
unless the mark and a tag that one byte can carry stand there; then it is that byte in place of
them, two bytes less. It is read as the same object wherever it stands, and writing what is read
from it changes nothing any more. -/
theorem written_as_read (h : decode data index = .ok (some (t, next))) :
    ∃ bs, t.encode = .ok bs ∧
      (Shortens (data.extract index next) bs ∧ bs.length + 2 = (data.extract index next).length ∨
        (∀ shorter, ¬Shortens (data.extract index next) shorter) ∧
          bs = data.extract index next) ∧
      (∀ front back, decode (front ++ bs ++ back) front.length =
        .ok (some (t, front.length + bs.length))) ∧
      rewritten data index = some bs ∧ rewritten bs 0 = some bs := by
  have himage := image_of_decode h
  have again : decode t.bytes 0 = .ok (some (t, t.bytes.length)) := by
    simpa using decode_bytes himage [] []
  exact ⟨t.bytes, encode_eq_ok (fits_of_image himage).2, bytes_of_image himage,
    decode_bytes himage, rewritten_of_decode h, rewritten_of_decode again⟩

/-- A required object among other bytes, with its tag behind the mark though one byte can carry it. -/
def markedSample : Bytes := [0xAA, 0x7F, 0x80, 0x05, 0x02, 0x41, 0x42, 0x00]

theorem markedSample_shortened :
    decode markedSample 1 = .ok (some (.leaf 0x05 true [0x41, 0x42], 7)) ∧
      (leaf 0x05 true [0x41, 0x42]).encode = .ok [0x85, 0x02, 0x41, 0x42] ∧
      Shortens (markedSample.extract 1 7) [0x85, 0x02, 0x41, 0x42] ∧
      rewritten [0x85, 0x02, 0x41, 0x42] 0 = some [0x85, 0x02, 0x41, 0x42] := by
  have found : decode markedSample 1 = .ok (some (.leaf 0x05 true [0x41, 0x42], 7)) := by rfl
  have written : (leaf 0x05 true [0x41, 0x42]).encode = .ok [0x85, 0x02, 0x41, 0x42] := by rfl
  obtain ⟨bs, hbs, shortened | ⟨unshortened, -⟩, -, -, stays⟩ := written_as_read found
  · cases written.symm.trans hbs
    exact ⟨found, written, shortened.1, stays⟩
  · exact absurd (Shortens.mk 0x80 0x05 [0x02, 0x41, 0x42] (by decide)) (unshortened _)

end CardChannels.Tlv
