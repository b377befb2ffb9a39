import CardChannels.Proofs.Text.Utf8Text
import CardChannels.Text.AccessName
import Mathlib.Data.List.Basic

/-!
# Access point names read back

A value can be read exactly when it is labels in a row, each behind a byte with its length. Reading
puts the dots back where writing has split the name. The main statement is that a name comes back
from its value but for the labels that are empty, and a value from its name when writing could have
made every label in it.
-/
namespace CardChannels.AccessName

/-- Labels in a row, each behind its length. -/
def framed (parts : List Bytes) : Bytes := parts.flatMap fun part => UInt8.ofNat part.length :: part

/-- What stands between the dots of a name. -/
def partsOf (name : String) : List String := (name.toList.splitOn '.').map String.ofList

/-- The bytes of a label. -/
def bytesOf (label : String) : Bytes := Utf8.encode label.toList

/-- A label that is written whole and stays apart from its neighbours. -/
structure Writable (label : String) : Prop where
  plain : '.' ∉ label.toList
  short : label.utf8ByteSize ≤ maxLabel
  full : label ≠ ""

variable {bs : Bytes} {parts : List Bytes} {text : List Char} {name : String} {texts : List String}

/-! Labels in a value -/

theorem framed_cons (part : Bytes) (parts : List Bytes) :
    framed (part :: parts) = UInt8.ofNat part.length :: (part ++ framed parts) := by
  rw [framed, List.flatMap_cons, ← framed, List.cons_append]

theorem labels_framed (short : ∀ part ∈ parts, part.length ≤ 255) :
    labels (framed parts) = .ok parts := by
  induction parts with
  | nil => rw [framed, List.flatMap_nil, labels]
  | cons part parts ih =>
    obtain ⟨first, others⟩ := List.forall_mem_cons.mp short
    have length : (UInt8.ofNat part.length).toNat = part.length := by
      rw [UInt8.toNat_ofNat']
      omega
    simp only [framed_cons, labels, length, List.take_left, List.drop_left, Nat.lt_irrefl, if_false,
      ih others]
    rfl

theorem framed_of_labels (h : labels bs = .ok parts) :
    (∀ part ∈ parts, part.length ≤ 255) ∧ bs = framed parts := by
  fun_induction labels bs generalizing parts with
  | case1 =>
    cases h
    exact ⟨by simp, rfl⟩
  | case2 length rest overrun => cases h
  | case3 length rest label enough =>
    rename_i ih
    cases hothers : labels (rest.drop length.toNat) with
    | error fault =>
      rw [hothers] at h
      cases h
    | ok others =>
      rw [hothers] at h
      cases h
      obtain ⟨short, behind⟩ := ih hothers
      have whole : label.length = length.toNat :=
        Nat.le_antisymm (List.length_take_le ..) (Nat.not_lt.mp enough)
      refine ⟨List.forall_mem_cons.mpr ⟨?_, short⟩, ?_⟩
      · have := length.toNat_lt
        omega
      · rw [framed_cons, whole, UInt8.ofNat_toNat, ← behind, List.take_append_drop]

/-- A value is read as labels exactly when it is these labels in a row, each behind its length. -/
theorem labels_eq_ok_iff : labels bs = .ok parts ↔
    (∀ part ∈ parts, part.length ≤ 255) ∧ bs = framed parts := by
  refine ⟨framed_of_labels, ?_⟩
  rintro ⟨short, rfl⟩
  exact labels_framed short

theorem decode_of_labels (h : labels bs = .ok parts) :
    decode bs = .ok (".".intercalate (parts.map fun part => String.ofList (Utf8.chars part))) := by
  rw [decode, h]
  rfl

theorem decode_fails_iff : (∃ fault, decode bs = .error fault) ↔
    ¬∃ parts, (∀ part ∈ parts, part.length ≤ 255) ∧ bs = framed parts := by
  simp only [← labels_eq_ok_iff]
  cases hlabels : labels bs with
  | error fault => exact ⟨fun _ => nofun, fun _ => ⟨fault, by rw [decode, hlabels]; rfl⟩⟩
  | ok parts =>
    constructor
    · rintro ⟨fault, failed⟩
      cases failed.symm.trans (decode_of_labels hlabels)
    · intro unread
      exact absurd ⟨parts, rfl⟩ unread

/-- Labels that are texts are read with dots between them. -/
theorem decode_framed (short : ∀ label ∈ texts, label.utf8ByteSize ≤ 63) :
    decode (framed (texts.map bytesOf)) = .ok (".".intercalate texts) := by
  have fits : ∀ part ∈ texts.map bytesOf, part.length ≤ 255 := by
    intro part hpart
    obtain ⟨label, hlabel, rfl⟩ := List.mem_map.mp hpart
    rw [bytesOf, Utf8.length_encode]
    exact Nat.le_trans (short label hlabel) (by decide)
  have same : (fun part => String.ofList (Utf8.chars part)) ∘ bytesOf = id := by
    funext label
    exact (congrArg String.ofList (Utf8.chars_encode label.toList)).trans String.ofList_toList
  rw [decode_of_labels (labels_framed fits), List.map_map, same, List.map_id]

/-! Labels in a name -/

theorem splitDots_eq (text : List Char) : splitDots text = text.splitOn '.' := by
  induction text with
  | nil => rfl
  | cons c text ih =>
    obtain ⟨part, parts, split⟩ := List.exists_cons_of_ne_nil (List.splitOnP_ne_nil (· == '.') text)
    rw [splitDots, ih, List.splitOn, List.splitOn, List.splitOnP_cons_eq_if_modifyHead, split]
    simp only [beq_iff_eq, List.modifyHead_cons]

theorem labelBytes_eq (short : (Utf8.encode text).length ≤ 63) :
    labelBytes text = UInt8.ofNat (Utf8.encode text).length :: Utf8.encode text := by
  rw [labelBytes, maxLabel, List.take_of_length_le short]

/-- A name is written as its labels that are not empty, if none of them is too long. -/
theorem encode_eq_framed (short : ∀ label ∈ partsOf name, label.utf8ByteSize ≤ 63) :
    encode name = framed (((partsOf name).filter (· ≠ "")).map bytesOf) := by
  rw [encode, splitDots_eq, partsOf, List.filter_map, List.map_map, framed, List.flatMap_map]
  have same : (fun label : List Char => !label.isEmpty) =
      (fun label : String => decide (label ≠ "")) ∘ String.ofList := by
    funext label
    cases label <;> simp
  rw [← same]
  apply List.flatMap_congr
  intro label hlabel
  have size := short _ (List.mem_map_of_mem (List.mem_filter.mp hlabel).1)
  rw [← Utf8.length_encode, String.toList_ofList] at size
  rw [labelBytes_eq size, Function.comp_apply, bytesOf, String.toList_ofList]

/-- Labels without dots are what stands between the dots that join them. -/
theorem partsOf_intercalate (plain : ∀ label ∈ texts, '.' ∉ label.toList) (nonempty : texts ≠ []) :
    partsOf (".".intercalate texts) = texts := by
  have inside : ∀ l ∈ texts.map String.toList, '.' ∉ l := by
    intro l hl
    obtain ⟨label, hlabel, rfl⟩ := List.mem_map.mp hl
    exact plain label hlabel
  have same : String.ofList ∘ String.toList = id := funext fun _ => String.ofList_toList
  have dot : ".".toList = ['.'] := rfl
  rw [partsOf, String.toList_intercalate, dot,
    List.splitOn_intercalate '.' inside (by simpa using nonempty), List.map_map, same, List.map_id]

/-- A name that joins writable labels is written as these. -/
theorem encode_intercalate (writable : ∀ label ∈ texts, Writable label) :
    encode (".".intercalate texts) = framed (texts.map bytesOf) := by
  by_cases nothing : texts = []
  · subst nothing
    rfl
  · have parts := partsOf_intercalate (fun label hlabel => (writable label hlabel).plain) nothing
    have all : texts.filter (· ≠ "") = texts :=
      List.filter_eq_self.mpr fun label hlabel => decide_eq_true (writable label hlabel).full
    rw [encode_eq_framed fun label hlabel => (writable label (parts ▸ hlabel)).short, parts, all]

/-- Bytes in the coding without the byte of a dot are those of writable labels. -/
theorem exists_writable (valid : ∀ part ∈ parts, 1 ≤ part.length ∧ part.length ≤ 63 ∧
    part.toByteArray.IsValidUTF8 ∧ 0x2E ∉ part) :
    ∃ texts : List String, parts = texts.map bytesOf ∧ ∀ label ∈ texts, Writable label := by
  induction parts with
  | nil => exact ⟨[], rfl, by simp⟩
  | cons part parts ih =>
    obtain ⟨⟨full, short, coded, plain⟩, others⟩ := List.forall_mem_cons.mp valid
    obtain ⟨texts, rfl, writable⟩ := ih others
    obtain ⟨label, rfl⟩ := Utf8.exists_eq_encode coded
    refine ⟨label :: texts, rfl, List.forall_mem_cons.mpr ⟨⟨?_, ?_, ?_⟩, writable⟩⟩
    · exact fun dot => plain (Utf8.dot_mem_encode dot)
    · rwa [← Utf8.length_encode]
    · rintro rfl
      exact absurd full (by decide)

/-- A name whose labels are short enough comes back from its value but for the labels that are
empty. A value whose labels are short enough, not empty, and texts without a dot comes back from its
name. A value cannot be read exactly when it is no row of labels, each behind its length. -/
theorem access_names_read_back :
    (∀ name, (∀ label ∈ partsOf name, label.utf8ByteSize ≤ 63) →
      decode (encode name) = .ok (".".intercalate ((partsOf name).filter (· ≠ "")))) ∧
      (∀ parts : List Bytes, (∀ part ∈ parts, 1 ≤ part.length ∧ part.length ≤ 63 ∧
        part.toByteArray.IsValidUTF8 ∧ 0x2E ∉ part) →
          ∃ name, decode (framed parts) = .ok name ∧ encode name = framed parts) ∧
      ∀ bs, (∃ fault, decode bs = .error fault) ↔
        ¬∃ parts, (∀ part ∈ parts, part.length ≤ 255) ∧ bs = framed parts := by
  refine ⟨?_, ?_, fun bs => decode_fails_iff⟩
  · intro name short
    rw [encode_eq_framed short]
    exact decode_framed fun label hlabel => short label (List.mem_filter.mp hlabel).1
  · intro parts valid
    obtain ⟨texts, rfl, writable⟩ := exists_writable valid
    exact ⟨".".intercalate texts, decode_framed fun label hlabel => (writable label hlabel).short,
      encode_intercalate writable⟩

/-- A name with an empty label, a value of two labels, and a value that ends inside a label. -/
theorem access_names_read_back_samples :
    decode (encode "é..b") = .ok "é.b" ∧
      (∃ name, decode [0x02, 0xC3, 0xA9, 0x01, 0x62] = .ok name ∧
        encode name = [0x02, 0xC3, 0xA9, 0x01, 0x62]) ∧
      ¬∃ parts, (∀ part ∈ parts, part.length ≤ 255) ∧ [0x05, 0x61] = framed parts := by
  obtain ⟨names, values, faults⟩ := access_names_read_back
  have short : ∀ label ∈ partsOf "é..b", label.utf8ByteSize ≤ 63 := by decide
  have coded (c : Char) : (String.utf8EncodeChar c).toByteArray.IsValidUTF8 :=
    ⟨[c], by rw [List.utf8Encode, List.flatMap_singleton]⟩
  have valid : ∀ part ∈ ([[0xC3, 0xA9], [0x62]] : List Bytes), 1 ≤ part.length ∧
      part.length ≤ 63 ∧ part.toByteArray.IsValidUTF8 ∧ 0x2E ∉ part := by
    rw [List.forall_mem_cons, List.forall_mem_singleton]
    exact ⟨⟨by decide, by decide, coded 'é', by decide⟩,
      ⟨by decide, by decide, coded 'b', by decide⟩⟩
  have cut : decode [0x05, 0x61] = .error (.badText .networkAccessName (.labelOverrun 5)) := by
    rw [decode, labels]
    rfl
  exact ⟨names "é..b" short, values _ valid, (faults [0x05, 0x61]).mp ⟨_, cut⟩⟩

end CardChannels.AccessName
