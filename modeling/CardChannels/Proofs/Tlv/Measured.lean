import CardChannels.Proofs.Tlv.Images
import CardChannels.Proofs.Tlv.RoundTrip
import Mathlib.Data.List.Forall2

/-!
# Lengths all over a tree

The length of an object, the bytes it takes, the search for a length that does not fit and the
bytes themselves are told by four recursions over the tree. The main statement is that they agree:
a tree is written whole or, if its own length does not fit, not at all; it takes the bytes that
were told beforehand, and every length field in it counts the bytes written behind it.
-/
namespace CardChannels.Tlv

/-- Bytes of a tree in which every length field, of the tree and of each object inside it, spells
the number of bytes that stand behind it for that object's value. -/
inductive Measured : Tlv → Bytes → Prop
  | leaf {tag : UInt16} {required : Bool} {field value : Bytes}
    (measured : LengthImage field value.length) :
    Measured (.leaf tag required value) (tagField tag required ++ (field ++ value))
  | node {tag : UInt16} {required : Bool} {cs : List Tlv} {parts : List Bytes} {field : Bytes}
    (inside : List.Forall₂ Measured cs parts)
    (measured : LengthImage field parts.flatten.length) :
    Measured (.node tag required cs) (tagField tag required ++ (field ++ parts.flatten))

variable {t : Tlv}

theorem length_bytes (t : Tlv) : t.bytes.length = t.size := by
  rw [bytes_eq, List.length_append, List.length_append, length_tagField, length_lengthField,
    length_contents, size, Nat.add_assoc]

theorem allBytes_eq_flatten (cs : List Tlv) : allBytes cs = (cs.map bytes).flatten := by
  induction cs with
  | nil => rfl
  | cons c cs ih => rw [allBytes, ih, List.map_cons, List.flatten_cons]

/-- An object that is too long is the first that is found to be. -/
theorem oversize?_eq_some (h : maxLength < t.length) : t.oversize? = some t.length := by
  cases t with
  | leaf tag required value => exact if_pos h
  | node tag required cs => exact if_pos h

theorem encode_eq_error (h : maxLength < t.length) :
    t.encode = .error (.lengthTooLarge t.length) := by
  rw [encode, oversize?_eq_some h]

/-- In the bytes of a tree that is not too long every length field counts what stands behind it. -/
theorem measured_bytes (fits : t.length ≤ maxLength) : Measured t t.bytes := by
  induction t using tree_induction with
  | leaf tag required value =>
    rw [bytes]
    exact .leaf (lengthImage_iff.mpr ⟨fits, rfl⟩)
  | node tag required cs ih =>
    have inside : List.Forall₂ Measured cs (cs.map bytes) := by
      rw [List.forall₂_map_right_iff, List.forall₂_same]
      intro c hc
      exact ih c hc (Nat.le_trans (Nat.le_of_lt (length_lt_totalSize hc)) fits)
    have counted : (cs.map bytes).flatten.length = totalSize cs := by
      rw [← allBytes_eq_flatten]
      exact length_allBytes fun c _ => length_contents c
    rw [bytes, allBytes_eq_flatten]
    exact .node inside (lengthImage_iff.mpr ⟨counted ▸ fits, by rw [counted]⟩)

/-- A tree whose length does not fit adds nothing to any bytes, and the fault names that length.
Any other tree is added behind them whole, whatever is inside it: as many bytes as were told
beforehand, in which every length field counts what stands behind it. -/
theorem appended_whole_or_not (t : Tlv) (out : Bytes) :
    maxLength < t.length ∧ t.appendTo out = (out, some (.lengthTooLarge t.length)) ∨
      t.length ≤ maxLength ∧
        ∃ bs, t.appendTo out = (out ++ bs, none) ∧ bs.length = t.size ∧ Measured t bs := by
  by_cases fits : t.length ≤ maxLength
  · refine .inr ⟨fits, t.bytes, ?_, t.length_bytes, measured_bytes fits⟩
    rw [appendTo, encode_eq_ok fits]
  · have long : maxLength < t.length := Nat.lt_of_not_le fits
    refine .inl ⟨long, ?_⟩
    rw [appendTo, encode_eq_error long]

end CardChannels.Tlv
