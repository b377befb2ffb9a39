/-!
# Bytes and words

A byte string is a list of bytes. A word is two bytes, the more significant one first, and a
count is read from bytes in the same order.
-/
namespace CardChannels

abbrev Bytes := List UInt8

namespace Bytes

/-- The number that the bytes spell, most significant byte first. -/
def toNat (bs : Bytes) : Nat := bs.foldl (fun n b => n * 256 + b.toNat) 0

/-- The two bytes of a word. -/
def ofWord (w : UInt16) : Bytes := [UInt8.ofNat (w.toNat / 256), UInt8.ofNat w.toNat]

/-- The word that two bytes spell. -/
def word (high low : UInt8) : UInt16 := UInt16.ofNat (high.toNat * 256 + low.toNat)

theorem word_ofWord (w : UInt16) :
    word (UInt8.ofNat (w.toNat / 256)) (UInt8.ofNat w.toNat) = w := by
  apply UInt16.toNat_inj.mp
  have h := w.toNat_lt
  simp only [word, UInt8.toNat_ofNat', UInt16.toNat_ofNat']
  omega

theorem ofWord_word (high low : UInt8) : ofWord (word high low) = [high, low] := by
  have h := high.toNat_lt
  have l := low.toNat_lt
  have hw : (word high low).toNat = high.toNat * 256 + low.toNat := by
    simp only [word, UInt16.toNat_ofNat']
    omega
  simp only [ofWord, hw, List.cons.injEq, and_true]
  refine ⟨UInt8.toNat_inj.mp ?_, UInt8.toNat_inj.mp ?_⟩ <;>
    simp only [UInt8.toNat_ofNat'] <;> omega

end Bytes

end CardChannels
