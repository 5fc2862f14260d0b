import Mathlib.Data.Nat.Notation
/-!
# Words of four bytes

A 32-bit word from its bytes, the first one on top, and what shifts, rotations
and xor do to it byte by byte.
-/

/-- Eight bits. -/
abbrev Byte := BitVec 8

/-- Thirty-two bits. -/
abbrev Word := BitVec 32

namespace Words

/-- Four bytes, the high one first. -/
def word (a b c d : Byte) : Word := (a ++ b ++ c ++ d).cast rfl

variable (a b c d a' b' c' d' : Byte)

theorem getLsbD_word (i : ℕ) : (word a b c d).getLsbD i =
    if i < 8 then d.getLsbD i else if i < 16 then c.getLsbD (i - 8)
    else if i < 24 then b.getLsbD (i - 16) else a.getLsbD (i - 24) := by
  rw [word, BitVec.getLsbD_cast, BitVec.getLsbD_append, BitVec.getLsbD_append, BitVec.getLsbD_append, Nat.sub_sub, Nat.sub_sub]
  by_cases h0 : i < 8
  · rw [if_pos h0, if_pos h0]
  · rw [if_neg h0, if_neg h0]
    by_cases h1 : i < 16
    · rw [if_pos (by omega), if_pos h1]
    · rw [if_neg (by omega), if_neg h1]
      by_cases h2 : i < 24
      · rw [if_pos (by omega), if_pos h2]
      · rw [if_neg (by omega), if_neg h2]

@[simp] theorem byte_word_0 : (word a b c d >>> 24).setWidth 8 = a := by
  apply BitVec.eq_of_getLsbD_eq
  intro i hi
  simp only [BitVec.getLsbD_setWidth, BitVec.getLsbD_ushiftRight, getLsbD_word]
  grind

@[simp] theorem byte_word_1 : (word a b c d >>> 16).setWidth 8 = b := by
  apply BitVec.eq_of_getLsbD_eq
  intro i hi
  simp only [BitVec.getLsbD_setWidth, BitVec.getLsbD_ushiftRight, getLsbD_word]
  grind

@[simp] theorem byte_word_2 : (word a b c d >>> 8).setWidth 8 = c := by
  apply BitVec.eq_of_getLsbD_eq
  intro i hi
  simp only [BitVec.getLsbD_setWidth, BitVec.getLsbD_ushiftRight, getLsbD_word]
  grind

@[simp] theorem byte_word_3 : (word a b c d).setWidth 8 = d := by
  apply BitVec.eq_of_getLsbD_eq
  intro i hi
  simp only [BitVec.getLsbD_setWidth, getLsbD_word]
  grind

@[simp] theorem word_xor :
    word a b c d ^^^ word a' b' c' d' = word (a ^^^ a') (b ^^^ b') (c ^^^ c') (d ^^^ d') := by
  apply BitVec.eq_of_getLsbD_eq
  intro i hi
  simp only [BitVec.getLsbD_xor, getLsbD_word]
  grind

theorem word_and :
    word a b c d &&& word a' b' c' d' = word (a &&& a') (b &&& b') (c &&& c') (d &&& d') := by
  apply BitVec.eq_of_getLsbD_eq
  intro i hi
  simp only [BitVec.getLsbD_and, getLsbD_word]
  grind

/-- Shifting by whole bytes. -/
theorem word_shiftLeft : word a b c d <<< 8 = word b c d 0 := by
  apply BitVec.eq_of_getLsbD_eq
  intro i hi
  simp only [BitVec.getLsbD_shiftLeft, getLsbD_word]
  grind

theorem word_shiftRight : word a b c d >>> 8 = word 0 a b c := by
  apply BitVec.eq_of_getLsbD_eq
  intro i hi
  simp only [BitVec.getLsbD_ushiftRight, getLsbD_word]
  grind

/-- Masking with `0xff` is taking the low byte. -/
theorem low_byte (x : Word) : (x &&& (0xff : Word)).toNat = (x.setWidth 8).toNat := by
  rw [BitVec.toNat_and, BitVec.toNat_setWidth]
  exact Nat.and_two_pow_sub_one_eq_mod x.toNat 8

end Words
