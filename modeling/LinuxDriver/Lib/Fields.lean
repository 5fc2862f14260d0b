import Mathlib.Algebra.Group.Nat.Defs
import Mathlib.Data.List.Basic
import Mathlib.Tactic.Common
/-!
# Words assembled from fields

A slot is a value with the place it shall take in a word. `pack` shifts the
values to their places and ORs them; `field` reads a place back. Values that
fit their places, in places that do not overlap, are all read back.
-/

namespace Fields

/-- A field at bit `lo`, `len` bits long, with its value. -/
structure Slot (w : Nat) where
  lo : Nat
  len : Nat
  value : BitVec w

variable {w : Nat} {slots : List (Slot w)} {s t : Slot w} {x y : BitVec w} {lo len : Nat}

/-- The number in the `len` bits of `x` from bit `lo` on. -/
def field (x : BitVec w) (lo len : Nat) : Nat := (x >>> lo).toNat % 2 ^ len

/-- The value at its place. -/
def Slot.bits (s : Slot w) : BitVec w := s.value <<< s.lo

/-- All fields in one word. -/
def pack (slots : List (Slot w)) : BitVec w := slots.foldr (fun s x => s.bits ||| x) 0#w

/-- The value needs no more bits than its place has, and the place lies in the word. -/
@[mk_iff] structure Slot.Fits (s : Slot w) : Prop where
  value : s.value.toNat < 2 ^ s.len
  place : s.lo + s.len ≤ w

/-- One field ends before the other begins. -/
def Slot.Apart (s t : Slot w) : Prop := s.lo + s.len ≤ t.lo ∨ t.lo + t.len ≤ s.lo

/-- Every value fits its field, and no two fields overlap. -/
structure Tidy (slots : List (Slot w)) : Prop where
  fits : ∀ s ∈ slots, s.Fits
  apart : slots.Pairwise Slot.Apart

@[simp] theorem pack_nil : pack ([] : List (Slot w)) = 0#w := rfl

@[simp] theorem pack_cons : pack (s :: slots) = s.bits ||| pack slots := rfl

/-! ## Reading -/

theorem field_testBit (x : BitVec w) (lo len i : Nat) :
    (field x lo len).testBit i = (decide (i < len) && x.getLsbD (lo + i)) := by
  rw [field, Nat.testBit_mod_two_pow, BitVec.testBit_toNat, BitVec.getLsbD_ushiftRight]

@[simp] theorem field_zero : field (0#w) lo len = 0 := by simp [field]

theorem field_or (x y : BitVec w) (lo len : Nat) : field (x ||| y) lo len = field x lo len ||| field y lo len := by
  apply Nat.eq_of_testBit_eq
  intro i
  rw [Nat.testBit_or, field_testBit, field_testBit, field_testBit, BitVec.getLsbD_or, Bool.and_or_distrib_left]

/-- A mask and a shift, as C code spells it. -/
theorem and_mask (x : BitVec w) (len : Nat) : (x &&& BitVec.ofNat w (2 ^ len - 1)).toNat = x.toNat % 2 ^ len := by
  apply Nat.eq_of_testBit_eq
  intro i
  rw [BitVec.toNat_and, Nat.testBit_and, BitVec.toNat_ofNat, Nat.testBit_mod_two_pow, Nat.testBit_mod_two_pow,
    Nat.testBit_two_pow_sub_one, BitVec.testBit_toNat]
  cases hx : x.getLsbD i
  · simp
  · have hi : i < w := BitVec.lt_of_getLsbD hx
    simp [hi]

/-- A value shifted past a mask is lost. -/
theorem shift_and_mask (x : BitVec w) (len : Nat) : (x <<< len) &&& BitVec.ofNat w (2 ^ len - 1) = 0#w := by
  apply BitVec.eq_of_toNat_eq
  rw [and_mask]
  apply Nat.eq_of_testBit_eq
  intro i
  rw [Nat.testBit_mod_two_pow, BitVec.testBit_toNat, BitVec.getLsbD_shiftLeft, BitVec.toNat_zero, Nat.zero_testBit]
  by_cases hi : i < len
  · simp [hi]
  · simp [hi]

namespace Slot

/-- A slot is read back from its own bits. -/
theorem Fits.field_bits (h : s.Fits) : field s.bits s.lo s.len = s.value.toNat := by
  apply Nat.eq_of_testBit_eq
  intro i
  rw [field_testBit, Slot.bits, BitVec.getLsbD_shiftLeft, BitVec.testBit_toNat]
  have hp := h.place
  by_cases hi : i < s.len
  · simp [hi, show s.lo + i < w by omega]
  · have hv : s.value.getLsbD i = false :=
      Nat.testBit_lt_two_pow (Nat.lt_of_lt_of_le h.value (Nat.pow_le_pow_right (by decide) (Nat.not_lt.1 hi)))
    simp [hi, hv]

/-- Its bits leave every place apart from it empty. -/
theorem Fits.field_apart (h : s.Fits) (ha : s.lo + s.len ≤ lo ∨ lo + len ≤ s.lo) : field s.bits lo len = 0 := by
  apply Nat.eq_of_testBit_eq
  intro i
  rw [field_testBit, Slot.bits, BitVec.getLsbD_shiftLeft, Nat.zero_testBit]
  by_cases hi : i < len
  · rcases ha with ha | ha
    · have hv : s.value.getLsbD (lo + i - s.lo) = false :=
        Nat.testBit_lt_two_pow (Nat.lt_of_lt_of_le h.value (Nat.pow_le_pow_right (by decide) (by omega)))
      simp [hv]
    · simp [show lo + i < s.lo by omega]
  · simp [hi]

end Slot

/-- A place apart from every slot reads 0. -/
theorem field_pack_apart (hf : ∀ s ∈ slots, s.Fits) (ha : ∀ s ∈ slots, s.lo + s.len ≤ lo ∨ lo + len ≤ s.lo) :
    field (pack slots) lo len = 0 := by
  induction slots with
  | nil => exact field_zero
  | cons s slots ih =>
    have hs := (hf s List.mem_cons_self).field_apart (ha s List.mem_cons_self)
    have hr := ih (fun t ht => hf t (List.mem_cons_of_mem s ht)) fun t ht => ha t (List.mem_cons_of_mem s ht)
    rw [pack_cons, field_or, hs, hr, Nat.or_zero]

theorem Tidy.tail (h : Tidy (s :: slots)) : Tidy slots :=
  ⟨fun t ht => h.fits t (List.mem_cons_of_mem s ht), (List.pairwise_cons.1 h.apart).2⟩

theorem Tidy.sublist {slots' : List (Slot w)} (h : Tidy slots) (hs : slots'.Sublist slots) : Tidy slots' :=
  ⟨fun t ht => h.fits t (hs.subset ht), h.apart.sublist hs⟩

/-- Every slot of a tidy list is read back from the word. -/
theorem Tidy.field_pack (h : Tidy slots) (hs : s ∈ slots) : field (pack slots) s.lo s.len = s.value.toNat := by
  induction slots with
  | nil => cases hs
  | cons t slots ih =>
    have ht : t.Fits := h.fits t List.mem_cons_self
    have hap := (List.pairwise_cons.1 h.apart).1
    rw [pack_cons, field_or]
    rcases List.mem_cons.1 hs with rfl | hs
    · have hr : field (pack slots) s.lo s.len = 0 :=
        field_pack_apart h.tail.fits fun t ht => (hap t ht).symm
      rw [ht.field_bits, hr, Nat.or_zero]
    · rw [ht.field_apart (hap s hs), ih h.tail hs, Nat.zero_or]

end Fields
