import LinuxDriver.Lib.Words
import Mathlib.Logic.Function.Iterate
import Mathlib.Data.List.Basic
/-!
# Cyclic redundancy checks

The register of a 32-bit check, fed bit by bit from the low end, for any
polynomial. A table of 256 words feeds a byte at once, and a change that stays
within four bytes always shows.
-/

namespace Crc

variable (poly : Word)

/-- One bit leaves the register at the low end. -/
def shift (c : Word) : Word := if c.getLsbD 0 then (c >>> 1) ^^^ poly else c >>> 1

/-- Eight bits leave. -/
def turn : Word → Word := (shift poly)^[8]

/-- The register after one more byte. -/
def feed (c : Word) (b : Byte) : Word := turn poly (c ^^^ b.setWidth 32)

/-! ## Linearity -/

theorem shift_xor (c d : Word) : shift poly (c ^^^ d) = shift poly c ^^^ shift poly d := by
  have e : (c ^^^ d) >>> 1 = (c >>> 1) ^^^ (d >>> 1) := BitVec.ushiftRight_xor_distrib ..
  have cancel (x y p : Word) : (x ^^^ p) ^^^ (y ^^^ p) = x ^^^ y := by
    rw [BitVec.xor_comm y, BitVec.xor_assoc, ← BitVec.xor_assoc p, BitVec.xor_self, BitVec.zero_xor]
  unfold shift
  rw [BitVec.getLsbD_xor, e]
  cases c.getLsbD 0 <;> cases d.getLsbD 0 <;> simp only [Bool.xor_false, Bool.false_xor, Bool.xor_self, if_true,
    Bool.false_eq_true, if_false]
  · ac_rfl
  · ac_rfl
  · exact (cancel _ _ poly).symm

theorem iterate_shift_xor (n : ℕ) (c d : Word) :
    (shift poly)^[n] (c ^^^ d) = (shift poly)^[n] c ^^^ (shift poly)^[n] d := by
  induction n generalizing c d with
  | zero => rfl
  | succ n ih => rw [Function.iterate_succ_apply, shift_xor, ih, ← Function.iterate_succ_apply, ← Function.iterate_succ_apply]

theorem turn_xor (c d : Word) : turn poly (c ^^^ d) = turn poly c ^^^ turn poly d := iterate_shift_xor poly 8 c d

/-- Zeros leave the register without touching the rest. -/
theorem iterate_shift_zeros (n : ℕ) (c : Word) (h : ∀ i < n, c.getLsbD i = false) : (shift poly)^[n] c = c >>> n := by
  induction n with
  | zero => simp
  | succ n ih =>
    have last : (c >>> n).getLsbD 0 = false := by simpa using h n (by omega)
    rw [Function.iterate_succ_apply', ih fun i hi => h i (by omega), shift, last, if_neg Bool.false_ne_true,
      BitVec.shiftRight_add]

/-- A turn by table: only the low byte has to be looked up. -/
theorem turn_eq (c : Word) : turn poly c = turn poly (c &&& (0xff : Word)) ^^^ (c >>> 8) := by
  have mask (i : ℕ) : (0xff : Word).getLsbD i = decide (i < 8) := by
    have ones : (0xff : Word) = BitVec.setWidth 32 (BitVec.allOnes 8) := by decide
    rw [ones, BitVec.getLsbD_setWidth, BitVec.getLsbD_allOnes]
    grind
  have parts : (c &&& (0xff : Word)) ^^^ ((c >>> 8) <<< 8) = c := by
    apply BitVec.eq_of_getLsbD_eq
    intro i hi
    simp only [BitVec.getLsbD_xor, BitVec.getLsbD_and, mask, BitVec.getLsbD_shiftLeft, BitVec.getLsbD_ushiftRight]
    grind
  have high : turn poly ((c >>> 8) <<< 8) = c >>> 8 := by
    rw [turn, iterate_shift_zeros]
    · apply BitVec.eq_of_getLsbD_eq
      intro i hi
      simp only [BitVec.getLsbD_ushiftRight, BitVec.getLsbD_shiftLeft]
      grind
    · intro i hi
      simp [hi]
  calc turn poly c = turn poly ((c &&& (0xff : Word)) ^^^ ((c >>> 8) <<< 8)) := by rw [parts]
    _ = turn poly (c &&& (0xff : Word)) ^^^ (c >>> 8) := by rw [turn_xor, high]

/-! ## Nothing is forgotten -/

variable {poly}

theorem shift_injective (top : poly.getLsbD 31 = true) : Function.Injective (shift poly) := by
  have zero {c : Word} (h : shift poly c = 0) : c = 0 := by
    unfold shift at h
    cases hc : c.getLsbD 0 <;> simp only [hc, if_true, Bool.false_eq_true, if_false] at h
    · apply BitVec.eq_of_getLsbD_eq
      intro i hi
      cases i with
      | zero => simpa using hc
      | succ i =>
        have := congrArg (fun w : Word => w.getLsbD i) h
        simpa [Nat.add_comm] using this
    · -- the polynomial's top bit cannot have come from anywhere else
      have := congrArg (fun w : Word => w.getLsbD 31) h
      simp only [BitVec.getLsbD_xor, BitVec.getLsbD_ushiftRight, top] at this
      simp at this
  intro c d h
  have : shift poly (c ^^^ d) = 0 := by
    rw [shift_xor, h]
    exact BitVec.xor_self
  exact BitVec.xor_eq_zero_iff.1 (zero this)

theorem turn_injective (top : poly.getLsbD 31 = true) : Function.Injective (turn poly) :=
  (shift_injective top).iterate 8

theorem foldl_feed_injective (top : poly.getLsbD 31 = true) (l : List Byte) :
    Function.Injective fun c => l.foldl (feed poly) c := by
  induction l with
  | nil => exact Function.injective_id
  | cons b l ih =>
    intro c d h
    have := turn_injective top (ih h)
    exact (BitVec.xor_left_inj _).1 this

/-- Up to four bytes as one word, the first one lowest. -/
def pack : List Byte → Word
  | [] => 0
  | b :: l => b.setWidth 32 ^^^ (pack l <<< 8)

theorem pack_lt (l : List Byte) (n : ℕ) (h : l.length ≤ n) (i : ℕ) (hi : 8 * n ≤ i) : (pack l).getLsbD i = false := by
  induction l generalizing n i with
  | nil => simp [pack]
  | cons b l ih =>
    obtain ⟨n, rfl⟩ : ∃ k, n = k + 1 := ⟨n - 1, by simp at h; omega⟩
    simp only [pack, BitVec.getLsbD_xor, BitVec.getLsbD_setWidth, BitVec.getLsbD_shiftLeft]
    rw [ih n (by simpa using h) (i - 8) (by omega), BitVec.getLsbD_of_ge b i (by omega)]
    simp

/-- Feeding up to four bytes is feeding them as one word. -/
theorem foldl_feed_eq (c : Word) (l : List Byte) (h : l.length ≤ 4) :
    l.foldl (feed poly) c = (turn poly)^[l.length] (c ^^^ pack l) := by
  induction l generalizing c with
  | nil => simp [pack]
  | cons b l ih =>
    have back : turn poly (pack l <<< 8) = pack l := by
      rw [turn, iterate_shift_zeros poly 8 _ fun i hi => by simp [hi]]
      apply BitVec.eq_of_getLsbD_eq
      intro i hi
      simp only [BitVec.getLsbD_ushiftRight, BitVec.getLsbD_shiftLeft]
      by_cases h24 : i < 24
      · grind
      · rw [pack_lt l 3 (Nat.le_of_succ_le_succ h) i (by omega)]
        grind
    rw [List.foldl_cons, ih _ (by simp at h; omega), List.length_cons, Function.iterate_succ_apply]
    congr 1
    rw [feed, pack, ← BitVec.xor_assoc, turn_xor poly _ (pack l <<< 8), back]

theorem pack_injective {l l' : List Byte} (hl : l.length ≤ 4) (same : l.length = l'.length) (h : pack l = pack l') : l = l' := by
  induction l generalizing l' with
  | nil => exact (List.length_eq_zero_iff.1 same.symm).symm
  | cons b l ih =>
    obtain ⟨b', l', rfl⟩ : ∃ b' l'', l' = b' :: l'' := List.exists_cons_of_length_pos (by rw [← same]; simp)
    have bit (i : ℕ) := congrArg (fun w : Word => w.getLsbD i) h
    simp only [pack, BitVec.getLsbD_xor, BitVec.getLsbD_setWidth, BitVec.getLsbD_shiftLeft] at bit
    have hb : b = b' := by
      apply BitVec.eq_of_getLsbD_eq
      intro i hi
      have := bit i
      grind
    have hp : pack l = pack l' := by
      apply BitVec.eq_of_getLsbD_eq
      intro i hi
      by_cases h24 : i < 24
      · have := bit (i + 8)
        rw [BitVec.getLsbD_of_ge b _ (by omega), BitVec.getLsbD_of_ge b' _ (by omega)] at this
        grind
      · rw [pack_lt l 3 (Nat.le_of_succ_le_succ hl) i (by omega), pack_lt l' 3 (by simp at hl same; omega) i (by omega)]
    rw [hb, ih (by simp at hl; omega) (by simpa using same) hp]

/-- Two messages that differ within four bytes only leave different registers. -/
theorem burst_shows (top : poly.getLsbD 31 = true) {c : Word} {before x x' after : List Byte} (hx : x.length ≤ 4)
    (same : x.length = x'.length)
    (h : (before ++ x ++ after).foldl (feed poly) c = (before ++ x' ++ after).foldl (feed poly) c) : x = x' := by
  simp only [List.foldl_append] at h
  have h := foldl_feed_injective top after h
  rw [foldl_feed_eq _ x hx, foldl_feed_eq _ x' (by omega), ← same] at h
  exact pack_injective hx same (BitVec.xor_right_inj _ |>.1 ((turn_injective top).iterate x.length h))

end Crc
