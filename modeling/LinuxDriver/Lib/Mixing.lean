import Mathlib.Algebra.Group.Basic
import Mathlib.Logic.Function.Basic
import Mathlib.Data.Nat.Notation
/-!
# Mixing words

A vector of words mixed by adding to one of them what is made of another. Such
a step loses nothing, whatever is made: the other word is still there to tell
what was added.
-/

namespace Mixing

variable {G : Type*} [AddGroup G] {n : ℕ}

/-- The word at `i`. -/
def word_of (s : Vector G n) (i : ℕ) : G := s[i]?.getD 0

/-- The word at `j` grows by `v`. -/
def add_to (s : Vector G n) (j : ℕ) (v : G) : Vector G n := s.setIfInBounds j (word_of s j + v)

theorem vector_ext {s t : Vector G n} (h : ∀ i < n, word_of s i = word_of t i) : s = t := by
  apply Vector.ext
  intro i hi
  have e := h i hi
  simpa [word_of, hi] using e

theorem add_to_ne (s : Vector G n) {j k : ℕ} (h : k ≠ j) (v : G) : word_of (add_to s j v) k = word_of s k := by
  simp only [word_of, add_to]
  rw [Vector.getElem?_setIfInBounds_ne h.symm]

theorem add_to_self (s : Vector G n) {j : ℕ} (h : j < n) (v : G) : word_of (add_to s j v) j = word_of s j + v := by
  rw [word_of, add_to, Vector.getElem?_setIfInBounds_self_of_lt h, Option.getD_some]

theorem add_to_injective {s t : Vector G n} {j : ℕ} {v : G} (h : add_to s j v = add_to t j v) : s = t := by
  apply vector_ext
  intro k hk
  have e : word_of (add_to s j v) k = word_of (add_to t j v) k := by rw [h]
  by_cases hkj : k = j
  · subst hkj
    rw [add_to_self s hk, add_to_self t hk] at e
    exact add_right_cancel e
  · rwa [add_to_ne s hkj, add_to_ne t hkj] at e

/-- A step: the word at `j` grows by what `f` makes of the word at `i`. -/
def mix (j i : ℕ) (f : G → G) (s : Vector G n) : Vector G n := add_to s j (f (word_of s i))

/-- A step is undone by looking at the word it was made of. -/
theorem mix_injective (n : ℕ) {j i : ℕ} (h : i ≠ j) (f : G → G) :
    Function.Injective fun s : Vector G n => mix j i f s := by
  intro s t e
  have e : add_to s j (f (word_of s i)) = add_to t j (f (word_of t i)) := e
  have same : word_of s i = word_of t i := by
    rw [← add_to_ne s h (f (word_of s i)), ← add_to_ne t h (f (word_of t i)), e]
  rw [same] at e
  exact add_to_injective e

end Mixing
