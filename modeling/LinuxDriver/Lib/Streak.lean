import Mathlib.Data.List.Basic
import Mathlib.Tactic.Common
/-!
# Streaks of equal readings

A streak is a reference value and the number of readings after it that equalled
it. Whatever was read before, the last readings are the streak's.
-/

namespace Streaks

/-- The value last seen and how often it was seen in a row. -/
structure Streak (α : Type*) where
  value : α
  count : Nat

variable {α : Type*} {s : Streak α} {l : List α} {a : α}

/-- Another reading: one more of the same, or a new reference. -/
def Streak.feed [DecidableEq α] (s : Streak α) (a : α) : Streak α :=
  if s.value = a then { s with count := s.count + 1 } else ⟨a, 0⟩

/-- The history ends with the reference and the readings counted. -/
def Streak.Ends (s : Streak α) (l : List α) : Prop := List.replicate (s.count + 1) s.value <:+ l

theorem Streak.start_ends (l : List α) (a : α) : (⟨a, 0⟩ : Streak α).Ends (l ++ [a]) := ⟨l, rfl⟩

@[simp] theorem Streak.feed_value [DecidableEq α] (s : Streak α) (a : α) : (s.feed a).value = a := by
  unfold Streak.feed
  split
  · assumption
  · rfl

theorem Streak.feed_count_le [DecidableEq α] (s : Streak α) (a : α) : (s.feed a).count ≤ s.count + 1 := by
  unfold Streak.feed
  split
  · exact Nat.le_refl _
  · exact Nat.zero_le _

/-- The streak grows with the history. -/
theorem Streak.Ends.feed [DecidableEq α] (h : s.Ends l) (a : α) : (s.feed a).Ends (l ++ [a]) := by
  unfold Streak.feed
  split
  · rename_i ha
    obtain ⟨t, ht⟩ := h
    refine ⟨t, ?_⟩
    rw [List.replicate_succ', ← List.append_assoc, ht, ha]
  · exact start_ends l a

end Streaks
