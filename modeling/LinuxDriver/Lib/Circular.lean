import Mathlib.Data.List.Basic
import Mathlib.Data.List.Nodup
import Mathlib.Data.Nat.Notation
import Mathlib.Logic.Function.Basic
/-!
# Cells used in turn

A bank of `n` cells used round robin: the next thing goes to the cell after the
last one used, and the oldest is taken out first. The cells hold a queue, in
their order from some first one on; one whose turn it was may have been left
empty, and all other cells are empty.
-/

namespace Circular

variable {α : Type*} {n first : ℕ} {cell : ℕ → Option α} {l : List (Option α)} {o : Option α}

/-- The cells from `first` on hold the queue. -/
structure Holds (n first : ℕ) (cell : ℕ → Option α) (l : List (Option α)) : Prop where
  room : l.length ≤ n
  held : ∀ k (h : k < l.length), cell ((first + k) % n) = l[k]
  free : ∀ i < n, (∀ k < l.length, i ≠ (first + k) % n) → cell i = none

theorem holds_nil (h : ∀ i < n, cell i = none) : Holds n first cell [] where
  room := Nat.zero_le _
  held k h := absurd h (Nat.not_lt_zero k)
  free i hi _ := h i hi

/-- The cells in use, oldest first. -/
def window (n first len : ℕ) : List ℕ := (List.range len).map fun k => (first + k) % n

theorem length_window (n first len : ℕ) : (window n first len).length = len := by
  rw [window, List.length_map, List.length_range]

theorem window_succ (n first len : ℕ) : window n first (len + 1) = window n first len ++ [(first + len) % n] := by
  rw [window, window, List.range_succ, List.map_append, List.map_singleton]

theorem window_cons (n first len : ℕ) : window n first (len + 1) = first % n :: window n (first + 1) len := by
  rw [window, window, List.range_succ_eq_map, List.map_cons, List.map_map]
  refine congrArg (first % n :: ·) (List.map_congr_left fun k _ => ?_)
  rw [Function.comp_apply, show first + (k + 1) = first + 1 + k by omega]

/-- Two places of a window no longer than the bank are two cells. -/
theorem apart {j k len : ℕ} (hlen : len ≤ n) (hj : j < len) (hk : k < len) (h : (first + j) % n = (first + k) % n) :
    j = k := by
  have le {j k : ℕ} (hk : k < len) (h : (first + j) % n = (first + k) % n) : k ≤ j := by
    have e := Nat.sub_mod_eq_zero_of_mod_eq h.symm
    rw [Nat.add_sub_add_left, Nat.mod_eq_of_lt (by omega)] at e
    exact Nat.le_of_sub_eq_zero e
  exact Nat.le_antisymm (le hj h.symm) (le hk h)

theorem nodup_window {len : ℕ} (hlen : len ≤ n) : (window n first len).Nodup := by
  refine List.Nodup.map_on (fun j hj k hk e => ?_) List.nodup_range
  exact apart hlen (List.mem_range.1 hj) (List.mem_range.1 hk) e

/-- Once all cells are in use, the next one in turn is in use. -/
theorem next_mem_window (hn : 0 < n) : (first + n) % n ∈ window n first n := by
  refine List.mem_map.2 ⟨0, List.mem_range.2 hn, ?_⟩
  rw [Nat.add_zero, Nat.add_mod_right]

theorem Holds.map_window (h : Holds n first cell l) : (window n first l.length).map cell = l := by
  refine List.ext_getElem (by rw [List.length_map, length_window]) fun k h1 h2 => ?_
  simp only [window, List.getElem_map, List.getElem_range]
  exact h.held k h2

theorem Holds.next_free (h : Holds n first cell l) (hl : l.length < n) : cell ((first + l.length) % n) = none := by
  apply h.free
  · exact Nat.mod_lt _ (by omega)
  · intro k hk e
    have := apart (Nat.succ_le_of_lt hl) (by omega) (by omega) e
    omega

/-- With all cells in use and none left empty, there is something in the next one in turn. -/
theorem Holds.next_taken (h : Holds n first cell l) (hn : 0 < n) (hl : l.length = n) (hs : none ∉ l) :
    cell ((first + l.length) % n) ≠ none := by
  have e : (first + l.length) % n = (first + 0) % n := by rw [hl, Nat.add_mod_right, Nat.add_zero]
  rw [e, h.held 0 (by omega)]
  exact fun hnone => hs (hnone ▸ List.getElem_mem _)

theorem Holds.push (h : Holds n first cell l) (hl : l.length < n) :
    Holds n first (Function.update cell ((first + l.length) % n) o) (l ++ [o]) where
  room := by rwa [List.length_append, List.length_singleton, Nat.succ_le_iff]
  held k hk := by
    rw [List.length_append, List.length_singleton] at hk
    rcases Nat.lt_succ_iff_lt_or_eq.1 hk with hk | rfl
    · have hne : (first + k) % n ≠ (first + l.length) % n := fun e =>
        absurd (apart (Nat.succ_le_of_lt hl) (by omega) (by omega) e) (by omega)
      rw [Function.update_of_ne hne, h.held k hk, List.getElem_append_left hk]
    · rw [Function.update_self, List.getElem_concat_length rfl]
  free i hi hfree := by
    have hne : i ≠ (first + l.length) % n := hfree l.length (by simp)
    rw [Function.update_of_ne hne]
    exact h.free i hi fun k hk => hfree k (by simp; omega)

theorem Holds.head (h : Holds n first cell (o :: l)) : cell (first % n) = o := h.held 0 (by simp)

theorem Holds.pop (h : Holds n first cell (o :: l)) : Holds n (first + 1) (Function.update cell (first % n) none) l where
  room := Nat.le_of_succ_le h.room
  held k hk := by
    have hk' : k + 1 < (o :: l).length := by simpa using hk
    have hne : (first + (k + 1)) % n ≠ first % n := fun e => absurd (apart h.room hk' (Nat.succ_pos _) e) (Nat.succ_ne_zero k)
    rw [show first + 1 + k = first + (k + 1) by omega, Function.update_of_ne hne, h.held (k + 1) hk', List.getElem_cons_succ]
  free i hi hfree := by
    by_cases e : i = first % n
    · rw [e, Function.update_self]
    · rw [Function.update_of_ne e]
      refine h.free i hi fun k hk => ?_
      cases k with
      | zero => exact e
      | succ k =>
        have := hfree k (by simpa using hk)
        rwa [show first + 1 + k = first + (k + 1) by omega] at this

end Circular
