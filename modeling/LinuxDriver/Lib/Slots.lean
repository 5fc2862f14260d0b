import Mathlib.Data.List.Basic
import Mathlib.Logic.Function.Basic
/-!
# Cells behind a cursor

A bank of cells of which one is selected; what is written goes there. To select
a number past the last cell has no effect. A sequence of records, each of which
selects a cell and changes it, acts on each cell by its own records alone, as
long as every number is in range.
-/

namespace Slots

variable {α ρ : Type*}

/-- The cells and the cursor that commands go to. -/
structure Bank (α : Type*) where
  cursor : ℕ
  cell : ℕ → α

namespace Bank

/-- The cursor moves to cell `i`, if there is one. -/
def select (b : Bank α) (n i : ℕ) : Bank α := if i < n then { b with cursor := i } else b

/-- The selected cell is changed. -/
def modify (b : Bank α) (f : α → α) : Bank α := { b with cell := Function.update b.cell b.cursor (f (b.cell b.cursor)) }

theorem select_of_lt (b : Bank α) {n i : ℕ} (h : i < n) : b.select n i = { b with cursor := i } := if_pos h

@[simp] theorem modify_modify (b : Bank α) (f g : α → α) : (b.modify f).modify g = b.modify fun a => g (f a) := by
  simp [modify]

theorem cell_modify (b : Bank α) (f : α → α) (i : ℕ) :
    (b.modify f).cell i = if i = b.cursor then f (b.cell i) else b.cell i := by
  dsimp only [modify]
  by_cases h : i = b.cursor
  · rw [if_pos h, h, Function.update_self]
  · rw [if_neg h, Function.update_of_ne h]

/-- A record changes the cell it names. -/
theorem cell_select_modify (b : Bank α) {n j : ℕ} (h : j < n) (f : α → α) (i : ℕ) :
    ((b.select n j).modify f).cell i = if i = j then f (b.cell i) else b.cell i := by
  rw [select_of_lt b h, cell_modify]

end Bank

/-- If each record changes the cell it names and no other, a cell goes through
its own records, in their order. `I` is what the records need and keep. -/
theorem cell_foldl {σ : Type*} {cell : σ → ℕ → α} {put : σ → ρ → σ} {key : ρ → ℕ} {act : ρ → α → α} {I : σ → Prop}
    {records : List ρ} (hI : ∀ s r, I s → I (put s r))
    (hput : ∀ s, I s → ∀ r ∈ records, ∀ i, cell (put s r) i = if i = key r then act r (cell s i) else cell s i)
    {s : σ} (h0 : I s) (i : ℕ) :
    cell (records.foldl put s) i = (records.filter fun r => key r = i).foldl (fun a r => act r a) (cell s i) := by
  induction records generalizing s with
  | nil => rfl
  | cons r records ih =>
    have hrest := ih (fun s hs r hr => hput s hs r (List.mem_cons_of_mem _ hr)) (hI s r h0)
    rw [List.foldl_cons, hrest, hput s h0 r List.mem_cons_self, List.filter_cons]
    by_cases h : key r = i
    · rw [if_pos h.symm, if_pos (decide_eq_true h), List.foldl_cons]
    · rw [if_neg (Ne.symm h), if_neg (by simpa using h)]

end Slots
