import Mathlib.Logic.Basic
/-!
# Append-only logs

A log is a list with the newest entry first. `Added p old new` says that `new`
is `old` with entries satisfying `p` on top; what a step adds is stated with it,
and what a statement about the whole log needs is read off with the rules below.
-/

namespace Trace

variable {ε β : Type*} {p q : ε → Prop} {old mid new : List ε}

/-- `new` is `old` with entries satisfying `p` on top. -/
def Added (p : ε → Prop) (old new : List ε) : Prop := ∃ l, new = l ++ old ∧ ∀ e ∈ l, p e

theorem Added.refl (old : List ε) : Added p old old := ⟨[], rfl, by simp⟩

theorem Added.of_eq (h : new = old) : Added p old new := h ▸ Added.refl new

theorem Added.cons {e : ε} (he : p e) (h : Added p old new) : Added p old (e :: new) := by
  obtain ⟨l, rfl, hl⟩ := h
  refine ⟨e :: l, rfl, ?_⟩
  intro x hx
  rcases List.mem_cons.1 hx with rfl | hx
  · exact he
  · exact hl x hx

theorem Added.trans (h₁ : Added p old mid) (h₂ : Added p mid new) : Added p old new := by
  obtain ⟨l₁, rfl, hl₁⟩ := h₁
  obtain ⟨l₂, rfl, hl₂⟩ := h₂
  refine ⟨l₂ ++ l₁, (List.append_assoc ..).symm, ?_⟩
  intro e he
  rcases List.mem_append.1 he with he | he
  · exact hl₂ e he
  · exact hl₁ e he

theorem Added.mono (hpq : ∀ e, p e → q e) (h : Added p old new) : Added q old new := by
  obtain ⟨l, rfl, hl⟩ := h
  exact ⟨l, rfl, fun e he => hpq e (hl e he)⟩

/-- A property closed under adding one entry is closed under adding many. -/
theorem Added.induct {R : List ε → Prop} (hR : ∀ e l, p e → R l → R (e :: l)) (h : Added p old new) (h0 : R old) :
    R new := by
  obtain ⟨l, rfl, hl⟩ := h
  induction l with
  | nil => exact h0
  | cons e l ih => exact hR e _ (hl e List.mem_cons_self) (ih fun x hx => hl x (List.mem_cons_of_mem _ hx))

/-- The newest value of `f` is not changed by entries on which `f` has none. -/
theorem Added.findSome?_eq {f : ε → Option β} (hf : ∀ e, p e → f e = none) (h : Added p old new) :
    new.findSome? f = old.findSome? f :=
  h.induct (R := fun l => l.findSome? f = old.findSome? f)
    (fun e l he hl => by rw [List.findSome?_cons, hf e he, hl]) rfl

/-! ## Entries that fit what came before -/

/-- Every entry stands in `f` to the log before it. -/
def Each (f : ε → List ε → Prop) : List ε → Prop
  | [] => True
  | e :: l => f e l ∧ Each f l

variable {f : ε → List ε → Prop}

@[simp] theorem each_nil : Each f [] := trivial
@[simp] theorem each_cons {e : ε} {l : List ε} : Each f (e :: l) ↔ f e l ∧ Each f l := Iff.rfl

/-- Whether a log fits together can be computed. -/
def Each.dec [hd : ∀ e l, Decidable (f e l)] : (l : List ε) → Decidable (Each f l)
  | [] => .isTrue trivial
  | e :: l =>
    have := hd e l
    have := Each.dec l
    inferInstanceAs (Decidable (f e l ∧ Each f l))

instance [∀ e l, Decidable (f e l)] (l : List ε) : Decidable (Each f l) := Each.dec l

theorem each_append {l l' : List ε} (h : Each f (l ++ l')) : Each f l' := by
  induction l with
  | nil => exact h
  | cons e l ih => exact ih h.2

/-- The entry at any place of the log fits the log before that place. -/
theorem Each.at {newer older : List ε} {e : ε} (h : Each f (newer ++ e :: older)) : f e older := (each_append h).1

/-- Entries that fit anywhere may be added. -/
theorem Added.each (hp : ∀ e l, p e → f e l) (h : Added p old new) (h0 : Each f old) : Each f new :=
  h.induct (R := Each f) (fun e l he hl => ⟨hp e l he, hl⟩) h0

end Trace
