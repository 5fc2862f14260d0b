import LinuxDriver.Lib.Runs
import Mathlib.Data.List.Count
import Mathlib.Logic.Function.Basic
/-!
# Ledgers

A ledger says of each resource whether it is held, and a list of entries says
what is acquired, released and used. The entries are balanced if nothing is
acquired that is held already, and nothing is released or used that is not.
Entries about a part of the resources can be read in the ledger of that part.
-/

namespace Ledger

variable {ρ τ : Type*}

/-- A resource is acquired, released or used. -/
inductive Entry (ρ : Type*)
  | acquire (r : ρ)
  | release (r : ρ)
  | use (r : ρ)
  deriving DecidableEq

/-- The entry of another ledger. -/
def Entry.map (f : ρ → τ) : Entry ρ → Entry τ
  | acquire r => acquire (f r)
  | release r => release (f r)
  | use r => use (f r)

variable [DecidableEq ρ] [DecidableEq τ] {held : ρ → Bool} {entries : List (Entry ρ)}

/-- The ledger after an entry. -/
def post (held : ρ → Bool) : Entry ρ → ρ → Bool
  | .acquire r => Function.update held r true
  | .release r => Function.update held r false
  | .use _ => held

/-- What is acquired was not held, and what is released or used was. -/
def Proper (held : ρ → Bool) : Entry ρ → Prop
  | .acquire r => held r = false
  | .release r => held r = true
  | .use r => held r = true

instance (held : ρ → Bool) (e : Entry ρ) : Decidable (Proper held e) := by
  cases e <;> exact inferInstanceAs (Decidable (_ = _))

/-- Every entry is proper where it stands. -/
def Balanced (held : ρ → Bool) (entries : List (Entry ρ)) : Prop := Runs.Meets post Proper held entries

instance (held : ρ → Bool) (entries : List (Entry ρ)) : Decidable (Balanced held entries) :=
  inferInstanceAs (Decidable (Runs.Meets ..))

/-- The ledger after all entries. -/
def settle (held : ρ → Bool) (entries : List (Entry ρ)) : ρ → Bool := Runs.run post held entries

theorem Proper.count {e : Entry ρ} (h : Proper held e) (r : ρ) :
    [e].count (.acquire r) + (held r).toNat = [e].count (.release r) + (post held e r).toNat := by
  cases e with
  | acquire r' =>
    have h : held r' = false := h
    by_cases hr : r' = r
    · subst hr
      simp [post, h]
    · simp [post, hr, Function.update_of_ne (Ne.symm hr)]
  | release r' =>
    have h : held r' = true := h
    by_cases hr : r' = r
    · subst hr
      simp [post, h]
    · simp [post, hr, Function.update_of_ne (Ne.symm hr)]
  | use r' => simp [post]

/-- What was held or is acquired is released or still held. -/
theorem Balanced.count (h : Balanced held entries) (r : ρ) :
    entries.count (.acquire r) + (held r).toNat = entries.count (.release r) + (settle held entries r).toNat := by
  induction entries generalizing held with
  | nil => rfl
  | cons e entries ih =>
    have hfirst := h.1.count r
    have hrest := ih h.2
    have hsettle : settle held (e :: entries) = settle (post held e) entries := rfl
    rw [hsettle, ← List.singleton_append, List.count_append, List.count_append]
    omega

/-- A list that acquires nothing releases what it makes not held, once. -/
theorem Balanced.release_once (h : Balanced held entries) {r : ρ} (hn : .acquire r ∉ entries) (hr : held r = true)
    (hs : settle held entries r = false) : entries.count (.release r) = 1 := by
  have hcount := h.count r
  rw [List.count_eq_zero.2 hn, hr, hs] at hcount
  exact hcount.symm

/-! ## A part of the resources -/

section
variable {f : ρ → τ} (hf : Function.Injective f) (held : τ → Bool)
include hf

theorem post_map (e : Entry ρ) : post held (e.map f) ∘ f = post (held ∘ f) e := by
  cases e with
  | acquire r => exact Function.update_comp_eq_of_injective held hf r true
  | release r => exact Function.update_comp_eq_of_injective held hf r false
  | use r => rfl

theorem settle_map (entries : List (Entry ρ)) : settle held (entries.map (Entry.map f)) ∘ f = settle (held ∘ f) entries := by
  induction entries generalizing held with
  | nil => rfl
  | cons e entries ih =>
    have hrest := ih (post held (e.map f))
    rw [post_map hf] at hrest
    exact hrest

theorem balanced_map (entries : List (Entry ρ)) :
    Balanced held (entries.map (Entry.map f)) ↔ Balanced (held ∘ f) entries := by
  induction entries generalizing held with
  | nil => exact Iff.rfl
  | cons e entries ih =>
    have hproper : Proper held (e.map f) ↔ Proper (held ∘ f) e := by
      cases e <;> exact Iff.rfl
    have hrest := ih (post held (e.map f))
    rw [post_map hf] at hrest
    exact and_congr hproper hrest

end

omit [DecidableEq ρ] in
/-- The other resources are left alone. -/
theorem settle_outside {f : ρ → τ} (held : τ → Bool) (entries : List (Entry ρ)) {t : τ} (ht : ∀ r, f r ≠ t) :
    settle held (entries.map (Entry.map f)) t = held t := by
  induction entries generalizing held with
  | nil => rfl
  | cons e entries ih =>
    have hpost : post held (e.map f) t = held t := by
      cases e with
      | acquire r => exact Function.update_of_ne (Ne.symm (ht r)) true held
      | release r => exact Function.update_of_ne (Ne.symm (ht r)) false held
      | use r => rfl
    exact (ih (post held (e.map f))).trans hpost

end Ledger
