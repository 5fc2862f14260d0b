import Mathlib.Logic.Basic
/-!
# Runs of a step function

A system is a state and a total step function; a run is the list of inputs it
takes. `visited` lists every state of a run, `Meets` says that every step of a
run satisfies a relation between the state it is taken from and its input.
The rules below turn a fact about one step into a fact about every run.
-/

namespace Runs

variable {σ α : Type*} (step : σ → α → σ)

/-- The state after the inputs. -/
def run (s : σ) (as : List α) : σ := as.foldl step s

/-- Every state of the run, the first one included. -/
def visited : σ → List α → List σ
  | s, [] => [s]
  | s, a :: as => s :: visited (step s a) as

/-- Every step of the run satisfies `C`. -/
def Meets (C : σ → α → Prop) : σ → List α → Prop
  | _, [] => True
  | s, a :: as => C s a ∧ Meets C (step s a) as

@[simp] theorem run_nil (s : σ) : run step s [] = s := rfl
@[simp] theorem run_cons (s : σ) (a : α) (as : List α) : run step s (a :: as) = run step (step s a) as := rfl
@[simp] theorem meets_nil (C : σ → α → Prop) (s : σ) : Meets step C s [] := trivial
@[simp] theorem meets_cons (C : σ → α → Prop) (s : σ) (a : α) (as : List α) :
    Meets step C s (a :: as) ↔ C s a ∧ Meets step C (step s a) as := Iff.rfl

theorem run_append (s : σ) (as bs : List α) : run step s (as ++ bs) = run step (run step s as) bs :=
  List.foldl_append

variable {step}

/-- Whether a concrete run meets a decidable relation can be computed. -/
def Meets.dec (C : σ → α → Prop) [hd : ∀ s a, Decidable (C s a)] : (s : σ) → (as : List α) → Decidable (Meets step C s as)
  | _, [] => .isTrue trivial
  | s, a :: as =>
    have := hd s a
    have := Meets.dec C (step s a) as
    inferInstanceAs (Decidable (C s a ∧ Meets step C (step s a) as))

instance (C : σ → α → Prop) [∀ s a, Decidable (C s a)] (s : σ) (as : List α) : Decidable (Meets step C s as) :=
  Meets.dec C s as

theorem mem_visited_self (s : σ) (as : List α) : s ∈ visited step s as := by
  cases as <;> simp [visited]

theorem run_mem_visited (s : σ) (as : List α) : run step s as ∈ visited step s as := by
  induction as generalizing s with
  | nil => exact List.mem_cons_self
  | cons a as ih => exact List.mem_cons_of_mem _ (ih _)

/-- The state after one more step is visited. -/
theorem step_mem_visited (s : σ) (as : List α) (a : α) : step (run step s as) a ∈ visited step s (as ++ [a]) := by
  have h : run step s (as ++ [a]) ∈ visited step s (as ++ [a]) := run_mem_visited s _
  rwa [run_append] at h

theorem Meets.append {C : σ → α → Prop} {s : σ} {as bs : List α} :
    Meets step C s (as ++ bs) ↔ Meets step C s as ∧ Meets step C (run step s as) bs := by
  induction as generalizing s with
  | nil => simp
  | cons a as ih => simp [ih, and_assoc]

/-! ## From one step to every run -/

variable {I : σ → Prop} {C P : σ → α → Prop}

/-- An invariant kept by every step that meets `C` holds in every state of a
run whose steps meet `C`. -/
theorem Meets.visited_inv (hs : ∀ s a, I s → C s a → I (step s a)) {s : σ} {as : List α}
    (h0 : I s) (h : Meets step C s as) : ∀ t ∈ visited step s as, I t := by
  induction as generalizing s with
  | nil => simpa [visited] using h0
  | cons a as ih =>
    intro t ht
    rcases List.mem_cons.1 ht with rfl | ht
    · exact h0
    · exact ih (hs s a h0 h.1) h.2 t ht

theorem meets_of_forall (hp : ∀ s a, P s a) (s : σ) (as : List α) : Meets step P s as := by
  induction as generalizing s with
  | nil => trivial
  | cons a as ih => exact ⟨hp s a, ih _⟩

theorem visited_inv (hs : ∀ s a, I s → I (step s a)) {s : σ} (as : List α) (h0 : I s) :
    ∀ t ∈ visited step s as, I t :=
  (meets_of_forall (fun _ _ => trivial) s as : Meets step (fun _ _ => True) s as).visited_inv (fun s a h _ => hs s a h) h0

/-- What steps that meet `C` never end holds of the last state, if it holds of any. -/
theorem Meets.run_of_visited (hs : ∀ s a, I s → C s a → I (step s a)) {s t : σ} {as : List α} (h : Meets step C s as)
    (ht : t ∈ visited step s as) (h0 : I t) : I (run step s as) := by
  induction as generalizing s with
  | nil =>
    obtain rfl := List.mem_singleton.1 ht
    exact h0
  | cons a as ih =>
    rcases List.mem_cons.1 ht with rfl | ht
    · exact h.visited_inv hs h0 _ (run_mem_visited ..)
    · exact ih h.2 ht

/-- Under an invariant that steps meeting `C` keep, a fact about one step
holds of every step of a run whose steps meet `C`. -/
theorem Meets.imp (hs : ∀ s a, I s → C s a → I (step s a)) (hp : ∀ s a, I s → C s a → P s a)
    {s : σ} {as : List α} (h0 : I s) (h : Meets step C s as) : Meets step P s as := by
  induction as generalizing s with
  | nil => trivial
  | cons a as ih => exact ⟨hp s a h0 h.1, ih (hs s a h0 h.1) h.2⟩

/-- A relation that looks at the inputs only holds of a run if it holds of each input. -/
theorem meets_inputs {D : α → Prop} (s : σ) (as : List α) : Meets step (fun _ a => D a) s as ↔ ∀ a ∈ as, D a := by
  induction as generalizing s with
  | nil => simp
  | cons a as ih => rw [meets_cons, ih, List.forall_mem_cons]

/-- What steps never end holds of the last state, if it holds of any. -/
theorem run_of_visited {R : σ → Prop} (hr : ∀ s a, R s → R (step s a)) {s t : σ} {as : List α} (ht : t ∈ visited step s as)
    (h : R t) : R (run step s as) :=
  (meets_of_forall (fun _ _ => trivial) s as : Meets step (fun _ _ => True) s as).run_of_visited (fun s a h _ => hr s a h) ht h

/-- Two relations that agree at every state of an invariant hold of the same runs. -/
theorem meets_congr_inv (hs : ∀ s a, I s → I (step s a)) (hp : ∀ s a, I s → (P s a ↔ C s a))
    {s : σ} (as : List α) (h0 : I s) : Meets step P s as ↔ Meets step C s as := by
  induction as generalizing s with
  | nil => exact Iff.rfl
  | cons a as ih => rw [meets_cons, meets_cons, hp s a h0, ih (hs s a h0)]

theorem meets_congr (hp : ∀ s a, P s a ↔ C s a) (s : σ) (as : List α) : Meets step P s as ↔ Meets step C s as :=
  meets_congr_inv (fun _ _ _ => trivial) (fun s a (_ : True) => hp s a) as trivial

/-- Let `I` be an invariant of the steps that meet `C` which implies `G`, and
let every other step from a state of `I` leave `G`. Then a run visits only
states of `G` exactly when all its steps meet `C`. -/
theorem visited_iff_meets {G : σ → Prop} (hg : ∀ s, I s → G s) (hs : ∀ s a, I s → C s a → I (step s a))
    (hx : ∀ s a, I s → ¬C s a → ¬G (step s a)) {s : σ} (as : List α) (h0 : I s) :
    (∀ t ∈ visited step s as, G t) ↔ Meets step C s as := by
  induction as generalizing s with
  | nil => simpa [visited] using hg s h0
  | cons a as ih =>
    simp only [visited, List.forall_mem_cons, hg s h0, true_and, meets_cons]
    constructor
    · intro h
      have hc : C s a := by
        refine not_not.1 fun hc => ?_
        exact hx s a h0 hc (h _ (mem_visited_self _ _))
      exact ⟨hc, (ih (hs s a h0 hc)).1 h⟩
    · rintro ⟨hc, h⟩
      exact (ih (hs s a h0 hc)).2 h

/-- Let `Q` be a property of runs that passes to what is left of a run. If a step that does not meet `C` makes sure
that no run from there which ends in `R` has it, then a run that has it and ends in `R` meets `C` all the way. -/
theorem Meets.of_end {Q : σ → List α → Prop} {R : σ → Prop} (hq : ∀ s a as, Q s (a :: as) → Q (step s a) as)
    (hs : ∀ s a, I s → C s a → I (step s a))
    (hx : ∀ s a as, I s → ¬C s a → R (run step (step s a) as) → ¬Q s (a :: as))
    {s : σ} {as : List α} (h0 : I s) (hr : R (run step s as)) (h : Q s as) : Meets step C s as := by
  induction as generalizing s with
  | nil => trivial
  | cons a as ih =>
    have hc : C s a := by
      refine not_not.1 fun hc => ?_
      exact hx s a as h0 hc hr h
    exact ⟨hc, ih (hs s a h0 hc) hr (hq s a as h)⟩

/-! ## Simulation -/

/-- A relation that looks at one part of the state, which takes its own steps, is a relation on the runs of that part. -/
theorem meets_map {τ : Type*} {step' : τ → α → τ} {f : σ → τ} {D : τ → α → Prop}
    (hf : ∀ s a, f (step s a) = step' (f s) a) (s : σ) (as : List α) :
    Meets step (fun s a => D (f s) a) s as ↔ Meets step' D (f s) as := by
  induction as generalizing s with
  | nil => exact Iff.rfl
  | cons a as ih => rw [meets_cons, meets_cons, ih, hf]

/-- If every step of one system shows, through `f`, as a run of another, so does every run. -/
theorem run_simulates {τ β : Type*} {step' : τ → β → τ} {f : σ → τ}
    (hs : ∀ s a, ∃ bs, f (step s a) = run step' (f s) bs) (s : σ) (as : List α) :
    ∃ bs, f (run step s as) = run step' (f s) bs := by
  induction as generalizing s with
  | nil => exact ⟨[], rfl⟩
  | cons a as ih =>
    obtain ⟨bs, hb⟩ := hs s a
    obtain ⟨cs, hc⟩ := ih (step s a)
    exact ⟨bs ++ cs, by rw [run_cons, hc, hb, run_append]⟩

/-- If a relation holds of a step that meets `C` again after some inputs of another system, whose steps all meet `D`, it
can be kept along every run that meets `C`. -/
theorem Meets.simulates {τ β : Type*} {step' : τ → β → τ} {D : τ → β → Prop} {R : σ → τ → Prop}
    (hs : ∀ s t a, R s t → C s a → ∃ bs, Meets step' D t bs ∧ R (step s a) (run step' t bs)) {s : σ} {t : τ} {as : List α}
    (h : Meets step C s as) (hr : R s t) : ∃ bs, Meets step' D t bs ∧ R (run step s as) (run step' t bs) := by
  induction as generalizing s t with
  | nil => exact ⟨[], trivial, hr⟩
  | cons a as ih =>
    obtain ⟨bs, hb, hr⟩ := hs s t a hr h.1
    obtain ⟨cs, hc, hr⟩ := ih h.2 hr
    exact ⟨bs ++ cs, Meets.append.2 ⟨hb, hc⟩, by rwa [run_append]⟩

/-- As above, of every run. -/
theorem exists_meets_of_simulates {τ β : Type*} {step' : τ → β → τ} {D : τ → β → Prop} {R : σ → τ → Prop}
    (hs : ∀ s t a, R s t → ∃ bs, Meets step' D t bs ∧ R (step s a) (run step' t bs)) {s : σ} {t : τ} (as : List α)
    (h : R s t) : ∃ bs, Meets step' D t bs ∧ R (run step s as) (run step' t bs) :=
  (meets_of_forall (fun _ _ => trivial) s as : Meets step (fun _ _ => True) s as).simulates
    (fun s t a hr _ => hs s t a hr) h

end Runs
