import Mathlib.Data.Finset.Card
import LinuxDriver.Lib.Runs
/-!
# Guards that let one caller in

Any number of callers try to get past a guard. A call tests the guard in one
atomic step; a refused call makes one more step before it returns, and a caller
that got in leaves at some time. `tryLock` is the guard everybody means: it
refuses exactly when somebody is inside. The rules below compare other guards
with it over every interleaving.
-/

namespace Guards

variable {γ δ ι : Type*} [DecidableEq ι]

/-- A guard: the test of a call and its answer, the second step of a refused call, and the way out. -/
structure Guard (γ : Type*) where
  enter : γ → γ × Bool
  undo : γ → γ
  leave : γ → γ

/-- Who has been refused and not yet returned, and who is inside. -/
structure Callers (ι : Type*) where
  refused : Finset ι
  inside : Finset ι

/-- The callers and the guard that they take and give back. -/
structure State (γ ι : Type*) extends Callers ι where
  guard : γ

/-- One atomic step of one caller. -/
inductive Act (ι : Type*)
  | enter (i : ι)
  | undo (i : ι)
  | leave (i : ι)

/-- The caller is inside or on its way out after a refusal. -/
def Callers.busy (c : Callers ι) (i : ι) : Prop := i ∈ c.refused ∨ i ∈ c.inside

instance (c : Callers ι) (i : ι) : Decidable (c.busy i) := inferInstanceAs (Decidable (_ ∨ _))

/-- The guard answers a call. -/
def answer (s : State γ ι) (i : ι) (r : γ × Bool) : State γ ι :=
  if r.2 then { s with guard := r.1, inside := insert i s.inside }
  else { s with guard := r.1, refused := insert i s.refused }

/-- A step that its caller cannot take changes nothing. -/
def step (G : Guard γ) (s : State γ ι) : Act ι → State γ ι
  | .enter i => if s.busy i then s else answer s i (G.enter s.guard)
  | .undo i => if i ∈ s.refused then { s with guard := G.undo s.guard, refused := s.refused.erase i } else s
  | .leave i => if i ∈ s.inside then { s with guard := G.leave s.guard, inside := s.inside.erase i } else s

/-- Nobody is there. -/
def free (g : γ) : State γ ι := { guard := g, refused := ∅, inside := ∅ }

/-- The guard everybody means. -/
def tryLock : Guard Bool where
  enter locked := (true, !locked)
  undo := id
  leave _ := false

/-! ## Guards that count -/

/-- What a guard's value says about how many calls are refused and how many callers are inside. -/
structure Counts (G : Guard γ) (R : γ → ℕ → ℕ → Prop) : Prop where
  one : ∀ {g r n}, R g r n → n ≤ 1
  lets_in : ∀ {g r n}, R g r n → (G.enter g).2 = true → R (G.enter g).1 r (n + 1)
  refuse : ∀ {g r n}, R g r n → (G.enter g).2 = false → R (G.enter g).1 (r + 1) n
  undo : ∀ {g r n}, R g (r + 1) n → R (G.undo g) r n
  leave : ∀ {g r n}, R g r (n + 1) → R (G.leave g) r n

/-- The guard stands in `R` to how many were refused and how many are inside. -/
def Counted (R : γ → ℕ → ℕ → Prop) (s : State γ ι) : Prop := R s.guard s.refused.card s.inside.card

variable {G : Guard γ} {H : Guard δ} {R : γ → ℕ → ℕ → Prop} {Q : δ → ℕ → ℕ → Prop}

theorem Counts.step (h : Counts G R) (s : State γ ι) (a : Act ι) (hs : Counted R s) : Counted R (step G s a) := by
  unfold Guards.step
  cases a with
  | enter i =>
    dsimp only
    split
    · exact hs
    · rename_i hb
      obtain ⟨hr, hi⟩ := not_or.1 hb
      unfold answer Counted
      cases he : (G.enter s.guard).2 with
      | true =>
        have hc : (insert i s.inside).card = s.inside.card + 1 := Finset.card_insert_of_notMem hi
        simpa [hc] using h.lets_in hs he
      | false =>
        have hc : (insert i s.refused).card = s.refused.card + 1 := Finset.card_insert_of_notMem hr
        simpa [hc] using h.refuse hs he
  | undo i =>
    dsimp only
    split
    · -- the caller counts before the step, and no more after it
      rename_i hi
      apply h.undo
      rw [Finset.card_erase_add_one hi]
      exact hs
    · exact hs
  | leave i =>
    dsimp only
    split
    · rename_i hi
      apply h.leave
      rw [Finset.card_erase_add_one hi]
      exact hs
    · exact hs

/-- Such a guard counts in every state, so it never lets two callers in. -/
theorem Counts.visited (h : Counts G R) {g : γ} (h0 : R g 0 0) (acts : List (Act ι)) :
    ∀ s ∈ Runs.visited (Guards.step G) (free g) acts, Counted R s :=
  Runs.visited_inv h.step acts h0

theorem tryLock_counts : Counts tryLock fun locked _ n => n = locked.toNat where
  one := by
    rintro locked _ n rfl
    exact locked.toNat_le
  lets_in := by
    rintro locked _ n rfl h
    simp [tryLock] at h ⊢
    simp [h]
  refuse := by
    rintro locked _ n rfl h
    simp [tryLock] at h ⊢
    simp [h]
  undo := by
    rintro locked r n h
    exact h
  leave := by
    rintro locked r n h
    have := locked.toNat_le
    simp [tryLock]
    omega

/-! ## Answers -/

/-- A call is let in exactly when nobody is inside. -/
def Fair (G : Guard γ) (s : State γ ι) : Act ι → Prop
  | .enter i => ¬s.busy i → ((G.enter s.guard).2 = true ↔ s.inside = ∅)
  | _ => True

instance (s : State γ ι) (a : Act ι) : Decidable (Fair G s a) := by
  unfold Fair
  cases a <;> infer_instance

/-- What becomes of the callers when each call is answered as it should be. -/
def Callers.next (c : Callers ι) : Act ι → Callers ι
  | .enter i =>
    if c.busy i then c
    else if c.inside = ∅ then { c with inside := insert i c.inside }
    else { c with refused := insert i c.refused }
  | .undo i => { c with refused := c.refused.erase i }
  | .leave i => { c with inside := c.inside.erase i }

/-- A fair step is the step everybody expects, and an unfair one shows. -/
theorem fair_iff (s : State γ ι) (a : Act ι) : Fair G s a ↔ (step G s a).toCallers = s.toCallers.next a := by
  unfold Fair step Callers.next
  cases a with
  | enter i =>
    dsimp only
    by_cases hb : s.busy i
    · simp [hb]
    · have hr : i ∉ s.refused := fun h => hb (Or.inl h)
      simp only [hb, not_false_eq_true, forall_const, if_false, answer]
      cases he : (G.enter s.guard).2 <;> by_cases hi : s.inside = ∅
      · -- refused although nobody is inside
        simp [hi, Finset.insert_ne_self.2 hr]
      · simp [hi]
      · simp [hi]
      · -- let in although somebody is inside
        have hn : i ∉ s.inside := fun h => hb (Or.inr h)
        simp [hi, hn]
  | undo i =>
    dsimp only
    split
    · simp
    · rename_i hi
      simp [Finset.erase_eq_of_notMem hi]
  | leave i =>
    dsimp only
    split
    · simp
    · rename_i hi
      simp [Finset.erase_eq_of_notMem hi]

/-- Every call that is refused and returns saw somebody else inside, at some
time between its two steps. -/
def Justified (G : Guard γ) (s : State γ ι) (acts : List (Act ι)) : Prop :=
  ∀ pre mid post i, acts = pre ++ .enter i :: (mid ++ .undo i :: post) → .undo i ∉ mid →
    i ∉ (Runs.run (step G) s pre).refused → i ∈ (step G (Runs.run (step G) s pre) (.enter i)).refused →
    ∃ t ∈ Runs.visited (step G) (step G (Runs.run (step G) s pre) (.enter i)) mid, ∃ j ∈ t.inside, j ≠ i

/-- What a refused call leaves as it is. -/
theorem refused_inside {s : State γ ι} {i : ι} (h0 : i ∉ s.refused) (h1 : i ∈ (step G s (.enter i)).refused) :
    i ∉ s.inside ∧ (step G s (.enter i)).inside = s.inside ∧ (G.enter s.guard).2 = false := by
  unfold step answer at h1 ⊢
  dsimp only at h1 ⊢
  by_cases hb : s.busy i
  · rw [if_pos hb] at h1
    exact absurd h1 h0
  · cases he : (G.enter s.guard).2 with
    | true =>
      rw [if_neg hb, he] at h1
      exact absurd h1 h0
    | false =>
      refine ⟨fun h => hb (Or.inr h), ?_, rfl⟩
      simp [hb]

theorem justified_of_fair {s : State γ ι} {acts : List (Act ι)} (h : Runs.Meets (step G) (Fair G) s acts) :
    Justified G s acts := by
  intro pre mid post i he _ h0 h1
  rw [he, Runs.Meets.append] at h
  obtain ⟨hi, hin, hf⟩ := refused_inside h0 h1
  have hfair := h.2.1 (not_or.2 ⟨h0, hi⟩)
  have hne : (Runs.run (step G) s pre).inside ≠ ∅ := by
    intro hn
    rw [hfair.2 hn] at hf
    cases hf
  obtain ⟨j, hj⟩ := Finset.nonempty_iff_ne_empty.2 hne
  refine ⟨_, Runs.mem_visited_self _ mid, j, ?_, ?_⟩
  · rwa [hin]
  · rintro rfl
    exact hi hj

/-! ## Two guards side by side -/

/-- Both guards see the same steps. -/
def both (G : Guard γ) (H : Guard δ) (p : State γ ι × State δ ι) (a : Act ι) : State γ ι × State δ ι :=
  (step G p.1 a, step H p.2 a)

/-- The guard gives every call the answer `tryLock` gives it at its first step. -/
def Linearizable (G : Guard γ) (g : γ) (acts : List (Act ι)) : Prop :=
  ∀ p ∈ Runs.visited (both G tryLock) (free g, free false) acts, p.1.toCallers = p.2.toCallers

omit [DecidableEq ι] in
theorem tryLock_fair {s : State Bool ι} (hs : Counted (fun locked _ n => n = locked.toNat) s) (a : Act ι) :
    Fair tryLock s a := by
  unfold Fair
  cases a with
  | enter i =>
    intro _
    have hc : s.inside.card = s.guard.toNat := hs
    rw [← Finset.card_eq_zero, hc]
    cases s.guard <;> simp [tryLock]
  | undo i => trivial
  | leave i => trivial

/-- A guard is as good as `tryLock` exactly in the runs whose steps are fair. -/
theorem linearizable_iff (g : γ) (acts : List (Act ι)) :
    Linearizable G g acts ↔ Runs.Meets (step G) (Fair G) (free g) acts := by
  have hm : Runs.Meets (both G tryLock) (fun p a => Fair G p.1 a) (free g, free false) acts ↔
      Runs.Meets (step G) (Fair G) (free g) acts :=
    Runs.meets_map (f := Prod.fst) (fun _ _ => rfl) _ acts
  rw [← hm]
  apply Runs.visited_iff_meets
    (I := fun p => p.1.toCallers = p.2.toCallers ∧ Counted (fun locked _ n => n = locked.toNat) p.2)
  · rintro p ⟨he, -⟩
    exact he
  · rintro ⟨s, t⟩ a ⟨he, hc⟩ hf
    refine ⟨?_, tryLock_counts.step t a hc⟩
    exact ((fair_iff s a).1 hf).trans (he ▸ ((fair_iff t a).1 (tryLock_fair hc a)).symm)
  · rintro ⟨s, t⟩ a ⟨he, hc⟩ hf heq
    apply hf
    apply (fair_iff s a).2
    have ht : (step tryLock t a).toCallers = t.toCallers.next a := (fair_iff t a).1 (tryLock_fair hc a)
    exact (heq.trans ht).trans (he ▸ rfl)
  · exact ⟨rfl, rfl⟩

end Guards
