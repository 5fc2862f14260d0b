import LinuxDriver.Lib.Guard
/-!
# One open at a time

The LED drivers `07_atomic` and `08_spinlock` let one process open the device
at a time. Callers are the open files: `enter` is the first atomic step of
`led_open`, `undo` the step a refused `led_open` makes before it returns
-EBUSY, and `leave` is `led_release`. A process that opens the device several
times is several callers.
-/

namespace Led

open Guards

variable {ι : Type*} [DecidableEq ι]

/-! ## `07_atomic` -/

namespace Atomic

/-- The kernel's: the new value, and whether it is 0. -/
def atomic_dec_and_test (lock : ℤ) : ℤ × Bool := (lock - 1, decide (lock - 1 = 0))

/-- The kernel's. -/
def atomic_inc (lock : ℤ) : ℤ := lock + 1

/-- `led_open` decrements `lock` and tests it; where the test fails it increments `lock` and returns. -/
def gpioled : Guard ℤ where
  enter := atomic_dec_and_test
  undo := atomic_inc
  leave := atomic_inc

/-- `led_init`: `atomic_set(&gpioled.lock, 1)`. -/
def led_init : State ℤ ι := free 1

/-- Each caller in the device and each refused one has taken 1 from `lock`. -/
def Taken (lock : ℤ) (r n : ℕ) : Prop := lock = 1 - r - n ∧ n ≤ 1

theorem counts : Counts gpioled Taken where
  one h := h.2
  lets_in := by
    rintro lock r n ⟨hl, hn⟩ ht
    have h0 : lock - 1 = 0 := of_decide_eq_true ht
    constructor
    · simp only [gpioled, atomic_dec_and_test]
      omega
    · omega
  refuse := by
    rintro lock r n ⟨hl, hn⟩ _
    simp only [Taken, gpioled, atomic_dec_and_test]
    omega
  undo := by
    rintro lock r n ⟨hl, hn⟩
    simp only [Taken, gpioled, atomic_inc]
    omega
  leave := by
    rintro lock r n ⟨hl, hn⟩
    simp only [Taken, gpioled, atomic_inc]
    omega

end Atomic

/-! ## `08_spinlock` -/

namespace Spinlock

/-- `led_open`, a single step under the spinlock. -/
def led_open (dev_stats : ℤ) : ℤ × Bool := if dev_stats ≠ 0 then (dev_stats, false) else (dev_stats + 1, true)

/-- `release` under the spin lock. -/
def led_release (dev_stats : ℤ) : ℤ := if dev_stats ≠ 0 then dev_stats - 1 else dev_stats

/-- A refused `led_open` only returns. -/
def gpioled : Guard ℤ where
  enter := led_open
  undo := id
  leave := led_release

/-- `gpioled` is zeroed. -/
def led_init : State ℤ ι := free 0

/-- `dev_stats` is the number of callers in the device. -/
def Taken (dev_stats : ℤ) (_ n : ℕ) : Prop := dev_stats = n ∧ n ≤ 1

theorem counts : Counts gpioled Taken where
  one h := h.2
  lets_in := by
    rintro dev_stats r n ⟨rfl, hn⟩ ht
    by_cases h0 : n = 0
    · subst h0
      simp [Taken, gpioled, led_open]
    · simp [gpioled, led_open, h0] at ht
  refuse := by
    rintro dev_stats r n ⟨rfl, hn⟩ ht
    by_cases h0 : n = 0
    · subst h0
      simp [gpioled, led_open] at ht
    · simpa [Taken, gpioled, led_open, h0] using hn
  undo h := h
  leave := by
    rintro dev_stats r n ⟨rfl, hn⟩
    obtain rfl : n = 0 := by omega
    simp [Taken, gpioled, led_release]

/-- `dev_stats` says whether somebody is in. -/
theorem fair {s : State ℤ ι} (hs : Counted Taken s) (a : Act ι) :
    Fair gpioled s a := by
  unfold Fair
  cases a with
  | enter i =>
    intro _
    have hc : s.guard = s.inside.card := hs.1
    rw [← Finset.card_eq_zero]
    simp [gpioled, led_open, hc, apply_ite]
  | undo i => trivial
  | leave i => trivial

theorem fair_run (acts : List (Act ι)) : Runs.Meets (step gpioled) (Fair gpioled) led_init acts := by
  have h : Runs.Meets (step gpioled) (fun _ _ => True) (led_init : State ℤ ι) acts :=
    Runs.meets_of_forall (fun _ _ => trivial) _ acts
  exact h.imp (I := Counted Taken) (fun s a hs _ => counts.step s a hs)
    (fun s a hs _ => fair hs a) ⟨rfl, Nat.zero_le 1⟩

end Spinlock

/-! ## Mutual exclusion -/

/-- At most one open is outstanding, and a driver nobody uses has its guard back at `start`. -/
structure Exclusive (start : ℤ) (s : State ℤ ι) : Prop where
  one : s.inside.card ≤ 1
  free : s.inside = ∅ → s.refused = ∅ → s.guard = start

/-- Both drivers, over every interleaving of any number of callers. -/
theorem opens_exclude (acts : List (Act ι)) :
    (∀ s ∈ Runs.visited (step Atomic.gpioled) Atomic.led_init acts, Exclusive 1 s) ∧
      ∀ s ∈ Runs.visited (step Spinlock.gpioled) Spinlock.led_init acts, Exclusive 0 s := by
  constructor
  · intro s hs
    obtain ⟨hl, hn⟩ := Atomic.counts.visited ⟨by simp, Nat.zero_le 1⟩ acts s hs
    refine ⟨hn, ?_⟩
    intro hi hr
    simpa [hi, hr] using hl
  · intro s hs
    obtain ⟨hl, hn⟩ := Spinlock.counts.visited ⟨rfl, Nat.zero_le 1⟩ acts s hs
    refine ⟨hn, ?_⟩
    intro hi _
    simpa [hi] using hl

/-! ## Refusals -/

/-- A call makes its decrement while nobody is in, but a refused call has not
yet given its own back. -/
def barges (s : State ℤ ι) : Act ι → Prop
  | .enter i => ¬s.busy i ∧ s.inside = ∅ ∧ s.refused ≠ ∅
  | _ => False

instance (s : State ℤ ι) (a : Act ι) : Decidable (barges s a) :=
  match a with
  | .enter _ => inferInstanceAs (Decidable (_ ∧ _))
  | .undo _ | .leave _ => inferInstanceAs (Decidable False)

/-- `07_atomic` answers every other call as it should. -/
theorem Atomic.fair_iff {s : State ℤ ι} (hs : Counted Taken s) (a : Act ι) :
    Fair gpioled s a ↔ ¬barges s a := by
  unfold Fair barges
  cases a with
  | enter i =>
    have hc : s.guard = 1 - s.refused.card - s.inside.card := hs.1
    have ht : (gpioled.enter s.guard).2 = true ↔ s.refused = ∅ ∧ s.inside = ∅ := by
      rw [← Finset.card_eq_zero, ← Finset.card_eq_zero]
      simp only [gpioled, atomic_dec_and_test, decide_eq_true_eq]
      omega
    rw [ht]
    tauto
  | undo i => simp
  | leave i => simp

/-- No call of either driver is refused while nobody else is in, and each
driver answers like a try-lock. -/
def OpensRight (acts : List (Act ι)) : Prop :=
  (Justified Atomic.gpioled Atomic.led_init acts ∧ Linearizable Atomic.gpioled 1 acts) ∧
    Justified Spinlock.gpioled Spinlock.led_init acts ∧ Linearizable Spinlock.gpioled 0 acts

/-- A run goes right exactly when no call of `07_atomic` barges into one that is being refused. -/
theorem opens_right_iff (acts : List (Act ι)) :
    OpensRight acts ↔ Runs.Meets (step Atomic.gpioled) (fun s a => ¬barges s a) Atomic.led_init acts := by
  have hf : Runs.Meets (step Atomic.gpioled) (Fair Atomic.gpioled) (Atomic.led_init : State ℤ ι) acts ↔
      Runs.Meets (step Atomic.gpioled) (fun s a => ¬barges s a) Atomic.led_init acts :=
    Runs.meets_congr_inv (fun s a hs => Atomic.counts.step s a hs) (fun s a hs => Atomic.fair_iff hs a) acts
      ⟨rfl, Nat.zero_le 1⟩
  rw [← hf]
  constructor
  · rintro ⟨⟨-, hl⟩, -⟩
    exact (linearizable_iff 1 acts).1 hl
  · intro h
    have hs := Spinlock.fair_run acts
    exact ⟨⟨justified_of_fair h, (linearizable_iff 1 acts).2 h⟩, justified_of_fair hs, (linearizable_iff 0 acts).2 hs⟩

/-- The holder leaves while a loser has not yet given its decrement back: the third caller finds the device free and is refused. -/
theorem loser_blocks_newcomer :
    ¬OpensRight ([.enter 0, .enter 1, .leave 0, .enter 2, .undo 2] : List (Act ℕ)) := by
  rintro ⟨⟨h, -⟩, -⟩
  obtain ⟨t, ht, j, hj, -⟩ := h [.enter 0, .enter 1, .leave 0] [] [] 2 rfl (by simp) (by decide) (by decide)
  have hn : t.inside = ∅ := by
    simp only [Runs.visited, List.mem_singleton] at ht
    rw [ht]
    decide
  rw [hn] at hj
  exact absurd hj (Finset.notMem_empty j)

end Led
