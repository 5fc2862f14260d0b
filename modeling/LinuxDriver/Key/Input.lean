import LinuxDriver.Lib.Runs
/-!
# The debounced input key

`20_input`: an edge of the key line disables its interrupt and starts a timer;
the timer's function samples the line, reports the sample and enables the
interrupt again. An edge that comes while the interrupt is disabled stays
pending until then.
-/

namespace Key.Input

/-! ## The driver -/

/-- The edges that raise an interrupt. -/
structure Trigger where
  rising : Bool
  falling : Bool
  deriving DecidableEq

def IRQF_TRIGGER_NONE : Trigger := ⟨false, false⟩
def IRQF_TRIGGER_BOTH : Trigger := ⟨true, true⟩

/-- Where `key_timer_function` is. -/
inductive Callback
  | idle
  | started
  /-- `gpio_get_value` has returned this. -/
  | sampled (val : Bool)
  /-- `input_report_key` has returned. -/
  | reported
  /-- `enable_irq` has returned. -/
  | enabled
  deriving DecidableEq

/-- `pending` says whether an edge waits for the interrupt, `depth` is how often the interrupt is disabled. -/
structure KeyDev where
  irq_key : Nat
  irq_flags : Trigger
  level : Bool
  pending : Bool
  depth : Nat
  timer : Bool
  callback : Callback
  /-- What `input_report_key` was last given. -/
  reported : Bool

namespace KeyDev

/-- `irq_flags` of `key_gpio_init`; the device tree may give a trigger type. -/
def requested_flags (trigger_type : Trigger) : Trigger :=
  if trigger_type = IRQF_TRIGGER_NONE then IRQF_TRIGGER_BOTH else trigger_type

/-- The end of `atk_key_probe`, with the key up. -/
def atk_key_probe (irq_key : Nat) (trigger_type : Trigger) : KeyDev where
  irq_key := irq_key
  irq_flags := requested_flags trigger_type
  level := true
  pending := false
  depth := 0
  timer := false
  callback := .idle
  reported := false

/-- The new level makes an edge that the interrupt is set up for. -/
def raised (key : KeyDev) (level : Bool) : Bool :=
  key.irq_flags.rising && !key.level && level || key.irq_flags.falling && key.level && !level

/-- The line takes a level. -/
def line (key : KeyDev) (level : Bool) : KeyDev :=
  { key with level := level, pending := key.pending || key.raised level }

/-- The interrupt is disabled once more. -/
def disable_irq_nosync (key : KeyDev) : KeyDev := { key with depth := key.depth + 1 }

/-- The debounce timer is armed. -/
def mod_timer (key : KeyDev) : KeyDev := { key with timer := true }

/-- An interrupt that is not disabled stays as it is. -/
def enable_irq (key : KeyDev) : KeyDev := { key with depth := key.depth - 1 }

/-- The handler of the key's interrupt: disable it and wait for the key to settle. -/
def key_interrupt (key : KeyDev) (irq : Nat) : KeyDev :=
  if key.irq_key ≠ irq then key else mod_timer (disable_irq_nosync key)

/-- The next step of `key_timer_function`, which has been entered. -/
def key_timer_function (key : KeyDev) : KeyDev :=
  match key.callback with
  | .idle => key
  | .started => { key with callback := .sampled key.level }
  | .sampled val => { key with callback := .reported, reported := !val }
  | .reported => { key.enable_irq with callback := .enabled }
  | .enabled => { key with callback := .idle }

/-- The interrupt is taken. -/
def taken (key : KeyDev) : Bool := key.pending && key.depth == 0

/-- The timer expires. Its function does not run twice at a time. -/
def expires (key : KeyDev) : Bool := key.timer && key.callback == .idle

end KeyDev

/-- A change of the line, or one of the three parties takes a step. -/
inductive Event
  | line (level : Bool)
  | key_interrupt
  | expire
  | key_timer_function

/-- `key_interrupt` is one step, see `Split` below. -/
def step (key : KeyDev) : Event → KeyDev
  | .line level => key.line level
  | .key_interrupt => if key.taken then { key with pending := false }.key_interrupt key.irq_key else key
  | .expire => if key.expires then { key with timer := false, callback := .started } else key
  | .key_timer_function => key.key_timer_function

/-! ## What holds in every state -/

/-- `enable_irq` is still to come. -/
def Callback.disabled : Callback → Bool
  | .started | .sampled _ | .reported => true
  | _ => false

/-- The interrupt is disabled at most once, just while the timer or its callback is to enable it, and at rest what was
reported is the level of the line. -/
structure Balanced (key : KeyDev) : Prop where
  depth : key.depth = 0 ∨ key.depth = 1
  held : key.depth = 1 ↔ key.timer = true ∨ key.callback.disabled = true
  settled : key.timer = false → key.callback = .idle → key.pending = false → key.reported = !key.level

/-- `enable_irq` finds the interrupt disabled, and `mod_timer` the timer not pending. -/
structure Sound (key : KeyDev) (e : Event) : Prop where
  enable : e = .key_timer_function → key.callback = .reported → key.depth = 1
  arm : e = .key_interrupt → key.taken = true → key.timer = false

/-- The last sample is right unless an edge is pending, or another sample is to be taken. -/
def Callback.right (level reported : Bool) : Callback → Prop
  | .started => True
  | .sampled val => val = level
  | .idle | .reported | .enabled => reported = !level

/-- The invariant: who has disabled the interrupt, that no one does so twice, and where an edge that was not reported
yet is. -/
structure Kept (key : KeyDev) : Prop where
  flags : key.irq_flags = IRQF_TRIGGER_BOTH
  depth : key.depth = (key.timer || key.callback.disabled).toNat
  once : key.timer = true → key.callback.disabled = false
  right : key.timer = false → key.pending = false → key.callback.right key.level key.reported

variable {key : KeyDev}

theorem kept_probe (irq_key : Nat) {trigger_type : Trigger}
    (h : trigger_type = IRQF_TRIGGER_NONE ∨ trigger_type = IRQF_TRIGGER_BOTH) :
    Kept (.atk_key_probe irq_key trigger_type) where
  flags := by
    rcases h with rfl | rfl
    · rfl
    · rfl
  depth := rfl
  once h := by cases h
  right _ _ := rfl

/-- Without an edge the level is the one before. -/
theorem raised_both (hf : key.irq_flags = IRQF_TRIGGER_BOTH) (level : Bool) :
    key.raised level = (key.level != level) := by
  simp only [KeyDev.raised, hf, IRQF_TRIGGER_BOTH]
  cases key.level <;> cases level <;> rfl

theorem Kept.line (h : Kept key) (level : Bool) : Kept (key.line level) := by
  obtain ⟨hf, hd, ho, hr⟩ := h
  refine ⟨hf, hd, ho, ?_⟩
  intro ht hp
  simp only [KeyDev.line, raised_both hf, Bool.or_eq_false_iff, bne_eq_false_iff_eq] at hp ht ⊢
  obtain ⟨hp, rfl⟩ := hp
  exact hr ht hp

theorem Kept.key_interrupt (h : Kept key) (ht : key.taken = true) :
    Kept ({ key with pending := false }.key_interrupt key.irq_key) := by
  obtain ⟨hf, hd, _, _⟩ := h
  obtain ⟨_, h0⟩ := Bool.and_eq_true_iff.1 ht
  have h0 : key.depth = 0 := beq_iff_eq.1 h0
  have hi : (key.timer || key.callback.disabled) = false := by
    rw [h0] at hd
    cases hb : key.timer || key.callback.disabled
    · rfl
    · simp [hb] at hd
  obtain ⟨_, hc⟩ := Bool.or_eq_false_iff.1 hi
  have he : ({ key with pending := false }.key_interrupt key.irq_key) =
      { key with pending := false, depth := key.depth + 1, timer := true } := if_neg (not_not.2 rfl)
  rw [he]
  constructor
  · exact hf
  · simp [h0]
  · intro _
    exact hc
  · intro hn
    cases hn

theorem Kept.expire (h : Kept key) (he : key.expires = true) :
    Kept { key with timer := false, callback := .started } := by
  obtain ⟨ht, _⟩ := Bool.and_eq_true_iff.1 he
  constructor
  · exact h.flags
  · have hd := h.depth
    rw [ht] at hd
    exact hd
  · intro hn
    cases hn
  · intro _ _
    trivial

theorem Kept.key_timer_function (h : Kept key) : Kept key.key_timer_function := by
  obtain ⟨hf, hd, ho, hr⟩ := h
  unfold KeyDev.key_timer_function
  cases hc : key.callback with
  | idle => exact ⟨hf, hd, ho, hr⟩
  | started =>
    rw [hc] at hd ho hr
    exact ⟨hf, hd, ho, fun _ _ => rfl⟩
  | sampled val =>
    rw [hc] at hd ho hr
    refine ⟨hf, hd, ho, fun ht hp => ?_⟩
    obtain rfl : val = key.level := hr ht hp
    rfl
  | reported =>
    -- the interrupt is disabled once, and the timer is not pending
    rw [hc] at hd ho hr
    have ht : key.timer = false := by
      cases ht : key.timer
      · rfl
      · cases ho ht
    rw [ht] at hd
    refine ⟨hf, ?_, fun _ => rfl, hr⟩
    simp [KeyDev.enable_irq, hd, ht, Callback.disabled]
  | enabled =>
    rw [hc] at hd ho hr
    exact ⟨hf, hd, ho, hr⟩

theorem kept_step (key : KeyDev) (e : Event) (h : Kept key) : Kept (step key e) := by
  unfold step
  cases e with
  | line level => exact h.line level
  | key_interrupt =>
    dsimp only
    split
    · rename_i ht
      exact h.key_interrupt ht
    · exact h
  | expire =>
    dsimp only
    split
    · rename_i he
      exact h.expire he
    · exact h
  | key_timer_function => exact h.key_timer_function

theorem Kept.balanced (h : Kept key) : Balanced key := by
  have hd := h.depth
  constructor
  · cases hb : key.timer || key.callback.disabled <;> simp [hd, hb]
  · cases ht : key.timer <;> cases hc : key.callback.disabled <;> simp [hd, ht, hc]
  · intro ht hc hp
    have hr := h.right ht hp
    rw [hc] at hr
    exact hr

theorem Kept.sound (h : Kept key) (e : Event) : Sound key e := by
  constructor
  · rintro rfl hc
    rw [h.depth, hc]
    simp [Callback.disabled]
  · rintro rfl ht
    obtain ⟨_, h0⟩ := Bool.and_eq_true_iff.1 ht
    have hd := h.depth
    rw [beq_iff_eq.1 h0] at hd
    cases hb : key.timer
    · rfl
    · simp [hb] at hd

/-- Whatever the line does, the interrupt is disabled exactly while a sample is
due, and the last report is right once nothing is left to do. The device tree
asks for both edges, or leaves the choice to the driver. -/
theorem debounce_settles (irq_key : Nat) (trigger_type : Trigger)
    (h : trigger_type = IRQF_TRIGGER_NONE ∨ trigger_type = IRQF_TRIGGER_BOTH) (events : List Event) :
    (∀ key ∈ Runs.visited step (.atk_key_probe irq_key trigger_type) events, Balanced key) ∧
      Runs.Meets step Sound (.atk_key_probe irq_key trigger_type) events := by
  constructor
  · intro key hk
    exact (Runs.visited_inv kept_step events (kept_probe irq_key h) key hk).balanced
  · exact Runs.Meets.imp (fun key e hk _ => kept_step key e hk) (fun _ e hk _ => hk.sound e) (kept_probe irq_key h)
      (Runs.meets_of_forall (P := fun _ _ => True) (fun _ _ => trivial) _ events)

/-- The key bounces while its interrupt is disabled, and the driver chooses the edges. -/
theorem bounce_settles :
    (∀ key ∈ Runs.visited step (.atk_key_probe 7 IRQF_TRIGGER_NONE)
        [.line false, .key_interrupt, .expire, .key_timer_function, .line true, .line false, .key_timer_function],
      Balanced key) ∧
    Runs.Meets step Sound (.atk_key_probe 7 IRQF_TRIGGER_NONE)
      [.line false, .key_interrupt, .expire, .key_timer_function, .line true, .line false, .key_timer_function] :=
  debounce_settles 7 IRQF_TRIGGER_NONE (Or.inl rfl) _

/-- A device tree that asks for one edge only leaves the other one unreported. -/
theorem one_edge_unsettled :
    ¬Balanced (Runs.run step (.atk_key_probe 7 ⟨false, true⟩)
      ([.line false, .key_interrupt, .expire] ++ List.replicate 4 .key_timer_function ++ [.line true])) := by
  intro h
  have hs := h.settled (by decide) (by decide) (by decide)
  revert hs
  decide

/-! ## The two calls of `key_interrupt` -/

/-- The driver with `disable_irq_nosync` and `mod_timer` as two steps. -/
structure Split extends KeyDev where
  /-- `key_interrupt` is between its two calls. -/
  disabled : Bool

namespace Split

/-- As the step of `KeyDev`, with the handler's two calls apart. -/
def step (s : Split) : Event → Split
  | .key_interrupt =>
    if s.disabled then { s with toKeyDev := s.mod_timer, disabled := false }
    else if s.taken then { s with toKeyDev := { s.toKeyDev with pending := false }.disable_irq_nosync, disabled := true }
    else s
  | e => { s with toKeyDev := Input.step s.toKeyDev e }

/-- The key as if the handler under way had returned. -/
def settle (s : Split) : KeyDev := if s.disabled then s.mod_timer else s.toKeyDev

/-- After `probe` the handler is not running. -/
def atk_key_probe (irq_key : Nat) (trigger_type : Trigger) : Split where
  toKeyDev := .atk_key_probe irq_key trigger_type
  disabled := false

/-- Between the calls the timer is not pending, so nothing the others do there makes a difference. -/
theorem settle_step (s : Split) (e : Event) (hm : s.disabled = true → s.timer = false) :
    ∃ events, (s.step e).settle = Runs.run Input.step s.settle events := by
  obtain ⟨key, disabled⟩ := s
  cases disabled with
  | false =>
    cases e with
    | key_interrupt =>
      by_cases ht : key.taken = true
      · refine ⟨[.key_interrupt], ?_⟩
        simp [Split.step, settle, Input.step, ht, KeyDev.key_interrupt]
      · refine ⟨[], ?_⟩
        simp [Split.step, settle, ht]
    | line level => exact ⟨[.line level], rfl⟩
    | expire => exact ⟨[.expire], rfl⟩
    | key_timer_function => exact ⟨[.key_timer_function], rfl⟩
  | true =>
    cases e with
    | key_interrupt => exact ⟨[], rfl⟩
    | line level => exact ⟨[.line level], rfl⟩
    | expire =>
      refine ⟨[], ?_⟩
      have ht : key.expires = false := by simp [KeyDev.expires, show key.timer = false from hm rfl]
      simp [Split.step, settle, Input.step, ht]
    | key_timer_function =>
      refine ⟨[.key_timer_function], ?_⟩
      change key.key_timer_function.mod_timer = key.mod_timer.key_timer_function
      unfold KeyDev.key_timer_function
      rw [show key.mod_timer.callback = key.callback from rfl]
      cases key.callback <;> rfl

theorem between_step (s : Split) (e : Event) (hk : Kept s.settle) (hm : s.disabled = true → s.timer = false) :
    (s.step e).disabled = true → (s.step e).timer = false := by
  obtain ⟨key, disabled⟩ := s
  intro hd
  cases e with
  | key_interrupt =>
    cases disabled with
    | true => cases hd
    | false =>
      by_cases ht : key.taken = true
      · have hs : key.timer = false := (Kept.sound hk .key_interrupt).arm rfl ht
        simpa [Split.step, ht, KeyDev.disable_irq_nosync] using hs
      · simp [Split.step, ht] at hd
  | line level => exact hm hd
  | expire =>
    have ht : key.timer = false := hm hd
    simp [Split.step, Input.step, KeyDev.expires, ht]
  | key_timer_function =>
    have ht : key.timer = false := hm hd
    change key.key_timer_function.timer = false
    unfold KeyDev.key_timer_function
    cases key.callback <;> exact ht

/-- What holds around `key_interrupt` as one step holds around its two calls. -/
theorem split_settles (irq_key : Nat) {trigger_type : Trigger}
    (h : trigger_type = IRQF_TRIGGER_NONE ∨ trigger_type = IRQF_TRIGGER_BOTH) (events : List Event) :
    ∀ s ∈ Runs.visited Split.step (.atk_key_probe irq_key trigger_type) events, Balanced s.settle := by
  intro s hs
  refine (Runs.visited_inv (I := fun s => Kept s.settle ∧ (s.disabled = true → s.timer = false)) ?_ events ?_ s hs).1.balanced
  · rintro s e ⟨hk, hm⟩
    refine ⟨?_, between_step s e hk hm⟩
    obtain ⟨events, he⟩ := settle_step s e hm
    rw [he]
    exact Runs.visited_inv kept_step events hk _ (Runs.run_mem_visited ..)
  · exact ⟨kept_probe irq_key h, fun hd => by cases hd⟩

end Split

end Key.Input
