import LinuxDriver.Key.Driver
/-!
# The life of a key driver

The calls of `mykey_init`, which may fail, and of `mykey_exit`, one step each,
with key interrupts and expiries of the debounce timer between them. The
interrupt is live from `request_irq` to `free_irq`, but the timer is set up
last and deleted first.
-/

namespace Key

/-- The call that is made next. -/
inductive Pc
  -- mykey_init
  | key_parse_dt
  | gpio_request
  | request_irq
  | alloc_chrdev_region
  | cdev_add
  | class_create
  | device_create
  | timer_setup
  -- the exit of `key_gpio_init` where `request_irq` fails
  | gpio_init_failed
  -- the error labels
  | destroy_class
  | del_cdev
  | del_unregister
  | free_gpio_irq
  | free_gpio
  /-- `mykey_init` has returned 0. -/
  | loaded
  -- mykey_exit, after its first call
  | exit_unregister
  | exit_del_timer
  | exit_device_destroy
  | exit_class_destroy
  | exit_free_irq
  | exit_gpio_free
  /-- `mykey_exit` or a failing `mykey_init` has returned. -/
  | returned
  deriving DecidableEq

/-- What the module holds: counts of what it asked for and gave back, and whether its timer is ready and armed. -/
structure KeyModule where
  pc : Pc
  gpio_requests : Nat
  gpio_frees : Nat
  irq_requests : Nat
  irq_frees : Nat
  timer_ready : Bool
  timer_pending : Bool
  region : Bool
  cdev : Bool
  class_exists : Bool
  device : Bool

namespace KeyModule

variable (driver : Driver)

/-- Before `module_init`, with nothing held. -/
def start : KeyModule where
  pc := .key_parse_dt
  gpio_requests := 0
  gpio_frees := 0
  irq_requests := 0
  irq_frees := 0
  timer_ready := false
  timer_pending := false
  region := false
  cdev := false
  class_exists := false
  device := false

/-- The interrupt may come. -/
def irq_live (m : KeyModule) : Bool := decide (m.irq_frees < m.irq_requests)

/-- The label `destroy_class`: only `13_irq` destroys the class there, the others call `device_destroy`. -/
def destroy_class (m : KeyModule) : KeyModule :=
  if driver = .keyirq then { m with class_exists := false } else { m with device := false }

/-- The next call of `mykey_init` or `mykey_exit`; `ok` says whether it succeeds, where it can fail. -/
def next (m : KeyModule) (ok : Bool) : KeyModule :=
  match m.pc with
  | .key_parse_dt => if ok then { m with pc := .gpio_request } else { m with pc := .returned }
  | .gpio_request =>
    if ok then { m with pc := .request_irq, gpio_requests := m.gpio_requests + 1 } else { m with pc := .returned }
  | .request_irq =>
    if ok then { m with pc := .alloc_chrdev_region, irq_requests := m.irq_requests + 1 }
    else { m with pc := .gpio_init_failed }
  | .alloc_chrdev_region => if ok then { m with pc := .cdev_add, region := true } else { m with pc := .free_gpio_irq }
  | .cdev_add => if ok then { m with pc := .class_create, cdev := true } else { m with pc := .del_unregister }
  | .class_create => if ok then { m with pc := .device_create, class_exists := true } else { m with pc := .del_cdev }
  | .device_create => if ok then { m with pc := .timer_setup, device := true } else { m with pc := .destroy_class }
  | .timer_setup => { m with pc := .loaded, timer_ready := true, timer_pending := false }
  | .gpio_init_failed => { m with pc := .returned, gpio_frees := m.gpio_frees + 1 }
  | .destroy_class => { m.destroy_class driver with pc := .del_cdev }
  | .del_cdev => { m with pc := .del_unregister, cdev := false }
  | .del_unregister => { m with pc := .free_gpio_irq, region := false }
  | .free_gpio_irq => { m with pc := .free_gpio, irq_frees := m.irq_frees + 1 }
  | .free_gpio => { m with pc := .returned, gpio_frees := m.gpio_frees + 1 }
  | .loaded => { m with pc := .exit_unregister, cdev := false }
  | .exit_unregister => { m with pc := .exit_del_timer, region := false }
  | .exit_del_timer => { m with pc := .exit_device_destroy, timer_pending := false }
  | .exit_device_destroy => { m with pc := .exit_class_destroy, device := false }
  | .exit_class_destroy => { m with pc := .exit_free_irq, class_exists := false }
  | .exit_free_irq => { m with pc := .exit_gpio_free, irq_frees := m.irq_frees + 1 }
  | .exit_gpio_free => { m with pc := .returned, gpio_frees := m.gpio_frees + 1 }
  | .returned => m

/-- `mod_timer`. -/
def key_interrupt (m : KeyModule) : KeyModule := { m with timer_pending := true }

end KeyModule

/-- The thread that loads and unloads goes on, with what its call returns, the key is pressed or the timer expires. -/
inductive Event
  | next (ok : Bool)
  | key_interrupt
  | expire
  deriving DecidableEq

/-- An interrupt comes while it is requested, an expiry while the timer is pending. -/
def KeyModule.step (driver : Driver) (m : KeyModule) : Event → KeyModule
  | .next ok => m.next driver ok
  | .key_interrupt => if m.irq_live then m.key_interrupt else m
  | .expire => if m.timer_pending then { m with timer_pending := false } else m

/-- What `mykey_exit` or a failing `mykey_init` leaves behind. -/
structure Released (m : KeyModule) : Prop where
  timer : m.timer_pending = false
  irq : m.irq_frees = m.irq_requests ∧ m.irq_requests ≤ 1
  gpio : m.gpio_frees = m.gpio_requests ∧ m.gpio_requests ≤ 1
  no_class : m.class_exists = false

/-- No interrupt arms a timer that is not set up, no timer runs on a pin that is not held, and on return all is
released. -/
structure Sound (driver : Driver) (m : KeyModule) (e : Event) : Prop where
  armed : e = .key_interrupt → m.irq_live = true → m.timer_ready = true
  runs : e = .expire → m.timer_pending = true → m.gpio_frees < m.gpio_requests
  released : (m.step driver e).pc = .returned → Released (m.step driver e)

/-! ## What is held at each call -/

/-- Between `gpio_request` and `gpio_free`. -/
def Pc.gpio_held : Pc → Bool
  | .key_parse_dt | .gpio_request | .returned => false
  | _ => true

/-- Between `request_irq` and `free_irq`. -/
def Pc.irq_held : Pc → Bool
  | .key_parse_dt | .gpio_request | .request_irq | .gpio_init_failed | .free_gpio | .exit_gpio_free | .returned => false
  | _ => true

/-- The interrupt is live, but the timer is not set up, or is deleted. -/
def Pc.untimed : Pc → Bool
  | .alloc_chrdev_region | .cdev_add | .class_create | .device_create | .timer_setup | .destroy_class | .del_cdev
  | .del_unregister | .free_gpio_irq | .exit_device_destroy | .exit_class_destroy | .exit_free_irq => true
  | _ => false

/-- The timer may be pending. -/
def Pc.timed : Pc → Bool
  | .loaded | .exit_unregister | .exit_del_timer => true
  | _ => false

/-- Between `class_create` and `class_destroy`. -/
def Pc.class_held : Pc → Bool
  | .device_create | .timer_setup | .destroy_class | .loaded | .exit_unregister | .exit_del_timer
  | .exit_device_destroy | .exit_class_destroy => true
  | _ => false

/-- The timer is not set up. -/
def Pc.early : Pc → Bool
  | .loaded | .exit_unregister | .exit_del_timer | .exit_device_destroy | .exit_class_destroy | .exit_free_irq
  | .exit_gpio_free | .returned => false
  | _ => true

/-- Not yet requested. -/
def Pc.before_gpio : Pc → Bool
  | .key_parse_dt | .gpio_request => true
  | _ => false

/-- No interrupt has been asked for yet. -/
def Pc.before_irq : Pc → Bool
  | .key_parse_dt | .gpio_request | .request_irq => true
  | _ => false

/-- An interrupt arms the timer outside its life, or `device_create` fails in
a driver that does not destroy its class on that path. -/
def stray (driver : Driver) (m : KeyModule) : Event → Prop
  | .key_interrupt => m.pc.untimed = true
  | .next ok => m.pc = .device_create ∧ ok = false ∧ driver ≠ .keyirq
  | .expire => False

instance (driver : Driver) (m : KeyModule) (e : Event) : Decidable (stray driver m e) := by
  unfold stray
  cases e <;> infer_instance

/-- What is held follows from the call that is due. -/
structure Kept (driver : Driver) (m : KeyModule) : Prop where
  gpio : m.gpio_requests = m.gpio_frees + m.pc.gpio_held.toNat
  gpio_once : m.gpio_requests + m.pc.before_gpio.toNat ≤ 1
  irq : m.irq_requests = m.irq_frees + m.pc.irq_held.toNat
  irq_once : m.irq_requests + m.pc.before_irq.toNat ≤ 1
  unready : m.pc.early = true → m.timer_ready = false
  ready : m.pc.timed = true → m.timer_ready = true
  pending : m.timer_pending = true → m.pc.timed = true
  label : m.pc = .destroy_class → driver = .keyirq
  no_class : m.class_exists = m.pc.class_held

variable {driver : Driver} {m : KeyModule}

theorem kept_start : Kept driver .start where
  gpio := rfl
  gpio_once := Nat.le_refl 1
  irq := rfl
  irq_once := Nat.le_refl 1
  unready _ := rfl
  ready h := by cases h
  pending h := by cases h
  label h := by cases h
  no_class := rfl

/-! One lemma for each thing held: what the call that is due does to it. -/

theorem next_gpio (h : m.gpio_requests = m.gpio_frees + m.pc.gpio_held.toNat) (ok : Bool) :
    (m.next driver ok).gpio_requests = (m.next driver ok).gpio_frees + (m.next driver ok).pc.gpio_held.toNat := by
  unfold KeyModule.next KeyModule.destroy_class
  split
  all_goals rename_i hpc
  all_goals rw [hpc] at h
  all_goals repeat' split
  all_goals simpa [Pc.gpio_held, hpc] using h

theorem next_gpio_once (h : m.gpio_requests + m.pc.before_gpio.toNat ≤ 1) (ok : Bool) :
    (m.next driver ok).gpio_requests + (m.next driver ok).pc.before_gpio.toNat ≤ 1 := by
  unfold KeyModule.next KeyModule.destroy_class
  split
  all_goals rename_i hpc
  all_goals rw [hpc] at h
  all_goals repeat' split
  all_goals simp [Pc.before_gpio, hpc] at h ⊢
  all_goals omega

theorem next_irq (h : m.irq_requests = m.irq_frees + m.pc.irq_held.toNat) (ok : Bool) :
    (m.next driver ok).irq_requests = (m.next driver ok).irq_frees + (m.next driver ok).pc.irq_held.toNat := by
  unfold KeyModule.next KeyModule.destroy_class
  split
  all_goals rename_i hpc
  all_goals rw [hpc] at h
  all_goals repeat' split
  all_goals simpa [Pc.irq_held, hpc] using h

theorem next_irq_once (h : m.irq_requests + m.pc.before_irq.toNat ≤ 1) (ok : Bool) :
    (m.next driver ok).irq_requests + (m.next driver ok).pc.before_irq.toNat ≤ 1 := by
  unfold KeyModule.next KeyModule.destroy_class
  split
  all_goals rename_i hpc
  all_goals rw [hpc] at h
  all_goals repeat' split
  all_goals simp [Pc.before_irq, hpc] at h ⊢
  all_goals omega

theorem next_unready (h : m.pc.early = true → m.timer_ready = false) (ok : Bool) :
    (m.next driver ok).pc.early = true → (m.next driver ok).timer_ready = false := by
  unfold KeyModule.next KeyModule.destroy_class
  split
  all_goals rename_i hpc
  all_goals rw [hpc] at h
  all_goals repeat' split
  all_goals simp_all [Pc.early]

/-- The timer is set up before the driver is loaded, and is not touched again before it is deleted. -/
theorem next_timer (hr : m.pc.timed = true → m.timer_ready = true) (hp : m.timer_pending = true → m.pc.timed = true)
    (ok : Bool) :
    ((m.next driver ok).pc.timed = true → (m.next driver ok).timer_ready = true) ∧
      ((m.next driver ok).timer_pending = true → (m.next driver ok).pc.timed = true) := by
  unfold KeyModule.next KeyModule.destroy_class
  split
  all_goals rename_i hpc
  all_goals rw [hpc] at hr hp
  all_goals repeat' split
  all_goals simp [Pc.timed, hpc] at hr hp ⊢
  all_goals first | exact ⟨hr, hp⟩ | exact hr | exact hp

theorem next_class (h : m.class_exists = m.pc.class_held) (hl : m.pc = .destroy_class → driver = .keyirq) (ok : Bool) :
    (m.next driver ok).class_exists = (m.next driver ok).pc.class_held := by
  unfold KeyModule.next KeyModule.destroy_class
  split
  all_goals rename_i hpc
  all_goals rw [hpc] at h hl
  all_goals repeat' split
  all_goals simp_all [Pc.class_held]

theorem next_label {ok : Bool} (hn : ¬stray driver m (.next ok)) :
    (m.next driver ok).pc = .destroy_class → driver = .keyirq := by
  intro hd
  unfold KeyModule.next KeyModule.destroy_class at hd
  refine not_not.1 fun hk => hn ?_
  split at hd
  all_goals rename_i hpc
  all_goals repeat' split at hd
  all_goals try cases hd
  · -- `device_create` has failed
    rename_i hok
    exact ⟨hpc, Bool.eq_false_iff.2 hok, hk⟩
  · rw [hpc] at hd
    cases hd

/-- An interrupt or an expiry changes nothing but whether the timer is pending. -/
theorem Kept.pend (h : Kept driver m) {p : Bool} (hp : p = true → m.pc.timed = true) :
    Kept driver { m with timer_pending := p } :=
  ⟨h.gpio, h.gpio_once, h.irq, h.irq_once, h.unready, h.ready, hp, h.label, h.no_class⟩

/-- A live interrupt comes while the timer may be pending, or astray. -/
theorem timed_of_live (h : Kept driver m) (hl : m.irq_live = true) (hn : m.pc.untimed = false) : m.pc.timed = true := by
  have hi : m.irq_frees < m.irq_requests := of_decide_eq_true hl
  rw [h.irq] at hi
  cases hc : m.pc
  all_goals rw [hc] at hi hn
  all_goals first | rfl | exact absurd hi (Nat.lt_irrefl _) | cases hn

theorem kept_step (m : KeyModule) (e : Event) (h : Kept driver m) (hn : ¬stray driver m e) :
    Kept driver (m.step driver e) := by
  unfold KeyModule.step
  cases e with
  | next ok =>
    obtain ⟨hr, hp⟩ := @next_timer driver m h.ready h.pending ok
    exact ⟨next_gpio h.gpio ok, next_gpio_once h.gpio_once ok, next_irq h.irq ok, next_irq_once h.irq_once ok,
      next_unready h.unready ok, hr, hp, next_label hn, next_class h.no_class h.label ok⟩
  | key_interrupt =>
    dsimp only
    split
    · rename_i hl
      exact h.pend fun _ => timed_of_live h hl (Bool.eq_false_iff.2 hn)
    · exact h
  | expire =>
    dsimp only
    split
    · exact h.pend fun hp => by cases hp
    · exact h

theorem Kept.released (h : Kept driver m) (hr : m.pc = .returned) : Released m := by
  have hg := h.gpio
  have hg1 := h.gpio_once
  have hi := h.irq
  have hi1 := h.irq_once
  have hc := h.no_class
  rw [hr] at hg hg1 hi hi1 hc
  refine ⟨?_, ⟨hi.symm, hi1⟩, ⟨hg.symm, hg1⟩, hc⟩
  refine Bool.eq_false_iff.2 fun hp => ?_
  have ht := h.pending hp
  rw [hr] at ht
  cases ht

theorem sound_step (m : KeyModule) (e : Event) (h : Kept driver m) (hn : ¬stray driver m e) : Sound driver m e where
  armed := by
    rintro rfl hl
    exact h.ready (timed_of_live h hl (Bool.eq_false_iff.2 hn))
  runs := by
    rintro rfl hp
    have ht := h.pending hp
    have hg := h.gpio
    cases hc : m.pc
    all_goals rw [hc] at ht hg
    all_goals try cases ht
    all_goals simp [Pc.gpio_held] at hg
    all_goals omega
  released hr := (kept_step m e h hn).released hr

/-- Without a stray interrupt, and without a failing `device_create`, the
interrupt and the timer stay within the life of the driver. -/
theorem timers_end_with_driver (driver : Driver) (events : List Event)
    (h : Runs.Meets (KeyModule.step driver) (fun m e => ¬stray driver m e) .start events) :
    Runs.Meets (KeyModule.step driver) (Sound driver) .start events :=
  h.imp kept_step sound_step kept_start

/-- `mykey_init` as far as `loaded`. -/
def load : List Event := List.replicate 8 (.next true)

/-- The driver is loaded, the key is pressed, and the driver is unloaded. -/
theorem press_then_unload :
    Runs.Meets (KeyModule.step .asyncnoti) (Sound .asyncnoti) .start
      (load ++ [.key_interrupt, .expire] ++ List.replicate 7 (.next true)) :=
  timers_end_with_driver .asyncnoti _ (by decide)

/-- The key is pressed after `del_timer_sync` and before `free_irq`: `mykey_exit` leaves the timer running. -/
theorem exit_leaves_timer :
    ¬Runs.Meets (KeyModule.step .asyncnoti) (Sound .asyncnoti) .start
      (load ++ List.replicate 3 (.next true) ++ [.key_interrupt] ++ List.replicate 4 (.next true)) := by
  intro h
  -- the last call is `gpio_free`
  have hm : Runs.Meets (KeyModule.step .asyncnoti) (Sound .asyncnoti) .start
      ((load ++ List.replicate 3 (.next true) ++ [.key_interrupt] ++ List.replicate 3 (.next true)) ++
        [.next true]) := h
  have hs := (Runs.Meets.append.1 hm).2.1
  have ht := (hs.released (by decide)).timer
  revert ht
  decide

/-! ## Every stray event can go wrong -/

/-- A timer that is pending when `mykey_exit` has deleted it stays so. -/
theorem rearmed_timer_stays (hp : m.timer_pending = true)
    (hc : m.pc = .exit_device_destroy ∨ m.pc = .exit_class_destroy ∨ m.pc = .exit_free_irq) :
    ∃ events, ¬Runs.Meets (KeyModule.step driver) (Sound driver) m events := by
  -- the calls that are left, without an expiry between them
  obtain ⟨pc⟩ := m
  dsimp only at hp hc
  subst hp
  rcases hc with rfl | rfl | rfl
  · refine ⟨List.replicate 4 (.next true), fun h => ?_⟩
    cases (h.2.2.2.1.released rfl).timer
  · refine ⟨List.replicate 3 (.next true), fun h => ?_⟩
    cases (h.2.2.1.released rfl).timer
  · refine ⟨List.replicate 2 (.next true), fun h => ?_⟩
    cases (h.2.1.released rfl).timer

/-- The class outlives a driver whose `device_create` has failed. -/
theorem class_stays (hd : driver ≠ .keyirq) (hc : m.pc = .destroy_class) (hk : m.class_exists = true) :
    ∃ events, ¬Runs.Meets (KeyModule.step driver) (Sound driver) m events := by
  obtain ⟨pc⟩ := m
  dsimp only at hc hk
  subst hc hk
  refine ⟨List.replicate 5 (.next true), fun h => ?_⟩
  cases driver with
  | keyirq => exact hd rfl
  | blockio => cases (h.2.2.2.2.1.released rfl).no_class
  | noblockio => cases (h.2.2.2.2.1.released rfl).no_class
  | asyncnoti => cases (h.2.2.2.2.1.released rfl).no_class

theorem stray_breaks {e : Event} (h : Kept driver m) (hs : stray driver m e) :
    ∃ events, ¬Runs.Meets (KeyModule.step driver) (Sound driver) m (e :: events) := by
  have later : (∃ events, ¬Runs.Meets (KeyModule.step driver) (Sound driver) (m.step driver e) events) →
      ∃ events, ¬Runs.Meets (KeyModule.step driver) (Sound driver) m (e :: events) := by
    rintro ⟨events, hn⟩
    exact ⟨events, fun hm => hn hm.2⟩
  unfold stray at hs
  cases e with
  | next ok =>
    obtain ⟨hc, rfl, hd⟩ := hs
    have hk := h.no_class
    rw [hc] at hk
    apply later
    refine class_stays hd ?_ ?_ <;> simp [KeyModule.step, KeyModule.next, hc, hk, Pc.class_held]
  | key_interrupt =>
    dsimp only at hs
    have hl : m.irq_live = true := by
      have hi := h.irq
      unfold KeyModule.irq_live
      apply decide_eq_true
      cases hc : m.pc
      all_goals rw [hc] at hi hs
      all_goals first | exact hi ▸ Nat.lt_succ_self _ | cases hs
    by_cases he : m.pc.early = true
    · -- the timer is not set up
      refine ⟨[], fun hm => ?_⟩
      have ha := hm.1.armed rfl hl
      rw [h.unready he] at ha
      cases ha
    · apply later
      have hstep : m.step driver .key_interrupt = m.key_interrupt := if_pos hl
      rw [hstep]
      apply rearmed_timer_stays rfl
      show m.pc = _ ∨ m.pc = _ ∨ m.pc = _
      cases hc : m.pc
      all_goals rw [hc] at hs he
      all_goals first | exact absurd rfl he | (cases hs; done) | simp
  | expire => exact hs.elim

end Key
