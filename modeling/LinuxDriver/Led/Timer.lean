import LinuxDriver.Lib.Runs
/-!
# The LED timer

`12_timer` toggles an LED from a timer that arms itself again. The calls of
`led_release` run one at a time, with the timer callback between them:
the pin is freed before the timer is deleted.

One file is open at a time: as long as the pin is requested `led_init` refuses
another open. Nobody opens the device between the two last calls of
`led_release`.
-/

namespace Led.Timer

/-- The open file; during `led_release` the call that is made next. -/
inductive File
  | closed
  | opened
  | gpio_free
  | del_timer_sync
  deriving DecidableEq

/-- How far the timer callback is. -/
inductive Callback
  | idle
  | started
  /-- `gpio_set_value` is done. -/
  | toggled
  deriving DecidableEq

/-- `output` is the level of the pin, `timer` the time after which a pending
timer expires, and `armed` says whether the timer was armed since the last release. -/
structure TimerDev where
  file : File
  gpio_held : Bool
  output : Bool
  timeperiod : BitVec 32
  timer : Option (BitVec 32)
  callback : Callback
  sta : Bool
  armed : Bool
  deriving DecidableEq

/-- How far `led_init` comes. -/
inductive Init
  | no_led
  | request_failed
  | direction_failed
  | ok
  deriving DecidableEq

/-- The commands of `ioctl`, and any other number. -/
inductive Cmd
  | CLOSE_CMD
  | OPEN_CMD
  | SETPERIOD_CMD
  | other
  deriving DecidableEq

namespace TimerDev

/-- The module is loaded. -/
def start (level : Bool) : TimerDev where
  file := .closed
  gpio_held := false
  output := level
  timeperiod := 0#32
  timer := none
  callback := .idle
  sta := true
  armed := false

/-- The pin stays requested where `gpio_direction_output` fails. -/
def led_init (s : TimerDev) : Init → TimerDev
  | .no_led => s
  | .request_failed => s
  | .direction_failed => if s.gpio_held then s else { s with gpio_held := true }
  | .ok => if s.gpio_held then s else { s with gpio_held := true, output := true, file := .opened }

/-- An open sets the period and the pin up; a second file shares them. -/
def timer_open (s : TimerDev) (init : Init) : TimerDev :=
  if s.file = .closed ∨ s.gpio_held = true then led_init { s with timeperiod := 1000#32 } init else s

/-- `CLOSE_CMD` waits for the callback. -/
def timer_unlocked_ioctl (s : TimerDev) (cmd : Cmd) (arg : BitVec 32) : TimerDev :=
  if s.file = .opened then
    match cmd with
    | .CLOSE_CMD => if s.callback = .idle then { s with timer := none } else s
    | .OPEN_CMD => { s with timer := some s.timeperiod, armed := true }
    | .SETPERIOD_CMD => { s with timeperiod := arg, timer := some arg, armed := true }
    | .other => s
  else s

/-- The next call of `led_release`; the last one waits for the callback. -/
def led_release (s : TimerDev) : TimerDev :=
  match s.file with
  | .closed => s
  | .opened => { s with output := true, file := .gpio_free }
  | .gpio_free => { s with gpio_held := false, file := .del_timer_sync }
  | .del_timer_sync =>
    if s.callback = .idle then { s with timer := none, file := .closed, armed := false } else s

/-- The timer interrupt takes an armed timer whose callback is not running. -/
def expire (s : TimerDev) : TimerDev :=
  if s.timer.isSome ∧ s.callback = .idle then { s with timer := none, callback := .started } else s

/-- The next call of the callback. -/
def timer_function (s : TimerDev) : TimerDev :=
  match s.callback with
  | .idle => s
  | .started => { s with sta := !s.sta, output := !s.sta, callback := .toggled }
  | .toggled => { s with timer := some s.timeperiod, callback := .idle }

end TimerDev

/-- A system call, or the timer's interrupt or callback goes on. -/
inductive Event
  | timer_open (init : Init)
  | timer_unlocked_ioctl (cmd : Cmd) (arg : BitVec 32)
  | led_release
  | expire
  | timer_function
  deriving DecidableEq

/-- One event. -/
def TimerDev.step (s : TimerDev) : Event → TimerDev
  | .timer_open init => s.timer_open init
  | .timer_unlocked_ioctl cmd arg => s.timer_unlocked_ioctl cmd arg
  | .led_release => s.led_release
  | .expire => s.expire
  | .timer_function => s.timer_function

/-- The callback sets the pin only while it is requested; `led_release` leaves the LED off and no timer; and no expiry
changes the output before the timer is armed again. -/
structure Sound (s : TimerDev) (e : Event) : Prop where
  held : e = .timer_function → s.callback = .started → s.gpio_held = true
  off : e = .led_release → s.file ≠ .closed → (s.step e).file = .closed →
    (s.step e).output = true ∧ (s.step e).timer = none
  still : s.armed = false → e = .expire ∨ e = .timer_function → (s.step e).output = s.output

/-- `gpio_free` is called while the callback is about to toggle the LED, or has switched it on again, or the timer expires
after it. -/
def stray (s : TimerDev) : Event → Prop
  | .led_release => s.file = .gpio_free ∧ (s.callback = .started ∨ s.output = false)
  | .expire => s.file = .del_timer_sync ∧ s.timer.isSome = true ∧ s.callback = .idle
  | _ => False

instance (s : TimerDev) (e : Event) : Decidable (stray s e) := by
  unfold stray
  cases e <;> infer_instance

/-- The file holds the pin. -/
def File.holds : File → Bool
  | .opened | .gpio_free => true
  | _ => false

/-- The invariant, by where the file is in its life and where the callback is. -/
structure Kept (s : TimerDev) : Prop where
  closed : s.file = .closed → s.armed = false
  held : s.file.holds = true → s.gpio_held = true
  freed : s.file = .del_timer_sync → s.gpio_held = false ∧ s.callback ≠ .started ∧ s.output = true
  unarmed : s.armed = false → s.timer = none ∧ s.callback = .idle

variable {s : TimerDev}

theorem kept_start (level : Bool) : Kept (.start level) where
  closed _ := rfl
  held h := by cases h
  freed h := by cases h
  unarmed _ := ⟨rfl, rfl⟩

theorem Kept.led_init (h : Kept s) (hc : s.file = .closed ∨ s.gpio_held = true) (init : Init) : Kept (s.led_init init) := by
  cases init with
  | no_led => exact h
  | request_failed => exact h
  | direction_failed =>
    unfold TimerDev.led_init
    dsimp only
    split
    · exact h
    · rename_i hg
      have hc : s.file = .closed := hc.resolve_right hg
      exact ⟨h.closed, fun _ => rfl, fun hf => (nomatch hc.symm.trans hf), h.unarmed⟩
  | ok =>
    unfold TimerDev.led_init
    dsimp only
    split
    · exact h
    · exact ⟨nofun, fun _ => rfl, nofun, h.unarmed⟩

theorem Kept.timer_open (h : Kept s) (init : Init) : Kept (s.timer_open init) := by
  unfold TimerDev.timer_open
  split
  · rename_i hc
    have hk : Kept { s with timeperiod := 1000#32 } := ⟨h.closed, h.held, h.freed, h.unarmed⟩
    exact hk.led_init hc init
  · exact h

theorem Kept.timer_unlocked_ioctl (h : Kept s) (cmd : Cmd) (arg : BitVec 32) :
    Kept (s.timer_unlocked_ioctl cmd arg) := by
  unfold TimerDev.timer_unlocked_ioctl
  split
  · rename_i ho
    have hnot : s.file ≠ .closed := by rw [ho]; nofun
    cases cmd with
    | CLOSE_CMD =>
      dsimp only
      split
      · rename_i hi
        exact ⟨h.closed, h.held, h.freed, fun _ => ⟨rfl, hi⟩⟩
      · exact h
    | OPEN_CMD => exact ⟨fun hf => absurd hf hnot, h.held, h.freed, nofun⟩
    | SETPERIOD_CMD => exact ⟨fun hf => absurd hf hnot, h.held, h.freed, nofun⟩
    | other => exact h
  · exact h

theorem Kept.led_release (h : Kept s) (hn : ¬stray s .led_release) : Kept s.led_release := by
  unfold TimerDev.led_release
  split
  · exact h
  · rename_i ho
    exact ⟨nofun, fun _ => h.held (by rw [ho]; rfl), nofun, h.unarmed⟩
  · rename_i hf
    -- the callback is not about to toggle the LED, and it is off
    have hcb : s.callback ≠ .started := fun hcb => hn ⟨hf, .inl hcb⟩
    have hout : s.output = true := by
      cases ho : s.output with
      | true => rfl
      | false => exact absurd ⟨hf, .inr ho⟩ hn
    exact ⟨nofun, nofun, fun _ => ⟨rfl, hcb, hout⟩, h.unarmed⟩
  · split
    · rename_i hi
      exact ⟨fun _ => rfl, nofun, nofun, fun _ => ⟨rfl, hi⟩⟩
    · exact h

/-- A timer or a callback is at work only after it was armed. -/
theorem Kept.armed (h : Kept s) (ht : s.timer ≠ none ∨ s.callback ≠ .idle) : s.armed = true := by
  refine not_not.1 fun ha => ?_
  obtain ⟨hnone, hidle⟩ := h.unarmed (Bool.eq_false_iff.2 ha)
  rcases ht with ht | ht
  · exact ht hnone
  · exact ht hidle

theorem Kept.expire (h : Kept s) (hn : ¬stray s .expire) : Kept s.expire := by
  unfold TimerDev.expire
  split
  · rename_i hb
    obtain ⟨ht, hi⟩ := hb
    have ha := h.armed (.inl (Option.isSome_iff_ne_none.1 ht))
    refine ⟨h.closed, h.held, fun hf => absurd ⟨hf, ht, hi⟩ hn, fun ha' => ?_⟩
    exact absurd ha (Bool.eq_false_iff.1 ha')
  · exact h

theorem Kept.timer_function (h : Kept s) : Kept s.timer_function := by
  unfold TimerDev.timer_function
  split
  · exact h
  · rename_i hcb
    have ha := h.armed (.inr (by rw [hcb]; nofun))
    exact ⟨h.closed, h.held, fun hf => absurd hcb (h.freed hf).2.1, fun ha' => absurd ha (Bool.eq_false_iff.1 ha')⟩
  · rename_i hcb
    have ha := h.armed (.inr (by rw [hcb]; nofun))
    refine ⟨h.closed, h.held, fun hf => ?_, fun ha' => absurd ha (Bool.eq_false_iff.1 ha')⟩
    obtain ⟨hg, _, hout⟩ := h.freed hf
    exact ⟨hg, nofun, hout⟩

theorem kept_step (s : TimerDev) (e : Event) (h : Kept s) (hn : ¬stray s e) : Kept (s.step e) := by
  cases e with
  | timer_open init => exact h.timer_open init
  | timer_unlocked_ioctl cmd arg => exact h.timer_unlocked_ioctl cmd arg
  | led_release => exact h.led_release hn
  | expire => exact h.expire hn
  | timer_function => exact h.timer_function

theorem Kept.sound (h : Kept s) (e : Event) : Sound s e where
  held := by
    intro _ hcb
    have ha := h.armed (.inr (by rw [hcb]; nofun))
    cases hf : s.file with
    | closed =>
      rw [h.closed hf] at ha
      cases ha
    | opened => exact h.held (by rw [hf]; rfl)
    | gpio_free => exact h.held (by rw [hf]; rfl)
    | del_timer_sync => exact absurd hcb (h.freed hf).2.1
  off := by
    rintro rfl ho hc
    unfold TimerDev.step TimerDev.led_release at hc ⊢
    cases hf : s.file with
    | closed => exact absurd hf ho
    | opened => simp [hf] at hc
    | gpio_free => simp [hf] at hc
    | del_timer_sync =>
      obtain ⟨_, _, hout⟩ := h.freed hf
      simp only [hf] at hc ⊢
      split at hc
      · rename_i hi
        rw [if_pos hi]
        exact ⟨hout, rfl⟩
      · exact nomatch hf.symm.trans hc
  still := by
    intro ha he
    obtain ⟨hnone, hidle⟩ := h.unarmed ha
    rcases he with rfl | rfl
    · simp [TimerDev.step, TimerDev.expire, hnone]
    · simp [TimerDev.step, TimerDev.timer_function, hidle]

/-! ## What goes wrong otherwise -/

/-- The pin is freed, and the LED is on or the callback will toggle it. -/
def Doomed (s : TimerDev) : Prop :=
  s.file = .del_timer_sync ∧ s.gpio_held = false ∧ (s.callback = .started ∨ s.output = false)

theorem doomed_of_stray {e : Event} (h : Kept s) (hs : stray s e) : Doomed (s.step e) := by
  cases e with
  | led_release =>
    obtain ⟨hf, hbad⟩ := hs
    simpa [Doomed, TimerDev.step, TimerDev.led_release, hf] using hbad
  | expire =>
    obtain ⟨hf, ht, hi⟩ := hs
    have hg := (h.freed hf).1
    simp [Doomed, TimerDev.step, TimerDev.expire, hf, ht, hi, hg]
  | timer_open | timer_unlocked_ioctl | timer_function => exact absurd hs id

/-- Until `led_release` returns the callback sets the freed pin, or the LED stays on. -/
theorem doomed_step (e : Event) (h : Doomed s) (hs : Sound s e) : Doomed (s.step e) := by
  obtain ⟨hf, hg, hbad⟩ := h
  cases e with
  | timer_open init => simpa [Doomed, TimerDev.step, TimerDev.timer_open, hf, hg] using hbad
  | timer_unlocked_ioctl cmd arg => simpa [Doomed, TimerDev.step, TimerDev.timer_unlocked_ioctl, hf, hg] using hbad
  | led_release =>
    have hwait : s.callback ≠ .idle := by
      intro hi
      have hout : s.output = false := hbad.resolve_left (by rw [hi]; nofun)
      have := (hs.off rfl (by rw [hf]; nofun) (by simp [TimerDev.step, TimerDev.led_release, hf, hi])).1
      simp [TimerDev.step, TimerDev.led_release, hf, hi, hout] at this
    simpa [Doomed, TimerDev.step, TimerDev.led_release, hf, hg, hwait] using hbad
  | expire =>
    unfold TimerDev.step TimerDev.expire
    dsimp only
    split
    · exact ⟨hf, hg, .inl rfl⟩
    · exact ⟨hf, hg, hbad⟩
  | timer_function =>
    unfold TimerDev.step TimerDev.timer_function
    dsimp only
    split
    · exact ⟨hf, hg, hbad⟩
    · rename_i hcb
      have := hs.held rfl hcb
      rw [hg] at this
      cases this
    · rename_i hcb
      exact ⟨hf, hg, .inr (hbad.resolve_left (by rw [hcb]; nofun))⟩

theorem Doomed.not_sound (h : Doomed s) {es : List Event} (hr : (Runs.run TimerDev.step s es).file = .closed) :
    ¬Runs.Meets TimerDev.step Sound s es := by
  intro hs
  have hd := hs.visited_inv (fun s e => doomed_step e) h _ (Runs.run_mem_visited s es)
  exact nomatch hd.1.symm.trans hr

/-- The timer leaves a released LED alone while no step is stray, and where no release is in progress at the end, only then. -/
theorem timer_released (level : Bool) (es : List Event) :
    (Runs.Meets TimerDev.step (fun s e => ¬stray s e) (.start level) es →
        Runs.Meets TimerDev.step Sound (.start level) es) ∧
      ((Runs.run TimerDev.step (.start level) es).file = .closed →
        Runs.Meets TimerDev.step Sound (.start level) es →
          Runs.Meets TimerDev.step (fun s e => ¬stray s e) (.start level) es) := by
  constructor
  · exact Runs.Meets.imp kept_step (fun s e h _ => h.sound e) (kept_start level)
  · intro hr hs
    refine Runs.Meets.of_end (Q := Runs.Meets TimerDev.step Sound) (R := fun s => s.file = .closed)
      (fun _ _ _ h => h.2) kept_step (fun s e es hk hn hr h => ?_) (kept_start level) hr hs
    exact (doomed_of_stray hk (not_not.1 hn)).not_sound hr h.2

/-- The timer expires after the LED is switched off and the pin is freed. -/
theorem freed_pin_toggled :
    ¬Runs.Meets TimerDev.step Sound (.start true)
      [.timer_open .ok, .timer_unlocked_ioctl .OPEN_CMD 0#32, .led_release, .led_release, .expire, .timer_function,
        .timer_function, .led_release] := by
  rintro ⟨_, _, _, _, _, ⟨held, _, _⟩, _⟩
  cases held rfl rfl

end Led.Timer
