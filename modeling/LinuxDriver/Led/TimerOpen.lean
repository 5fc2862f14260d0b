import LinuxDriver.Led.Timer
import Mathlib.Data.Int.Notation
import Mathlib.Data.Nat.Notation
import Mathlib.Logic.Function.Basic
/-!
# Opening the LED timer

`timer_open` sets the period and then looks for the LED in the device tree, asks
for its pin and makes that an output. Each of these steps can fail. The device
is one global structure: an open that is refused may meet a running timer.

Here any number of files may be open, and any number of calls of `led_release`
may be under way.
-/

namespace Led.TimerOpen

open Timer (Callback Cmd)

def EINVAL : ℤ := 22
def EBUSY : ℤ := 16

/-- A GPIO: whether someone has requested it, and its level. -/
structure Pin where
  requested : Bool
  level : Bool
  deriving DecidableEq

/-- When the timer was armed, and for how many milliseconds. -/
structure Alarm where
  jiffies : BitVec 32
  msecs : BitVec 32
  deriving DecidableEq

/-- `files` counts the open files; of the calls of `led_release`, `freeing` counts
those about to call `gpio_free` and `deleting` those about to call `del_timer_sync`. -/
structure TimerDev where
  led_gpio : ℤ
  timeperiod : BitVec 32
  timer : Option Alarm
  callback : Callback
  sta : Bool
  pins : ℤ → Pin
  files : ℕ
  freeing : ℕ
  deleting : ℕ

/-- The properties of a node; `led_gpio` is what `of_get_named_gpio` returns. -/
structure Node where
  status : Option String
  compatible : Option String
  led_gpio : ℤ

/-- What a call of `timer_open` meets: the node `/gpioled`, what `gpio_request`
returns of a pin that is not requested, and what `gpio_direction_output` returns. -/
structure Env where
  gpioled : Option Node
  gpio_request : ℤ
  gpio_direction_output : ℤ
  request_le : gpio_request ≤ 0

/-! ## The driver -/

/-- What `led_init` reads of the device tree. Where a node or a property is
missing or wrong it returns `-EINVAL`. -/
def Env.find_led (env : Env) : Option ℤ := do
  let nd ← env.gpioled
  let str ← nd.status
  if str ≠ "okay" then none
  else
    let str ← nd.compatible
    if str ≠ "alientek,led" then none else some nd.led_gpio

namespace TimerDev

/-- Calls with a number that is no pin have no effect. -/
def set_pin (s : TimerDev) (g : ℤ) (f : Pin → Pin) : TimerDev :=
  if g < 0 then s else { s with pins := Function.update s.pins g (f (s.pins g)) }

/-- The kernel's. -/
def gpio_set_value (s : TimerDev) (g : ℤ) (value : Bool) : TimerDev := s.set_pin g fun p => { p with level := value }

/-- The kernel's. -/
def gpio_free (s : TimerDev) (g : ℤ) : TimerDev := s.set_pin g fun p => { p with requested := false }

/-- The kernel's: `-EBUSY` for a pin that is taken, else what the environment says. -/
def gpio_request (s : TimerDev) (env : Env) (g : ℤ) : ℤ × TimerDev :=
  if (s.pins g).requested then (-EBUSY, s)
  else if env.gpio_request ≠ 0 then (env.gpio_request, s)
  else (0, s.set_pin g fun p => { p with requested := true })

/-- The kernel's: the pin becomes an output with this level, unless the environment refuses. -/
def gpio_direction_output (s : TimerDev) (env : Env) (g : ℤ) (value : Bool) : ℤ × TimerDev :=
  if env.gpio_direction_output < 0 then (env.gpio_direction_output, s) else (0, s.gpio_set_value g value)

/-- The end of `led_init`: the pin is requested and made an output. -/
def request_led (s : TimerDev) (env : Env) : ℤ × TimerDev :=
  let (ret, s) := s.gpio_request env s.led_gpio
  if ret ≠ 0 then (ret, s)
  else
    let (ret, s) := s.gpio_direction_output env s.led_gpio true
    if ret < 0 then (ret, s) else (0, s)

/-- The node, its pin, the request and the direction, each of which can fail. -/
def led_init (s : TimerDev) (env : Env) : ℤ × TimerDev :=
  match env.find_led with
  | none => (-EINVAL, s)
  | some led_gpio =>
    let s := { s with led_gpio := led_gpio }
    if s.led_gpio < 0 then (-EINVAL, s) else s.request_led env

/-- A file is open where 0 is returned. -/
def timer_open (s : TimerDev) (env : Env) : ℤ × TimerDev :=
  let (ret, s) := { s with timeperiod := 1000#32 }.led_init env
  if ret < 0 then (ret, s) else (0, { s with files := s.files + 1 })

/-- `CLOSE_CMD` waits for the callback. -/
def timer_unlocked_ioctl (s : TimerDev) (cmd : Cmd) (arg jiffies : BitVec 32) : TimerDev :=
  if s.files = 0 then s
  else
    match cmd with
    | .CLOSE_CMD => if s.callback = .idle then { s with timer := none } else s
    | .OPEN_CMD => { s with timer := some ⟨jiffies, s.timeperiod⟩ }
    | .SETPERIOD_CMD => { s with timeperiod := arg, timer := some ⟨jiffies, arg⟩ }
    | .other => s

/-- Up to `gpio_set_value`. -/
def led_release (s : TimerDev) : TimerDev :=
  if s.files = 0 then s
  else { s.gpio_set_value s.led_gpio true with files := s.files - 1, freeing := s.freeing + 1 }

/-- `gpio_free` in `led_release`. -/
def release_gpio (s : TimerDev) : TimerDev :=
  if s.freeing = 0 then s
  else { s.gpio_free s.led_gpio with freeing := s.freeing - 1, deleting := s.deleting + 1 }

/-- `del_timer_sync` in `led_release`, which waits for the callback. -/
def release_timer (s : TimerDev) : TimerDev :=
  if s.deleting = 0 ∨ s.callback ≠ .idle then s else { s with timer := none, deleting := s.deleting - 1 }

/-- The timer interrupt takes an armed timer whose callback is not running. -/
def expire (s : TimerDev) : TimerDev :=
  if s.timer.isSome ∧ s.callback = .idle then { s with timer := none, callback := .started } else s

/-- The next call of the callback. -/
def timer_function (s : TimerDev) (jiffies : BitVec 32) : TimerDev :=
  match s.callback with
  | .idle => s
  | .started => { s.gpio_set_value s.led_gpio (!s.sta) with sta := !s.sta, callback := .toggled }
  | .toggled => { s with timer := some ⟨jiffies, s.timeperiod⟩, callback := .idle }

/-- The module is loaded. -/
def start (pins : ℤ → Pin) : TimerDev where
  led_gpio := 0
  timeperiod := 0#32
  timer := none
  callback := .idle
  sta := true
  pins := pins
  files := 0
  freeing := 0
  deleting := 0

end TimerDev

/-- A system call, the rest of a release, or the timer's interrupt or callback goes on. -/
inductive Event
  | timer_open (env : Env)
  | timer_unlocked_ioctl (cmd : Cmd) (arg jiffies : BitVec 32)
  | led_release
  | release_gpio
  | release_timer
  | expire
  | timer_function (jiffies : BitVec 32)

/-- One event; what an open returns is left out. -/
def TimerDev.step (s : TimerDev) : Event → TimerDev
  | .timer_open env => (s.timer_open env).2
  | .timer_unlocked_ioctl cmd arg jiffies => s.timer_unlocked_ioctl cmd arg jiffies
  | .led_release => s.led_release
  | .release_gpio => s.release_gpio
  | .release_timer => s.release_timer
  | .expire => s.expire
  | .timer_function jiffies => s.timer_function jiffies

/-! ## A failed open -/

/-- The period, the pins and the timer are as before. The number in `led_gpio`, which is no property of a pin, may be another. -/
structure Same (s s' : TimerDev) : Prop where
  timeperiod : s'.timeperiod = s.timeperiod
  pins : s'.pins = s.pins
  timer : s'.timer = s.timer ∧ s'.callback = s.callback

/-- An open that returns an error changes none of them. -/
def Atomic (s : TimerDev) : Event → Prop
  | .timer_open env => (s.timer_open env).1 < 0 → Same s (s.timer_open env).2
  | _ => True

/-- The device tree names the pin of the LED, and the pin is there to be had. -/
structure Grants (s : TimerDev) (env : Env) (g : ℤ) : Prop where
  named : env.find_led = some g ∧ 0 ≤ g
  free : (s.pins g).requested = false
  request : env.gpio_request = 0

/-- An open either gets a pin that becomes an output, or gets none and finds the period that it sets. -/
def Spared (s : TimerDev) : Event → Prop
  | .timer_open env => (∃ g, Grants s env g ∧ 0 ≤ env.gpio_direction_output) ∨
      (∀ g, ¬Grants s env g) ∧ s.timeperiod = 1000#32
  | _ => True

variable {s : TimerDev} {env : Env} {g : ℤ}

/-- The device with the pin requested. -/
def TimerDev.with_pin (s : TimerDev) (g : ℤ) : TimerDev :=
  { s with led_gpio := g }.set_pin g fun p => { p with requested := true }

/-- A failure without the pin leaves its mark in `led_gpio` only. -/
theorem led_init_refused (h : ∀ g, ¬Grants s env g) :
    (s.led_init env).1 < 0 ∧ (s.led_init env).2 = { s with led_gpio := env.find_led.getD s.led_gpio } := by
  have hinval : -EINVAL < 0 := by decide
  have hbusy : -EBUSY < 0 := by decide
  unfold TimerDev.led_init
  cases hf : env.find_led with
  | none => exact ⟨hinval, rfl⟩
  | some g =>
    dsimp only
    by_cases hg : g < 0
    · rw [if_pos hg]
      exact ⟨hinval, rfl⟩
    rw [if_neg hg]
    unfold TimerDev.request_led TimerDev.gpio_request
    dsimp only
    by_cases hr : (s.pins g).requested = true
    · rw [if_pos hr, if_pos (Int.ne_of_lt hbusy)]
      exact ⟨hbusy, rfl⟩
    · have hreq : env.gpio_request ≠ 0 := fun h0 => h g ⟨⟨hf, Int.not_lt.1 hg⟩, Bool.eq_false_iff.2 hr, h0⟩
      rw [if_neg hr, if_pos hreq, if_pos hreq]
      exact ⟨Int.lt_iff_le_and_ne.2 ⟨env.request_le, hreq⟩, rfl⟩

theorem led_init_granted (h : Grants s env g) : s.led_init env =
    if env.gpio_direction_output < 0 then (env.gpio_direction_output, s.with_pin g)
    else (0, (s.with_pin g).gpio_set_value g true) := by
  obtain ⟨⟨hf, hg⟩, hfree, hreq⟩ := h
  have hn : ¬g < 0 := Int.not_lt.2 hg
  have hrequest : TimerDev.gpio_request { s with led_gpio := g } env g = (0, s.with_pin g) := by
    unfold TimerDev.gpio_request
    rw [if_neg (Bool.eq_false_iff.1 hfree), if_neg (not_not_intro hreq)]
    rfl
  have hpin : (s.with_pin g).led_gpio = g := by
    unfold TimerDev.with_pin TimerDev.set_pin
    rw [if_neg hn]
  unfold TimerDev.led_init TimerDev.request_led
  rw [hf]
  dsimp only
  rw [if_neg hn, hrequest]
  dsimp only
  rw [if_neg (by decide), hpin]
  unfold TimerDev.gpio_direction_output
  by_cases hd : env.gpio_direction_output < 0
  · rw [if_pos hd, if_pos hd]
  · rw [if_neg hd]
    rfl

/-- The period plays no part in `led_init`. -/
theorem grants_period {period : BitVec 32} : Grants { s with timeperiod := period } env g ↔ Grants s env g :=
  ⟨fun h => ⟨h.named, h.free, h.request⟩, fun h => ⟨h.named, h.free, h.request⟩⟩

theorem request_pins (h : Grants s env g) : (s.with_pin g).pins ≠ s.pins := by
  intro hp
  have hg := congrArg Pin.requested (congrFun hp g)
  unfold TimerDev.with_pin TimerDev.set_pin at hg
  rw [if_neg (Int.not_lt.2 h.named.2)] at hg
  dsimp only at hg
  rw [Function.update_self, h.free] at hg
  cases hg

/-- The period is set before anything can fail, and a pin that does not become an output stays requested. -/
theorem atomic_open (s : TimerDev) (env : Env) : Atomic s (.timer_open env) ↔ Spared s (.timer_open env) := by
  dsimp only [Atomic, Spared]
  unfold TimerDev.timer_open
  dsimp only
  by_cases h : ∃ g, Grants s env g
  · obtain ⟨g, hg⟩ := h
    rw [led_init_granted (grants_period.2 hg)]
    by_cases hd : env.gpio_direction_output < 0
    · rw [if_pos hd]
      dsimp only
      rw [if_pos hd]
      constructor
      · intro ha
        exact absurd (ha hd).pins (request_pins (grants_period.2 hg))
      · rintro (⟨_, _, h0⟩ | ⟨hn, _⟩)
        · omega
        · exact absurd hg (hn g)
    · rw [if_neg hd]
      dsimp only
      rw [if_neg (Int.lt_irrefl 0)]
      exact iff_of_true (fun hlt => absurd hlt (Int.lt_irrefl 0)) (Or.inl ⟨g, hg, Int.not_lt.1 hd⟩)
  · have hn : ∀ g, ¬Grants s env g := fun g hg => h ⟨g, hg⟩
    obtain ⟨hneg, heq⟩ := led_init_refused fun g => mt grants_period.1 (hn g)
    rw [if_pos hneg, heq]
    constructor
    · intro ha
      exact Or.inr ⟨hn, (ha hneg).timeperiod.symm⟩
    · rintro (⟨g, hg, _⟩ | ⟨_, hp⟩)
      · exact absurd hg (hn g)
      · intro _
        exact ⟨hp.symm, rfl, rfl, rfl⟩

/-- In every run the failed opens change nothing exactly when each open gets the pin and may drive it, or finds the period
at 1000 and the pin refused. -/
theorem failed_opens_atomic (pins : ℤ → Pin) (events : List Event) :
    Runs.Meets TimerDev.step Atomic (.start pins) events ↔ Runs.Meets TimerDev.step Spared (.start pins) events := by
  refine Runs.meets_congr (fun s e => ?_) _ events
  cases e with
  | timer_open env => exact atomic_open s env
  | _ => exact Iff.rfl

/-- The LED on pin 10, and no step that fails. -/
def Env.good : Env := ⟨some ⟨some "okay", some "alientek,led", 10⟩, 0, 0, Int.le_refl 0⟩

/-- A second open, while the timer runs with 200 ms. -/
theorem busy_open_resets_period : ¬∀ (pins : ℤ → Pin) (events : List Event),
    Runs.Meets TimerDev.step Atomic (.start pins) events := by
  intro h
  obtain ⟨-, -, hopen, -⟩ :=
    h (fun _ => ⟨false, true⟩) [.timer_open .good, .timer_unlocked_ioctl .SETPERIOD_CMD 200#32 0#32, .timer_open .good]
  exact absurd (hopen (by decide)).timeperiod (by decide)

/-! ## One file at a time

`Led.Timer` describes one pin and one file. That is all there is to see of a run
in which the device tree names no other pin and nobody opens the device between
the two last calls of `led_release`. -/

/-- The open files, and the calls of `led_release` before `gpio_free` and before `del_timer_sync`. -/
def calls : Timer.File → ℕ × ℕ × ℕ
  | .closed => (0, 0, 0)
  | .opened => (1, 0, 0)
  | .gpio_free => (0, 1, 0)
  | .del_timer_sync => (0, 0, 1)

/-- What `Led.Timer` has of the device. -/
structure Shows (g : ℤ) (s : TimerDev) (t : Timer.TimerDev) : Prop where
  pin : s.pins g = ⟨t.gpio_held, t.output⟩
  timeperiod : s.timeperiod = t.timeperiod
  timer : s.timer.map Alarm.msecs = t.timer
  callback : s.callback = t.callback
  sta : s.sta = t.sta
  file : (s.files, s.freeing, s.deleting) = calls t.file
  held : t.file.holds = true → t.gpio_held = true
  named : s.led_gpio = g ∨ t.file = .closed ∧ s.timer = none ∧ s.callback = .idle

/-- Opens name the pin, if they name one, and come before `gpio_free` or after `del_timer_sync`. -/
def OneFile (g : ℤ) (s : TimerDev) : Event → Prop
  | .timer_open env => (∀ g' ∈ env.find_led, g' = g) ∧ s.deleting = 0
  | _ => True

theorem set_pin_eq (hg : 0 ≤ g) (f : Pin → Pin) :
    s.set_pin g f = { s with pins := Function.update s.pins g (f (s.pins g)) } :=
  if_neg (Int.not_lt.2 hg)

theorem timer_open_refused (h : ∀ g, ¬Grants s env g) :
    (s.timer_open env).2 = { s with timeperiod := 1000#32, led_gpio := env.find_led.getD s.led_gpio } := by
  obtain ⟨hneg, heq⟩ := led_init_refused fun g => mt grants_period.1 (h g)
  unfold TimerDev.timer_open
  dsimp only
  rw [if_pos hneg, heq]

theorem timer_open_granted (h : Grants s env g) : (s.timer_open env).2 =
    if env.gpio_direction_output < 0 then
      { s with timeperiod := 1000#32, led_gpio := g, pins := Function.update s.pins g ⟨true, (s.pins g).level⟩ }
    else
      { s with
        timeperiod := 1000#32, led_gpio := g, pins := Function.update s.pins g ⟨true, true⟩, files := s.files + 1 } := by
  have hg : 0 ≤ g := h.named.2
  unfold TimerDev.timer_open
  rw [led_init_granted (grants_period.2 h), TimerDev.with_pin, set_pin_eq hg]
  by_cases hd : env.gpio_direction_output < 0
  · rw [if_pos hd, if_pos hd]
    dsimp only
    rw [if_pos hd]
  · rw [if_neg hd, if_neg hd]
    dsimp only
    rw [if_neg (Int.lt_irrefl 0), TimerDev.gpio_set_value, set_pin_eq hg]
    simp [Function.update_idem]

variable {t : Timer.TimerDev}

namespace Shows

theorem files (h : Shows g s t) : s.files = (calls t.file).1 := congrArg Prod.fst h.file

theorem freeing (h : Shows g s t) : s.freeing = (calls t.file).2.1 := congrArg (fun c : ℕ × ℕ × ℕ => c.2.1) h.file

theorem deleting (h : Shows g s t) : s.deleting = (calls t.file).2.2 := congrArg (fun c : ℕ × ℕ × ℕ => c.2.2) h.file

/-- Outside `led_release` an open finds the device closed or the pin requested. -/
theorem may_open (h : Shows g s t) (hd : s.deleting = 0) : t.file = .closed ∨ t.gpio_held = true := by
  cases hf : t.file with
  | closed => exact .inl rfl
  | opened => exact .inr (h.held (by rw [hf]; rfl))
  | gpio_free => exact .inr (h.held (by rw [hf]; rfl))
  | del_timer_sync =>
    have hdel := h.deleting
    rw [hf, hd] at hdel
    cases hdel

theorem timer_open (h : Shows g s t) (hn : ∀ g' ∈ env.find_led, g' = g) (hd : s.deleting = 0) :
    ∃ init, Shows g (s.timer_open env).2 (t.timer_open init) := by
  have hmay := h.may_open hd
  have hopen : ∀ init, t.timer_open init = { t with timeperiod := 1000#32 }.led_init init := fun init => if_pos hmay
  by_cases hgrants : ∃ g', Grants s env g'
  · obtain ⟨g', hgrants⟩ := hgrants
    obtain rfl := hn g' hgrants.named.1
    have hfree : t.gpio_held = false := by
      have hfree := hgrants.free
      rwa [h.pin] at hfree
    have hheld : ¬t.gpio_held = true := Bool.eq_false_iff.1 hfree
    have hclosed : t.file = .closed := hmay.resolve_right hheld
    rw [timer_open_granted hgrants]
    by_cases hdir : env.gpio_direction_output < 0
    · refine ⟨.direction_failed, ?_⟩
      have hinit : t.timer_open .direction_failed = { t with timeperiod := 1000#32, gpio_held := true } :=
        (hopen _).trans (if_neg hheld)
      rw [if_pos hdir, hinit]
      constructor
      · exact (Function.update_self ..).trans (by rw [h.pin])
      · rfl
      · exact h.timer
      · exact h.callback
      · exact h.sta
      · exact h.file
      · exact fun _ => rfl
      · exact .inl rfl
    · refine ⟨.ok, ?_⟩
      have hinit : t.timer_open .ok =
          { t with timeperiod := 1000#32, gpio_held := true, output := true, file := .opened } :=
        (hopen _).trans (if_neg hheld)
      rw [if_neg hdir, hinit]
      constructor
      · exact Function.update_self ..
      · rfl
      · exact h.timer
      · exact h.callback
      · exact h.sta
      · have hcalls : (s.files, s.freeing, s.deleting) = (0, 0, 0) := by
          rw [h.file, hclosed]
          rfl
        exact congrArg (fun c : ℕ × ℕ × ℕ => (c.1 + 1, c.2)) hcalls
      · exact fun _ => rfl
      · exact .inl rfl
  · rw [timer_open_refused (not_exists.1 hgrants)]
    refine ⟨.no_led, ?_⟩
    rw [hopen]
    refine ⟨h.pin, rfl, h.timer, h.callback, h.sta, h.file, h.held, ?_⟩
    cases hf : env.find_led with
    | none => exact h.named
    | some g' => exact .inl (hn g' hf)

/-- A device in use has found its pin. -/
theorem led_gpio (h : Shows g s t) (hu : t.file ≠ .closed ∨ s.timer ≠ none ∨ s.callback ≠ .idle) : s.led_gpio = g := by
  rcases h.named with hg | ⟨hf, ht, hc⟩
  · exact hg
  · rcases hu with hu | hu | hu
    · exact absurd hf hu
    · exact absurd ht hu
    · exact absurd hc hu

theorem timer_unlocked_ioctl (h : Shows g s t) (cmd : Cmd) (arg jiffies : BitVec 32) :
    Shows g (s.timer_unlocked_ioctl cmd arg jiffies) (t.timer_unlocked_ioctl cmd arg) := by
  unfold TimerDev.timer_unlocked_ioctl Timer.TimerDev.timer_unlocked_ioctl
  by_cases ho : t.file = .opened
  · have hfiles : s.files ≠ 0 := by
      rw [h.files, ho]
      decide
    have hg := h.led_gpio (.inl (by rw [ho]; decide))
    rw [if_neg hfiles, if_pos ho]
    cases cmd with
    | CLOSE_CMD =>
      dsimp only
      by_cases hi : s.callback = .idle
      · rw [if_pos hi, if_pos (h.callback.symm.trans hi)]
        exact ⟨h.pin, h.timeperiod, rfl, h.callback, h.sta, h.file, h.held, .inl hg⟩
      · rw [if_neg hi, if_neg (mt h.callback.trans hi)]
        exact h
    | OPEN_CMD => exact ⟨h.pin, h.timeperiod, congrArg some h.timeperiod, h.callback, h.sta, h.file, h.held, .inl hg⟩
    | SETPERIOD_CMD => exact ⟨h.pin, rfl, rfl, h.callback, h.sta, h.file, h.held, .inl hg⟩
    | other => exact h
  · have hfiles : s.files = 0 := by
      rw [h.files]
      cases hf : t.file <;> first | rfl | exact absurd hf ho
    rw [if_pos hfiles, if_neg ho]
    exact h

theorem led_release (h : Shows g s t) (hg : 0 ≤ g) : ∃ es, Shows g s.led_release (Runs.run Timer.TimerDev.step t es) := by
  by_cases hs : s.files = 0
  · refine ⟨[], ?_⟩
    rw [TimerDev.led_release, if_pos hs]
    exact h
  · have ho : t.file = .opened := by
      rw [h.files] at hs
      cases hf : t.file <;> first | rfl | (rw [hf] at hs; exact absurd rfl hs)
    have hstep : t.led_release = { t with output := true, file := .gpio_free } := by rw [Timer.TimerDev.led_release, ho]
    have hpin := h.led_gpio (.inl (by rw [ho]; decide))
    have hcalls : (s.files, s.freeing, s.deleting) = (1, 0, 0) := by
      rw [h.file, ho]
      rfl
    refine ⟨[.led_release], ?_⟩
    rw [Runs.run_cons, Runs.run_nil, Timer.TimerDev.step, hstep, TimerDev.led_release, if_neg hs, TimerDev.gpio_set_value,
      hpin, set_pin_eq hg]
    constructor
    · exact (Function.update_self ..).trans (by rw [h.pin])
    · exact h.timeperiod
    · exact h.timer
    · exact h.callback
    · exact h.sta
    · exact congrArg (fun c : ℕ × ℕ × ℕ => (c.1 - 1, c.2.1 + 1, c.2.2)) hcalls
    · exact fun _ => h.held (by rw [ho]; rfl)
    · exact .inl hpin

theorem release_gpio (h : Shows g s t) (hg : 0 ≤ g) : ∃ es, Shows g s.release_gpio (Runs.run Timer.TimerDev.step t es) := by
  by_cases hs : s.freeing = 0
  · refine ⟨[], ?_⟩
    rw [TimerDev.release_gpio, if_pos hs]
    exact h
  · have hf : t.file = .gpio_free := by
      rw [h.freeing] at hs
      cases hf : t.file <;> first | rfl | (rw [hf] at hs; exact absurd rfl hs)
    have hstep : t.led_release = { t with gpio_held := false, file := .del_timer_sync } := by
      rw [Timer.TimerDev.led_release, hf]
    have hpin := h.led_gpio (.inl (by rw [hf]; decide))
    have hcalls : (s.files, s.freeing, s.deleting) = (0, 1, 0) := by
      rw [h.file, hf]
      rfl
    refine ⟨[.led_release], ?_⟩
    rw [Runs.run_cons, Runs.run_nil, Timer.TimerDev.step, hstep, TimerDev.release_gpio, if_neg hs, TimerDev.gpio_free,
      hpin, set_pin_eq hg]
    constructor
    · exact (Function.update_self ..).trans (by rw [h.pin])
    · exact h.timeperiod
    · exact h.timer
    · exact h.callback
    · exact h.sta
    · exact congrArg (fun c : ℕ × ℕ × ℕ => (c.1, c.2.1 - 1, c.2.2 + 1)) hcalls
    · intro hf
      cases hf
    · exact .inl hpin

theorem release_timer (h : Shows g s t) : ∃ es, Shows g s.release_timer (Runs.run Timer.TimerDev.step t es) := by
  by_cases hs : s.deleting = 0 ∨ s.callback ≠ .idle
  · refine ⟨[], ?_⟩
    rw [TimerDev.release_timer, if_pos hs]
    exact h
  · obtain ⟨hdel, hi⟩ := not_or.1 hs
    have hi := not_not.1 hi
    have hf : t.file = .del_timer_sync := by
      rw [h.deleting] at hdel
      cases hf : t.file <;> first | rfl | (rw [hf] at hdel; exact absurd rfl hdel)
    have hstep : t.led_release = { t with timer := none, file := .closed, armed := false } := by
      rw [Timer.TimerDev.led_release, hf]
      exact if_pos (h.callback.symm.trans hi)
    have hpin := h.led_gpio (.inl (by rw [hf]; decide))
    have hcalls : (s.files, s.freeing, s.deleting) = (0, 0, 1) := by
      rw [h.file, hf]
      rfl
    refine ⟨[.led_release], ?_⟩
    rw [Runs.run_cons, Runs.run_nil, Timer.TimerDev.step, hstep, TimerDev.release_timer, if_neg hs]
    constructor
    · exact h.pin
    · exact h.timeperiod
    · rfl
    · exact h.callback
    · exact h.sta
    · exact congrArg (fun c : ℕ × ℕ × ℕ => (c.1, c.2.1, c.2.2 - 1)) hcalls
    · intro hf
      cases hf
    · exact .inl hpin

theorem expire (h : Shows g s t) : Shows g s.expire t.expire := by
  unfold TimerDev.expire Timer.TimerDev.expire
  have hiff : t.timer.isSome = true ∧ t.callback = .idle ↔ s.timer.isSome = true ∧ s.callback = .idle := by
    rw [← h.timer, ← h.callback, Option.isSome_map]
  by_cases he : s.timer.isSome = true ∧ s.callback = .idle
  · have hpin := h.led_gpio (.inr (.inl (Option.isSome_iff_ne_none.1 he.1)))
    rw [if_pos he, if_pos (hiff.2 he)]
    exact ⟨h.pin, h.timeperiod, rfl, rfl, h.sta, h.file, h.held, .inl hpin⟩
  · rw [if_neg he, if_neg (mt hiff.1 he)]
    exact h

theorem timer_function (h : Shows g s t) (hg : 0 ≤ g) (jiffies : BitVec 32) :
    Shows g (s.timer_function jiffies) t.timer_function := by
  unfold TimerDev.timer_function Timer.TimerDev.timer_function
  rw [← h.callback]
  cases hc : s.callback with
  | idle => exact h
  | started =>
    have hpin := h.led_gpio (.inr (.inr (by rw [hc]; decide)))
    dsimp only
    rw [hpin, TimerDev.gpio_set_value, set_pin_eq hg]
    constructor
    · exact (Function.update_self ..).trans (by rw [h.pin, h.sta])
    · exact h.timeperiod
    · exact h.timer
    · rfl
    · exact congrArg not h.sta
    · exact h.file
    · exact h.held
    · exact .inl hpin
  | toggled =>
    have hpin := h.led_gpio (.inr (.inr (by rw [hc]; decide)))
    exact ⟨h.pin, h.timeperiod, congrArg some h.timeperiod, rfl, h.sta, h.file, h.held, .inl hpin⟩

theorem step (h : Shows g s t) (hg : 0 ≤ g) {e : Event} (he : OneFile g s e) :
    ∃ es, Shows g (s.step e) (Runs.run Timer.TimerDev.step t es) := by
  cases e with
  | timer_open env =>
    obtain ⟨init, hopen⟩ := h.timer_open he.1 he.2
    exact ⟨[.timer_open init], hopen⟩
  | timer_unlocked_ioctl cmd arg jiffies => exact ⟨[.timer_unlocked_ioctl cmd arg], h.timer_unlocked_ioctl cmd arg jiffies⟩
  | led_release => exact h.led_release hg
  | release_gpio => exact h.release_gpio hg
  | release_timer => exact h.release_timer
  | expire => exact ⟨[.expire], h.expire⟩
  | timer_function jiffies => exact ⟨[.timer_function], h.timer_function hg jiffies⟩

end Shows

theorem shows_start {pins : ℤ → Pin} (hfree : (pins g).requested = false) :
    Shows g (.start pins) (.start (pins g).level) where
  pin := by
    rw [Timer.TimerDev.start, ← hfree]
    rfl
  timeperiod := rfl
  timer := rfl
  callback := rfl
  sta := rfl
  file := rfl
  held := nofun
  named := .inr ⟨rfl, rfl, rfl⟩

/-- Every run with one file at a time is a run of `Led.Timer`. -/
theorem one_file_shows (hg : 0 ≤ g) {pins : ℤ → Pin} (hfree : (pins g).requested = false) {events : List Event}
    (h : Runs.Meets TimerDev.step (OneFile g) (.start pins) events) :
    ∃ es, Shows g (Runs.run TimerDev.step (.start pins) events) (Runs.run Timer.TimerDev.step (.start (pins g).level) es) := by
  have hs : ∀ s t e, Shows g s t → OneFile g s e → ∃ es, Runs.Meets Timer.TimerDev.step (fun _ _ => True) t es ∧
      Shows g (s.step e) (Runs.run Timer.TimerDev.step t es) := by
    intro s t e hr he
    obtain ⟨es, hes⟩ := hr.step hg he
    exact ⟨es, Runs.meets_of_forall (fun _ _ => trivial) _ _, hes⟩
  obtain ⟨es, _, hes⟩ := h.simulates hs (shows_start hfree)
  exact ⟨es, hes⟩

end Led.TimerOpen
