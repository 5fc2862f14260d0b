import LinuxDriver.Lib.Runs
/-!
# The key drivers

`13_irq`, `14_blockio`, `15_noblockio` and `16_asyncnoti` drive the same key.
An edge of its GPIO starts a debounce timer; the timer's function compares the
level with the one before and leaves its finding in `status`, where `key_read`
takes it.
-/

namespace Key

/-- The three values of `status`. -/
inductive KeyStatus
  | KEY_PRESS
  | KEY_RELEASE
  | KEY_KEEP
  deriving DecidableEq

/-- The four drivers with the same timer function and read. -/
inductive Driver
  | keyirq
  | blockio
  | noblockio
  | asyncnoti
  deriving DecidableEq

/-- `status`, and the static variable of `key_timer_function`. -/
structure KeyDev where
  status : KeyStatus
  last_val : Int

/-- `key_init` and `probe` leave no event, and the key released. -/
def probe : KeyDev := { status := .KEY_KEEP, last_val := 1 }

/-- What `key_timer_function` finds. -/
def finding (last_val current_val : Int) : KeyStatus :=
  if 0 = current_val ∧ last_val ≠ 0 then .KEY_PRESS
  else if 1 = current_val ∧ last_val = 0 then .KEY_RELEASE
  else .KEY_KEEP

/-- The debounce timer expires and samples the level `current_val`. -/
def key_timer_function (key : KeyDev) (current_val : Int) : KeyDev :=
  { status := finding key.last_val current_val, last_val := current_val }

/-- The whole of `key_read`, which returns the `ret` of `copy_to_user`, and the
status it gives its caller: none when the copy fails. The drivers after
`13_irq` give none either while there is nothing to report: they wait, or
return -EAGAIN. -/
def key_read (driver : Driver) (ret : Nat) (key : KeyDev) : Option KeyStatus × KeyDev :=
  if driver ≠ .keyirq ∧ key.status = .KEY_KEEP then (none, key)
  else (if ret = 0 then some key.status else none, { key with status := .KEY_KEEP })

end Key
