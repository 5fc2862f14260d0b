import LinuxDriver.Iio.Icm20608
import LinuxDriver.Lib.Threads
/-!
# The calls of an IIO driver

What the drivers call, and what the calls do: the direct-mode lock of the IIO
core, the driver's own mutex, the register map, and the calls that set a device
up and take it down. Which of them fail, and how, is decided from outside.
`claimed` and `failed` are not read by any call; they record what happened.
-/

namespace Iio

open Threads

/-- A call that fails returns `-(e + 1)`, and leaves `left` in a buffer it should have filled. -/
inductive Outcome
  | ok
  | error (e : ℕ) (left : ℕ → Byte)

/-- What the bus call returns. -/
def Outcome.ret : Outcome → ℤ
  | .ok => 0
  | .error e _ => -(e + 1)

/-- What `probe` calls one after the other, and may fail. -/
inductive Setup
  | devm_iio_device_alloc
  | regmap_init
  | devm_iio_triggered_buffer_setup
  | devm_iio_trigger_alloc
  | devm_iio_trigger_register
  | devm_request_irq
  | iio_device_register
  | spi_setup
  deriving DecidableEq

/-- The calls of the drivers into the kernel that matter here. -/
inductive Prim
  | iio_device_claim_direct_mode
  | iio_device_release_direct_mode
  | mutex_lock
  | mutex_unlock
  | regmap_bulk_read (reg : ℤ) (len : ℕ)
  | regmap_bulk_write (reg : ℤ) (val : List Byte)
  | iio_push_to_buffers_with_timestamp (data : List Byte)
  -- the IIO core, where the buffer is enabled or disabled
  | mlock
  | munlock
  | currentmode (buffer : Bool)
  -- probe and remove
  | setup (call : Setup)
  | iio_device_unregister
  | regmap_exit
  deriving DecidableEq

namespace Prim

/-- What a call returns. A read returns its code and the buffer. -/
@[reducible] def Res : Prim → Type
  | iio_device_claim_direct_mode => ℤ
  | regmap_bulk_read _ _ => ℤ × List Byte
  | regmap_bulk_write _ _ => ℤ
  | setup _ => ℤ
  | _ => Unit

/-- The calls of a driver on its own device: its mutex, its registers, its buffer. -/
def plain : Prim → Bool
  | mutex_lock => true
  | mutex_unlock => true
  | regmap_bulk_read _ _ => true
  | regmap_bulk_write _ _ => true
  | iio_push_to_buffers_with_timestamp _ => true
  | _ => false

/-- A register of the sensor is read or written. -/
def accesses : Prim → Bool
  | regmap_bulk_read _ _ => true
  | regmap_bulk_write _ _ => true
  | _ => false

end Prim

/-- Who is bound to the device. -/
inductive Phase
  | unbound
  | probing (i : ℕ)
  | bound
  | removing (i : ℕ)
  deriving DecidableEq

/-- What the calls act on: chip, buffer, locks, and the life of the device. -/
structure Core where
  regs : Regs
  /-- The triggered buffer is enabled. -/
  buffer : Bool
  mlock : Option ℕ
  /-- `dev->lock`. -/
  lock : Option ℕ
  pushed : List (List Byte)
  phase : Phase
  registered : Bool
  regmap : Bool
  /-- Reads and writes of attributes under way. -/
  calls : ℕ
  /-- The last claim of the thread succeeded and it has not released since. -/
  claimed : ℕ → Bool
  /-- The last call of the thread reported failure. -/
  failed : ℕ → Bool

namespace Core

def EBUSY : ℤ := 16

/-- A device that no driver is bound to. -/
def fresh (regs : Regs) : Core where
  regs := regs
  buffer := false
  mlock := none
  lock := none
  pushed := []
  phase := .unbound
  registered := false
  regmap := false
  calls := 0
  claimed := fun _ => false
  failed := fun _ => false

/-- `probe` has succeeded. -/
def probed (regs : Regs) : Core := { fresh regs with phase := .bound, registered := true, regmap := true }

/-- Whether the last call of thread `i` failed. -/
def report (s : Core) (i : ℕ) (failed : Bool) : Core := { s with failed := Function.update s.failed i failed }

/-- The bytes read. After an error they are what the bus has left in the buffer. -/
def bulk_read (s : Core) (reg : ℤ) (len : ℕ) : Outcome → ℤ × List Byte
  | .ok => (0, Mem.read s.regs reg len)
  | .error e left => (-(e + 1), (List.range len).map left)

/-- Nothing is stored after an error. -/
def bulk_write (s : Core) (reg : ℤ) (val : List Byte) : Outcome → Core
  | .ok => { s with regs := Mem.write s.regs reg val }
  | .error _ _ => s

/-- What the call leaves behind where it succeeds. -/
def setup (s : Core) : Setup → Core
  | .regmap_init => { s with regmap := true }
  | .iio_device_register => { s with registered := true }
  | _ => s

/-- One call of thread `i`. `iio_device_unregister` waits for the attributes that are being read or written. -/
def exec (s : Core) (i : ℕ) (e : Outcome) : (o : Prim) → Option (o.Res × Core)
  | .iio_device_claim_direct_mode =>
    if s.mlock.isSome then none
    else if s.buffer then some (-EBUSY, s.report i true)
    else some (0, { s with mlock := some i, claimed := Function.update s.claimed i true }.report i false)
  | .iio_device_release_direct_mode =>
    some ((), { s with mlock := none, claimed := Function.update s.claimed i false }.report i false)
  | .mutex_lock => if s.lock.isSome then none else some ((), { s with lock := some i }.report i false)
  | .mutex_unlock => some ((), { s with lock := none }.report i false)
  | .regmap_bulk_read reg len => some (s.bulk_read reg len e, s.report i (e.ret != 0))
  | .regmap_bulk_write reg val => some (e.ret, (s.bulk_write reg val e).report i (e.ret != 0))
  | .iio_push_to_buffers_with_timestamp data => some ((), { s with pushed := data :: s.pushed }.report i false)
  | .mlock => if s.mlock.isSome then none else some ((), { s with mlock := some i }.report i false)
  | .munlock => some ((), { s with mlock := none }.report i false)
  | .currentmode buffer => some ((), { s with buffer := buffer }.report i false)
  | .setup call => some (e.ret, (if e.ret = 0 then s.setup call else s).report i (e.ret != 0))
  | .iio_device_unregister =>
    if s.calls ≠ 0 then none else some ((), { s with registered := false }.report i false)
  | .regmap_exit => some ((), { s with regmap := false }.report i false)

/-- What the calls of a driver on its own device leave alone. -/
structure Frame (s s' : Core) : Prop where
  mlock : s'.mlock = s.mlock
  claimed : s'.claimed = s.claimed
  buffer : s'.buffer = s.buffer
  phase : s'.phase = s.phase
  registered : s'.registered = s.registered
  regmap : s'.regmap = s.regmap

theorem exec_plain {s s' : Core} {i : ℕ} {e : Outcome} {o : Prim} {r : o.Res} (h : s.exec i e o = some (r, s'))
    (ho : o.plain = true) : Frame s s' := by
  cases o with
  | mutex_lock =>
    simp only [exec] at h
    split at h
    · cases h
    · cases h
      constructor <;> rfl
  | mutex_unlock | iio_push_to_buffers_with_timestamp _ | regmap_bulk_read _ _ =>
    cases h
    constructor <;> rfl
  | regmap_bulk_write _ _ =>
    cases h
    cases e <;> constructor <;> rfl
  | _ => cases ho

end Core

/-! ## Programs -/

/-- The number of a format, which a read returns. -/
def Icm20608.Fmt.code : Icm20608.Fmt → ℤ
  | .IIO_VAL_INT => 1
  | .IIO_VAL_INT_PLUS_MICRO => 2
  | .IIO_VAL_INT_PLUS_NANO => 3

/-- A function of a driver, as the calls it makes. -/
abbrev Run (α : Type) := Prog Prim Prim.Res α

/-- One call. -/
def call (o : Prim) : Run o.Res := Prog.op o

/-- One register, with what the bus returns. -/
def regmap_read (reg : ℤ) : Run (ℤ × Byte) := do
  let (ret, data) ← call (.regmap_bulk_read reg 1)
  return (ret, data.headD 0#8)

/-- One register. -/
def regmap_write (reg : ℤ) (val : Byte) : Run ℤ := call (.regmap_bulk_write reg [val])

/-- The calls between `mutex_lock` and `mutex_unlock`. -/
def locked {α : Type} (body : Run α) : Run α := do
  call .mutex_lock
  let ret ← body
  call .mutex_unlock
  return ret

/-- The program alone on a bus that does not fail. -/
def alone {α : Type} (p : Run α) (s : Core) : Option (α × Regs) :=
  (p.solo (fun s o => s.exec 0 .ok o) s).map fun r => (r.1, r.2.regs)

/-- The call the program makes next, unless it returns. -/
def head {α : Type} : Run α → Option Prim
  | .ret _ => none
  | .call o _ => some o

@[simp] theorem call_bind {α : Type} (o : Prim) (f : o.Res → Run α) : call o >>= f = .call o f := rfl

/-- The program makes plain calls only. -/
abbrev Calm {α : Type} (p : Run α) : Prop := p.All fun o => o.plain = true

theorem calm_call (o : Prim) (ho : o.plain = true) : Calm (call o) := ⟨ho, fun _ => trivial⟩

theorem calm_locked {α : Type} {body : Run α} (h : Calm body) : Calm (locked body) := by
  unfold locked
  apply Prog.all_bind (calm_call .mutex_lock rfl)
  intro _
  apply Prog.all_bind h
  intro a
  exact Prog.all_bind (calm_call .mutex_unlock rfl) fun _ => trivial

theorem calm_regmap_read (reg : ℤ) : Calm (regmap_read reg) := ⟨rfl, fun _ => trivial⟩

theorem calm_regmap_write (reg : ℤ) (val : Byte) : Calm (regmap_write reg val) := ⟨rfl, fun _ => trivial⟩

end Iio
