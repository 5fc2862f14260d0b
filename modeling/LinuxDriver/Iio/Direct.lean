import LinuxDriver.Iio.Core
/-!
# Direct mode and the triggered buffer of the ICM20608

The attributes as programs, call by call, next to the programs that enable and
disable the buffer and that fill it. Any number of them run at a time. A claim
of direct mode fails while the buffer is enabled; the driver does not look at
its result, and two attributes are read without one.
-/

namespace Iio.Icm20608.Direct

open Threads

/-! ## The programs -/

/-- One register; the result of the read is dropped. -/
def icm20608_read_onereg (reg : ℤ) : Run Byte := do
  let (_, data) ← regmap_read reg
  return data

/-- An offset, as two bytes with the high one first. -/
def icm20608_sensor_set (reg : ℤ) (axis : Axis) (val : BitVec 32) : Run ℤ := do
  let result ← call (.regmap_bulk_write (reg + axis.index * 2) (cpu_to_be16 val))
  if result ≠ 0 then return -EINVAL
  return 0

/-- Two bytes as a signed number. -/
def icm20608_sensor_show (reg : ℤ) (axis : Axis) : Run (Except ℤ (BitVec 32)) := do
  let (result, d) ← call (.regmap_bulk_read (reg + axis.index * 2) 2)
  if result ≠ 0 then return .error (-EINVAL)
  return .ok ((be16_to_cpup d).signExtend 32)

/-- The measured value of a channel. -/
def icm20608_read_channel_data (chan : Chan) : Run (Except ℤ (BitVec 32)) :=
  match chan.type with
  | .IIO_ANGL_VEL => icm20608_sensor_show ICM20_GYRO_XOUT_H chan.channel2
  | .IIO_ACCEL => icm20608_sensor_show ICM20_ACCEL_XOUT_H chan.channel2
  | .IIO_TEMP => icm20608_sensor_show ICM20_TEMP_OUT_H .IIO_MOD_X

/-- The loop of both scale writers. -/
def write_scale (scales : List (BitVec 32)) (reg : ℤ) (val : BitVec 32) : Run ℤ :=
  match scales.findIdx? (· == val) with
  | some i => do
    let result ← regmap_write reg (BitVec.ofNat 8 (i <<< 3))
    if result ≠ 0 then return result
    return 0
  | none => return -EINVAL

/-- The scale of the gyroscope, by its table and register. -/
def icm20608_write_gyro_scale : BitVec 32 → Run ℤ := write_scale gyro_scale_icm20608 ICM20_GYRO_CONFIG

/-- The scale of the accelerometer, by its table and register. -/
def icm20608_write_accel_scale : BitVec 32 → Run ℤ := write_scale accel_scale_icm20608 ICM20_ACCEL_CONFIG

/-- The entry of the table that the register selects. -/
def read_scale (scales : List (BitVec 32)) (reg : ℤ) : Run (BitVec 32) := do
  let regdata ← icm20608_read_onereg reg
  return scales.getD ((regdata &&& 0x18#8) >>> 3).toNat 0#32

/-- Only a measured value is read within direct mode; whatever looks into the chip does so under the driver's lock. -/
def icm20608_read_raw (chan : Chan) : Mask → Run (Except ℤ Reading)
  | .RAW => do
    let _ ← call .iio_device_claim_direct_mode
    let ret ← locked (icm20608_read_channel_data chan)
    call .iio_device_release_direct_mode
    return ret.map fun val => ⟨.IIO_VAL_INT, val, 0#32⟩
  | .SCALE =>
    match chan.type with
    | .IIO_ANGL_VEL => do
      let val2 ← locked (read_scale gyro_scale_icm20608 ICM20_GYRO_CONFIG)
      return .ok ⟨.IIO_VAL_INT_PLUS_MICRO, 0#32, val2⟩
    | .IIO_ACCEL => do
      let val2 ← locked (read_scale accel_scale_icm20608 ICM20_ACCEL_CONFIG)
      return .ok ⟨.IIO_VAL_INT_PLUS_NANO, 0#32, val2⟩
    | .IIO_TEMP =>
      return .ok ⟨.IIO_VAL_INT_PLUS_MICRO, ICM20608_TEMP_SCALE / 1000000#32, ICM20608_TEMP_SCALE % 1000000#32⟩
  | .OFFSET =>
    match chan.type with
    | .IIO_TEMP => return .ok ⟨.IIO_VAL_INT, ICM20608_TEMP_OFFSET, 0#32⟩
    | _ => return .error (-EINVAL)
  | .CALIBBIAS =>
    match chan.type with
    | .IIO_ANGL_VEL => do
      let ret ← locked (icm20608_sensor_show ICM20_XG_OFFS_USRH chan.channel2)
      return ret.map fun val => ⟨.IIO_VAL_INT, val, 0#32⟩
    | .IIO_ACCEL => do
      let ret ← locked (icm20608_sensor_show ICM20_XA_OFFSET_H chan.channel2)
      return ret.map fun val => ⟨.IIO_VAL_INT, val, 0#32⟩
    | .IIO_TEMP => return .error (-EINVAL)
  | .other => return .error (-EINVAL)

/-- The switch of `icm20608_write_raw`, between its claim and its release. -/
def write_switch (chan : Chan) (val val2 : BitVec 32) : Mask → Run ℤ
  | .SCALE =>
    match chan.type with
    | .IIO_ANGL_VEL => locked (icm20608_write_gyro_scale val2)
    | .IIO_ACCEL => locked (icm20608_write_accel_scale val2)
    | .IIO_TEMP => return -EINVAL
  | .CALIBBIAS =>
    match chan.type with
    | .IIO_ANGL_VEL => locked (icm20608_sensor_set ICM20_XG_OFFS_USRH chan.channel2 val)
    | .IIO_ACCEL => locked (icm20608_sensor_set ICM20_XA_OFFSET_H chan.channel2 val)
    | .IIO_TEMP => return -EINVAL
  | _ => return -EINVAL

/-- The switch, within direct mode; that the mode may not have been granted is not looked at. -/
def icm20608_write_raw (chan : Chan) (val val2 : BitVec 32) (mask : Mask) : Run ℤ := do
  let _ ← call .iio_device_claim_direct_mode
  let ret ← write_switch chan val val2 mask
  call .iio_device_release_direct_mode
  return ret

def ICM20_INT_ENABLE : ℤ := 0x38
def ICM20_INT_STATUS : ℤ := 0x3A
def ICM20608_BIT_RAW_DATA_RDY_INT : Byte := 0x01#8

/-- The trigger's interrupt goes on or off under the driver's lock. -/
def icm20608_trigger_set_state (state : Bool) : Run ℤ :=
  locked (regmap_write ICM20_INT_ENABLE (if state then 0x01#8 else 0x00#8))

/-- `int_status` stays 0 where it cannot be read. -/
def icm20608_trigger_handler : Run Unit :=
  locked do
    let (ret, data) ← regmap_read ICM20_INT_STATUS
    let int_status := if ret = 0 then data else 0#8
    if int_status &&& ICM20608_BIT_RAW_DATA_RDY_INT ≠ 0#8 then
      let (ret, data) ← call (.regmap_bulk_read ICM20_ACCEL_XOUT_H 14)
      if ret = 0 then call (.iio_push_to_buffers_with_timestamp data)

/-- The IIO core goes back to direct mode where the trigger cannot be switched on. -/
def buffer_enable : Run ℤ := do
  call .mlock
  call (.currentmode true)
  let ret ← icm20608_trigger_set_state true
  if ret ≠ 0 then call (.currentmode false)
  call .munlock
  return ret

/-- The IIO core ends the buffer: trigger off, then direct mode again. -/
def buffer_disable : Run ℤ := do
  call .mlock
  let ret ← icm20608_trigger_set_state false
  call (.currentmode false)
  call .munlock
  return ret

/-! ## Alone on the device -/

/-- Alone, a read shows what the attribute is, whether or not it was let into direct mode. -/
theorem read_raw_alone {s : Core} (hm : s.mlock = none) (hl : s.lock = none) (chan : Chan) (mask : Mask) :
    alone (icm20608_read_raw chan mask) s = some (Icm20608.icm20608_read_raw s.regs chan mask, s.regs) := by
  obtain ⟨regs, buffer, _, _⟩ := s
  subst hm hl
  obtain ⟨type, axis⟩ := chan
  cases buffer
  all_goals cases mask <;> cases type <;> rfl

theorem write_raw_alone {s : Core} (hm : s.mlock = none) (hl : s.lock = none) (chan : Chan) (val val2 : BitVec 32)
    (mask : Mask) :
    alone (icm20608_write_raw chan val val2 mask) s = some (Icm20608.icm20608_write_raw s.regs chan val val2 mask) := by
  obtain ⟨regs, buffer, _, _⟩ := s
  subst hm hl
  obtain ⟨type, axis⟩ := chan
  cases mask with
  | RAW | OFFSET | other => cases buffer <;> rfl
  | CALIBBIAS => cases buffer <;> cases type <;> rfl
  | SCALE =>
    cases type with
    | IIO_TEMP => cases buffer <;> rfl
    | IIO_ANGL_VEL =>
      simp only [icm20608_write_raw, write_switch, icm20608_write_gyro_scale, write_scale, Icm20608.icm20608_write_raw,
        Icm20608.icm20608_write_gyro_scale, Icm20608.write_scale]
      cases gyro_scale_icm20608.findIdx? (· == val2) <;> cases buffer <;> rfl
    | IIO_ACCEL =>
      simp only [icm20608_write_raw, write_switch, icm20608_write_accel_scale, write_scale, Icm20608.icm20608_write_raw,
        Icm20608.icm20608_write_accel_scale, Icm20608.write_scale]
      cases accel_scale_icm20608.findIdx? (· == val2) <;> cases buffer <;> rfl

/-! ## All of them at a time -/

/-- What a thread may be told to do. -/
inductive Job
  | read_raw (chan : Chan) (mask : Mask)
  | write_raw (chan : Chan) (val val2 : BitVec 32) (mask : Mask)
  | buffer_enable
  | buffer_disable
  | trigger_handler
  deriving DecidableEq

/-- A call of the driver from an attribute. -/
def Job.is_call : Job → Bool
  | read_raw _ _ => true
  | write_raw _ _ _ _ => true
  | _ => false

/-- The calls a thread makes for it, and what it returns. -/
def Job.prog : Job → Run ℤ
  | read_raw chan mask => do
    let ret ← icm20608_read_raw chan mask
    return match ret with
      | .ok reading => reading.fmt.code
      | .error e => e
  | write_raw chan val val2 mask => icm20608_write_raw chan val val2 mask
  | buffer_enable => Direct.buffer_enable
  | buffer_disable => Direct.buffer_disable
  | trigger_handler => do
    icm20608_trigger_handler
    return 0

/-- Any number of threads; every job may start at any time. -/
abbrev direct : System Core ℕ Outcome Job Prim Prim.Res ℤ where
  prog := Job.prog
  enter s _ _ := some s
  exec := Core.exec
  leave s _ _ _ := s

/-- The device and what each thread has still to do. -/
abbrev State := Pool Core ℕ Job Prim Prim.Res ℤ

/-- A thread starts a job or makes its next call. -/
abbrev Act := Threads.Act ℕ Outcome Job

/-- The device is probed and nobody uses it. -/
def start (regs : Regs) : State := ⟨.probed regs, fun _ => none⟩

/-- A call that returns has released what it claimed, only a call that claimed releases, and no call reads or writes a
register while the buffer is enabled. -/
def Balanced (s : State) : Act → Prop
  | .start _ _ => True
  | .go i _ => ∀ t ∈ s.thread i,
    (head t.2 = none → s.shared.claimed i = false) ∧
    (head t.2 = some .iio_device_release_direct_mode → s.shared.claimed i = true) ∧
    (t.1.is_call = true → (head t.2).any Prim.accesses = true → s.shared.buffer = false)

/-- Nobody claims direct mode while the buffer is enabled, and nobody reads the scale or the bias of a sensor, which
makes no claim. -/
def Quiet (s : State) : Act → Prop
  | .start _ _ => True
  | .go i _ => ∀ t ∈ s.thread i, t.1.is_call = true →
    (head t.2 = some .iio_device_claim_direct_mode → s.shared.mlock = none → s.shared.buffer = false) ∧
    ((head t.2).any Prim.accesses = true → s.shared.claimed i = false → s.shared.buffer = false)

instance (s : State) (a : Act) : Decidable (Balanced s a) :=
  match a with
  | .start _ _ => .isTrue trivial
  | .go i _ => inferInstanceAs (Decidable (∀ t ∈ s.thread i, _))

instance (s : State) (a : Act) : Decidable (Quiet s a) :=
  match a with
  | .start _ _ => .isTrue trivial
  | .go i _ => inferInstanceAs (Decidable (∀ t ∈ s.thread i, _))

/-! ## Who holds the lock of the core -/

/-- What a thread has of direct mode: a program that was refused goes on all the same. -/
inductive Hold
  | free
  | granted
  | refused
  deriving DecidableEq

/-- A call takes the lock by claiming direct mode, and the core takes it itself. Only who has the lock changes the mode. A
claim is followed by a release before there is another one, whatever became of it. -/
def discipline (is_call : Bool) : (o : Prim) → (o.Res → Hold → Prop) → Hold → Prop
  | .iio_device_claim_direct_mode, post, hold =>
    is_call = true ∧ hold = .free ∧ post (0 : ℤ) .granted ∧ post (-Core.EBUSY) .refused
  | .iio_device_release_direct_mode, post, hold => is_call = true ∧ hold ≠ .free ∧ post () .free
  | .mlock, post, hold => is_call = false ∧ hold = .free ∧ post () .granted
  | .munlock, post, hold => is_call = false ∧ hold = .granted ∧ post () .free
  | .currentmode _, post, hold => is_call = false ∧ hold = .granted ∧ post () .granted
  | .setup _, _, _ => False
  | .iio_device_unregister, _, _ => False
  | .regmap_exit, _, _ => False
  | _, post, hold => ∀ r, post r hold

theorem discipline_plain {is_call : Bool} {o : Prim} {post : o.Res → Hold → Prop} {hold : Hold} (ho : o.plain = true) :
    discipline is_call o post hold ↔ ∀ r, post r hold := by
  cases o with
  | mutex_lock | mutex_unlock | regmap_bulk_read _ _ | regmap_bulk_write _ _ | iio_push_to_buffers_with_timestamp _ =>
    exact Iff.rfl
  | _ => cases ho

theorem calm_sensor_set (reg : ℤ) (axis : Axis) (val : BitVec 32) : Calm (icm20608_sensor_set reg axis val) := by
  unfold icm20608_sensor_set
  apply Prog.all_bind (calm_call (.regmap_bulk_write _ _) rfl)
  intro result
  split <;> trivial

theorem calm_sensor_show (reg : ℤ) (axis : Axis) : Calm (icm20608_sensor_show reg axis) := by
  unfold icm20608_sensor_show
  apply Prog.all_bind (calm_call (.regmap_bulk_read _ _) rfl)
  intro r
  dsimp only
  split <;> trivial

theorem calm_read_channel_data (chan : Chan) : Calm (icm20608_read_channel_data chan) := by
  unfold icm20608_read_channel_data
  split <;> exact calm_sensor_show _ _

theorem calm_write_scale (scales : List (BitVec 32)) (reg : ℤ) (val : BitVec 32) : Calm (write_scale scales reg val) := by
  unfold write_scale
  split
  · apply Prog.all_bind (calm_regmap_write _ _)
    intro result
    split <;> trivial
  · trivial

theorem calm_read_scale (scales : List (BitVec 32)) (reg : ℤ) : Calm (read_scale scales reg) := ⟨rfl, fun _ => trivial⟩

theorem calm_write_switch (chan : Chan) (val val2 : BitVec 32) (mask : Mask) : Calm (write_switch chan val val2 mask) := by
  obtain ⟨type, axis⟩ := chan
  cases mask with
  | RAW | OFFSET | other => trivial
  | SCALE =>
    cases type with
    | IIO_TEMP => trivial
    | IIO_ANGL_VEL | IIO_ACCEL => exact calm_locked (calm_write_scale _ _ _)
  | CALIBBIAS =>
    cases type with
    | IIO_TEMP => trivial
    | IIO_ANGL_VEL | IIO_ACCEL => exact calm_locked (calm_sensor_set _ _ _)

/-- An attribute other than `RAW` is read without a claim. -/
theorem calm_read_raw (chan : Chan) {mask : Mask} (hmask : mask ≠ .RAW) : Calm (icm20608_read_raw chan mask) := by
  obtain ⟨type, axis⟩ := chan
  cases mask with
  | RAW => exact absurd rfl hmask
  | OFFSET => cases type <;> trivial
  | other => trivial
  | SCALE =>
    cases type with
    | IIO_TEMP => trivial
    | IIO_ANGL_VEL | IIO_ACCEL =>
      apply Prog.all_bind (calm_locked (calm_read_scale _ _))
      exact fun _ => trivial
  | CALIBBIAS =>
    cases type with
    | IIO_TEMP => trivial
    | IIO_ANGL_VEL | IIO_ACCEL =>
      apply Prog.all_bind (calm_locked (calm_sensor_show _ _))
      exact fun _ => trivial

theorem calm_trigger_set_state (state : Bool) : Calm (icm20608_trigger_set_state state) :=
  calm_locked (calm_regmap_write _ _)

theorem calm_trigger_handler : Calm icm20608_trigger_handler := by
  apply calm_locked
  apply Prog.all_bind (calm_regmap_read _)
  intro status
  dsimp only
  generalize (if status.1 = 0 then status.2 else 0#8) = int_status
  split
  · apply Prog.all_bind (calm_call (.regmap_bulk_read _ _) rfl)
    intro r
    split
    · exact calm_call (.iio_push_to_buffers_with_timestamp _) rfl
    · trivial
  · trivial

theorem Calm.then {α β : Type} {is_call : Bool} {hold : Hold} {post : β → Hold → Prop} {p : Run α} {f : α → Run β}
    (hp : Calm p) (hf : ∀ a, Prog.Keeps (discipline is_call) post (f a) hold) :
    Prog.Keeps (discipline is_call) post (p >>= f) hold := by
  rw [Prog.keeps_bind]
  exact Prog.keeps_of_all (fun o ho _ h => (discipline_plain ho).2 h) hp hf

/-- Nothing is held at the end. -/
def Disciplined (is_call : Bool) : Run ℤ → Hold → Prop := Prog.Keeps (discipline is_call) fun _ hold => hold = .free

theorem prog_disciplined (j : Job) : Disciplined j.is_call j.prog .free := by
  cases j with
  | read_raw chan mask =>
    by_cases hmask : mask = .RAW
    · subst hmask
      unfold Disciplined Job.prog
      dsimp only
      rw [Prog.keeps_bind]
      have hbody := calm_locked (calm_read_channel_data chan)
      refine ⟨rfl, rfl, ?_, ?_⟩
      · exact Calm.then (p := locked (icm20608_read_channel_data chan)) hbody fun _ => ⟨rfl, nofun, rfl⟩
      · exact Calm.then (p := locked (icm20608_read_channel_data chan)) hbody fun _ => ⟨rfl, nofun, rfl⟩
    · exact Calm.then (calm_read_raw chan hmask) fun _ => rfl
  | write_raw chan val val2 mask =>
    have hbody := calm_write_switch chan val val2 mask
    refine ⟨rfl, rfl, ?_, ?_⟩
    · exact Calm.then (p := write_switch chan val val2 mask) hbody fun _ => ⟨rfl, nofun, rfl⟩
    · exact Calm.then (p := write_switch chan val val2 mask) hbody fun _ => ⟨rfl, nofun, rfl⟩
  | buffer_enable =>
    refine ⟨rfl, rfl, rfl, rfl, ?_⟩
    refine Calm.then (p := icm20608_trigger_set_state true) (calm_trigger_set_state true) ?_
    intro ret
    split
    · exact ⟨rfl, rfl, rfl, rfl, rfl⟩
    · exact ⟨rfl, rfl, rfl⟩
  | buffer_disable =>
    refine ⟨rfl, rfl, ?_⟩
    refine Calm.then (p := icm20608_trigger_set_state false) (calm_trigger_set_state false) ?_
    exact fun _ => ⟨rfl, rfl, rfl, rfl, rfl⟩
  | trigger_handler => exact Calm.then calm_trigger_handler fun _ => rfl

/-! ## Runs in which nobody is refused -/

/-- The direct mode as thread `i` holds it. -/
def hold (s : Core) (i : ℕ) : Hold := if s.mlock = some i then .granted else .free

theorem hold_eq_granted {s : Core} {i : ℕ} : hold s i = .granted ↔ s.mlock = some i := by
  unfold hold
  split <;> simp_all

theorem hold_eq_free {s : Core} {i : ℕ} : hold s i = .free ↔ s.mlock ≠ some i := by
  unfold hold
  split <;> simp_all

theorem hold_ne_free {s : Core} {i : ℕ} (h : hold s i ≠ .free) : s.mlock = some i :=
  not_not.1 fun hn => h (hold_eq_free.2 hn)

theorem hold_congr {s s' : Core} (h : s'.mlock = s.mlock) (i : ℕ) : hold s' i = hold s i := by
  unfold hold
  rw [h]

/-- What is true of thread `i`: it has the lock by the rules, a call has it exactly while it is in direct mode, and the
buffer is off for as long as a call has it. -/
def Owns (s : Core) (i : ℕ) : Option (Job × Run ℤ) → Prop
  | none => hold s i = .free ∧ s.claimed i = false
  | some (j, p) =>
    Disciplined j.is_call p (hold s i) ∧ s.claimed i = (j.is_call && hold s i == .granted) ∧
      (s.claimed i = true → s.buffer = false)

/-- A step of the thread that has the lock, or takes it while it is free. -/
theorem owns_exec {s s' : Core} {i : ℕ} {e : Outcome} {j : Job} {o : Prim} {k : o.Res → Run ℤ} {r : o.Res}
    (h : s.exec i e o = some (r, s')) (hown : Owns s i (some (j, .call o k)))
    (hq : j.is_call = true → o = .iio_device_claim_direct_mode → s.mlock = none → s.buffer = false) :
    Owns s' i (some (j, k r)) := by
  obtain ⟨hd, hclaimed, hbuffer⟩ := hown
  change discipline j.is_call o (fun r => Disciplined j.is_call (k r)) (hold s i) at hd
  by_cases ho : o.plain = true
  · obtain ⟨hm, hc, hb, -, -, -⟩ := Core.exec_plain h ho
    refine ⟨?_, ?_, ?_⟩
    · rw [hold_congr hm]
      exact (discipline_plain ho).1 hd r
    · rw [hold_congr hm, hc]
      exact hclaimed
    · rw [hc, hb]
      exact hbuffer
  · cases o with
    | iio_device_claim_direct_mode =>
      obtain ⟨hcall, -, hpost, -⟩ := hd
      simp only [Core.exec] at h
      split at h
      · cases h
      · rename_i hfree
        have hfree : s.mlock = none := by simpa using hfree
        rw [if_neg (by simp [hq hcall rfl hfree])] at h
        cases h
        refine ⟨?_, ?_, fun _ => hq hcall rfl hfree⟩
        · simpa [Core.report, hold] using hpost
        · simp [Core.report, hold, hcall]
    | iio_device_release_direct_mode =>
      obtain ⟨hcall, -, hpost⟩ := hd
      cases h
      refine ⟨?_, ?_, ?_⟩
      · simpa [Core.report, hold] using hpost
      · simp [Core.report, hold]
      · simp [Core.report]
    | mlock =>
      obtain ⟨hcall, -, hpost⟩ := hd
      simp only [Core.exec] at h
      split at h
      · cases h
      · cases h
        refine ⟨?_, ?_, ?_⟩
        · simpa [Core.report, hold] using hpost
        · simp [Core.report, hclaimed, hcall]
        · simp [Core.report, hclaimed, hcall]
    | munlock =>
      obtain ⟨hcall, -, hpost⟩ := hd
      cases h
      refine ⟨?_, ?_, ?_⟩
      · simpa [Core.report, hold] using hpost
      · simp [Core.report, hclaimed, hcall]
      · simp [Core.report, hclaimed, hcall]
    | currentmode buffer =>
      obtain ⟨hcall, hheld, hpost⟩ := hd
      cases h
      refine ⟨?_, ?_, ?_⟩
      · rw [← hheld] at hpost
        exact hpost
      · simp [Core.report, hclaimed, hcall]
      · simp [Core.report, hclaimed, hcall]
    | setup _ | iio_device_unregister | regmap_exit => exact hd.elim
    | _ => exact absurd rfl ho

/-- A call of one thread takes the lock from nobody, and changes the mode only where its thread has the lock. -/
theorem exec_others {s s' : Core} {i i' : ℕ} {e : Outcome} {j : Job} {o : Prim} {k : o.Res → Run ℤ} {r : o.Res}
    (h : s.exec i e o = some (r, s')) (hd : Disciplined j.is_call (.call o k) (hold s i)) (hi : i' ≠ i) :
    hold s' i' = hold s i' ∧ s'.claimed i' = s.claimed i' ∧ (s'.buffer = s.buffer ∨ s.mlock = some i) := by
  change discipline j.is_call o (fun r => Disciplined j.is_call (k r)) (hold s i) at hd
  have hne : i ≠ i' := hi.symm
  by_cases ho : o.plain = true
  · obtain ⟨hm, hc, hb, -, -, -⟩ := Core.exec_plain h ho
    exact ⟨hold_congr hm i', by rw [hc], .inl hb⟩
  · cases o with
    | iio_device_claim_direct_mode =>
      simp only [Core.exec] at h
      split at h
      · cases h
      · rename_i hfree
        have hfree : s.mlock = none := by simpa using hfree
        split at h
        · cases h
          exact ⟨rfl, rfl, .inl rfl⟩
        · cases h
          exact ⟨by simp [Core.report, hold, hfree, hne], by simp [Core.report, hi], .inl rfl⟩
    | iio_device_release_direct_mode =>
      have hheld := hold_ne_free hd.2.1
      cases h
      exact ⟨by simp [Core.report, hold, hheld, hne], by simp [Core.report, hi], .inl rfl⟩
    | mlock =>
      simp only [Core.exec] at h
      split at h
      · cases h
      · rename_i hfree
        have hfree : s.mlock = none := by simpa using hfree
        cases h
        exact ⟨by simp [Core.report, hold, hfree, hne], rfl, .inl rfl⟩
    | munlock =>
      have hheld := hold_eq_granted.1 hd.2.1
      cases h
      exact ⟨by simp [Core.report, hold, hheld, hne], rfl, .inl rfl⟩
    | currentmode buffer =>
      have hheld := hold_eq_granted.1 hd.2.1
      cases h
      exact ⟨rfl, rfl, .inr hheld⟩
    | setup _ | iio_device_unregister | regmap_exit => exact hd.elim
    | _ => exact absurd rfl ho

theorem owns_others {s s' : Core} {i i' : ℕ} {e : Outcome} {j : Job} {o : Prim} {k : o.Res → Run ℤ} {r : o.Res}
    (h : s.exec i e o = some (r, s')) (hown : Owns s i (some (j, .call o k))) (hi : i' ≠ i) (p : Option (Job × Run ℤ))
    (hp : Owns s i' p) : Owns s' i' p := by
  obtain ⟨hm, hc, hb⟩ := exec_others h hown.1 hi
  cases p with
  | none => exact ⟨by rw [hm]; exact hp.1, by rw [hc]; exact hp.2⟩
  | some t =>
    obtain ⟨j', p⟩ := t
    obtain ⟨hd, hclaimed, hbuffer⟩ := hp
    refine ⟨by rw [hm]; exact hd, by rw [hm, hc]; exact hclaimed, ?_⟩
    intro htrue
    rw [hc] at htrue
    rcases hb with hb | hb
    · rw [hb]
      exact hbuffer htrue
    · -- the mode is changed by who has the lock, and that is somebody else
      have hfree : hold s i' = .free := by
        rw [hold_eq_free, hb]
        exact fun heq => hi (Option.some.inj heq).symm
      rw [hclaimed, hfree] at htrue
      simp at htrue

/-- Each thread's share of the locks is what its remaining calls give back. -/
abbrev Owned : State → Prop := System.Holds (fun _ => True) Owns

theorem owned_start (regs : Regs) : Owned (start regs) := ⟨trivial, fun _ => ⟨rfl, rfl⟩⟩

theorem owned_step (s : State) (a : Act) (h : Owned s) (hq : Quiet s a) : Owned (direct.step s a) := by
  refine direct.holds_step (C := Quiet) ?_ ?_ ?_ s a h hq
  · -- a job starts
    intro sh i j sh' hin _ hidle
    cases hin
    refine ⟨trivial, ?_, fun _ _ _ hp => hp⟩
    obtain ⟨hm, hc⟩ := hidle
    refine ⟨?_, ?_, ?_⟩
    · rw [hm]
      exact prog_disciplined j
    · rw [hm, hc]
      simp
    · rw [hc]
      exact nofun
  · -- a call is made
    intro s i e j o k r sh' hq hthread hexec hholds
    have hown : Owns s.shared i (some (j, .call o k)) := hthread ▸ hholds.2 i
    refine ⟨trivial, ?_, fun i' hi p hp => owns_others hexec hown hi p hp⟩
    refine owns_exec hexec hown ?_
    rintro hcall rfl
    exact (hq (j, _) hthread hcall).1 rfl
  · -- a job returns
    intro sh i j r _ hown
    refine ⟨trivial, ?_, fun _ _ _ hp => hp⟩
    obtain ⟨hd, hc, -⟩ := hown
    have hm : hold sh i = .free := hd
    refine ⟨hm, ?_⟩
    rw [hc, hm]
    simp

theorem balanced_of_owned (s : State) (a : Act) (h : Owned s) (hq : Quiet s a) : Balanced s a := by
  cases a with
  | start i j => trivial
  | go i e =>
    rintro ⟨j, p⟩ hthread
    have hown : Owns s.shared i (some (j, p)) := hthread ▸ h.2 i
    obtain ⟨hd, hclaimed, hbuffer⟩ := hown
    cases p with
    | ret a =>
      have hm : hold s.shared i = .free := hd
      refine ⟨fun _ => ?_, nofun, nofun⟩
      rw [hclaimed, hm]
      simp
    | call o k =>
      refine ⟨nofun, ?_, ?_⟩
      · intro ho
        obtain rfl := Option.some.inj ho
        obtain ⟨hcall, hheld, -⟩ := hd
        rw [hclaimed, hcall, hold_eq_granted.2 (hold_ne_free hheld)]
        rfl
      · intro hcall ho
        by_cases hc : s.shared.claimed i = true
        · exact hbuffer hc
        · exact (hq (j, .call o k) hthread hcall).2 ho (by simpa using hc)

/-! ## A refused claim is not given up -/

/-- What is true of thread `i` in every run. -/
def Tracks (s : Core) (i : ℕ) : Option (Job × Run ℤ) → Prop
  | none => s.claimed i = false
  | some (j, p) => ∃ hold, Disciplined j.is_call p hold ∧ s.claimed i = (j.is_call && hold == .granted)

/-- A claim and a release change what their own thread has claimed, and nothing else does. -/
theorem exec_claimed {s s' : Core} {i : ℕ} {e : Outcome} {o : Prim} {r : o.Res} (h : s.exec i e o = some (r, s')) :
    (∀ i' ≠ i, s'.claimed i' = s.claimed i') ∧
      (o ≠ .iio_device_claim_direct_mode → o ≠ .iio_device_release_direct_mode → s'.claimed i = s.claimed i) := by
  by_cases ho : o.plain = true
  · have hc := (Core.exec_plain h ho).claimed
    exact ⟨fun _ _ => by rw [hc], fun _ _ => by rw [hc]⟩
  · cases o with
    | iio_device_claim_direct_mode =>
      refine ⟨fun i' hi => ?_, fun hne => absurd rfl hne⟩
      simp only [Core.exec] at h
      split at h
      · cases h
      · split at h
        · cases h
          rfl
        · cases h
          simp [Core.report, hi]
    | iio_device_release_direct_mode =>
      cases h
      exact ⟨fun i' hi => by simp [Core.report, hi], fun _ hne => absurd rfl hne⟩
    | mlock =>
      simp only [Core.exec] at h
      split at h
      · cases h
      · cases h
        exact ⟨fun _ _ => rfl, fun _ _ => rfl⟩
    | munlock | currentmode _ =>
      cases h
      exact ⟨fun _ _ => rfl, fun _ _ => rfl⟩
    | setup call =>
      cases h
      cases call <;> exact ⟨fun _ _ => by split <;> rfl, fun _ _ => by split <;> rfl⟩
    | iio_device_unregister =>
      simp only [Core.exec] at h
      split at h
      · cases h
      · cases h
        exact ⟨fun _ _ => rfl, fun _ _ => rfl⟩
    | regmap_exit =>
      cases h
      exact ⟨fun _ _ => rfl, fun _ _ => rfl⟩
    | _ => exact absurd rfl ho

/-- What a call leaves of direct mode to its thread. -/
theorem tracks_exec {s s' : Core} {i : ℕ} {e : Outcome} {j : Job} {o : Prim} {k : o.Res → Run ℤ} {r : o.Res}
    (h : s.exec i e o = some (r, s')) (ht : Tracks s i (some (j, .call o k))) : Tracks s' i (some (j, k r)) := by
  obtain ⟨hold, hd, hclaimed⟩ := ht
  change discipline j.is_call o (fun r => Disciplined j.is_call (k r)) hold at hd
  have hsame := (exec_claimed h).2
  by_cases ho : o.plain = true
  · have hc : s'.claimed i = s.claimed i := by rw [(Core.exec_plain h ho).claimed]
    exact ⟨hold, (discipline_plain ho).1 hd r, hc.trans hclaimed⟩
  · cases o with
    | iio_device_claim_direct_mode =>
      obtain ⟨hcall, rfl, hgranted, hrefused⟩ := hd
      simp only [Core.exec] at h
      split at h
      · cases h
      · split at h
        · cases h
          have hfalse : s.claimed i = false := hclaimed.trans (Bool.and_false _)
          exact ⟨.refused, hrefused, by simp [Core.report, hfalse]⟩
        · cases h
          exact ⟨.granted, hgranted, by simp [Core.report, hcall]⟩
    | iio_device_release_direct_mode =>
      obtain ⟨-, -, hpost⟩ := hd
      cases h
      exact ⟨.free, hpost, by simp [Core.report]⟩
    | mlock =>
      obtain ⟨hcall, -, hpost⟩ := hd
      refine ⟨.granted, hpost, ?_⟩
      rw [hsame Prim.noConfusion Prim.noConfusion, hclaimed, hcall]
      rfl
    | munlock =>
      obtain ⟨hcall, -, hpost⟩ := hd
      refine ⟨.free, hpost, ?_⟩
      rw [hsame Prim.noConfusion Prim.noConfusion, hclaimed, hcall]
      rfl
    | currentmode buffer =>
      obtain ⟨hcall, -, hpost⟩ := hd
      refine ⟨.granted, hpost, ?_⟩
      rw [hsame Prim.noConfusion Prim.noConfusion, hclaimed, hcall]
      rfl
    | setup _ | iio_device_unregister | regmap_exit => exact hd.elim
    | _ => exact absurd rfl ho

theorem tracks_congr {s s' : Core} {i : ℕ} (h : s'.claimed i = s.claimed i) (p : Option (Job × Run ℤ)) (hp : Tracks s i p) :
    Tracks s' i p := by
  cases p with
  | none => exact h.trans hp
  | some t =>
    obtain ⟨hold, hd, hclaimed⟩ := hp
    exact ⟨hold, hd, h.trans hclaimed⟩

/-- Each thread's remaining calls fit what it holds of the direct mode. -/
abbrev Tracked : State → Prop := System.Holds (fun _ => True) Tracks

theorem tracked_start (regs : Regs) : Tracked (start regs) := ⟨trivial, fun _ => rfl⟩

theorem tracked_step (s : State) (a : Act) (h : Tracked s) : Tracked (direct.step s a) := by
  refine direct.holds_step (C := fun _ _ => True) ?_ ?_ ?_ s a h trivial
  · -- a job starts
    intro sh i j sh' hin _ hidle
    cases hin
    refine ⟨trivial, ⟨.free, prog_disciplined j, ?_⟩, fun _ _ _ hp => hp⟩
    rw [show sh.claimed i = false from hidle]
    simp
  · -- a call is made
    intro s i e j o k r sh' _ hthread hexec hholds
    have ht : Tracks s.shared i (some (j, .call o k)) := hthread ▸ hholds.2 i
    exact ⟨trivial, tracks_exec hexec ht, fun i' hi p => tracks_congr ((exec_claimed hexec).1 i' hi) p⟩
  · -- a job returns
    intro sh i j r _ ht
    refine ⟨trivial, ?_, fun _ _ _ hp => hp⟩
    obtain ⟨hold, hd, hclaimed⟩ := ht
    have hfree : hold = .free := hd
    change sh.claimed i = false
    rw [hclaimed, hfree]
    simp

/-- A thread that goes on after a refused claim releases before it returns, and then the run is not balanced. -/
theorem not_balanced_of_refused (as : List Act) {s : State} {i : ℕ} {j : Job} {p : Run ℤ} (hthread : s.thread i = some (j, p))
    (hd : Disciplined j.is_call p .refused) (hc : s.shared.claimed i = false)
    (hend : (Runs.run direct.step s as).thread i = none) : ¬Runs.Meets direct.step Balanced s as := by
  induction as generalizing s p with
  | nil =>
    rw [Runs.run_nil, hthread] at hend
    cases hend
  | cons a as ih =>
    rintro ⟨hb, hrest⟩
    rw [Runs.run_cons] at hend
    rcases direct.step_cases s a with hs | ⟨i', j', sh, rfl, hidle, hin, hs⟩ | ⟨i', e, j', r, rfl, hthread', hs⟩ |
      ⟨i', e, j', o, k, r, sh, rfl, hthread', hexec, hs⟩
    · rw [hs] at hrest hend
      exact ih hthread hd hc hend hrest
    · have hi : i ≠ i' := by
        rintro rfl
        rw [hthread] at hidle
        cases hidle
      cases hin
      have hthread' : (direct.step s (.start i' j')).thread i = some (j, p) := by
        rw [hs]
        exact (Function.update_of_ne hi ..).trans hthread
      exact ih hthread' hd (by rw [hs]; exact hc) hend hrest
    · by_cases hi : i = i'
      · subst hi
        rw [hthread] at hthread'
        cases hthread'
        cases hd
      · have hthread'' : (direct.step s (.go i' e)).thread i = some (j, p) := by
          rw [hs]
          exact (Function.update_of_ne hi ..).trans hthread
        exact ih hthread'' hd (by rw [hs]; exact hc) hend hrest
    · obtain ⟨hothers, hsame⟩ := exec_claimed hexec
      by_cases hi : i = i'
      · subst hi
        rw [hthread] at hthread'
        cases hthread'
        change discipline j.is_call o (fun r => Disciplined j.is_call (k r)) .refused at hd
        -- it claims no more, and a release would be unbalanced
        have hclaim : o ≠ .iio_device_claim_direct_mode := by
          rintro rfl
          cases hd.2.1
        have hrelease : o ≠ .iio_device_release_direct_mode := by
          rintro rfl
          have := (hb _ hthread).2.1 rfl
          rw [hc] at this
          cases this
        have hd' : Disciplined j.is_call (k r) .refused := by
          cases o with
          | iio_device_claim_direct_mode => exact absurd rfl hclaim
          | iio_device_release_direct_mode => exact absurd rfl hrelease
          | mlock | munlock | currentmode _ => cases hd.2.1
          | setup _ | iio_device_unregister | regmap_exit => exact hd.elim
          | _ => exact hd r
        have hthread' : (direct.step s (.go i e)).thread i = some (j, k r) := by
          rw [hs]
          exact Function.update_self ..
        exact ih hthread' hd' (by rw [hs]; exact (hsame hclaim hrelease).trans hc) hend hrest
      · have hthread'' : (direct.step s (.go i' e)).thread i = some (j, p) := by
          rw [hs]
          exact (Function.update_of_ne hi ..).trans hthread
        exact ih hthread'' hd (by rw [hs]; exact (hothers i hi).trans hc) hend hrest

/-- A refused claim, or a register read without one while the buffer is enabled, shows by the time everybody is done. -/
theorem not_balanced_of_not_quiet (s : State) (a : Act) (as : List Act) (h : Tracked s) (hq : ¬Quiet s a)
    (hend : ∀ i, (Runs.run direct.step (direct.step s a) as).thread i = none) :
    ¬Runs.Meets direct.step Balanced s (a :: as) := by
  rintro ⟨hb, hrest⟩
  cases a with
  | start i j => exact hq trivial
  | go i e =>
    refine hq ?_
    rintro ⟨j, p⟩ hthread hcall
    refine ⟨?_, fun ho _ => (hb _ hthread).2.2 hcall ho⟩
    intro ho hfree
    cases p with
    | ret r => cases ho
    | call o k =>
      obtain rfl := Option.some.inj ho
      by_contra hbuffer
      have hbuffer : s.shared.buffer = true := by simpa using hbuffer
      have ht : Tracks s.shared i (some (j, .call .iio_device_claim_direct_mode k)) := hthread ▸ h.2 i
      obtain ⟨hold, ⟨-, rfl, -, hrefused⟩, hclaimed⟩ := ht
      have hs : direct.step s (.go i e) =
          ⟨s.shared.report i true, Function.update s.thread i (some (j, k (-Core.EBUSY)))⟩ := by
        have hthread : s.thread i = some (j, .call .iio_device_claim_direct_mode k) := hthread
        simp [System.step, hthread, Core.exec, hfree, hbuffer]
      refine not_balanced_of_refused as (s := direct.step s (.go i e)) ?_ hrefused ?_ (hend i) hrest
      · rw [hs]
        exact Function.update_self ..
      · rw [hs]
        exact hclaimed.trans (Bool.and_false _)

/-- Direct mode is claimed and released in balance where nobody claims it, or reads a scale or a bias, while the buffer is
enabled; and where everybody has returned, only there. -/
theorem direct_mode_balanced (regs : Regs) (as : List Act) :
    (Runs.Meets direct.step Quiet (start regs) as → Runs.Meets direct.step Balanced (start regs) as) ∧
    ((∀ i, (Runs.run direct.step (start regs) as).thread i = none) → Runs.Meets direct.step Balanced (start regs) as →
      Runs.Meets direct.step Quiet (start regs) as) := by
  constructor
  · exact Runs.Meets.imp owned_step balanced_of_owned (owned_start regs)
  · intro hend hb
    refine Runs.Meets.of_end (Q := Runs.Meets direct.step Balanced) (R := fun s => ∀ i, s.thread i = none) (I := Tracked)
      (fun _ _ _ h => h.2) (fun s a h _ => tracked_step s a h) not_balanced_of_not_quiet (tracked_start regs) hend hb

/-- The acceleration is read, and then the buffer is enabled. -/
theorem direct_mode_balanced_read : Runs.Meets direct.step Balanced (start fun _ => 0#8)
    (.start 1 (.read_raw ⟨.IIO_ACCEL, .IIO_MOD_X⟩ .RAW) :: List.replicate 6 (.go 1 .ok) ++
      .start 0 .buffer_enable :: List.replicate 7 (.go 0 .ok)) :=
  (direct_mode_balanced (fun _ => 0#8) _).1 (by decide)

/-- The buffer is enabled and then the acceleration is read: the claim is refused, the registers are read all the same, and
direct mode is released. -/
theorem read_while_enabled : ¬Runs.Meets direct.step Balanced (start fun _ => 0#8)
    (.start 0 .buffer_enable :: List.replicate 7 (.go 0 .ok) ++
      .start 1 (.read_raw ⟨.IIO_ACCEL, .IIO_MOD_X⟩ .RAW) :: List.replicate 6 (.go 1 .ok)) := by
  decide

end Iio.Icm20608.Direct
