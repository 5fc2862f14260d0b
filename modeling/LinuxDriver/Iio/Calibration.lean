import LinuxDriver.Iio.Icm20608
/-!
# Where a bias is stored

`icm20608_sensor_set` and `icm20608_sensor_show` find the registers of an axis
by a base and a stride of 2, for the gyroscope and for the accelerometer. The
header `icm20608reg.h` places the accelerometer's pairs three registers apart.
-/

namespace Iio.Icm20608

/-- A write of a sensor's bias. -/
structure Bias where
  chan : Chan
  val : BitVec 32
  val2 : BitVec 32
  sensor : chan.type ≠ .IIO_TEMP

/-- The registers after the write. -/
def calibrate (regs : Regs) (w : Bias) : Regs := (icm20608_write_raw regs w.chan w.val w.val2 .CALIBBIAS).2

/-- The high register of the axis; the low one follows it. -/
def Bias.high (w : Bias) : ℤ := offset_reg w.chan.type w.chan.channel2

/-- The pair of the axis takes the value, nothing else changes, and the same pair is read. -/
structure Calibrates (regs : Regs) (w : Bias) : Prop where
  high : calibrate regs w w.high = w.val.extractLsb' 8 8
  low : calibrate regs w (w.high + 1) = w.val.extractLsb' 0 8
  others : ∀ reg, reg ≠ w.high → reg ≠ w.high + 1 → calibrate regs w reg = regs reg
  reads : ∀ regs', icm20608_read_raw regs' w.chan .CALIBBIAS =
    .ok ⟨.IIO_VAL_INT, (regs' w.high ++ regs' (w.high + 1)).signExtend 32, 0#32⟩

/-- One of the twelve registers that the header names for the biases. -/
def Named (reg : ℤ) : Prop :=
  ∃ chan : Chan, chan.type ≠ .IIO_TEMP ∧
    (reg = offset_reg chan.type chan.channel2 ∨ reg = offset_reg chan.type chan.channel2 + 1)

/-- The stride is the header's. -/
def Bias.Aligned (w : Bias) : Prop := w.chan.type = .IIO_ACCEL → w.chan.channel2 = .IIO_MOD_X

instance (w : Bias) : Decidable w.Aligned := inferInstanceAs (Decidable (_ → _))

variable {regs : Regs} {w : Bias}

theorem calibrate_eq (regs : Regs) (w : Bias) :
    calibrate regs w = Mem.write regs (w.chan.region .CALIBBIAS).1 (cpu_to_be16 w.val) := by
  obtain ⟨⟨type, axis⟩, val, val2, hs⟩ := w
  cases type with
  | IIO_TEMP => exact absurd rfl hs
  | IIO_ANGL_VEL => rfl
  | IIO_ACCEL => rfl

theorem read_bias (regs : Regs) (w : Bias) :
    let a := (w.chan.region .CALIBBIAS).1
    icm20608_read_raw regs w.chan .CALIBBIAS = .ok ⟨.IIO_VAL_INT, (regs a ++ regs (a + 1)).signExtend 32, 0#32⟩ := by
  have hshow : ∀ reg axis, icm20608_sensor_show regs reg axis =
      (regs (reg + axis.index * 2) ++ regs (reg + axis.index * 2 + 1)).signExtend 32 := by
    intro reg axis
    simp [icm20608_sensor_show, Mem.read, List.range_succ, be16_to_cpup]
  obtain ⟨⟨type, axis⟩, val, val2, hs⟩ := w
  cases type with
  | IIO_TEMP => exact absurd rfl hs
  | IIO_ANGL_VEL => exact congrArg (fun v => Except.ok (Reading.mk .IIO_VAL_INT v 0#32)) (hshow ICM20_XG_OFFS_USRH axis)
  | IIO_ACCEL => exact congrArg (fun v => Except.ok (Reading.mk .IIO_VAL_INT v 0#32)) (hshow ICM20_XA_OFFSET_H axis)

theorem calibrates_of_aligned (h : w.Aligned) : Calibrates regs w := by
  have haddr : (w.chan.region .CALIBBIAS).1 = w.high := (region_offset_reg w.chan).2 h
  have hwrite := calibrate_eq regs w
  rw [haddr] at hwrite
  constructor
  · have h0 := Mem.write_inside regs w.high (cpu_to_be16 w.val) (k := 0) (by simp)
    rw [Int.natCast_zero, Int.add_zero] at h0
    rw [hwrite, h0]
    rfl
  · rw [hwrite]
    exact Mem.write_inside regs w.high (cpu_to_be16 w.val) (k := 1) (by simp)
  · intro reg h0 h1
    rw [hwrite]
    apply Mem.write_outside
    rw [cpu_to_be16_length]
    omega
  · intro regs'
    rw [read_bias, haddr]

/-- A register that is read is one of the header's. -/
theorem aligned_of_reads (h : ∀ regs', icm20608_read_raw regs' w.chan .CALIBBIAS =
    .ok ⟨.IIO_VAL_INT, (regs' w.high ++ regs' (w.high + 1)).signExtend 32, 0#32⟩) : w.Aligned := by
  refine (region_offset_reg w.chan).1 ?_
  by_contra hne
  -- the first register read holds 1, and all others 0
  have hr := (read_bias (fun reg => if reg = (w.chan.region .CALIBBIAS).1 then 1#8 else 0#8) w).symm.trans (h _)
  have hne' : w.high ≠ (w.chan.region .CALIBBIAS).1 := fun he => hne he.symm
  have hnext : (w.chan.region .CALIBBIAS).1 + 1 ≠ (w.chan.region .CALIBBIAS).1 := by omega
  simp only [if_true, hne', hnext, if_false] at hr
  split at hr <;> exact absurd hr (by decide)

theorem calibrates_iff (regs : Regs) (w : Bias) : Calibrates regs w ↔ w.Aligned :=
  ⟨fun h => aligned_of_reads h.reads, calibrates_of_aligned⟩

/-- In a sequence of writes each one sets its axis exactly when none is for the
Y or Z axis of the accelerometer, and then only the twelve registers change. -/
theorem biases_calibrate (regs : Regs) (writes : List Bias) :
    (Runs.Meets calibrate Calibrates regs writes ↔ ∀ w ∈ writes, w.Aligned) ∧
      ((∀ w ∈ writes, w.Aligned) → ∀ regs' ∈ Runs.visited calibrate regs writes, ∀ reg, ¬Named reg →
        regs' reg = regs reg) := by
  rw [← @Runs.meets_inputs Regs Bias calibrate Bias.Aligned regs writes]
  refine ⟨Runs.meets_congr calibrates_iff regs writes, ?_⟩
  refine Runs.Meets.visited_inv (I := fun regs' : Regs => ∀ reg, ¬Named reg → regs' reg = regs reg) ?_ fun _ _ => rfl
  intro regs' w hk hw reg hn
  refine ((calibrates_of_aligned hw).others reg ?_ ?_).trans (hk reg hn)
  · rintro rfl
    exact hn ⟨w.chan, w.sensor, Or.inl rfl⟩
  · rintro rfl
    exact hn ⟨w.chan, w.sensor, Or.inr rfl⟩

/-- The Y axis of the accelerometer: its bias goes to 0x79 and 0x7A. -/
theorem accel_y_astray : ¬∀ (regs : Regs) (writes : List Bias), Runs.Meets calibrate Calibrates regs writes ∧
    ∀ regs' ∈ Runs.visited calibrate regs writes, ∀ reg, ¬Named reg → regs' reg = regs reg := by
  intro h
  have hw := (h (fun _ => 0#8) [⟨⟨.IIO_ACCEL, .IIO_MOD_Y⟩, 0x1234#32, 0#32, by decide⟩]).1.1
  exact absurd hw.high (by decide)

end Iio.Icm20608
