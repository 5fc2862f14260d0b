import LinuxDriver.Lib.Memory
import LinuxDriver.Lib.Runs
import Mathlib.Data.BitVec
import Mathlib.Logic.Function.Basic
/-!
# The attributes of the ICM20608

`icm20608_write_raw` and `icm20608_read_raw` over the registers of the chip, a
memory of bytes. The bus does not fail. Each attribute is to behave as a store:
what is read is what was written last.
-/

namespace Iio

/-- Eight bits. -/
abbrev Byte := BitVec 8

/-- The registers of the chip. -/
abbrev Regs := ℤ → Byte

namespace Icm20608

/-! ## The registers -/

def ICM20_XG_OFFS_USRH : ℤ := 0x13
def ICM20_GYRO_CONFIG : ℤ := 0x1B
def ICM20_ACCEL_CONFIG : ℤ := 0x1C
def ICM20_ACCEL_XOUT_H : ℤ := 0x3B
def ICM20_TEMP_OUT_H : ℤ := 0x41
def ICM20_GYRO_XOUT_H : ℤ := 0x43
def ICM20_XA_OFFSET_H : ℤ := 0x77

/-- The table of the gyroscope's scales, in millionths. -/
def gyro_scale_icm20608 : List (BitVec 32) := [7629#32, 15258#32, 30517#32, 61035#32]

/-- The table of the accelerometer's scales, in billionths. -/
def accel_scale_icm20608 : List (BitVec 32) := [61035#32, 122070#32, 244140#32, 488281#32]

def ICM20608_TEMP_SCALE : BitVec 32 := 326800000#32

def ICM20608_TEMP_OFFSET : BitVec 32 := 0#32

def EINVAL : ℤ := 22

/-- The types of the seven channels. -/
inductive ChanType
  | IIO_TEMP
  | IIO_ANGL_VEL
  | IIO_ACCEL
  deriving DecidableEq

/-- The modifiers of the channels. -/
inductive Axis
  | IIO_MOD_X
  | IIO_MOD_Y
  | IIO_MOD_Z
  deriving DecidableEq

/-- `axis - IIO_MOD_X`. -/
def Axis.index : Axis → ℤ
  | .IIO_MOD_X => 0
  | .IIO_MOD_Y => 1
  | .IIO_MOD_Z => 2

/-- The temperature channel has no axis; its `channel2` is not used. -/
structure Chan where
  type : ChanType
  channel2 : Axis
  deriving DecidableEq

/-- The attributes of a channel. -/
inductive Mask
  | RAW
  | SCALE
  | OFFSET
  | CALIBBIAS
  | other
  deriving DecidableEq

/-- The format that `read_raw` returns. -/
inductive Fmt
  | IIO_VAL_INT
  | IIO_VAL_INT_PLUS_MICRO
  | IIO_VAL_INT_PLUS_NANO
  deriving DecidableEq

/-- What is read, and in which format. `IIO_VAL_INT` has no `val2`, which is 0 here. -/
structure Reading where
  fmt : Fmt
  val : BitVec 32
  val2 : BitVec 32
  deriving DecidableEq

/-! ## Transfers of one value -/

/-- The low 16 bits of an `int`, the high byte first. -/
def cpu_to_be16 (val : BitVec 32) : List Byte := [val.extractLsb' 8 8, val.extractLsb' 0 8]

/-- The number that two bytes make, the high one first. -/
def be16_to_cpup : List Byte → BitVec 16
  | [hi, lo] => hi ++ lo
  | _ => 0#16

/-- An offset is stored. -/
def icm20608_sensor_set (regs : Regs) (reg : ℤ) (axis : Axis) (val : BitVec 32) : Regs :=
  Mem.write regs (reg + axis.index * 2) (cpu_to_be16 val)

/-- An offset or a measured value is read, with its sign. -/
def icm20608_sensor_show (regs : Regs) (reg : ℤ) (axis : Axis) : BitVec 32 :=
  (be16_to_cpup (Mem.read regs (reg + axis.index * 2) 2)).signExtend 32

/-- The loop of both scale writers: the index of the first entry that is `val` goes into bits 3 and 4 of the register. -/
def write_scale (scales : List (BitVec 32)) (reg : ℤ) (regs : Regs) (val : BitVec 32) : ℤ × Regs :=
  match scales.findIdx? (· == val) with
  | some i => (0, Mem.write regs reg [BitVec.ofNat 8 (i <<< 3)])
  | none => (-EINVAL, regs)

/-- The scale of the gyroscope, by its table and register. -/
def icm20608_write_gyro_scale : Regs → BitVec 32 → ℤ × Regs := write_scale gyro_scale_icm20608 ICM20_GYRO_CONFIG

/-- The scale of the accelerometer, by its table and register. -/
def icm20608_write_accel_scale : Regs → BitVec 32 → ℤ × Regs := write_scale accel_scale_icm20608 ICM20_ACCEL_CONFIG

/-- `(icm20608_read_onereg(dev, reg) & 0X18) >> 3`, looked up. -/
def read_scale (scales : List (BitVec 32)) (reg : ℤ) (regs : Regs) : BitVec 32 :=
  scales.getD ((regs reg &&& 0x18#8) >>> 3).toNat 0#32

/-! ## `read_raw` and `write_raw` -/

/-- The measured value of a channel. -/
def icm20608_read_channel_data (regs : Regs) (chan : Chan) : BitVec 32 :=
  match chan.type with
  | .IIO_ANGL_VEL => icm20608_sensor_show regs ICM20_GYRO_XOUT_H chan.channel2
  | .IIO_ACCEL => icm20608_sensor_show regs ICM20_ACCEL_XOUT_H chan.channel2
  | .IIO_TEMP => icm20608_sensor_show regs ICM20_TEMP_OUT_H .IIO_MOD_X

/-- What a read of an attribute shows, or its error. -/
def icm20608_read_raw (regs : Regs) (chan : Chan) : Mask → Except ℤ Reading
  | .RAW => .ok ⟨.IIO_VAL_INT, icm20608_read_channel_data regs chan, 0#32⟩
  | .SCALE =>
    match chan.type with
    | .IIO_ANGL_VEL => .ok ⟨.IIO_VAL_INT_PLUS_MICRO, 0#32, read_scale gyro_scale_icm20608 ICM20_GYRO_CONFIG regs⟩
    | .IIO_ACCEL => .ok ⟨.IIO_VAL_INT_PLUS_NANO, 0#32, read_scale accel_scale_icm20608 ICM20_ACCEL_CONFIG regs⟩
    | .IIO_TEMP =>
      .ok ⟨.IIO_VAL_INT_PLUS_MICRO, ICM20608_TEMP_SCALE / 1000000#32, ICM20608_TEMP_SCALE % 1000000#32⟩
  | .OFFSET =>
    match chan.type with
    | .IIO_TEMP => .ok ⟨.IIO_VAL_INT, ICM20608_TEMP_OFFSET, 0#32⟩
    | _ => .error (-EINVAL)
  | .CALIBBIAS =>
    match chan.type with
    | .IIO_ANGL_VEL => .ok ⟨.IIO_VAL_INT, icm20608_sensor_show regs ICM20_XG_OFFS_USRH chan.channel2, 0#32⟩
    | .IIO_ACCEL => .ok ⟨.IIO_VAL_INT, icm20608_sensor_show regs ICM20_XA_OFFSET_H chan.channel2, 0#32⟩
    | .IIO_TEMP => .error (-EINVAL)
  | .other => .error (-EINVAL)

/-- A write of an attribute: the result and the registers. -/
def icm20608_write_raw (regs : Regs) (chan : Chan) (val val2 : BitVec 32) : Mask → ℤ × Regs
  | .SCALE =>
    match chan.type with
    | .IIO_ANGL_VEL => icm20608_write_gyro_scale regs val2
    | .IIO_ACCEL => icm20608_write_accel_scale regs val2
    | .IIO_TEMP => (-EINVAL, regs)
  | .CALIBBIAS =>
    match chan.type with
    | .IIO_ANGL_VEL => (0, icm20608_sensor_set regs ICM20_XG_OFFS_USRH chan.channel2 val)
    | .IIO_ACCEL => (0, icm20608_sensor_set regs ICM20_XA_OFFSET_H chan.channel2 val)
    | .IIO_TEMP => (-EINVAL, regs)
  | _ => (-EINVAL, regs)

/-! ## Attributes as a store -/

/-- What a read shows: the integer and the fraction. -/
def shown (r : Except ℤ Reading) : Option (BitVec 32 × BitVec 32) := r.toOption.map fun r => (r.val, r.val2)

/-- The scale is shared by the axes of a sensor. -/
structure Attr where
  mask : Mask
  type : ChanType
  axis : Option Axis
  deriving DecidableEq

/-- The attribute that a channel and a mask name. -/
def Chan.attr (chan : Chan) (mask : Mask) : Attr :=
  ⟨mask, chan.type, if mask = .SCALE then none else some chan.channel2⟩

/-- `last` is the abstract store: the value of the last accepted write. -/
structure Device where
  regs : Regs
  last : Attr → Option (BitVec 32 × BitVec 32)

/-- Nothing has been written yet. -/
def Device.start (regs : Regs) : Device := ⟨regs, fun _ => none⟩

/-- What happens to the device. -/
inductive Op
  | write_raw (chan : Chan) (val val2 : BitVec 32) (mask : Mask)
  | read_raw (chan : Chan) (mask : Mask)
  /-- The sensors store what they measure. -/
  | sample (data : Regs)

/-- One operation, with the last value written to each attribute. -/
def Device.step (d : Device) : Op → Device
  | .write_raw chan val val2 mask =>
    let (ret, regs) := icm20608_write_raw d.regs chan val val2 mask
    ⟨regs, if ret = 0 then Function.update d.last (chan.attr mask) (some (val, val2)) else d.last⟩
  | .read_raw _ _ => d
  | .sample data =>
    { d with regs := fun a => if ICM20_ACCEL_XOUT_H ≤ a ∧ a < ICM20_ACCEL_XOUT_H + 14 then data a else d.regs a }

/-- A read shows the last value accepted, a refused write changes nothing, a value that no content of the registers shows
is refused, and a write leaves the other attributes alone. -/
structure Sound (d : Device) (op : Op) : Prop where
  stores : ∀ chan mask v, (d.step op).last (chan.attr mask) = some v →
    shown (icm20608_read_raw (d.step op).regs chan mask) = some v
  refused : ∀ chan val val2 mask, op = .write_raw chan val val2 mask →
    (icm20608_write_raw d.regs chan val val2 mask).1 ≠ 0 → (d.step op).regs = d.regs
  rejects : ∀ chan val val2 mask, op = .write_raw chan val val2 mask →
    (∀ regs, shown (icm20608_read_raw regs chan mask) ≠ some (val, val2)) →
      (icm20608_write_raw d.regs chan val val2 mask).1 ≠ 0
  others : ∀ chan val val2 mask, op = .write_raw chan val val2 mask → ∀ chan' mask',
    chan'.attr mask' ≠ chan.attr mask →
      icm20608_read_raw (d.step op).regs chan' mask' = icm20608_read_raw d.regs chan' mask'

/-- A scale is below 1, and a bias is an integer of 16 bits. -/
def Exact : Op → Prop
  | .write_raw chan val val2 .SCALE =>
    match chan.type with
    | .IIO_ANGL_VEL => val2 ∈ gyro_scale_icm20608 → val = 0#32
    | .IIO_ACCEL => val2 ∈ accel_scale_icm20608 → val = 0#32
    | .IIO_TEMP => True
  | .write_raw chan val val2 .CALIBBIAS =>
    chan.type ≠ .IIO_TEMP → val2 = 0#32 ∧ -2 ^ 15 ≤ val.toInt ∧ val.toInt < 2 ^ 15
  | _ => True

/-! ## One value through the registers -/

@[simp] theorem cpu_to_be16_length (val : BitVec 32) : (cpu_to_be16 val).length = 2 := rfl

/-- The upper half is lost. -/
theorem be16_to_cpup_cpu_to_be16 (val : BitVec 32) : be16_to_cpup (cpu_to_be16 val) = val.setWidth 16 := by
  apply BitVec.eq_of_getLsbD_eq
  intro i hi
  simp only [be16_to_cpup, cpu_to_be16, BitVec.getLsbD_append, BitVec.getLsbD_extractLsb', BitVec.getLsbD_setWidth]
  by_cases h : i < 8
  · simp [h, hi]
  · have h8 : 8 + (i - 8) = i := by omega
    simp [h, hi, h8]
    omega

theorem sensor_show_set (regs : Regs) (reg : ℤ) (axis : Axis) (val : BitVec 32) :
    icm20608_sensor_show (icm20608_sensor_set regs reg axis val) reg axis = (val.setWidth 16).signExtend 32 := by
  unfold icm20608_sensor_show icm20608_sensor_set
  have h := Mem.read_write_self regs (reg + axis.index * 2) (cpu_to_be16 val)
  rw [cpu_to_be16_length] at h
  rw [h, be16_to_cpup_cpu_to_be16]

/-- Sixteen bits are sign-extended to the same value only if it fits in them. -/
theorem signExtend_setWidth_iff (val : BitVec 32) :
    (val.setWidth 16).signExtend 32 = val ↔ -2 ^ 15 ≤ val.toInt ∧ val.toInt < 2 ^ 15 := by
  have hval : val.toInt = if 2 * val.toNat < 2 ^ 32 then (val.toNat : ℤ) else val.toNat - 2 ^ 32 :=
    BitVec.toInt_eq_toNat_cond val
  have hext : ((val.setWidth 16).signExtend 32).toInt = Int.bmod val.toNat (2 ^ 16) := by
    rw [BitVec.toInt_signExtend_of_le (by decide), BitVec.toInt_setWidth]
  have := val.isLt
  rw [← BitVec.toInt_inj, hext, hval, Int.bmod_def]
  split_ifs <;> omega

/-- The index that is found fits in two bits. -/
theorem read_scale_write {scales : List (BitVec 32)} (hlen : scales.length ≤ 4) {reg : ℤ} {regs : Regs} {i : ℕ}
    (hi : i < scales.length) :
    read_scale scales reg (Mem.write regs reg [BitVec.ofNat 8 (i <<< 3)]) = scales[i] := by
  have hreg : Mem.write regs reg [BitVec.ofNat 8 (i <<< 3)] reg = BitVec.ofNat 8 (i <<< 3) := by
    simpa using Mem.write_inside regs reg [BitVec.ofNat 8 (i <<< 3)] (k := 0) (by simp)
  have hbits : ∀ i < 4, ((BitVec.ofNat 8 (i <<< 3) &&& 0x18#8) >>> 3).toNat = i := by decide
  unfold read_scale
  rw [hreg, hbits i (by omega)]
  simp [hi]

/-- A scale that is in the table is read back. -/
theorem write_scale_cases {scales : List (BitVec 32)} (hlen : scales.length ≤ 4) (reg : ℤ) (regs : Regs) (val : BitVec 32) :
    (∃ byte, write_scale scales reg regs val = (0, Mem.write regs reg [byte]) ∧ val ∈ scales ∧
        read_scale scales reg (Mem.write regs reg [byte]) = val) ∨
      write_scale scales reg regs val = (-EINVAL, regs) ∧ val ∉ scales := by
  unfold write_scale
  cases h : scales.findIdx? (· == val) with
  | some i =>
    obtain ⟨hi, heq, _⟩ := List.findIdx?_eq_some_iff_getElem.1 h
    have heq : scales[i] = val := by simpa using heq
    refine .inl ⟨_, rfl, heq ▸ List.getElem_mem hi, ?_⟩
    rw [read_scale_write hlen hi, heq]
  | none =>
    refine .inr ⟨rfl, fun hmem => ?_⟩
    have := List.findIdx?_eq_none_iff.1 h val hmem
    simp at this

theorem write_scale_accepted {scales : List (BitVec 32)} (hlen : scales.length ≤ 4) {reg : ℤ} {regs : Regs}
    {val : BitVec 32} (h : (write_scale scales reg regs val).1 = 0) :
    val ∈ scales ∧ read_scale scales reg (write_scale scales reg regs val).2 = val := by
  rcases write_scale_cases hlen reg regs val with ⟨byte, hw, hmem, hr⟩ | ⟨hw, _⟩
  · rw [hw]
    exact ⟨hmem, hr⟩
  · rw [hw] at h
    cases h

/-! ## Where an attribute is stored -/

/-- The registers behind an attribute. -/
def Chan.region (chan : Chan) : Mask → ℤ × ℕ
  | .RAW =>
    match chan.type with
    | .IIO_ANGL_VEL => (ICM20_GYRO_XOUT_H + chan.channel2.index * 2, 2)
    | .IIO_ACCEL => (ICM20_ACCEL_XOUT_H + chan.channel2.index * 2, 2)
    | .IIO_TEMP => (ICM20_TEMP_OUT_H, 2)
  | .SCALE =>
    match chan.type with
    | .IIO_ANGL_VEL => (ICM20_GYRO_CONFIG, 1)
    | .IIO_ACCEL => (ICM20_ACCEL_CONFIG, 1)
    | .IIO_TEMP => (0, 0)
  | .CALIBBIAS =>
    match chan.type with
    | .IIO_ANGL_VEL => (ICM20_XG_OFFS_USRH + chan.channel2.index * 2, 2)
    | .IIO_ACCEL => (ICM20_XA_OFFSET_H + chan.channel2.index * 2, 2)
    | .IIO_TEMP => (0, 0)
  | .OFFSET => (0, 0)
  | .other => (0, 0)

/-- A read depends on the registers of its attribute only. -/
theorem read_raw_congr {regs regs' : Regs} {chan : Chan} {mask : Mask}
    (h : Mem.read regs (chan.region mask).1 (chan.region mask).2 = Mem.read regs' (chan.region mask).1 (chan.region mask).2) :
    icm20608_read_raw regs chan mask = icm20608_read_raw regs' chan mask := by
  obtain ⟨type, axis⟩ := chan
  have one : ∀ reg, Mem.read regs reg 1 = Mem.read regs' reg 1 → regs reg = regs' reg := by
    intro reg h
    simpa [Mem.read] using h
  cases mask with
  | RAW =>
    cases type
    all_goals unfold icm20608_read_raw icm20608_read_channel_data icm20608_sensor_show
    all_goals simp only [Chan.region] at h
    · simp only [Axis.index, Int.zero_mul, Int.add_zero, h]
    · simp only [h]
    · simp only [h]
  | SCALE =>
    cases type with
    | IIO_TEMP => rfl
    | IIO_ANGL_VEL =>
      have hreg : regs ICM20_GYRO_CONFIG = regs' ICM20_GYRO_CONFIG := one _ h
      simp only [icm20608_read_raw, read_scale, hreg]
    | IIO_ACCEL =>
      have hreg : regs ICM20_ACCEL_CONFIG = regs' ICM20_ACCEL_CONFIG := one _ h
      simp only [icm20608_read_raw, read_scale, hreg]
  | CALIBBIAS =>
    cases type with
    | IIO_TEMP => rfl
    | IIO_ANGL_VEL =>
      simp only [Chan.region] at h
      simp only [icm20608_read_raw, icm20608_sensor_show, h]
    | IIO_ACCEL =>
      simp only [Chan.region] at h
      simp only [icm20608_read_raw, icm20608_sensor_show, h]
  | OFFSET => rfl
  | other => rfl

/-- The axis whose pair of registers the offset lies in. -/
def axis_at (offset : ℤ) : Axis :=
  if offset < 2 then .IIO_MOD_X else if offset < 4 then .IIO_MOD_Y else .IIO_MOD_Z

/-- The attribute that a register is written for. -/
def owner (reg : ℤ) : Option Attr :=
  if reg = ICM20_GYRO_CONFIG then some ⟨.SCALE, .IIO_ANGL_VEL, none⟩
  else if reg = ICM20_ACCEL_CONFIG then some ⟨.SCALE, .IIO_ACCEL, none⟩
  else if ICM20_XG_OFFS_USRH ≤ reg ∧ reg < ICM20_XG_OFFS_USRH + 6 then
    some ⟨.CALIBBIAS, .IIO_ANGL_VEL, some (axis_at (reg - ICM20_XG_OFFS_USRH))⟩
  else if ICM20_XA_OFFSET_H ≤ reg ∧ reg < ICM20_XA_OFFSET_H + 6 then
    some ⟨.CALIBBIAS, .IIO_ACCEL, some (axis_at (reg - ICM20_XA_OFFSET_H))⟩
  else none

/-- The first register of an axis's bias, as `icm20608reg.h` names it. -/
def offset_reg : ChanType → Axis → ℤ
  | .IIO_ANGL_VEL, .IIO_MOD_X => ICM20_XG_OFFS_USRH
  | .IIO_ANGL_VEL, .IIO_MOD_Y => 0x15
  | .IIO_ANGL_VEL, .IIO_MOD_Z => 0x17
  | .IIO_ACCEL, .IIO_MOD_X => ICM20_XA_OFFSET_H
  | .IIO_ACCEL, .IIO_MOD_Y => 0x7A
  | .IIO_ACCEL, .IIO_MOD_Z => 0x7D
  | .IIO_TEMP, _ => 0

/-- The biases of the accelerometer lie three registers apart, not two: those of Y and Z go astray. -/
theorem region_offset_reg (chan : Chan) :
    (chan.region .CALIBBIAS).1 = offset_reg chan.type chan.channel2 ↔
      chan.type = .IIO_ACCEL → chan.channel2 = .IIO_MOD_X := by
  obtain ⟨type, axis⟩ := chan
  cases type <;> cases axis <;> decide

/-- The attributes with a case in `write_raw`. -/
def Mask.writable : Mask → Bool
  | .SCALE | .CALIBBIAS => true
  | _ => false

theorem owner_region (chan : Chan) (mask : Mask) {k : ℕ} (hk : k < (chan.region mask).2) :
    owner ((chan.region mask).1 + k) = if mask.writable then some (chan.attr mask) else none := by
  obtain ⟨type, axis⟩ := chan
  have hsize : (Chan.region ⟨type, axis⟩ mask).2 ≤ 2 := by cases mask <;> cases type <;> simp [Chan.region]
  have hcases : k = 0 ∨ k = 1 := by omega
  cases mask
  all_goals cases type
  all_goals cases axis
  all_goals rcases hcases with rfl | rfl
  all_goals first | rfl | contradiction

/-- Two attributes share no register that is written. -/
theorem regions_disjoint {chan chan' : Chan} {mask mask' : Mask} (hw : mask.writable = true)
    (h : chan'.attr mask' ≠ chan.attr mask) :
    ∀ k < (chan'.region mask').2, ∀ j < (chan.region mask).2, (chan'.region mask').1 + k ≠ (chan.region mask).1 + (j : ℤ) := by
  intro k hk j hj heq
  have hown := owner_region chan mask hj
  rw [← heq, owner_region chan' mask' hk, if_pos hw] at hown
  split at hown
  · exact h (Option.some.inj hown)
  · cases hown

/-! ## One operation -/

/-- A write that is accepted changes the registers of its attribute only. -/
theorem write_raw_cases (regs : Regs) (chan : Chan) (val val2 : BitVec 32) (mask : Mask) :
    icm20608_write_raw regs chan val val2 mask = (-EINVAL, regs) ∨
      mask.writable = true ∧ ∃ bytes, bytes.length = (chan.region mask).2 ∧
        icm20608_write_raw regs chan val val2 mask = (0, Mem.write regs (chan.region mask).1 bytes) := by
  obtain ⟨type, axis⟩ := chan
  have hgyro := write_scale_cases (show gyro_scale_icm20608.length ≤ 4 by decide) ICM20_GYRO_CONFIG regs val2
  have haccel := write_scale_cases (show accel_scale_icm20608.length ≤ 4 by decide) ICM20_ACCEL_CONFIG regs val2
  cases mask with
  | RAW | OFFSET | other => exact .inl rfl
  | SCALE =>
    cases type with
    | IIO_TEMP => exact .inl rfl
    | IIO_ANGL_VEL =>
      rcases hgyro with ⟨byte, hw, _⟩ | ⟨hw, _⟩
      · exact .inr ⟨rfl, [byte], rfl, hw⟩
      · exact .inl hw
    | IIO_ACCEL =>
      rcases haccel with ⟨byte, hw, _⟩ | ⟨hw, _⟩
      · exact .inr ⟨rfl, [byte], rfl, hw⟩
      · exact .inl hw
  | CALIBBIAS =>
    cases type with
    | IIO_TEMP => exact .inl rfl
    | IIO_ANGL_VEL => exact .inr ⟨rfl, cpu_to_be16 val, rfl, rfl⟩
    | IIO_ACCEL => exact .inr ⟨rfl, cpu_to_be16 val, rfl, rfl⟩

/-- The axes of a sensor share its scale. -/
theorem read_raw_attr {chan chan' : Chan} {mask mask' : Mask} (h : chan'.attr mask' = chan.attr mask) (regs : Regs) :
    icm20608_read_raw regs chan' mask' = icm20608_read_raw regs chan mask := by
  obtain ⟨type, axis⟩ := chan
  obtain ⟨type', axis'⟩ := chan'
  simp only [Chan.attr, Attr.mk.injEq] at h
  obtain ⟨rfl, rfl, haxis⟩ := h
  by_cases hs : mask' = .SCALE
  · subst hs
    rfl
  · simp only [hs, if_false, Option.some.injEq] at haxis
    rw [haxis]

theorem scale_shown_iff {scales : List (BitVec 32)} {val val2 : BitVec 32} (hmem : val2 ∈ scales) :
    some (0#32, val2) = some (val, val2) ↔ (val2 ∈ scales → val = 0#32) := by
  constructor
  · intro h _
    exact (Prod.mk.inj (Option.some.inj h)).1.symm
  · intro h
    rw [h hmem]

theorem bias_shown_iff {val val2 : BitVec 32} :
    some ((val.setWidth 16).signExtend 32, 0#32) = some (val, val2) ↔
      val2 = 0#32 ∧ -2 ^ 15 ≤ val.toInt ∧ val.toInt < 2 ^ 15 := by
  rw [← signExtend_setWidth_iff]
  constructor
  · intro h
    obtain ⟨hv, hv2⟩ := Prod.mk.inj (Option.some.inj h)
    exact ⟨hv2.symm, hv⟩
  · rintro ⟨rfl, hv⟩
    rw [hv]

/-- What is read after an accepted write is what was written, if the value is exact. -/
theorem read_after_write (regs : Regs) (chan : Chan) (val val2 : BitVec 32) (mask : Mask)
    (h : (icm20608_write_raw regs chan val val2 mask).1 = 0) :
    shown (icm20608_read_raw (icm20608_write_raw regs chan val val2 mask).2 chan mask) = some (val, val2) ↔
      Exact (.write_raw chan val val2 mask) := by
  obtain ⟨type, axis⟩ := chan
  cases mask with
  | RAW | OFFSET | other => cases h
  | SCALE =>
    cases type with
    | IIO_TEMP => cases h
    | IIO_ANGL_VEL =>
      obtain ⟨hmem, hr⟩ := write_scale_accepted (show gyro_scale_icm20608.length ≤ 4 by decide) h
      refine Iff.trans ?_ (scale_shown_iff hmem)
      rw [← congrArg (fun scale => some (0#32, scale)) hr]
      rfl
    | IIO_ACCEL =>
      obtain ⟨hmem, hr⟩ := write_scale_accepted (show accel_scale_icm20608.length ≤ 4 by decide) h
      refine Iff.trans ?_ (scale_shown_iff hmem)
      rw [← congrArg (fun scale => some (0#32, scale)) hr]
      rfl
  | CALIBBIAS =>
    cases type with
    | IIO_TEMP => cases h
    | IIO_ANGL_VEL =>
      simp only [icm20608_write_raw, icm20608_read_raw, sensor_show_set]
      exact bias_shown_iff.trans ⟨fun h _ => h, fun h => h nofun⟩
    | IIO_ACCEL =>
      simp only [icm20608_write_raw, icm20608_read_raw, sensor_show_set]
      exact bias_shown_iff.trans ⟨fun h _ => h, fun h => h nofun⟩

/-- A write that is refused could not have been inexact. -/
theorem exact_of_refused {regs : Regs} {chan : Chan} {val val2 : BitVec 32} {mask : Mask}
    (h : (icm20608_write_raw regs chan val val2 mask).1 ≠ 0) : Exact (.write_raw chan val val2 mask) := by
  obtain ⟨type, axis⟩ := chan
  cases mask with
  | RAW | OFFSET | other => trivial
  | SCALE =>
    cases type with
    | IIO_TEMP => trivial
    | IIO_ANGL_VEL =>
      rcases write_scale_cases (show gyro_scale_icm20608.length ≤ 4 by decide) ICM20_GYRO_CONFIG regs val2
        with ⟨byte, hw, _⟩ | ⟨_, hmem⟩
      · exact absurd (congrArg Prod.fst hw) h
      · exact fun hin => absurd hin hmem
    | IIO_ACCEL =>
      rcases write_scale_cases (show accel_scale_icm20608.length ≤ 4 by decide) ICM20_ACCEL_CONFIG regs val2
        with ⟨byte, hw, _⟩ | ⟨_, hmem⟩
      · exact absurd (congrArg Prod.fst hw) h
      · exact fun hin => absurd hin hmem
  | CALIBBIAS =>
    cases type with
    | IIO_TEMP => exact fun ht => absurd rfl ht
    | IIO_ANGL_VEL => exact absurd rfl h
    | IIO_ACCEL => exact absurd rfl h

/-- A write leaves the other attributes alone. -/
theorem read_raw_others (regs : Regs) {chan chan' : Chan} (val val2 : BitVec 32) {mask mask' : Mask}
    (h : chan'.attr mask' ≠ chan.attr mask) :
    icm20608_read_raw (icm20608_write_raw regs chan val val2 mask).2 chan' mask' = icm20608_read_raw regs chan' mask' := by
  rcases write_raw_cases regs chan val val2 mask with hw | ⟨hwritable, bytes, hlen, hw⟩
  · rw [hw]
  · rw [hw]
    apply read_raw_congr
    apply Mem.read_write_disjoint
    rw [hlen]
    exact regions_disjoint hwritable h

/-- No register that is written is one of the measured values. -/
theorem owner_sampled {reg : ℤ} {attr : Attr} (h : owner reg = some attr) :
    ¬(ICM20_ACCEL_XOUT_H ≤ reg ∧ reg < ICM20_ACCEL_XOUT_H + 14) := by
  intro hr
  have hnone : owner reg = none := by
    unfold owner
    rw [if_neg, if_neg, if_neg, if_neg]
    all_goals unfold ICM20_ACCEL_XOUT_H at hr
    · unfold ICM20_XA_OFFSET_H
      omega
    · unfold ICM20_XG_OFFS_USRH
      omega
    · unfold ICM20_ACCEL_CONFIG
      omega
    · unfold ICM20_GYRO_CONFIG
      omega
  rw [hnone] at h
  cases h

theorem read_raw_sampled {chan : Chan} {mask : Mask} (hw : mask.writable = true) (regs data : Regs) :
    icm20608_read_raw (fun a => if ICM20_ACCEL_XOUT_H ≤ a ∧ a < ICM20_ACCEL_XOUT_H + 14 then data a else regs a) chan mask =
      icm20608_read_raw regs chan mask := by
  apply read_raw_congr
  refine List.map_congr_left fun k hk => ?_
  have hown := owner_region chan mask (List.mem_range.1 hk)
  rw [if_pos hw] at hown
  exact if_neg (owner_sampled hown)

/-! ## Every history -/

/-- The registers hold what the abstract store holds. -/
def Kept (d : Device) : Prop :=
  ∀ chan mask v, d.last (chan.attr mask) = some v →
    mask.writable = true ∧ shown (icm20608_read_raw d.regs chan mask) = some v

theorem kept_start (regs : Regs) : Kept (.start regs) := fun _ _ _ h => nomatch h

theorem Kept.write_raw {d : Device} (h : Kept d) {chan : Chan} {val val2 : BitVec 32} {mask : Mask}
    (he : Exact (.write_raw chan val val2 mask)) : Kept (d.step (.write_raw chan val val2 mask)) := by
  intro chan' mask' v hv
  unfold Device.step at hv ⊢
  dsimp only at hv ⊢
  split at hv
  · rename_i hret
    by_cases ha : chan'.attr mask' = chan.attr mask
    · -- the attribute that was written
      have hmask : mask' = mask := congrArg Attr.mask ha
      rw [ha, Function.update_self] at hv
      obtain rfl := Option.some.inj hv
      refine ⟨?_, ?_⟩
      · rcases write_raw_cases d.regs chan val val2 mask with hw | ⟨hwritable, _⟩
        · rw [hw] at hret
          cases hret
        · exact hmask ▸ hwritable
      · rw [read_raw_attr ha]
        exact (read_after_write d.regs chan val val2 mask hret).2 he
    · rw [Function.update_of_ne ha] at hv
      rw [read_raw_others d.regs val val2 ha]
      exact h chan' mask' v hv
  · rename_i hret
    rcases write_raw_cases d.regs chan val val2 mask with hw | ⟨_, bytes, _, hw⟩
    · rw [hw]
      exact h chan' mask' v hv
    · exact absurd (congrArg Prod.fst hw) hret

theorem kept_step (d : Device) (op : Op) (h : Kept d) (he : Exact op) : Kept (d.step op) := by
  cases op with
  | write_raw chan val val2 mask => exact h.write_raw he
  | read_raw chan mask => exact h
  | sample data =>
    intro chan mask v hv
    obtain ⟨hw, hr⟩ := h chan mask v hv
    refine ⟨hw, ?_⟩
    rw [← hr]
    exact congrArg shown (read_raw_sampled hw d.regs data)

theorem sound_of_exact (d : Device) (op : Op) (h : Kept d) (he : Exact op) : Sound d op where
  stores chan mask v hv := (kept_step d op h he chan mask v hv).2
  refused := by
    rintro chan val val2 mask rfl hret
    rcases write_raw_cases d.regs chan val val2 mask with hw | ⟨_, bytes, _, hw⟩
    · exact congrArg Prod.snd hw
    · exact absurd (congrArg Prod.fst hw) hret
  rejects := by
    rintro chan val val2 mask rfl hno hret
    exact hno _ ((read_after_write d.regs chan val val2 mask hret).2 he)
  others := by
    rintro chan val val2 mask rfl chan' mask' ha
    exact read_raw_others d.regs val val2 ha

theorem exact_of_sound (d : Device) (op : Op) (h : Sound d op) : Exact op := by
  cases op with
  | read_raw => trivial
  | sample => trivial
  | write_raw chan val val2 mask =>
    by_cases hret : (icm20608_write_raw d.regs chan val val2 mask).1 = 0
    · refine (read_after_write d.regs chan val val2 mask hret).1 ?_
      apply h.stores chan mask (val, val2)
      simp [Device.step, hret]
    · exact exact_of_refused hret

/-- The attributes behave as a store in a history exactly when every value written is exact. -/
theorem attributes_store (regs : Regs) (ops : List Op) :
    Runs.Meets Device.step Sound (.start regs) ops ↔ ∀ op ∈ ops, Exact op := by
  rw [← @Runs.meets_inputs Device Op Device.step Exact (.start regs) ops]
  constructor
  · exact Runs.Meets.imp (I := fun _ => True) (fun _ _ _ _ => trivial) (fun d op _ => exact_of_sound d op) trivial
  · exact Runs.Meets.imp kept_step sound_of_exact (kept_start regs)

/-- A bias of 40000 is accepted and read back as -25536. -/
theorem bias_truncated :
    ¬Runs.Meets Device.step Sound (.start fun _ => 0#8)
      [.write_raw ⟨.IIO_ANGL_VEL, .IIO_MOD_X⟩ 40000#32 0#32 .CALIBBIAS] := by
  rintro ⟨⟨stores, _, _, _⟩, _⟩
  have h := stores ⟨.IIO_ANGL_VEL, .IIO_MOD_X⟩ .CALIBBIAS (40000#32, 0#32) rfl
  exact absurd h (by decide)

end Icm20608

end Iio
