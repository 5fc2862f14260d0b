import LinuxDriver.Iio.Direct
/-!
# The decoders of the ICM20608

The fourteen output registers are read in one piece by the SPI driver, the
regmap driver and the trigger handler of the IIO driver, whose samples the
trigger application takes apart; `icm20608_read_raw` reads one pair of them. All
get the same values, each by an arithmetic of its own.
-/

namespace Iio.Icm20608

open Threads

/-! ## The drivers without IIO -/

/-- What `icm20608_readdata` stores in its `struct icm20608_dev`. -/
structure Adc where
  gyro_x_adc : BitVec 32
  gyro_y_adc : BitVec 32
  gyro_z_adc : BitVec 32
  accel_x_adc : BitVec 32
  accel_y_adc : BitVec 32
  accel_z_adc : BitVec 32
  temp_adc : BitVec 32
  deriving DecidableEq

/-- `(signed short)((data[i] << 8) | data[i + 1])`, as an `int`. -/
def signed_short (data : List Byte) (i : ℕ) : BitVec 32 :=
  (((data.getD i 0#8).setWidth 32 <<< 8 ||| (data.getD (i + 1) 0#8).setWidth 32).setWidth 16).signExtend 32

/-- The assignments of both drivers and of the application. -/
def store (data : List Byte) : Adc where
  accel_x_adc := signed_short data 0
  accel_y_adc := signed_short data 2
  accel_z_adc := signed_short data 4
  temp_adc := signed_short data 6
  gyro_x_adc := signed_short data 8
  gyro_y_adc := signed_short data 10
  gyro_z_adc := signed_short data 12

/-- The field that belongs to a channel. -/
def Adc.at (adc : Adc) (chan : Chan) : BitVec 32 :=
  match chan.type, chan.channel2 with
  | .IIO_TEMP, _ => adc.temp_adc
  | .IIO_ANGL_VEL, .IIO_MOD_X => adc.gyro_x_adc
  | .IIO_ANGL_VEL, .IIO_MOD_Y => adc.gyro_y_adc
  | .IIO_ANGL_VEL, .IIO_MOD_Z => adc.gyro_z_adc
  | .IIO_ACCEL, .IIO_MOD_X => adc.accel_x_adc
  | .IIO_ACCEL, .IIO_MOD_Y => adc.accel_y_adc
  | .IIO_ACCEL, .IIO_MOD_Z => adc.accel_z_adc

namespace Spi

/-- What the chip answers to a transfer: while the address comes in, `first`, and then its registers from the address on. -/
def spi_sync (regs : Regs) (first tx : Byte) (len : ℕ) : List Byte := first :: Mem.read regs (tx &&& 0x7F#8).toNat (len - 1)

/-- `rxdata` is a byte shorter than the transfer; what comes in behind its end is copied from there. -/
def icm20608_read_regs (regs : Regs) (first : Byte) (reg : ℤ) (len : ℕ) : List Byte :=
  let rxdata := spi_sync regs first (BitVec.ofInt 8 reg ||| 0x80#8) (len + 1)
  (rxdata.drop 1).take len

/-- The 14 bytes of the sensors, as 22_spi reads and decodes them. -/
def icm20608_readdata (regs : Regs) (first : Byte) : Adc := store (icm20608_read_regs regs first ICM20_ACCEL_XOUT_H 14)

end Spi

namespace Regmap

/-- The same as 30_regmap does it. -/
def icm20608_readdata (regs : Regs) : Adc := store (Mem.read regs ICM20_ACCEL_XOUT_H 14)

end Regmap

/-! ## The buffer -/

/-- The byte order of an element of the buffer. -/
inductive Endianness
  | IIO_BE
  | IIO_LE
  deriving DecidableEq

/-- How an element of the buffer is to be read. -/
structure ScanType where
  signed : Bool
  realbits : ℕ
  storagebits : ℕ
  shift : ℕ
  endianness : Endianness
  deriving DecidableEq

/-- `enum inv_icm20608_scan`. -/
inductive InvScan
  | INV_ICM20608_SCAN_ACCL_X
  | INV_ICM20608_SCAN_ACCL_Y
  | INV_ICM20608_SCAN_ACCL_Z
  | INV_ICM20608_SCAN_TEMP
  | INV_ICM20608_SCAN_GYRO_X
  | INV_ICM20608_SCAN_GYRO_Y
  | INV_ICM20608_SCAN_GYRO_Z
  | INV_ICM20608_SCAN_TIMESTAMP
  deriving DecidableEq

/-- The number of an entry of the enumeration. -/
def InvScan.index (scan : InvScan) : ℕ := scan.ctorIdx

/-- An entry of the table of channels, with its place in the buffer. -/
structure ChanSpec where
  chan : Chan
  scan_index : InvScan
  scan_type : ScanType
  deriving DecidableEq

/-- The entry that the driver's macro of this name makes. -/
def ICM20608_CHAN (type : ChanType) (channel2 : Axis) (index : InvScan) : ChanSpec where
  chan := ⟨type, channel2⟩
  scan_index := index
  scan_type := ⟨true, 16, 16, 0, .IIO_BE⟩

/-- In the order of the source: Y comes before X for the accelerometer. -/
def icm20608_channels : List ChanSpec := [
  ⟨⟨.IIO_TEMP, .IIO_MOD_X⟩, .INV_ICM20608_SCAN_TEMP, ⟨true, 16, 16, 0, .IIO_BE⟩⟩,
  ICM20608_CHAN .IIO_ANGL_VEL .IIO_MOD_X .INV_ICM20608_SCAN_GYRO_X,
  ICM20608_CHAN .IIO_ANGL_VEL .IIO_MOD_Y .INV_ICM20608_SCAN_GYRO_Y,
  ICM20608_CHAN .IIO_ANGL_VEL .IIO_MOD_Z .INV_ICM20608_SCAN_GYRO_Z,
  ICM20608_CHAN .IIO_ACCEL .IIO_MOD_Y .INV_ICM20608_SCAN_ACCL_Y,
  ICM20608_CHAN .IIO_ACCEL .IIO_MOD_X .INV_ICM20608_SCAN_ACCL_X,
  ICM20608_CHAN .IIO_ACCEL .IIO_MOD_Z .INV_ICM20608_SCAN_ACCL_Z]

/-- Where the channel lies in a sample of all channels: behind those of a smaller index. They are of one size, so there is
no padding. -/
def ChanSpec.offset (spec : ChanSpec) : ℕ :=
  ((icm20608_channels.filter (·.scan_index.index < spec.scan_index.index)).map (·.scan_type.storagebits / 8)).sum

/-- A number as it is declared: its bytes in their order, the bits above `shift`, and the sign. -/
def ScanType.decode (t : ScanType) (bytes : List Byte) : ℤ :=
  let bytes := match t.endianness with
    | .IIO_BE => bytes
    | .IIO_LE => bytes.reverse
  let value := (bytes.foldl (fun acc b => acc * 256 + b.toNat) 0 >>> t.shift) % 2 ^ t.realbits
  if t.signed ∧ 2 ^ (t.realbits - 1) ≤ value then (value : ℤ) - 2 ^ t.realbits else value

/-- The channel in a sample. -/
def ChanSpec.element (spec : ChanSpec) (data : List Byte) : ℤ :=
  spec.scan_type.decode ((data.drop spec.offset).take (spec.scan_type.storagebits / 8))

/-- What the trigger handler pushes to the buffer: a sample, or nothing where no data is ready. -/
def pushed (regs : Regs) : List (List Byte) :=
  match Direct.icm20608_trigger_handler.solo (fun s o => s.exec 0 .ok o) (Core.probed regs) with
  | some (_, s) => s.pushed
  | none => []

namespace TriggerApp

/-- `accel_z_raw` is assigned twice, from the same bytes. -/
def icm20608_read (data : List Byte) : Adc := { store data with accel_z_adc := signed_short data 4 }

end TriggerApp

/-! ## All of them agree -/

/-- A sample is pushed where data is ready, and it is the fourteen registers. -/
theorem pushed_eq (regs : Regs) :
    pushed regs = if regs Direct.ICM20_INT_STATUS &&& Direct.ICM20608_BIT_RAW_DATA_RDY_INT ≠ 0#8
      then [Mem.read regs ICM20_ACCEL_XOUT_H 14] else [] := by
  by_cases h : regs Direct.ICM20_INT_STATUS &&& Direct.ICM20608_BIT_RAW_DATA_RDY_INT = 0#8
  · simp [pushed, Direct.icm20608_trigger_handler, locked, regmap_read, call, Prog.op, Prog.solo, Core.exec, Core.report,
      Core.bulk_read, Core.probed, Core.fresh, Mem.read, h]
  · simp [pushed, Direct.icm20608_trigger_handler, locked, regmap_read, call, Prog.op, Prog.solo, Core.exec, Core.report,
      Core.bulk_read, Core.probed, Core.fresh, Mem.read, h]

theorem shift_or_eq_append (hi lo : Byte) : (hi.setWidth 32 <<< 8 ||| lo.setWidth 32).setWidth 16 = hi ++ lo := by
  apply BitVec.eq_of_getLsbD_eq
  intro i hi'
  simp only [BitVec.getLsbD_setWidth, BitVec.getLsbD_or, BitVec.getLsbD_shiftLeft, BitVec.getLsbD_append]
  by_cases h : i < 8
  · have h32 : i < 32 := by omega
    simp [h, hi', h32]
  · have h32 : i < 32 := by omega
    have hlo : lo.getLsbD i = false := BitVec.getLsbD_of_ge lo i (by omega)
    simp [h, hi', h32, hlo]
    omega

theorem decode_signed (hi lo : Byte) :
    ScanType.decode ⟨true, 16, 16, 0, .IIO_BE⟩ [hi, lo] = ((hi ++ lo).signExtend 32).toInt := by
  have hnat : (hi ++ lo).toNat = hi.toNat * 256 + lo.toNat := by
    rw [BitVec.toNat_append, ← Nat.shiftLeft_add_eq_or_of_lt lo.isLt, Nat.shiftLeft_eq]
  have := (hi ++ lo).isLt
  rw [BitVec.toInt_signExtend_of_le (by decide), BitVec.toInt_eq_toNat_cond, hnat]
  simp only [ScanType.decode, List.foldl, Nat.add_one_sub_one, zero_mul, zero_add, Nat.shiftRight_zero, true_and,
    Int.natCast_emod, Nat.cast_add, Nat.cast_mul, Nat.cast_ofNat]
  split <;> split <;> omega

theorem signed_short_eq {data : List Byte} {i : ℕ} {hi lo : Byte} (h : data.getD i 0#8 = hi) (h' : data.getD (i + 1) 0#8 = lo) :
    signed_short data i = (hi ++ lo).signExtend 32 := by
  unfold signed_short
  rw [h, h', shift_or_eq_append]

/-- The first of the two registers of a channel, as `icm20608reg.h` names them. -/
def out_reg : Chan → ℤ
  | ⟨.IIO_ACCEL, .IIO_MOD_X⟩ => 0x3B
  | ⟨.IIO_ACCEL, .IIO_MOD_Y⟩ => 0x3D
  | ⟨.IIO_ACCEL, .IIO_MOD_Z⟩ => 0x3F
  | ⟨.IIO_TEMP, _⟩ => 0x41
  | ⟨.IIO_ANGL_VEL, .IIO_MOD_X⟩ => 0x43
  | ⟨.IIO_ANGL_VEL, .IIO_MOD_Y⟩ => 0x45
  | ⟨.IIO_ANGL_VEL, .IIO_MOD_Z⟩ => 0x47

/-- The signed number in the registers of a channel. -/
def value (regs : Regs) (chan : Chan) : BitVec 32 := (regs (out_reg chan) ++ regs (out_reg chan + 1)).signExtend 32

theorem store_at (regs : Regs) (chan : Chan) : (store (Mem.read regs ICM20_ACCEL_XOUT_H 14)).at chan = value regs chan := by
  obtain ⟨type, axis⟩ := chan
  cases type <;> cases axis
  all_goals exact signed_short_eq rfl rfl

theorem read_raw_value (regs : Regs) (chan : Chan) :
    icm20608_read_raw regs chan .RAW = .ok ⟨.IIO_VAL_INT, value regs chan, 0#32⟩ := by
  obtain ⟨type, axis⟩ := chan
  cases type <;> cases axis
  all_goals rfl

theorem element_value (regs : Regs) {spec : ChanSpec} (h : spec ∈ icm20608_channels) :
    spec.element (Mem.read regs ICM20_ACCEL_XOUT_H 14) = (value regs spec.chan).toInt := by
  simp only [icm20608_channels, List.mem_cons, List.not_mem_nil, or_false] at h
  rcases h with rfl | rfl | rfl | rfl | rfl | rfl | rfl
  all_goals exact decode_signed _ _

/-- Every decoder gets the signed number in the registers of the channel. -/
theorem decoders_agree (regs : Regs) (first : Byte) (spec : ChanSpec) (h : spec ∈ icm20608_channels) :
    (Spi.icm20608_readdata regs first).at spec.chan = value regs spec.chan ∧
    (Regmap.icm20608_readdata regs).at spec.chan = value regs spec.chan ∧
    icm20608_read_raw regs spec.chan .RAW = .ok ⟨.IIO_VAL_INT, value regs spec.chan, 0#32⟩ ∧
    ∀ data ∈ pushed regs, spec.element data = (value regs spec.chan).toInt ∧
      (TriggerApp.icm20608_read data).at spec.chan = value regs spec.chan := by
  refine ⟨store_at regs spec.chan, store_at regs spec.chan, read_raw_value regs spec.chan, ?_⟩
  intro data hdata
  have hdata : data = Mem.read regs ICM20_ACCEL_XOUT_H 14 := by
    rw [pushed_eq] at hdata
    split at hdata
    · exact List.mem_singleton.1 hdata
    · cases hdata
  rw [hdata]
  exact ⟨element_value regs h, store_at regs spec.chan⟩

/-- Data is ready, and the registers of the temperature hold 0xF38A. -/
def cold : Regs := fun a => if a = 0x3A then 0x01#8 else if a = 0x41 then 0xF3#8 else if a = 0x42 then 0x8A#8 else 0x00#8

theorem decoders_agree_cold : ∃ spec ∈ icm20608_channels, (Regmap.icm20608_readdata cold).at spec.chan = value cold spec.chan ∧
    value cold spec.chan = BitVec.ofInt 32 (-3190) ∧ ∃ data ∈ pushed cold, spec.element data = (value cold spec.chan).toInt := by
  have hspec : (⟨⟨.IIO_TEMP, .IIO_MOD_X⟩, .INV_ICM20608_SCAN_TEMP, ⟨true, 16, 16, 0, .IIO_BE⟩⟩ : ChanSpec) ∈ icm20608_channels := by
    decide
  have h := decoders_agree cold 0#8 _ hspec
  have hdata : Mem.read cold ICM20_ACCEL_XOUT_H 14 ∈ pushed cold := by decide
  exact ⟨_, hspec, h.2.1, by decide, _, hdata, (h.2.2.2 _ hdata).1⟩

end Iio.Icm20608
