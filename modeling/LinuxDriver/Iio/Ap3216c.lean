import LinuxDriver.Iio.Core
/-!
# The AP3216C

`ap3216c_read_raw` and `ap3216c_write_raw` of the IIO driver as programs, and
`ap3216c_readdata` of the I2C and the regmap driver. All cut infrared, ambient
light and proximity out of the same six registers; a bit in the low byte of
infrared and of proximity marks a reading as not valid.
-/

namespace Iio.Ap3216c

open Threads
open Icm20608 (Reading Mask EINVAL)

/-! ## The registers -/

def AP3216C_SYSTEMCONG : ℤ := 0x00
def AP3216C_IRDATALOW : ℤ := 0x0A
def AP3216C_IRDATAHIGH : ℤ := 0x0B
def AP3216C_ALSDATALOW : ℤ := 0x0C
def AP3216C_ALSDATAHIGH : ℤ := 0x0D
def AP3216C_PSDATALOW : ℤ := 0x0E
def AP3216C_PSDATAHIGH : ℤ := 0x0F
def AP3216C_ALSCONFIG : ℤ := 0x10
def AP3216C_PSLEDCONFIG : ℤ := 0x21

/-! ## The drivers without IIO -/

/-- `ir`, `als` and `ps` of `struct ap3216c_dev`. -/
structure Data where
  ir : BitVec 16
  als : BitVec 16
  ps : BitVec 16
  deriving DecidableEq

/-- `(high << k) | low`, an `int`. -/
def cut (high low : Byte) (k : ℕ) : BitVec 32 := high.setWidth 32 <<< k ||| low.setWidth 32

/-- The assignments of both drivers. -/
def store (buf : ℕ → Byte) : Data where
  ir := if buf 0 &&& 0x80#8 ≠ 0#8 then 0#16 else (cut (buf 1) (buf 0 &&& 0x03#8) 2).setWidth 16
  als := (cut (buf 3) (buf 2) 8).setWidth 16
  ps := if buf 4 &&& 0x40#8 ≠ 0#8 then 0#16 else (cut (buf 5 &&& 0x3F#8) (buf 4 &&& 0x0F#8) 4).setWidth 16

namespace I2c

/-- One message with the number of the register, and one that reads it. -/
def ap3216c_read_reg (regs : Regs) (reg : ℤ) : Byte := (Mem.read regs reg 1).headD 0#8

/-- The six data registers into `data`, one at a time. -/
def ap3216c_readdata (regs : Regs) : Data := store fun i => ap3216c_read_reg regs (AP3216C_IRDATALOW + i)

end I2c

namespace Regmap

/-- One register. -/
def ap3216c_read_reg (regs : Regs) (reg : ℤ) : Byte := regs reg

/-- The six data registers into `data`, one at a time. -/
def ap3216c_readdata (regs : Regs) : Data := store fun i => ap3216c_read_reg regs (AP3216C_IRDATALOW + i)

end Regmap

/-! ## The IIO driver -/

/-- The types of the three channels. -/
inductive ChanType
  | IIO_INTENSITY
  | IIO_PROXIMITY
  deriving DecidableEq

/-- The modifiers of the channels. -/
inductive Modifier
  | IIO_NO_MOD
  | IIO_MOD_LIGHT_BOTH
  | IIO_MOD_LIGHT_IR
  deriving DecidableEq

/-- A channel as the IIO core passes it to the driver. -/
structure Chan where
  type : ChanType
  channel2 : Modifier
  address : ℤ
  deriving DecidableEq

def als_chan : Chan := ⟨.IIO_INTENSITY, .IIO_MOD_LIGHT_BOTH, AP3216C_ALSDATALOW⟩
def ps_chan : Chan := ⟨.IIO_PROXIMITY, .IIO_NO_MOD, AP3216C_PSDATALOW⟩
def ir_chan : Chan := ⟨.IIO_INTENSITY, .IIO_MOD_LIGHT_IR, AP3216C_IRDATALOW⟩

/-- The table of the channels. -/
def ap3216c_channels : List Chan := [als_chan, ps_chan, ir_chan]

/-- The table of the scales, in millionths. -/
def als_scale_ap3216c : List (BitVec 32) := [315000#32, 78800#32, 19700#32, 4900#32]

/-- One register; the result of the read is dropped. -/
def ap3216c_read_reg (reg : ℤ) : Run Byte := do
  let (_, data) ← regmap_read reg
  return data

/-- One register; the result of the write is dropped. -/
def ap3216c_write_reg (reg : ℤ) (data : Byte) : Run Unit := do
  let _ ← regmap_write reg data

/-- Reset, then all three sensors with their settings. -/
def ap3216c_reginit : Run Unit := do
  ap3216c_write_reg AP3216C_SYSTEMCONG 0x04#8
  ap3216c_write_reg AP3216C_SYSTEMCONG 0x03#8
  ap3216c_write_reg AP3216C_ALSCONFIG 0x00#8
  ap3216c_write_reg AP3216C_PSLEDCONFIG 0x13#8

/-- The two bytes of a light channel as one number. -/
def ap3216c_read_alsir_data (reg : ℤ) : Modifier → Run (Except ℤ (BitVec 32))
  | .IIO_MOD_LIGHT_BOTH => do
    let (ret, data) ← call (.regmap_bulk_read reg 2)
    if ret ≠ 0 then return .error (-EINVAL)
    return .ok (cut (data.getD 1 0#8) (data.getD 0 0#8) 8)
  | .IIO_MOD_LIGHT_IR => do
    let (ret, data) ← call (.regmap_bulk_read reg 2)
    if ret ≠ 0 then return .error (-EINVAL)
    return .ok (cut (data.getD 1 0#8) (data.getD 0 0#8 &&& 0x03#8) 2)
  | .IIO_NO_MOD => return .error (-EINVAL)

/-- The loop goes on after a match, but no two entries are the same. -/
def ap3216c_write_als_scale (val : BitVec 32) : Modifier → Run ℤ
  | .IIO_MOD_LIGHT_BOTH =>
    als_scale_ap3216c.zipIdx.foldlM
      (fun ret entry => if entry.1 = val then regmap_write AP3216C_ALSCONFIG (BitVec.ofNat 8 (entry.2 <<< 4)) else return ret) 0
  | _ => return -EINVAL

/-- A proximity that cannot be read is returned all the same. -/
def ap3216c_read_raw (chan : Chan) : Mask → Run (Except ℤ Reading)
  | .RAW => do
    let ret ← locked (match chan.type with
      | .IIO_INTENSITY => ap3216c_read_alsir_data chan.address chan.channel2
      | .IIO_PROXIMITY => do
        let (_, data) ← call (.regmap_bulk_read chan.address 2)
        return .ok (cut (data.getD 1 0#8 &&& 0x3F#8) (data.getD 0 0#8 &&& 0x0F#8) 4))
    return ret.map fun val => ⟨.IIO_VAL_INT, val, 0#32⟩
  | .SCALE =>
    match chan.type with
    | .IIO_INTENSITY => do
      let val2 ← locked do
        let regdata ← ap3216c_read_reg AP3216C_ALSCONFIG
        return als_scale_ap3216c.getD ((regdata &&& 0x30#8) >>> 4).toNat 0#32
      return .ok ⟨.IIO_VAL_INT_PLUS_MICRO, 0#32, val2⟩
    | .IIO_PROXIMITY => return .error (-EINVAL)
  | _ => return .error (-EINVAL)

/-- The switch of `ap3216c_write_raw`, between its claim and its release. -/
def write_switch (chan : Chan) (val2 : BitVec 32) : Mask → Run ℤ
  | .SCALE =>
    match chan.type with
    | .IIO_INTENSITY => locked (ap3216c_write_als_scale val2 chan.channel2)
    | .IIO_PROXIMITY => return -EINVAL
  | _ => return -EINVAL

/-- The switch, within direct mode; that the mode may not have been granted is not looked at. -/
def ap3216c_write_raw (chan : Chan) (_val val2 : BitVec 32) (mask : Mask) : Run ℤ := do
  let _ ← call .iio_device_claim_direct_mode
  let ret ← write_switch chan val2 mask
  call .iio_device_release_direct_mode
  return ret

/-! ## One field -/

theorem cut_toNat (high low : Byte) {k : ℕ} (hk : k ≤ 8) : (cut high low k).toNat = high.toNat * 2 ^ k ||| low.toNat := by
  have hhigh := high.isLt
  have hlow := low.isLt
  have hpow : 2 ^ k ≤ 2 ^ 8 := Nat.pow_le_pow_right (by decide) hk
  have hmul : high.toNat * 2 ^ k < 2 ^ 32 := by
    calc high.toNat * 2 ^ k ≤ 2 ^ 8 * 2 ^ 8 := Nat.mul_le_mul hhigh.le hpow
      _ < 2 ^ 32 := by decide
  unfold cut
  rw [BitVec.toNat_or, BitVec.toNat_shiftLeft, BitVec.toNat_setWidth, BitVec.toNat_setWidth, Nat.shiftLeft_eq,
    Nat.mod_eq_of_lt (by omega : high.toNat < 2 ^ 32), Nat.mod_eq_of_lt hmul, Nat.mod_eq_of_lt (by omega : low.toNat < 2 ^ 32)]

theorem cut_lt (high low : Byte) {k : ℕ} (hk : k ≤ 8) : (cut high low k).toNat < 2 ^ 16 := by
  have hhigh := high.isLt
  have hlow := low.isLt
  have hpow : 2 ^ k ≤ 2 ^ 8 := Nat.pow_le_pow_right (by decide) hk
  have hpos : 0 < 2 ^ k := Nat.two_pow_pos k
  rw [cut_toNat high low hk]
  apply Nat.or_lt_two_pow
  · calc high.toNat * 2 ^ k < 2 ^ 8 * 2 ^ k := Nat.mul_lt_mul_of_pos_right hhigh hpos
      _ ≤ 2 ^ 8 * 2 ^ 8 := Nat.mul_le_mul_left _ hpow
  · omega

/-- A field fits in the `unsigned short` it is stored in. -/
theorem cut_stored (high low : Byte) {k : ℕ} (hk : k ≤ 8) : ((cut high low k).setWidth 16).setWidth 32 = cut high low k := by
  apply BitVec.eq_of_toNat_eq
  have := cut_lt high low hk
  rw [BitVec.toNat_setWidth, BitVec.toNat_setWidth, Nat.mod_eq_of_lt this, Nat.mod_eq_of_lt (by omega)]

theorem cut_eq_zero (high low : Byte) {k : ℕ} (hk : k ≤ 8) : cut high low k = 0#32 ↔ high = 0#8 ∧ low = 0#8 := by
  rw [← BitVec.toNat_inj, cut_toNat high low hk]
  constructor
  · intro h
    obtain ⟨hhigh, hlow⟩ := Nat.or_eq_zero_iff.1 h
    refine ⟨BitVec.eq_of_toNat_eq ?_, BitVec.eq_of_toNat_eq hlow⟩
    exact (Nat.mul_eq_zero.1 hhigh).resolve_right (Nat.two_pow_pos k).ne'
  · rintro ⟨rfl, rfl⟩
    simp

/-! ## The decoders -/

/-- What a driver returns for a channel: the `unsigned short` stored there. -/
def Data.at (data : Data) (chan : Chan) : BitVec 32 :=
  if chan = ir_chan then data.ir.setWidth 32
  else if chan = als_chan then data.als.setWidth 32
  else data.ps.setWidth 32

/-- What `ap3216c_read_raw` shows of a channel on a bus that does not fail. -/
def raw (regs : Regs) (chan : Chan) : Option (Except ℤ Reading) :=
  (alone (ap3216c_read_raw chan .RAW) (Core.probed regs)).map Prod.fst

theorem raw_als (regs : Regs) :
    raw regs als_chan = some (.ok ⟨.IIO_VAL_INT, cut (regs AP3216C_ALSDATAHIGH) (regs AP3216C_ALSDATALOW) 8, 0#32⟩) := rfl

theorem raw_ir (regs : Regs) : raw regs ir_chan =
    some (.ok ⟨.IIO_VAL_INT, cut (regs AP3216C_IRDATAHIGH) (regs AP3216C_IRDATALOW &&& 0x03#8) 2, 0#32⟩) := rfl

theorem raw_ps (regs : Regs) : raw regs ps_chan = some (.ok
    ⟨.IIO_VAL_INT, cut (regs AP3216C_PSDATAHIGH &&& 0x3F#8) (regs AP3216C_PSDATALOW &&& 0x0F#8) 4, 0#32⟩) := rfl

/-- All three drivers show the same of every channel. -/
def Agree (regs : Regs) : Prop :=
  ∀ chan ∈ ap3216c_channels, (Regmap.ap3216c_readdata regs).at chan = (I2c.ap3216c_readdata regs).at chan ∧
    raw regs chan = some (.ok ⟨.IIO_VAL_INT, (I2c.ap3216c_readdata regs).at chan, 0#32⟩)

/-- A reading that is marked as not valid is 0 all the same. -/
def FlaggedZero (regs : Regs) : Prop :=
  (regs AP3216C_IRDATALOW &&& 0x80#8 ≠ 0#8 →
    regs AP3216C_IRDATAHIGH = 0#8 ∧ regs AP3216C_IRDATALOW &&& 0x03#8 = 0#8) ∧
  (regs AP3216C_PSDATALOW &&& 0x40#8 ≠ 0#8 →
    regs AP3216C_PSDATAHIGH &&& 0x3F#8 = 0#8 ∧ regs AP3216C_PSDATALOW &&& 0x0F#8 = 0#8)

theorem readdata_eq (regs : Regs) : Regmap.ap3216c_readdata regs = I2c.ap3216c_readdata regs := rfl

/-- A field that is stored as 0 where it is marked. -/
theorem flagged_eq_iff {flag : Prop} [Decidable flag] (high low : Byte) {k : ℕ} (hk : k ≤ 8) :
    (if flag then 0#16 else (cut high low k).setWidth 16).setWidth 32 = cut high low k ↔ flag → high = 0#8 ∧ low = 0#8 := by
  rw [← cut_eq_zero high low hk]
  split
  · rename_i h
    simp only [h, true_imp_iff]
    exact eq_comm
  · rename_i h
    simp only [h, false_imp_iff, iff_true]
    exact cut_stored high low hk

theorem ir_agrees (regs : Regs) : raw regs ir_chan = some (.ok ⟨.IIO_VAL_INT, (I2c.ap3216c_readdata regs).at ir_chan, 0#32⟩) ↔
    (regs AP3216C_IRDATALOW &&& 0x80#8 ≠ 0#8 → regs AP3216C_IRDATAHIGH = 0#8 ∧ regs AP3216C_IRDATALOW &&& 0x03#8 = 0#8) := by
  rw [raw_ir, ← flagged_eq_iff _ _ (show 2 ≤ 8 by decide), ← readdata_eq]
  simp only [Option.some.injEq, Except.ok.injEq, Reading.mk.injEq, true_and, and_true]
  exact eq_comm

theorem ps_agrees (regs : Regs) : raw regs ps_chan = some (.ok ⟨.IIO_VAL_INT, (I2c.ap3216c_readdata regs).at ps_chan, 0#32⟩) ↔
    (regs AP3216C_PSDATALOW &&& 0x40#8 ≠ 0#8 →
      regs AP3216C_PSDATAHIGH &&& 0x3F#8 = 0#8 ∧ regs AP3216C_PSDATALOW &&& 0x0F#8 = 0#8) := by
  rw [raw_ps, ← flagged_eq_iff _ _ (show 4 ≤ 8 by decide), ← readdata_eq]
  simp only [Option.some.injEq, Except.ok.injEq, Reading.mk.injEq, true_and, and_true]
  exact eq_comm

theorem als_agrees (regs : Regs) :
    raw regs als_chan = some (.ok ⟨.IIO_VAL_INT, (I2c.ap3216c_readdata regs).at als_chan, 0#32⟩) := by
  rw [raw_als, ← readdata_eq, ← cut_stored _ _ (show 8 ≤ 8 by decide)]
  rfl

/-- The drivers agree exactly where no reading is marked, or the marked one is 0. -/
theorem agree_iff (regs : Regs) : Agree regs ↔ FlaggedZero regs := by
  unfold FlaggedZero
  rw [← ir_agrees, ← ps_agrees]
  constructor
  · intro h
    exact ⟨(h ir_chan (by decide)).2, (h ps_chan (by decide)).2⟩
  · rintro ⟨hir, hps⟩ chan hchan
    refine ⟨by rw [readdata_eq], ?_⟩
    simp only [ap3216c_channels, List.mem_cons, List.not_mem_nil, or_false] at hchan
    rcases hchan with rfl | rfl | rfl
    · exact als_agrees regs
    · exact hps
    · exact hir

/-- An infrared overflow with the high byte at 0x80: `ap3216c_read_raw` shows 512, the other drivers 0. -/
theorem overflow_shown : ¬Agree fun a => if a = AP3216C_IRDATALOW ∨ a = AP3216C_IRDATAHIGH then 0x80#8 else 0x00#8 := by
  intro h
  have hir := (h ir_chan (by decide)).2
  exact absurd hir (by decide)

end Iio.Ap3216c
