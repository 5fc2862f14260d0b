import LinuxDriver.Sensor.Sample
import Mathlib.Algebra.Order.Field.Rat
import Mathlib.Tactic.Linarith
import Mathlib.Tactic.NormNum
import Mathlib.Tactic.Ring
/-!
# The DS18B20's temperature, printed

The sensor sends sixteenths of a degree in two's complement, the low byte
first. `ds18b20App` negates a negative value byte by byte, in `int`s, before it
puts the two bytes together in a `short`. Temperatures are rationals here: all
products with 0.0625 are exact in a `float`.
-/

namespace Sensor.Ds18b20

/-! ## The driver -/

/-- `ds18b20_read_byte`, from what its eight calls of `ds18b20_read_bit` return. -/
def ds18b20_read_byte (bit : ℕ → Bool) : Byte :=
  (List.range 8).foldl (fun byte i => if bit i then byte ||| 1#8 <<< i else byte &&& ~~~(1#8 <<< i)) 0#8

/-- `ds18b20_device.data` after the work item has read these bits. -/
def ds18b20_work_callback (bit : ℕ → Bool) : ℕ → Byte
  | 0 => ds18b20_read_byte bit
  | _ => ds18b20_read_byte fun i => bit (8 + i)

/-- What `read` returns and delivers of a value that the sensor has sent. -/
def ds18b20_read (v : BitVec 16) : ℤ × (ℕ → Byte) := (Driver.ds18b20.ret 0, ds18b20_work_callback v.getLsbD)

/-! ## The application -/

/-- The variables that outlive a turn of the loop. -/
structure App where
  TH : ℤ
  TL : ℤ
  tmp : BitVec 16
  flag : ℤ
  deriving DecidableEq

/-- `TH` and `TL` are not initialised. -/
def App.start (TH TL : ℤ) : App := ⟨TH, TL, 0#16, 0⟩

/-- `if(TH > 7)`, the negative values. -/
def App.negate (a : App) : App := if a.TH > 7 then { a with TH := ~~~a.TH, TL := ~~~a.TL, flag := 1 } else a

/-- `tmp = TH; tmp <<= 8; tmp += TL`. -/
def App.combine (a : App) : App := { a with tmp := BitVec.ofInt 16 a.TH <<< 8 + BitVec.ofInt 16 a.TL }

/-- What the application prints. -/
def App.temperature (a : App) : ℚ :=
  if a.flag = 1 then -(((a.tmp.toInt + 1 : ℤ) : ℚ) * 0.0625) else (a.tmp.toInt : ℚ) * 0.0625

/-- A turn of the loop after `read` has returned `ret`, and what it prints. -/
def App.turn (a : App) (ret : ℤ) (result : ℕ → Byte) : App × Option ℚ :=
  if ret = 0 then
    let a := { a with TL := (result 0).toNat, TH := (result 1).toNat }
    -- `continue`, past the reset of `flag`
    if a.TH = 0xff ∧ a.TL = 0xff then (a, none)
    else
      let a := a.negate.combine
      ({ a with flag := 0 },
        if a.temperature < 125 ∧ a.temperature > -55 then some a.temperature else none)
  else ({ a with flag := 0 }, none)

/-- What the turns of the loop print. -/
def App.main (a : App) : List (ℤ × (ℕ → Byte)) → List (Option ℚ)
  | [] => []
  | (ret, result) :: reads => (a.turn ret result).2 :: (a.turn ret result).1.main reads

/-! ## What should be printed -/

/-- The temperature of a value within the range, unless it is the reserved one. -/
def shown (v : BitVec 16) : Option ℚ :=
  if v ≠ 0xffff#16 ∧ -55 < (v.toInt : ℚ) / 16 ∧ (v.toInt : ℚ) / 16 < 125 then some ((v.toInt : ℚ) / 16) else none

/-! ## Bytes -/

theorem read_byte_getLsbD (bit : ℕ → Bool) {j : ℕ} (hj : j < 8) : (ds18b20_read_byte bit).getLsbD j = bit j := by
  have hone : ∀ i, (1#8 <<< i).getLsbD j = decide (j = i) := by
    intro i
    rw [BitVec.getLsbD_shiftLeft, BitVec.getLsbD_one]
    by_cases h : j = i
    · subst h
      simp [hj]
    · simp [h]
      omega
  have loop : ∀ n, ((List.range n).foldl (fun byte i => if bit i then byte ||| 1#8 <<< i else byte &&& ~~~(1#8 <<< i))
      0#8).getLsbD j = (decide (j < n) && bit j) := by
    intro n
    induction n with
    | zero => simp
    | succ n ih =>
      rw [List.range_succ, List.foldl_append, List.foldl_cons, List.foldl_nil]
      have hlt : decide (j < n + 1) = (decide (j < n) || decide (j = n)) := by
        rw [← Bool.decide_or, decide_eq_decide]
        exact Nat.lt_succ_iff_lt_or_eq
      split
      · rename_i hb
        rw [BitVec.getLsbD_or, ih, hone, hlt]
        by_cases h : j = n
        · simp [h, hb]
        · simp [h]
      · rename_i hb
        rw [BitVec.getLsbD_and, BitVec.getLsbD_not, ih, hone, hlt]
        by_cases h : j = n
        · simp [h, hb]
        · simp [h, hj]
  rw [ds18b20_read_byte, loop]
  simp [hj]

theorem read_byte_eq {bit : ℕ → Bool} {byte : Byte} (h : ∀ j < 8, bit j = byte.getLsbD j) : ds18b20_read_byte bit = byte := by
  apply BitVec.eq_of_getLsbD_eq
  intro j hj
  rw [read_byte_getLsbD bit hj, h j hj]

variable (v : BitVec 16)

theorem low_byte : ((ds18b20_read v).2 0).toNat = v.toNat % 256 := by
  have h : (ds18b20_read v).2 0 = v.setWidth 8 := by
    apply read_byte_eq
    intro j hj
    simp [hj]
  rw [h, BitVec.toNat_setWidth]

theorem high_byte : ((ds18b20_read v).2 1).toNat = v.toNat / 256 := by
  have h : (ds18b20_read v).2 1 = (v >>> 8).setWidth 8 := by
    show ds18b20_read_byte (fun i => v.getLsbD (8 + i)) = _
    apply read_byte_eq
    intro j hj
    simp [hj]
  have hlt := v.isLt
  rw [h, BitVec.toNat_setWidth, BitVec.toNat_ushiftRight, Nat.shiftRight_eq_div_pow]
  omega

/-! ## The short -/

theorem not_eq (n : ℕ) : ~~~(n : ℤ) = -n - 1 := by
  show Int.negSucc n = -n - 1
  omega

/-- The two bytes, whatever their signs, are put together modulo 2^16. -/
theorem short_toInt (x y : ℤ) : (BitVec.ofInt 16 x <<< 8 + BitVec.ofInt 16 y).toInt = (256 * x + y).bmod (2 ^ 16) := by
  have h : BitVec.ofInt 16 x <<< 8 + BitVec.ofInt 16 y = BitVec.ofInt 16 (256 * x + y) := by
    rw [BitVec.ofInt_add, BitVec.ofInt_mul, ← BitVec.mul_twoPow_eq_shiftLeft, BitVec.mul_comm]
    rfl
  rw [h, BitVec.toInt_ofInt]

theorem combine_toInt (a : App) : a.combine.tmp.toInt = (256 * a.TH + a.TL).bmod (2 ^ 16) := short_toInt a.TH a.TL

theorem combine_flag (a : App) : a.combine.flag = a.flag := rfl

/-- What the application takes the value for, in sixteenths: beyond 2047 it is
16 degrees too much, or too little. -/
def taken_for : ℤ :=
  if v.toNat < 2048 then v.toNat else if v.toNat < 32512 then v.toNat + 256 else v.toNat - 65280

/-- The range of temperatures, in sixteenths. -/
theorem range_sixteenths (x : ℤ) : ((x : ℚ) / 16 < 125 ∧ (x : ℚ) / 16 > -55) ↔ -880 < x ∧ x < 2000 := by
  have hlo : (x : ℚ) / 16 > -55 ↔ -880 < x := by
    rw [gt_iff_lt, lt_div_iff₀ (by norm_num)]
    norm_num
    exact_mod_cast Iff.rfl
  have hhi : (x : ℚ) / 16 < 125 ↔ x < 2000 := by
    rw [div_lt_iff₀ (by norm_num)]
    norm_num
    exact_mod_cast Iff.rfl
  rw [hlo, hhi, and_comm]

theorem turn_flag {a : App} (ha : a.flag = 0) (ret : ℤ) (result : ℕ → Byte) : (a.turn ret result).1.flag = 0 := by
  unfold App.turn
  dsimp only
  split
  · split
    · exact ha
    · rfl
  · rfl

theorem warm_short (h : v.toNat < 2048) :
    (256 * ((v.toNat / 256 : ℕ) : ℤ) + ((v.toNat % 256 : ℕ) : ℤ)).bmod (2 ^ 16) = taken_for v := by
  rw [taken_for, if_pos h, Int.bmod_eq_of_le (by omega) (by omega)]
  omega

theorem cold_short (h : 2048 ≤ v.toNat) :
    -((256 * ~~~((v.toNat / 256 : ℕ) : ℤ) + ~~~((v.toNat % 256 : ℕ) : ℤ)).bmod (2 ^ 16) + 1) = taken_for v := by
  have hlt := v.isLt
  have hsum : 256 * (-((v.toNat / 256 : ℕ) : ℤ) - 1) + (-((v.toNat % 256 : ℕ) : ℤ) - 1) = -(v.toNat : ℤ) - 257 := by
    omega
  rw [not_eq, not_eq, hsum, taken_for, if_neg (Nat.not_lt.2 h)]
  split
  · rw [Int.bmod_eq_of_le (by omega) (by omega)]
    omega
  · -- too small for a `short`
    have hwrap : (-(v.toNat : ℤ) - 257).bmod (2 ^ 16) = -(v.toNat : ℤ) - 257 + 65536 :=
      (Int.bmod_eq_iff (by decide)).2 ⟨by omega, by omega, 1, by omega⟩
    rw [hwrap]
    omega

theorem temperature_taken_for {a : App} (hf : a.flag = 0) (hh : a.TH = (v.toNat / 256 : ℕ))
    (hl : a.TL = (v.toNat % 256 : ℕ)) : a.negate.combine.temperature = (taken_for v : ℚ) / 16 := by
  rw [App.temperature, combine_toInt, combine_flag]
  by_cases h : a.TH > 7
  · have hneg : a.negate = { a with TH := ~~~a.TH, TL := ~~~a.TL, flag := 1 } := if_pos h
    have hcold : 2048 ≤ v.toNat := by omega
    rw [hneg, if_pos rfl, ← cold_short v hcold, hh, hl]
    push_cast
    ring
  · have hneg : a.negate = a := if_neg h
    have hwarm : v.toNat < 2048 := by omega
    rw [hneg, hf, if_neg (by decide), ← warm_short v hwarm, hh, hl]
    ring

/-- What a turn prints of the value. -/
def printed : Option ℚ :=
  if v = 0xffff#16 then none
  else if -880 < taken_for v ∧ taken_for v < 2000 then some ((taken_for v : ℚ) / 16) else none

theorem turn_prints {a : App} (hf : a.flag = 0) : (a.turn (ds18b20_read v).1 (ds18b20_read v).2).2 = printed v := by
  have hret : (ds18b20_read v).1 = 0 := rfl
  have hreserved : (((v.toNat / 256 : ℕ) : ℤ) = 0xff ∧ ((v.toNat % 256 : ℕ) : ℤ) = 0xff) ↔ v = 0xffff#16 := by
    rw [← BitVec.toNat_inj]
    have hlt := v.isLt
    simp
    omega
  unfold App.turn printed
  rw [if_pos hret]
  dsimp only
  rw [low_byte, high_byte]
  by_cases hv : v = 0xffff#16
  · rw [if_pos (hreserved.2 hv), if_pos hv]
  · rw [if_neg (mt hreserved.1 hv), if_neg hv]
    have htemp := @temperature_taken_for v ⟨(v.toNat / 256 : ℕ), (v.toNat % 256 : ℕ), a.tmp, a.flag⟩ hf rfl rfl
    rw [htemp]
    simp only [range_sixteenths]

theorem shown_eq : shown v =
    if v = 0xffff#16 then none
    else if -880 < v.toInt ∧ v.toInt < 2000 then some ((v.toInt : ℚ) / 16) else none := by
  unfold shown
  by_cases hv : v = 0xffff#16
  · rw [if_pos hv, if_neg fun h => h.1 hv]
  · rw [if_neg hv]
    have hrange : (v ≠ 0xffff#16 ∧ -55 < (v.toInt : ℚ) / 16 ∧ (v.toInt : ℚ) / 16 < 125) ↔
        -880 < v.toInt ∧ v.toInt < 2000 := by
      rw [← range_sixteenths, and_comm (a := (v.toInt : ℚ) / 16 < 125)]
      exact and_iff_right hv
    simp only [hrange]

/-- The values the application prints right: all that are not negative, the
reserved one, and those far enough below the range. -/
def Inverted : Prop := 0 ≤ v.toInt ∨ v = 0xffff#16 ∨ v.toInt ≤ -1136

/-- Two numbers of sixteenths print the same only if they are the same or both out of range. -/
theorem prints_same_iff (x y : ℤ) :
    (if -880 < x ∧ x < 2000 then some ((x : ℚ) / 16) else none) =
        (if -880 < y ∧ y < 2000 then some ((y : ℚ) / 16) else none) ↔
      x = y ∨ ¬(-880 < x ∧ x < 2000) ∧ ¬(-880 < y ∧ y < 2000) := by
  have hinj : (x : ℚ) / 16 = (y : ℚ) / 16 ↔ x = y := by
    rw [div_left_inj' (by norm_num), Int.cast_inj]
  split
  · rename_i hx
    split
    · rename_i hy
      simp [hinj, hx, hy]
    · rename_i hy
      simp only [reduceCtorEq, false_iff]
      rintro (rfl | ⟨hx', _⟩)
      · exact hy hx
      · exact hx' hx
  · rename_i hx
    split
    · rename_i hy
      simp only [reduceCtorEq, false_iff]
      rintro (rfl | ⟨_, hy'⟩)
      · exact hx hy
      · exact hy' hy
    · rename_i hy
      exact iff_of_true rfl (Or.inr ⟨hx, hy⟩)

theorem printed_eq_shown : printed v = shown v ↔ Inverted v := by
  rw [printed, shown_eq]
  by_cases hv : v = 0xffff#16
  · rw [if_pos hv, if_pos hv]
    exact iff_of_true rfl (Or.inr (Or.inl hv))
  · rw [if_neg hv, if_neg hv, prints_same_iff]
    have hlt := v.isLt
    have hint := BitVec.toInt_eq_toNat_cond v
    -- where the value is out of range, what it is taken for is so too
    have hinv : Inverted v ↔ 0 ≤ v.toInt ∨ v.toInt ≤ -1136 := by
      unfold Inverted
      exact or_congr_right (or_iff_right hv)
    rw [hinv]
    unfold taken_for
    split at hint <;> split_ifs <;> omega

theorem main_prints {a : App} (hf : a.flag = 0) (values : List (BitVec 16)) :
    a.main (values.map ds18b20_read) = values.map printed := by
  induction values generalizing a with
  | nil => rfl
  | cons v values ih =>
    rw [List.map_cons, List.map_cons, App.main, turn_prints v hf, ih (turn_flag hf _ _)]

/-- Each turn prints what it would print as the first one. All of them print
what they should exactly when the application inverts every value. -/
theorem app_prints (TH TL : ℤ) (values : List (BitVec 16)) :
    (App.start TH TL).main (values.map ds18b20_read) =
        values.map (fun v => ((App.start TH TL).turn (ds18b20_read v).1 (ds18b20_read v).2).2) ∧
      ((App.start TH TL).main (values.map ds18b20_read) = values.map shown ↔ ∀ v ∈ values, Inverted v) := by
  have hstart : (App.start TH TL).flag = 0 := rfl
  rw [main_prints hstart]
  constructor
  · exact List.map_congr_left fun v _ => (turn_prints v hstart).symm
  · rw [List.map_inj_left]
    exact forall₂_congr fun v _ => printed_eq_shown v

/-- -10.125 degrees. -/
theorem frost_printed : ¬∀ (TH TL : ℤ) (values : List (BitVec 16)),
    (App.start TH TL).main (values.map ds18b20_read) = values.map shown := by
  intro h
  have hv := h 0 0 [0xff5e#16]
  revert hv
  decide +kernel

end Sensor.Ds18b20
