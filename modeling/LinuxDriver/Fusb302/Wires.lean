import LinuxDriver.Fusb302.Tcpm
/-!
# The wires

The bits of SWITCHES0 and SWITCHES1 that put VCONN and the transmitter on a CC
line, the register that flushes the receive FIFO, and which register operations
leave them alone.
-/

namespace Fusb302

/-- The bits of both registers that belong to VCONN and TXCC, the fields they must agree with, and CONTROL1. -/
structure Wires where
  cc_polarity : TypecCcPolarity
  vconn_enabled : Bool
  vconn : Byte
  txcc : Byte
  txcc_default : Byte
  control1 : Byte

abbrev VCONN_MASK : Byte := SWITCHES0_VCONN_CC1 ||| SWITCHES0_VCONN_CC2
abbrev TXCC_MASK : Byte := SWITCHES1_TXCC1 ||| SWITCHES1_TXCC2

/-- The view of a chip. -/
def Chip.wires (chip : Chip) : Wires where
  cc_polarity := chip.cc_polarity
  vconn_enabled := chip.vconn_enabled
  vconn := chip.regs .SWITCHES0 &&& VCONN_MASK
  txcc := chip.regs .SWITCHES1 &&& TXCC_MASK
  txcc_default := chip.defaults .SWITCHES1 &&& TXCC_MASK
  control1 := chip.regs .CONTROL1

variable {chip c c' : Chip}

/-! ## Register writes -/

/-- An update leaves the bits outside its mask. -/
theorem update_outside {mask m : Byte} (r val : Byte) (h : mask &&& m = 0#8) :
    ((r &&& ~~~mask) ||| (val &&& mask)) &&& m = r &&& m := by
  apply BitVec.eq_of_getLsbD_eq
  intro i hi
  have hm : (mask.getLsbD i && m.getLsbD i) = false := by
    rw [← BitVec.getLsbD_and, h, BitVec.getLsbD_zero]
  simp only [BitVec.getLsbD_and, BitVec.getLsbD_or, BitVec.getLsbD_not, hi, decide_true, Bool.true_and]
  cases hk : mask.getLsbD i <;> cases hn : m.getLsbD i <;> simp_all

/-- And sets those inside. -/
theorem update_inside {mask m : Byte} (r val : Byte) (h : m &&& mask = m) :
    ((r &&& ~~~mask) ||| (val &&& mask)) &&& m = val &&& m := by
  apply BitVec.eq_of_getLsbD_eq
  intro i hi
  have hm : (m.getLsbD i && mask.getLsbD i) = m.getLsbD i := by
    rw [← BitVec.getLsbD_and, h]
  simp only [BitVec.getLsbD_and, BitVec.getLsbD_or, BitVec.getLsbD_not, hi, decide_true, Bool.true_and]
  cases hk : mask.getLsbD i <;> cases hn : m.getLsbD i <;> simp_all

theorem wires_ext (hp : c'.cc_polarity = c.cc_polarity) (he : c'.vconn_enabled = c.vconn_enabled)
    (h0 : c'.regs .SWITCHES0 &&& VCONN_MASK = c.regs .SWITCHES0 &&& VCONN_MASK)
    (h1 : c'.regs .SWITCHES1 &&& TXCC_MASK = c.regs .SWITCHES1 &&& TXCC_MASK)
    (hd : c'.defaults = c.defaults) (hc : c'.regs .CONTROL1 = c.regs .CONTROL1) : c'.wires = c.wires := by
  unfold Chip.wires
  rw [hp, he, h0, h1, hd, hc]

/-- The registers that `Wires` looks at. -/
def Reg.wired : Reg → Bool
  | .SWITCHES0 | .SWITCHES1 | .CONTROL1 => true
  | _ => false

theorem write_wires {reg : Reg} (val : Byte) (h : reg.wired = false) :
    (regmap_write chip reg val).wires = chip.wires := by
  have other : ∀ r : Reg, r.wired = true → (regmap_write chip reg val).regs r = chip.regs r := by
    rintro r hr
    refine if_neg ?_
    rintro rfl
    rw [h] at hr
    cases hr
  refine wires_ext rfl rfl ?_ ?_ rfl (other _ rfl)
  · exact congrArg (· &&& VCONN_MASK) (other _ rfl)
  · exact congrArg (· &&& TXCC_MASK) (other _ rfl)

theorem update_wires {reg : Reg} (mask val : Byte) (h : reg.wired = false) :
    (regmap_update_bits chip reg mask val).wires = chip.wires := write_wires _ h

theorem update_switches0_wires {mask : Byte} (val : Byte) (h : mask &&& VCONN_MASK = 0#8) :
    (regmap_update_bits chip .SWITCHES0 mask val).wires = chip.wires :=
  wires_ext rfl rfl (update_outside _ val h) rfl rfl rfl

theorem update_switches1_wires {mask : Byte} (val : Byte) (h : mask &&& TXCC_MASK = 0#8) :
    (regmap_update_bits chip .SWITCHES1 mask val).wires = chip.wires :=
  wires_ext rfl rfl rfl (update_outside _ val h) rfl rfl

/-! ## Operations that keep the wires -/

@[simp] theorem rx_disable_wires (chip : Chip) : (tcpm_set_rx_enable chip false).wires = chip.wires := by
  change (regmap_update_bits (regmap_update_bits chip .SWITCHES0 _ _) .SWITCHES1 _ _).wires = _
  rw [update_switches1_wires _ (by decide), update_switches0_wires _ (by decide)]

/-- Enabling the receiver flushes its FIFO. -/
theorem rx_enable_wires (chip : Chip) :
    (tcpm_set_rx_enable chip true).wires = { chip.wires with control1 := CONTROL1_RX_FLUSH } := by
  have flush : ∀ c : Chip, (fusb302_flush_rx_fifo c).wires = { c.wires with control1 := CONTROL1_RX_FLUSH } :=
    fun _ => rfl
  change (regmap_update_bits (fusb302_flush_rx_fifo (regmap_update_bits chip .SWITCHES0 _ _)) .SWITCHES1 _ _).wires = _
  rw [update_switches1_wires _ (by decide), flush, update_switches0_wires _ (by decide)]

@[simp] theorem tcpm_set_cc_pull_mode_wires (chip : Chip) (mode : CcMode) :
    (tcpm_set_cc_pull_mode chip mode).wires = chip.wires := by
  have hw : ∀ val, (regmap_update_bits chip .SWITCHES0
      (SWITCHES0_PU_EN1 ||| SWITCHES0_PU_EN2 ||| SWITCHES0_PDWN1 ||| SWITCHES0_PDWN2) val).wires = chip.wires :=
    fun val => update_switches0_wires val (by decide)
  unfold tcpm_set_cc_pull_mode
  dsimp only
  rw [apply_ite Chip.wires, write_wires _ rfl, hw, ite_self]

@[simp] theorem tcpm_set_cc_wires (chip : Chip) (mode : RoleMode) : (tcpm_set_cc chip mode).wires = chip.wires := by
  unfold tcpm_set_cc
  cases mode <;> dsimp only <;>
    simp only [update_wires _ _ (rfl : Reg.CONTROL2.wired = false), tcpm_set_cc_pull_mode_wires]

@[simp] theorem tcpm_set_msg_header_wires (chip : Chip) : (tcpm_set_msg_header chip).wires = chip.wires := by
  unfold tcpm_set_msg_header
  rw [update_switches1_wires _ (by decide), update_switches1_wires _ (by decide)]

@[simp] theorem get_cc_sink_wires (chip : Chip) (meas : Byte) : (get_cc_sink chip meas).1.wires = chip.wires := by
  have hm : (SWITCHES0_MEAS_CC1 ||| SWITCHES0_MEAS_CC2 ||| SWITCHES0_PU_EN1 ||| SWITCHES0_PU_EN2 |||
      SWITCHES0_PDWN1 ||| SWITCHES0_PDWN2) &&& VCONN_MASK = 0#8 := by decide
  have hw : _ = chip.wires := update_switches0_wires (SWITCHES0_PDWN1 ||| SWITCHES0_PDWN2 ||| meas) hm
  exact hw

/-- At most SWITCHES0 and MEASURE are written. -/
def Measured (c' c : Chip) : Prop :=
  c'.cc_polarity = c.cc_polarity ∧ c'.vconn_enabled = c.vconn_enabled ∧ c'.regs .SWITCHES1 = c.regs .SWITCHES1 ∧
    c'.defaults = c.defaults ∧ c'.regs .CONTROL1 = c.regs .CONTROL1

theorem Measured.ite {p : Prop} [Decidable p] {a b : Chip × CcVolt} (ha : Measured a.1 c) (hb : Measured b.1 c) :
    Measured (if p then a else b).1 c := by
  split
  · exact ha
  · exact hb

theorem get_cc_retry_measured (store : Byte) (retry comp_times : Nat) (cc_measure : CcVolt) (h : Measured c' c) :
    Measured (get_cc_retry store retry comp_times c' cc_measure).1 c := by
  induction retry generalizing c' comp_times cc_measure with
  | zero => exact h
  | succ retry ih =>
    unfold get_cc_retry
    dsimp only
    repeat' split
    · exact ih _ _ h
    · exact ih _ _ h
    · exact ih _ _ h

/-- What a measurement of the source's line does to SWITCHES0 it takes back. -/
theorem restore_wires (h : Measured c' c) (val : Byte) :
    (regmap_write (regmap_write c' .SWITCHES0 (c.regs .SWITCHES0)) .MEASURE val).wires = c.wires := by
  obtain ⟨hp, he, h1, hd, hc⟩ := h
  rw [write_wires _ rfl]
  exact wires_ext hp he rfl (congrArg (· &&& TXCC_MASK) h1) hd hc

@[simp] theorem get_cc_source_wires (chip : Chip) : (get_cc_source chip).1.wires = chip.wires := by
  unfold get_cc_source
  dsimp only
  apply restore_wires
  apply Measured.ite
  · apply get_cc_retry_measured
    exact ⟨rfl, rfl, rfl, rfl, rfl⟩
  · exact ⟨rfl, rfl, rfl, rfl, rfl⟩

@[simp] theorem tcpm_get_cc_wires (chip : Chip) : (tcpm_get_cc chip).chip.wires = chip.wires := by
  unfold tcpm_get_cc
  split
  · dsimp only
    rw [update_switches0_wires _ (by decide), get_cc_sink_wires, get_cc_sink_wires]
  · exact get_cc_source_wires chip

end Fusb302
