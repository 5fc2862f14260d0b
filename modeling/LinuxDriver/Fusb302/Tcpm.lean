import LinuxDriver.Fusb302.Chip
/-!
# Registers, GPIOs and timers

The functions of `fusb302.c` that talk to the chip and the board. None of them
changes the policy state: each writes registers, GPIO levels or the CC fields,
and `tcpm_get_cc` and `tcpm_check_vbus` consume STATUS0 readings.
-/

namespace Fusb302

/-! ## Register access -/

/-- Writes a register. -/
def regmap_write (chip : Chip) (reg : Reg) (val : Byte) : Chip :=
  { chip with regs := fun r => if r = reg then val else chip.regs r }

/-- Writes the bits of `mask`. -/
def regmap_update_bits (chip : Chip) (reg : Reg) (mask val : Byte) : Chip :=
  regmap_write chip reg ((chip.regs reg &&& ~~~mask) ||| (val &&& mask))

/-- Moves on to the next STATUS0 reading. -/
def status0_read (chip : Chip) : Chip := { chip with status0 := fun n => chip.status0 (n + 1) }

/-- Resetting the PD logic drops a frame in flight. -/
def fusb302_pd_reset (chip : Chip) : Chip := chip.emit .pd_reset

/-- Empties the receive FIFO. -/
def fusb302_flush_rx_fifo (chip : Chip) : Chip := regmap_write chip .CONTROL1 CONTROL1_RX_FLUSH

/-! ## Timers -/

/-- `timer_state = ms` and `fusb_timer_start` of its hrtimer. -/
def timer_state_start (chip : Chip) (ms : Nat) : Chip :=
  { chip with timer_state := ms, timer_state_machine := true }

/-- `timer_mux = ms` and `fusb_timer_start` of its hrtimer. -/
def timer_mux_start (chip : Chip) (ms : Nat) : Chip :=
  { chip with timer_mux := ms, timer_mux_machine := true }

/-! ## VBUS -/

/-- Drives the pins that switch VBUS. -/
def platform_set_vbus_lvl_enable (chip : Chip) (vbus_5v vbus_other : Bool) : Chip :=
  let gpio_vbus_value := chip.gpio_vbus_5v.getD false
  let chip := { chip with gpio_vbus_5v := chip.gpio_vbus_5v.map fun _ => vbus_5v }
  -- the source drives `gpio_vbus_5v` here as well
  let chip := { chip with
    gpio_vbus_5v :=
      if chip.gpio_vbus_other.isSome then chip.gpio_vbus_5v.map fun _ => vbus_other else chip.gpio_vbus_5v }
  -- set to 1, then back to 0 after 20 ms
  { chip with
    gpio_discharge :=
      if !vbus_5v && gpio_vbus_value then chip.gpio_discharge.map fun _ => false else chip.gpio_discharge }

/-- VBUS is there. -/
def tcpm_check_vbus (chip : Chip) : Chip × Bool :=
  (status0_read chip, bit (chip.status0 0) STATUS0_VBUSOK)

/-! ## CC lines -/

/-- A measurement of both lines, and the port after it. -/
structure CcReading where
  chip : Chip
  cc1 : CcVolt
  cc2 : CcVolt

/-- One reading with the sink's pull-downs: `meas` selects the line. -/
def get_cc_sink (chip : Chip) (meas : Byte) : Chip × CcVolt :=
  let chip := regmap_update_bits chip .SWITCHES0
    (SWITCHES0_MEAS_CC1 ||| SWITCHES0_MEAS_CC2 ||| SWITCHES0_PU_EN1 ||| SWITCHES0_PU_EN2 |||
      SWITCHES0_PDWN1 ||| SWITCHES0_PDWN2)
    (SWITCHES0_PDWN1 ||| SWITCHES0_PDWN2 ||| meas)
  (status0_read chip, if bit (chip.status0 0) STATUS0_BC_LVL then .RP else .OPEN)

/-- The `while (retry--)` loop: `comp_times` counts the readings above the
high threshold, and the third one sets the result and restores SWITCHES0. -/
def get_cc_retry (store : Byte) : Nat → Nat → Chip → CcVolt → Chip × CcVolt
  | 0, _, chip, cc_measure => (chip, cc_measure)
  | retry + 1, comp_times, chip, cc_measure =>
    let chip := regmap_write chip .MEASURE chip.cc_meas_high
    let val := chip.status0 0
    let chip := status0_read chip
    if bit val STATUS0_COMP then
      if comp_times + 1 = 3 then get_cc_retry store retry (comp_times + 1) (regmap_write chip .SWITCHES0 store) .OPEN
      else get_cc_retry store retry (comp_times + 1) chip cc_measure
    else get_cc_retry store retry comp_times chip cc_measure

/-- The measurement of the source's line, with its pull-up on. -/
def get_cc_source (chip : Chip) : Chip × CcVolt :=
  let store := chip.regs .SWITCHES0
  let val := store &&& ~~~(SWITCHES0_MEAS_CC1 ||| SWITCHES0_MEAS_CC2 ||| SWITCHES0_PU_EN1 ||| SWITCHES0_PU_EN2)
  let val := if bit chip.cc_state CC_STATE_TOGSS_CC1 then val ||| (SWITCHES0_MEAS_CC1 ||| SWITCHES0_PU_EN1)
    else val ||| (SWITCHES0_MEAS_CC2 ||| SWITCHES0_PU_EN2)
  let chip := regmap_write chip .SWITCHES0 val
  let chip := regmap_write chip .MEASURE chip.cc_meas_high
  let val := chip.status0 0
  let chip := status0_read chip
  let r :=
    if bit val STATUS0_COMP then get_cc_retry store 3 0 chip .OPEN
    else
      let chip := regmap_write chip .MEASURE chip.cc_meas_low
      (status0_read chip, if bit (chip.status0 0) STATUS0_COMP then .RD else .RA)
  let chip := regmap_write r.1 .SWITCHES0 store
  (regmap_write chip .MEASURE chip.cc_meas_high, r.2)

/-- Measures both lines. -/
def tcpm_get_cc (chip : Chip) : CcReading :=
  if bit chip.cc_state CC_STATE_TOGSS_IS_UFP then
    let store := chip.regs .SWITCHES0
    let m1 := get_cc_sink chip SWITCHES0_MEAS_CC1
    let m2 := get_cc_sink m1.1 SWITCHES0_MEAS_CC2
    { chip := regmap_update_bits m2.1 .SWITCHES0 (SWITCHES0_MEAS_CC1 ||| SWITCHES0_MEAS_CC2) store
      cc1 := m1.2
      cc2 := m2.2 }
  else
    let m := get_cc_source chip
    { chip := m.1
      cc1 := if bit chip.cc_state CC_STATE_TOGSS_CC1 then m.2 else .OPEN
      cc2 := if bit chip.cc_state CC_STATE_TOGSS_CC1 then .OPEN else m.2 }

/-- Rp, Rd or nothing on the lines. -/
def tcpm_set_cc_pull_mode (chip : Chip) (mode : CcMode) : Chip :=
  let val : Byte := match mode with
    | .PULL_UP => if chip.cc_polarity = .CC1 then SWITCHES0_PU_EN1 else SWITCHES0_PU_EN2
    | .PULL_DOWN => SWITCHES0_PDWN1 ||| SWITCHES0_PDWN2
    | .PULL_NONE => 0#8
  let chip := regmap_update_bits chip .SWITCHES0
    (SWITCHES0_PU_EN1 ||| SWITCHES0_PU_EN2 ||| SWITCHES0_PDWN1 ||| SWITCHES0_PDWN2) val
  if chip.cc_meas_high ≠ 0#8 ∧ mode = .PULL_UP then regmap_write chip .MEASURE chip.cc_meas_high else chip

/-- Pulls the lines as `mode` says and toggles. -/
def tcpm_set_cc (chip : Chip) (mode : RoleMode) : Chip :=
  let toggle := fun chip => regmap_update_bits chip .CONTROL2 CONTROL2_TOGGLE CONTROL2_TOGGLE
  match mode with
  | .DFP =>
    let chip := tcpm_set_cc_pull_mode chip .PULL_UP
    toggle (regmap_update_bits chip .CONTROL2 (CONTROL2_MODE ||| CONTROL2_TOG_RD_ONLY)
      (CONTROL2_MODE_DFP ||| CONTROL2_TOG_RD_ONLY))
  | .UFP =>
    let chip := tcpm_set_cc_pull_mode chip .PULL_UP
    toggle (regmap_update_bits chip .CONTROL2 (CONTROL2_MODE ||| CONTROL2_TOG_RD_ONLY) CONTROL2_MODE_UFP)
  | .DRP =>
    let chip := tcpm_set_cc_pull_mode chip .PULL_NONE
    toggle (regmap_update_bits chip .CONTROL2 (CONTROL2_MODE ||| CONTROL2_TOG_RD_ONLY)
      (CONTROL2_MODE_DRP ||| CONTROL2_TOG_RD_ONLY))
  | _ => chip

/-- Turns the receiver on or off. -/
def tcpm_set_rx_enable (chip : Chip) (enable : Bool) : Chip :=
  if enable then
    let val := if chip.cc_polarity = .CC1 then SWITCHES0_MEAS_CC1 else SWITCHES0_MEAS_CC2
    let chip := regmap_update_bits chip .SWITCHES0 (SWITCHES0_MEAS_CC1 ||| SWITCHES0_MEAS_CC2) val
    let chip := fusb302_flush_rx_fifo chip
    regmap_update_bits chip .SWITCHES1 SWITCHES1_AUTO_CRC SWITCHES1_AUTO_CRC
  else
    let chip := regmap_update_bits chip .SWITCHES0 (SWITCHES0_MEAS_CC1 ||| SWITCHES0_MEAS_CC2) 0#8
    regmap_update_bits chip .SWITCHES1 SWITCHES1_AUTO_CRC 0#8

/-- The roles in the header of GoodCRC. -/
def tcpm_set_msg_header (chip : Chip) : Chip :=
  let power_role : Byte := if chip.notify.power_role = .SOURCE then SWITCHES1_POWERROLE else 0#8
  let data_role : Byte := if chip.notify.data_role = .DFP then SWITCHES1_DATAROLE else 0#8
  let chip := regmap_update_bits chip .SWITCHES1 (SWITCHES1_POWERROLE ||| SWITCHES1_DATAROLE) (power_role ||| data_role)
  regmap_update_bits chip .SWITCHES1 SWITCHES1_SPECREV 0x40#8

/-- Selects the line of the partner. -/
def tcpm_set_polarity (chip : Chip) (polarity : TypecCcPolarity) : Chip :=
  let val : Byte :=
    if chip.vconn_enabled then (if polarity = .CC2 then SWITCHES0_VCONN_CC1 else SWITCHES0_VCONN_CC2) else 0#8
  let val :=
    if bit chip.cc_state CC_STATE_TOGSS_IS_UFP then
      val ||| (if polarity = .CC1 then SWITCHES0_MEAS_CC1 else SWITCHES0_MEAS_CC2)
    else
      val ||| (if polarity = .CC1 then SWITCHES0_MEAS_CC1 ||| SWITCHES0_PU_EN1
        else SWITCHES0_MEAS_CC2 ||| SWITCHES0_PU_EN2)
  let chip := regmap_update_bits chip .SWITCHES0
    (SWITCHES0_VCONN_CC1 ||| SWITCHES0_VCONN_CC2 ||| SWITCHES0_MEAS_CC1 ||| SWITCHES0_MEAS_CC2 |||
      SWITCHES0_PU_EN1 ||| SWITCHES0_PU_EN2) val
  let chip := regmap_update_bits chip .SWITCHES1 (SWITCHES1_TXCC1 ||| SWITCHES1_TXCC2)
    (if polarity = .CC1 then SWITCHES1_TXCC1 else SWITCHES1_TXCC2)
  { chip with cc_polarity := polarity }

/-- Turns VCONN on, on the other line, or off. -/
def tcpm_set_vconn (chip : Chip) (enable : Bool) : Chip :=
  let val : Byte :=
    if enable then (if chip.cc_polarity = .CC1 then SWITCHES0_VCONN_CC2 else SWITCHES0_VCONN_CC1) else 0#8
  let chip := regmap_update_bits chip .SWITCHES0 (SWITCHES0_VCONN_CC1 ||| SWITCHES0_VCONN_CC2) val
  { chip with vconn_enabled := enable }

/-- The current Rp stands for. -/
def tcpm_select_rp_value (chip : Chip) (rp : TcpmRpValue) : Chip :=
  let control0_reg := chip.regs .CONTROL0 &&& ~~~CONTROL0_HOST_CUR
  let v : Byte × Byte × Byte := match rp with
    | .USB => (0x26#8, 0x05#8, control0_reg ||| CONTROL0_HOST_CUR_USB)
    | .RP_3A0 => (0x3e#8, 0x13#8, control0_reg ||| CONTROL0_HOST_CUR_3A0)
    | _ => (0x26#8, 0x0a#8, control0_reg ||| CONTROL0_HOST_CUR_1A5)
  regmap_write { chip with cc_meas_high := v.1, cc_meas_low := v.2.1 } .CONTROL0 v.2.2

/-- Resets and sets up the chip. -/
def tcpm_init (chip : Chip) : Chip :=
  let chip := platform_set_vbus_lvl_enable chip false false
  let chip := { chip with notify.is_cc_connected := false, cc_state := 0#8 }
  -- RESET_SW_RESET: the registers go back to their defaults
  let chip := { chip with regs := chip.defaults }
  let chip := fusb302_pd_reset chip
  let chip := regmap_update_bits chip .CONTROL3 (CONTROL3_AUTO_RETRY ||| CONTROL3_N_RETRIES)
    (CONTROL3_AUTO_RETRY ||| CONTROL3_N_RETRIES)
  let chip := regmap_write chip .MASK (0xff#8 &&& ~~~(MASK_M_COLLISION ||| MASK_M_ALERT ||| MASK_M_VBUSOK))
  let chip := regmap_write chip .MASKA
    (0xff#8 &&& ~~~(MASKA_M_RETRYFAIL ||| MASKA_M_HARDSENT ||| MASKA_M_TXSENT ||| MASKA_M_HARDRST ||| MASKA_M_TOGDONE))
  let chip := regmap_write chip .MASKB (~~~MASKB_M_GCRCSEND)
  let chip := tcpm_select_rp_value chip .RP_1A5
  let chip := regmap_update_bits chip .CONTROL0 CONTROL0_INT_MASK (~~~CONTROL0_INT_MASK)
  let chip := tcpm_set_vconn chip false
  regmap_write chip .POWER 0x0f#8

/-! ## Notification -/

/-- Keeps the port as it was last looked at, and clears `attention`. -/
def platform_fusb_notify (chip : Chip) : Chip :=
  let orientation : CcOrientation :=
    if chip.notify.is_cc_connected then (if chip.cc_polarity = .CC1 then .CC1 else .CC2) else chip.notify.orientation
  let chip := { chip with notify.orientation := orientation }
  let repeated := decide (chip.notify = chip.notify_cmp)
  { chip with
    notify.attention := if repeated then chip.notify.attention else false
    notify_cmp := if repeated then chip.notify_cmp else { chip.notify with attention := false } }

end Fusb302
