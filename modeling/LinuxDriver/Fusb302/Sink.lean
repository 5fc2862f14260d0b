import LinuxDriver.Fusb302.Source
/-!
# The sink's policy states
-/

namespace Fusb302

/-! ## Choosing a supply -/

/-- The pair of tests `fusb_set_pos_power` makes for one object, and the values it keeps. -/
def fits (max_vol max_cur : Int) (pdo : BitVec 32) : Option (BitVec 32 × BitVec 32) :=
  let keep := fun vol cur : BitVec 32 =>
    if ((vol * 50#32).toNat : Int) ≤ max_vol ∧ ((cur * 10#32).toNat : Int) ≤ max_cur then
      some (vol * 50#32, cur * 10#32) else none
  match CAP_POWER_TYPE pdo with
  | 0 => keep (CAP_FPDO_VOLTAGE pdo) (CAP_FPDO_CURRENT pdo)
  | 1 => keep (CAP_VPDO_VOLTAGE pdo) (CAP_VPDO_CURRENT pdo)
  | _ => none

/-- The loop of `fusb_set_pos_power`, from object `i - 1` downwards. -/
def set_pos_power_from (chip : Chip) (max_vol max_cur : Int) : Nat → Chip
  | 0 => chip
  | i + 1 =>
    match fits max_vol max_cur (chip.rec_obj i) with
    | some (vol, cur) => { chip with pos_power := i + 1, pd_output_vol := vol, pd_output_cur := cur }
    | none => set_pos_power_from chip max_vol max_cur i

/-- The last capability within both limits. -/
def fusb_set_pos_power (chip : Chip) (max_vol max_cur : Int) : Chip :=
  set_pos_power_from chip max_vol max_cur (PD_HEADER_CNT chip.rec_head)

/-- The limits the charger reports, in the units of the source; 0 when it does not. -/
def charge_limits (charge_dev : Option Int × Option Int) : Int × Int :=
  ((charge_dev.1.map (Int.tdiv · 1000)).getD 0, (charge_dev.2.map (Int.tdiv · 1000)).getD 0)

/-- The choice by the limits of the charger, where there is one. -/
def fusb302_set_pos_power_by_charge_ic (chip : Chip) : Chip :=
  match chip.charge_dev with
  | none => chip
  | some dev =>
    let max_vol := (charge_limits dev).1
    let max_cur := (charge_limits dev).2
    if max_vol > 0 ∧ max_cur > 0 then fusb_set_pos_power chip max_vol max_cur else chip

/-- An object of at most 5 V, as the loop of `fusb_state_snk_evaluate_caps` tests it. -/
def is_5v (pdo : BitVec 32) : Bool :=
  match CAP_POWER_TYPE pdo with
  | 0 => CAP_FPDO_VOLTAGE pdo ≤ 100#32
  | 1 => CAP_VPDO_VOLTAGE pdo ≤ 100#32
  | _ => false

/-- The first loop of `fusb_state_snk_evaluate_caps`: the last object of at most 5 V. -/
def pos_power_5v (chip : Chip) : Nat → Nat
  | 0 => 0
  | tmp + 1 => if is_5v (chip.rec_obj tmp) then tmp + 1 else pos_power_5v chip tmp

/-! ## The states -/

/-- A sink starts or starts over. -/
def fusb_state_snk_startup (chip : Chip) : Chip :=
  let chip := { chip with notify.is_pd_connected := false }
  let chip := fusb_soft_reset_parameter chip
  let chip := { chip with partner_cap := fun _ => 0#32 }
  let chip := tcpm_set_msg_header chip
  let chip := tcpm_set_polarity chip chip.cc_polarity
  let chip := tcpm_set_rx_enable chip true
  let chip := set_state chip .policy_snk_discovery
  platform_fusb_notify chip

/-- Waits for the capabilities of the source from here on. -/
def fusb_state_snk_discovery (chip : Chip) : Chip :=
  timer_state_start (set_state chip .policy_snk_wait_caps) T_TYPEC_SINK_WAIT_CAP

/-- The end of the waiting states' patience. -/
def give_up (chip : Chip) : Chip :=
  if chip.is_pd_support then set_state chip .error_recovery else set_state chip .disabled

/-- Capabilities, or a hard reset when none come. -/
def fusb_state_snk_wait_caps (chip : Chip) (evt : Evt) : Chip :=
  if evt.rx then
    if PACKET_IS_DATA_MSG chip.rec_head DMT_SOURCECAPABILITIES then
      set_state { chip with is_pd_support := true, timer_mux := T_DISABLED } .policy_snk_evaluate_caps
    else chip
  else if evt.timer_state then
    if chip.hardrst_count ≤ N_HARDRESET_COUNT then
      if chip.vbus_begin then set_state { chip with vbus_begin := false } .policy_snk_send_softrst
      else set_state chip .policy_snk_send_hardrst
    else give_up chip
  else if evt.timer_mux && decide (chip.hardrst_count > N_HARDRESET_COUNT) then give_up chip
  else chip

/-- Chooses what to ask for. -/
def fusb_state_snk_evaluate_caps (chip : Chip) : Chip :=
  let chip := { chip with hardrst_count := 0 }
  let chip := { chip with pos_power := pos_power_5v chip (PD_HEADER_CNT chip.rec_head) }
  let chip := fusb302_set_pos_power_by_charge_ic chip
  if chip.pos_power = 0 ∨ chip.pos_power > 7 then set_state { chip with pos_power := 0 } .policy_snk_wait_caps
  else set_state chip .policy_snk_select_cap

/-- The answer to the REQUEST. -/
def fusb_state_snk_select_cap.case_default (chip : Chip) (evt : Evt) : Chip :=
  if evt.rx then
    if PD_HEADER_CNT chip.rec_head = 0 then
      if PD_HEADER_TYPE chip.rec_head = CMT_ACCEPT then
        timer_state_start (set_state chip .policy_snk_transition_sink) T_PS_TRANSITION
      else if PD_HEADER_TYPE chip.rec_head = CMT_WAIT ∨ PD_HEADER_TYPE chip.rec_head = CMT_REJECT then
        if chip.notify.is_pd_connected then set_state chip .policy_snk_ready
        else { set_state chip .policy_snk_wait_caps with hardrst_count := N_HARDRESET_COUNT + 1 }
      else chip
    else chip
  else if evt.timer_state then set_state chip .policy_snk_send_hardrst
  else chip

/-- The REQUEST is on its way. -/
def fusb_state_snk_select_cap.case_1 (chip : Chip) (evt : Evt) : Chip :=
  let chip := policy_send_data chip
  match chip.tx_state with
  | .tx_failed => set_state chip .policy_snk_discovery
  | .tx_success =>
    let chip := { timer_state_start chip T_SENDER_RESPONSE with sub_state := chip.sub_state + 1 }
    if !evt.flag_event then chip else fusb_state_snk_select_cap.case_default chip evt
  | _ => if !evt.flag_event then chip else fusb_state_snk_select_cap.case_default chip evt

/-- Asks for the chosen capability. -/
def fusb_state_snk_select_cap (chip : Chip) (evt : Evt) : Chip :=
  match chip.sub_state with
  | 0 => fusb_state_snk_select_cap.case_1 (build_mesg chip DMT_REQUEST true) evt
  | 1 => fusb_state_snk_select_cap.case_1 chip evt
  | _ => fusb_state_snk_select_cap.case_default chip evt

/-- Waits for the supply to be ready. -/
def fusb_state_snk_transition_sink (chip : Chip) (evt : Evt) : Chip :=
  if evt.rx then
    if PACKET_IS_CONTROL_MSG chip.rec_head CMT_PS_RDY then
      set_state { chip with notify.is_pd_connected := true } .policy_snk_ready
    else if PACKET_IS_DATA_MSG chip.rec_head DMT_SOURCECAPABILITIES then set_state chip .policy_snk_evaluate_caps
    else chip
  else if evt.timer_state then set_state chip .policy_snk_send_hardrst
  else chip

/-- Waits for VBUS to go. -/
def fusb_state_snk_transition_default.case_1 (chip : Chip) (evt : Evt) : Chip :=
  let v := tcpm_check_vbus chip
  if !v.2 then
    { timer_state_start v.1 (T_SRC_RECOVER_MAX + T_SRC_TURN_ON) with sub_state := chip.sub_state + 1 }
  else if evt.timer_state then set_state v.1 .policy_snk_startup
  else v.1

/-- A sink after a hard reset. -/
def fusb_state_snk_transition_default (chip : Chip) (evt : Evt) : Chip :=
  match chip.sub_state with
  | 0 =>
    let chip := { chip with notify.is_pd_connected := false }
    let chip := timer_mux_start chip T_NO_RESPONSE
    let chip := timer_state_start chip (T_PS_HARD_RESET_MAX + T_SAFE_0V)
    let chip := if chip.notify.data_role = .DFP then tcpm_set_msg_header chip else chip
    fusb_state_snk_transition_default.case_1 { chip with sub_state := 1 } evt
  | 1 => fusb_state_snk_transition_default.case_1 chip evt
  | _ =>
    let v := tcpm_check_vbus chip
    if v.2 then set_state { v.1 with timer_state := T_DISABLED } .policy_snk_startup
    else if evt.timer_state then set_state v.1 .policy_snk_startup
    else v.1

/-- A sink with a contract. -/
def fusb_state_snk_ready (chip : Chip) (evt : Evt) : Chip :=
  let chip := ready_rx chip evt
  let chip := if VDM_IS_ACTIVE chip then auto_vdm_machine chip evt else chip
  let chip := fusb_state_swap_msg_process chip evt
  platform_fusb_notify chip

/-- A sink sends a hard reset. -/
def fusb_state_snk_send_hardreset (chip : Chip) (evt : Evt) : Chip :=
  send_hardreset chip evt .policy_snk_transition_default

/-- A soft reset done, the sink waits for capabilities again. -/
def snk_soft_reset_done (chip : Chip) : Chip :=
  set_state (timer_state_start (fusb_soft_reset_parameter chip) T_TYPEC_SINK_WAIT_CAP) .policy_snk_wait_caps

/-- A sink accepts a soft reset. -/
def fusb_state_snk_softreset (chip : Chip) : Chip :=
  softreset chip snk_soft_reset_done .policy_snk_send_hardrst

/-- A sink sends a soft reset. -/
def fusb_state_snk_send_softreset (chip : Chip) (evt : Evt) : Chip :=
  send_softreset chip evt snk_soft_reset_done .policy_snk_send_hardrst

end Fusb302
