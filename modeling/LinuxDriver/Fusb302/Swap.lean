import LinuxDriver.Fusb302.Sink
/-!
# Power role, VCONN and data role swaps
-/

namespace Fusb302

/-- `(chip->notify.power_role) ? src : snk`. -/
def by_power_role (chip : Chip) (src snk : ConnState) : ConnState :=
  if chip.notify.power_role = .SOURCE then src else snk

/-- `(chip->notify.data_role) ? dfp : ufp`. -/
def by_data_role (chip : Chip) (dfp ufp : ConnState) : ConnState :=
  if chip.notify.data_role = .DFP then dfp else ufp

/-- Sends one message and goes on by its outcome. -/
def fusb_state_send_simple_msg (chip : Chip) (cmd : Nat) (is_DMT : Bool) (state_success state_failed : ConnState) :
    Chip :=
  let case_1 := fun chip =>
    send_then chip (fun chip => set_state chip state_success) (fun chip => set_state chip state_failed)
  match chip.sub_state with
  | 0 => case_1 (build_mesg chip cmd is_DMT)
  | 1 => case_1 chip
  | _ => chip

/-! ## Power role swap -/

/-- A power-role swap was asked for. -/
def fusb_state_prs_evaluate (chip : Chip) : Chip :=
  if chip.role = .DRP then set_state chip .policy_src_prs_accept else set_state chip .policy_src_prs_reject

/-- And refused. -/
def fusb_state_prs_reject (chip : Chip) : Chip :=
  fusb_state_send_simple_msg chip CMT_REJECT false (by_power_role chip .policy_src_ready .policy_snk_ready)
    (by_power_role chip .policy_src_send_softrst .policy_snk_send_softrst)

/-- And accepted. -/
def fusb_state_prs_accept (chip : Chip) : Chip :=
  fusb_state_send_simple_msg chip CMT_ACCEPT false
    (by_power_role chip .policy_src_prs_transition_to_off .policy_snk_prs_transition_to_off)
    (by_power_role chip .policy_src_send_softrst .policy_snk_send_softrst)

/-- The old source turns VBUS off. -/
def fusb_state_src_prs_transition_to_off (chip : Chip) (evt : Evt) : Chip :=
  match chip.sub_state with
  | 0 => { timer_state_start chip T_SRC_TRANSITION with sub_state := 1 }
  | 1 =>
    if evt.timer_state then
      let chip := platform_set_vbus_lvl_enable chip false false
      let chip := tcpm_set_msg_header { chip with notify.power_role := .SINK }
      if chip.role = .DRP then set_state chip .policy_src_prs_assert_rd
      else set_state chip .policy_src_prs_source_off
    else chip
  | _ => chip

/-- The old source shows Rd. -/
def fusb_state_src_prs_assert_rd (chip : Chip) : Chip :=
  set_state (tcpm_set_cc_pull_mode chip .PULL_DOWN) .policy_src_prs_source_off

/-- Restores the source role after a failed swap. -/
def src_prs_failed (chip : Chip) : Chip :=
  set_state (tcpm_set_msg_header { chip with notify.power_role := .SOURCE }) .policy_src_send_hardrst

/-- PS_RDY is on its way. -/
def fusb_state_src_prs_source_off.case_1 (chip : Chip) : Chip :=
  send_then chip
    (fun chip => { timer_state_start chip T_PD_SOURCE_ON with sub_state := chip.sub_state + 1 })
    src_prs_failed

/-- The old source waits for the new one. -/
def fusb_state_src_prs_source_off (chip : Chip) (evt : Evt) : Chip :=
  match chip.sub_state with
  -- `case 1` ends in `break`: its sub_state is never 3
  | 0 => fusb_state_src_prs_source_off.case_1 (build_mesg chip CMT_PS_RDY false)
  | 1 => fusb_state_src_prs_source_off.case_1 chip
  | 2 =>
    if evt.rx then
      if PACKET_IS_CONTROL_MSG chip.rec_head CMT_PS_RDY then
        let chip := { chip with timer_state := T_DISABLED, notify.is_pd_connected := false }
        let chip := { chip with cc_state := chip.cc_state ||| CC_STATE_TOGSS_IS_UFP }
        let chip := tcpm_set_polarity chip chip.cc_polarity
        let chip := tcpm_set_rx_enable chip true
        set_state chip .policy_snk_discovery
      else chip
    else if evt.timer_state then src_prs_failed chip
    else chip
  | _ => chip

/-- Restores the sink role after a failed swap. -/
def snk_prs_failed (chip : Chip) : Chip :=
  set_state (tcpm_set_msg_header { chip with notify.power_role := .SINK }) .policy_snk_send_hardrst

/-- PS_RDY, or the swap fails. -/
def fusb_state_snk_prs_transition_to_off.case_1 (chip : Chip) (evt : Evt) : Chip :=
  if evt.rx then
    if PACKET_IS_CONTROL_MSG chip.rec_head CMT_PS_RDY then
      if chip.role = .DRP then set_state chip .policy_snk_prs_assert_rp
      else set_state chip .policy_snk_prs_source_on
    else chip
  else if evt.timer_state then snk_prs_failed chip
  else chip

/-- The old sink waits for VBUS to go. -/
def fusb_state_snk_prs_transition_to_off (chip : Chip) (evt : Evt) : Chip :=
  match chip.sub_state with
  | 0 =>
    fusb_state_snk_prs_transition_to_off.case_1 { timer_state_start chip T_PD_SOURCE_OFF with sub_state := 1 } evt
  | 1 => fusb_state_snk_prs_transition_to_off.case_1 chip evt
  | _ => chip

/-- The old sink shows Rp. -/
def fusb_state_snk_prs_assert_rp (chip : Chip) : Chip :=
  set_state (tcpm_set_cc_pull_mode chip .PULL_UP) .policy_snk_prs_source_on

/-- PS_RDY is on its way. -/
def fusb_state_snk_prs_source_on.case_2 (chip : Chip) : Chip :=
  send_then chip
    (fun chip => { timer_state_start chip T_PD_SWAP_SOURCE_START with sub_state := chip.sub_state + 1 })
    snk_prs_failed

/-- The old sink turns VBUS on. -/
def fusb_state_snk_prs_source_on (chip : Chip) (evt : Evt) : Chip :=
  match chip.sub_state with
  | 0 =>
    let chip := platform_set_vbus_lvl_enable chip true false
    { chip with sub_state := 1, work_continue := true }
  | 1 =>
    fusb_state_snk_prs_source_on.case_2 { set_mesg chip CMT_PS_RDY false with tx_state := .tx_idle, sub_state := 2 }
  | 2 => fusb_state_snk_prs_source_on.case_2 chip
  | 3 =>
    if evt.timer_state then
      let chip := { chip with cc_state := chip.cc_state &&& ~~~CC_STATE_TOGSS_IS_UFP }
      set_state (regmap_update_bits chip .MASK MASK_M_COMP_CHNG 0#8) .policy_src_send_caps
    else chip
  | _ => chip

/-! ## A swap of our own -/

/-- The swap is on its way. -/
def fusb_state_send_swap.case_1 (chip : Chip) (cmd : Nat) : Chip :=
  send_then chip
    (fun chip => { timer_state_start chip T_SENDER_RESPONSE with sub_state := chip.sub_state + 1 })
    (fun chip =>
      if cmd = CMT_DR_SWAP then set_state chip .error_recovery
      else set_state chip (by_power_role chip .policy_src_send_softrst .policy_snk_send_softrst))

/-- Where an accepted swap goes on. -/
def fusb_state_send_swap.accepted (chip : Chip) (cmd : Nat) : Chip :=
  let chip := { chip with timer_state := T_DISABLED }
  if cmd = CMT_VCONN_SWAP then
    set_state chip
      (if chip.vconn_enabled then .policy_vcs_dfp_wait_for_ufp_vconn else .policy_vcs_dfp_turn_on_vconn)
  else if cmd = CMT_PR_SWAP then
    let chip := set_state chip
      (by_power_role chip .policy_src_prs_transition_to_off .policy_snk_prs_transition_to_off)
    tcpm_set_msg_header { chip with notify.power_role := .SOURCE }
  else if cmd = CMT_DR_SWAP then set_state chip (by_data_role chip .policy_drs_dfp_change .policy_drs_ufp_change)
  else chip

/-- Asks for a swap. -/
def fusb_state_send_swap (chip : Chip) (evt : Evt) (cmd : Nat) : Chip :=
  match chip.sub_state with
  | 0 => fusb_state_send_swap.case_1 (build_mesg chip cmd false) cmd
  | 1 => fusb_state_send_swap.case_1 chip cmd
  | 2 =>
    if evt.rx then
      if PACKET_IS_CONTROL_MSG chip.rec_head CMT_ACCEPT then fusb_state_send_swap.accepted chip cmd
      else if PACKET_IS_CONTROL_MSG chip.rec_head CMT_REJECT || PACKET_IS_CONTROL_MSG chip.rec_head CMT_WAIT then
        let chip := { chip with timer_state := T_DISABLED }
        set_state chip (by_power_role chip .policy_src_ready .policy_snk_ready)
      else chip
    else if evt.timer_state then set_state chip (by_power_role chip .policy_src_ready .policy_snk_ready)
    else chip
  | _ => chip

/-! ## VCONN swap -/

/-- A VCONN swap was asked for. -/
def fusb_state_vcs_ufp_evaluate_swap (chip : Chip) : Chip :=
  if chip.vconn_supported then set_state chip .policy_vcs_ufp_accept else set_state chip .policy_vcs_ufp_reject

/-- And accepted. -/
def fusb_state_vcs_ufp_accept (chip : Chip) : Chip :=
  fusb_state_send_simple_msg chip CMT_ACCEPT false
    (if chip.vconn_enabled then .policy_vcs_ufp_wait_for_dfp_vconn else .policy_vcs_ufp_turn_on_vconn)
    (by_power_role chip .policy_src_send_softrst .policy_snk_send_softrst)

/-- Turns VCONN on or off. -/
def fusb_state_vcs_set_vconn (chip : Chip) (on : Bool) : Chip :=
  if on then
    let chip := tcpm_set_vconn chip true
    set_state chip (by_data_role chip .policy_vcs_dfp_send_ps_rdy .policy_vcs_ufp_send_ps_rdy)
  else
    let chip := tcpm_set_vconn chip false
    set_state chip (by_power_role chip .policy_src_ready .policy_snk_ready)

/-- Reports VCONN. -/
def fusb_state_vcs_send_ps_rdy (chip : Chip) : Chip :=
  fusb_state_send_simple_msg chip CMT_PS_RDY false (by_power_role chip .policy_src_ready .policy_snk_ready)
    (by_power_role chip .policy_src_send_softrst .policy_snk_send_softrst)

/-- PS_RDY, or a hard reset. -/
def fusb_state_vcs_wait_for_vconn.case_1 (chip : Chip) (evt : Evt) : Chip :=
  if evt.rx then
    if PACKET_IS_CONTROL_MSG chip.rec_head CMT_PS_RDY then
      set_state chip (by_data_role chip .policy_vcs_dfp_turn_off_vconn .policy_vcs_ufp_turn_off_vconn)
    else chip
  else if evt.timer_state then
    set_state chip (by_power_role chip .policy_src_send_hardrst .policy_snk_send_hardrst)
  else chip

/-- Waits for the VCONN of the partner. -/
def fusb_state_vcs_wait_for_vconn (chip : Chip) (evt : Evt) : Chip :=
  match chip.sub_state with
  | 0 => fusb_state_vcs_wait_for_vconn.case_1 { timer_state_start chip T_PD_VCONN_SRC_ON with sub_state := 1 } evt
  | 1 => fusb_state_vcs_wait_for_vconn.case_1 chip evt
  | _ => chip

/-! ## Data role swap -/

/-- A data-role swap was asked for. -/
def fusb_state_drs_evaluate (chip : Chip) : Chip :=
  if chip.pd_cap_info.data_role_swap ≠ 0#32 then
    set_state chip (by_data_role chip .policy_drs_dfp_reject .policy_drs_ufp_accept)
  else set_state chip (by_data_role chip .policy_drs_dfp_reject .policy_drs_ufp_reject)

/-- And accepted. -/
def fusb_state_drs_send_accept (chip : Chip) : Chip :=
  fusb_state_send_simple_msg chip CMT_ACCEPT false (by_power_role chip .policy_drs_dfp_change .policy_drs_ufp_change)
    .error_recovery

/-- The other data role. -/
def fusb_state_drs_role_change (chip : Chip) : Chip :=
  let chip := { chip with notify.data_role := if chip.notify.data_role = .DFP then .UFP else .DFP }
  let chip := tcpm_set_msg_header chip
  set_state chip (by_power_role chip .policy_src_ready .policy_snk_ready)

end Fusb302
