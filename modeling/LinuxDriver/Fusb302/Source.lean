import LinuxDriver.Fusb302.Vdm
/-!
# The source's policy states
-/

namespace Fusb302

/-- A source starts or starts over. -/
def fusb_state_src_startup (chip : Chip) : Chip :=
  let chip := { chip with notify.is_pd_connected := false }
  let chip := fusb_soft_reset_parameter chip
  let chip := { chip with partner_cap := fun _ => 0#32 }
  let chip := tcpm_set_msg_header chip
  let chip := tcpm_set_polarity chip chip.cc_polarity
  let chip := tcpm_set_rx_enable chip true
  let chip := set_state chip .policy_src_send_caps
  platform_fusb_notify chip

/-- Offers its capabilities, so many times. -/
def fusb_state_src_discovery (chip : Chip) (evt : Evt) : Chip :=
  match chip.sub_state with
  | 0 =>
    let chip := { chip with caps_counter := chip.caps_counter + 1 }
    if chip.caps_counter < N_CAPS_COUNT then { timer_state_start chip T_TYPEC_SEND_SOURCECAP with sub_state := 1 }
    else set_state chip .disabled
  | _ =>
    if evt.timer_state then set_state chip .policy_src_send_caps
    else if evt.timer_mux then
      if !chip.is_pd_support then set_state chip .disabled
      else if chip.hardrst_count > N_HARDRESET_COUNT then set_state chip .error_recovery
      else set_state chip .policy_src_send_hardrst
    else chip

/-- The answer to the capabilities. -/
def fusb_state_src_send_caps.case_default (chip : Chip) (evt : Evt) : Chip :=
  if evt.rx then
    if PACKET_IS_DATA_MSG chip.rec_head DMT_REQUEST then set_state chip .policy_src_negotiate_cap
    else set_state chip .policy_src_send_softrst
  else if evt.timer_state then
    if chip.hardrst_count ≤ N_HARDRESET_COUNT then set_state chip .policy_src_send_hardrst
    else set_state chip .disabled
  else if evt.timer_mux then
    if !chip.is_pd_support then set_state chip .disabled
    else if chip.hardrst_count > N_HARDRESET_COUNT then set_state chip .error_recovery
    else set_state chip .policy_src_send_hardrst
  else chip

/-- The capabilities are on their way. -/
def fusb_state_src_send_caps.case_1 (chip : Chip) (evt : Evt) : Chip :=
  let chip := policy_send_data chip
  match chip.tx_state with
  | .tx_failed => set_state chip .policy_src_discovery
  | .tx_success =>
    let chip := timer_state_start { chip with hardrst_count := 0, caps_counter := 0 } T_SENDER_RESPONSE
    let chip := { chip with timer_mux := T_DISABLED, sub_state := chip.sub_state + 1, is_pd_support := true }
    if !evt.flag_event then chip else fusb_state_src_send_caps.case_default chip evt
  | _ => if !evt.flag_event then chip else fusb_state_src_send_caps.case_default chip evt

/-- Sends its capabilities. -/
def fusb_state_src_send_caps (chip : Chip) (evt : Evt) : Chip :=
  match chip.sub_state with
  | 0 => fusb_state_src_send_caps.case_1 (build_mesg chip DMT_SOURCECAPABILITIES true) evt
  | 1 => fusb_state_src_send_caps.case_1 chip evt
  | _ => fusb_state_src_send_caps.case_default chip evt

/-- The position a REQUEST asks for. -/
def request_pos (chip : Chip) : Nat := ((chip.rec_obj 0 >>> 28) &&& 7#32).toNat

/-- Compares what is asked for with what was offered. -/
def fusb_state_src_negotiate_cap (chip : Chip) : Chip :=
  let tmp := request_pos chip
  let chip := chip.emit (.asked tmp chip.n_caps_used)
  if tmp > chip.n_caps_used then set_state chip .policy_src_cap_response
  else set_state chip .policy_src_transition_supply

/-- ACCEPT is on its way. -/
def fusb_state_src_transition_supply.case_1 (chip : Chip) : Chip :=
  send_then chip
    (fun chip => { timer_state_start chip T_SRC_TRANSITION with sub_state := chip.sub_state + 1 })
    (fun chip => set_state chip .policy_src_send_softrst)

/-- Accepts, waits and reports the supply. -/
def fusb_state_src_transition_supply (chip : Chip) (evt : Evt) : Chip :=
  match chip.sub_state with
  | 0 => fusb_state_src_transition_supply.case_1 (build_mesg chip CMT_ACCEPT false)
  | 1 => fusb_state_src_transition_supply.case_1 chip
  | 2 =>
    if evt.timer_state then
      let chip := { chip with notify.is_pd_connected := true }
      let chip := platform_set_vbus_lvl_enable chip true false
      let chip := set_mesg chip CMT_PS_RDY false
      { chip with tx_state := .tx_idle, sub_state := 3, work_continue := true }
    else chip
  | _ =>
    send_then chip (fun chip => set_state chip .policy_src_ready) (fun chip => set_state chip .policy_src_send_softrst)

/-- REJECT is on its way. -/
def fusb_state_src_cap_response.case_default (chip : Chip) : Chip :=
  send_then chip
    (fun chip =>
      if chip.notify.is_pd_connected then set_state chip .policy_src_ready
      else set_state chip .policy_src_send_hardrst)
    (fun chip => set_state chip .policy_src_send_softrst)

/-- Rejects. -/
def fusb_state_src_cap_response (chip : Chip) : Chip :=
  match chip.sub_state with
  | 0 => fusb_state_src_cap_response.case_default (build_mesg chip CMT_REJECT false)
  | _ => fusb_state_src_cap_response.case_default chip

/-- A source after a hard reset. -/
def fusb_state_src_transition_default (chip : Chip) (evt : Evt) : Chip :=
  match chip.sub_state with
  | 0 =>
    let chip := { chip with notify.is_pd_connected := false }
    let chip := platform_set_vbus_lvl_enable chip false false
    let chip := regmap_update_bits chip .SWITCHES1 SWITCHES1_DATAROLE
      (if chip.notify.data_role = .DFP then SWITCHES1_DATAROLE else 0#8)
    { timer_state_start chip T_SRC_RECOVER with sub_state := 1 }
  | _ =>
    if evt.timer_state then
      let chip := platform_set_vbus_lvl_enable chip true false
      let chip := timer_mux_start chip T_NO_RESPONSE
      set_state chip .policy_src_startup
    else chip

/-- The swaps a partner can ask for. -/
def fusb_state_swap_msg_process (chip : Chip) (evt : Evt) : Chip :=
  if evt.rx then
    if PACKET_IS_CONTROL_MSG chip.rec_head CMT_PR_SWAP then set_state chip .policy_src_prs_evaluate
    else if PACKET_IS_CONTROL_MSG chip.rec_head CMT_VCONN_SWAP then
      if chip.notify.data_role = .DFP then set_state chip chip.conn_state
      else set_state chip .policy_vcs_ufp_evaluate_swap
    else if PACKET_IS_CONTROL_MSG chip.rec_head CMT_DR_SWAP then
      if chip.notify.data_role = .DFP then set_state chip .policy_drs_dfp_evaluate
      else set_state chip .policy_drs_ufp_evaluate
    else chip
  else chip

/-- The first test of both ready states: a VDM is processed, another message
may start a swap. -/
def ready_rx (chip : Chip) (evt : Evt) : Chip :=
  if evt.rx then
    if PACKET_IS_DATA_MSG chip.rec_head DMT_VENDERDEFINED then
      { process_vdm_msg chip with work_continue := true, timer_state := T_DISABLED }
    else if !VDM_IS_ACTIVE chip then fusb_state_swap_msg_process chip evt
    else chip
  else chip

/-- A source with a contract. -/
def fusb_state_src_ready (chip : Chip) (evt : Evt) : Chip :=
  let chip := ready_rx chip evt
  if chip.partner_cap 0 = 0#32 then set_state chip .policy_src_get_sink_caps
  else if VDM_IS_ACTIVE chip then auto_vdm_machine chip evt
  else chip

/-- The answer of the sink. -/
def fusb_state_src_get_sink_cap.case_default (chip : Chip) (evt : Evt) : Chip :=
  if evt.rx then
    if PACKET_IS_DATA_MSG chip.rec_head DMT_SINKCAPABILITIES then
      set_state { chip with
        partner_cap := fun i =>
          if i.val < PD_HEADER_CNT chip.rec_head then chip.rec_load i else chip.partner_cap i } .policy_src_ready
    else
      set_state { chip with
        partner_cap := fun i => if i = 0 then 0xffffffff#32 else chip.partner_cap i } .policy_src_ready
  else if evt.timer_state then
    set_state { chip with
      partner_cap := fun i => if i = 0 then 0xffffffff#32 else chip.partner_cap i } .policy_src_ready
  else chip

/-- `case 1` of the states that send and then wait for an answer: on success
the answer's timer is started. -/
def send_and_wait (chip : Chip) (failed : ConnState) : Chip :=
  send_then chip
    (fun chip => { timer_state_start chip T_SENDER_RESPONSE with sub_state := chip.sub_state + 1 })
    (fun chip => set_state chip failed)

/-- GET_SINK_CAP is on its way. -/
def fusb_state_src_get_sink_cap.case_1 (chip : Chip) (evt : Evt) : Chip :=
  let chip := send_and_wait chip .policy_src_send_softrst
  if !evt.flag_event then chip else fusb_state_src_get_sink_cap.case_default chip evt

/-- Asks what the sink needs. -/
def fusb_state_src_get_sink_cap (chip : Chip) (evt : Evt) : Chip :=
  match chip.sub_state with
  | 0 => fusb_state_src_get_sink_cap.case_1 (build_mesg chip CMT_GETSINKCAP false) evt
  | 1 => fusb_state_src_get_sink_cap.case_1 chip evt
  | _ => fusb_state_src_get_sink_cap.case_default chip evt

/-- `default:` of the two hard reset states. -/
def send_hardreset.case_default (chip : Chip) (evt : Evt) (next : ConnState) : Chip :=
  let chip := policy_send_hardrst chip evt
  match chip.tx_state with
  | .tx_success => set_state { chip with hardrst_count := chip.hardrst_count + 1 } next
  | .tx_failed => set_state chip .error_recovery
  | _ => chip

/-- What both roles do for a hard reset. -/
def send_hardreset (chip : Chip) (evt : Evt) (next : ConnState) : Chip :=
  match chip.sub_state with
  | 0 => send_hardreset.case_default { chip with tx_state := .tx_idle, sub_state := 1 } evt next
  | _ => send_hardreset.case_default chip evt next

/-- A source sends a hard reset. -/
def fusb_state_src_send_hardreset (chip : Chip) (evt : Evt) : Chip :=
  send_hardreset chip evt .policy_src_transition_default

/-- The two states that answer a soft reset: ACCEPT, then `success`. -/
def softreset (chip : Chip) (success : Chip → Chip) (failed : ConnState) : Chip :=
  match chip.sub_state with
  | 0 => send_then (build_mesg chip CMT_ACCEPT false) success (fun chip => set_state chip failed)
  | _ => send_then chip success (fun chip => set_state chip failed)

/-- A source accepts a soft reset. -/
def fusb_state_src_softreset (chip : Chip) : Chip :=
  softreset chip (fun chip => set_state (fusb_soft_reset_parameter chip) .policy_src_send_caps) .policy_src_send_hardrst

/-- `default:` of the two states that send a soft reset. -/
def send_softreset.case_default (chip : Chip) (evt : Evt) (accepted : Chip → Chip) (failed : ConnState) : Chip :=
  if evt.rx then
    if PACKET_IS_CONTROL_MSG chip.rec_head CMT_ACCEPT then accepted chip else chip
  else if evt.timer_state then set_state chip failed
  else chip

/-- SOFT_RESET is on its way. -/
def send_softreset.case_1 (chip : Chip) (evt : Evt) (accepted : Chip → Chip) (failed : ConnState) : Chip :=
  let chip := send_and_wait chip failed
  if !evt.flag_event then chip else send_softreset.case_default chip evt accepted failed

/-- What both roles do for a soft reset. -/
def send_softreset (chip : Chip) (evt : Evt) (accepted : Chip → Chip) (failed : ConnState) : Chip :=
  match chip.sub_state with
  | 0 => send_softreset.case_1 (build_mesg chip CMT_SOFTRESET false) evt accepted failed
  | 1 => send_softreset.case_1 chip evt accepted failed
  | _ => send_softreset.case_default chip evt accepted failed

/-- A source sends a soft reset. -/
def fusb_state_src_send_softreset (chip : Chip) (evt : Evt) : Chip :=
  send_softreset chip evt (fun chip => set_state (fusb_soft_reset_parameter chip) .policy_src_send_caps)
    .policy_src_send_hardrst

end Fusb302
