import LinuxDriver.Fusb302.Message
/-!
# Attachment

The handlers of the states before a power role is settled, and the detach test.
-/

namespace Fusb302

/-- The pin that the toggle logic has found. -/
def cc_state_polarity (chip : Chip) : TypecCcPolarity :=
  if bit chip.cc_state CC_STATE_TOGSS_CC1 then .CC1 else .CC2

/-- The common end of `fusb_state_unattached` and `fusb_state_try_attach`: the
first measurement, and the first debounce period. -/
def start_debounce (chip : Chip) : Chip :=
  let chip := tcpm_set_polarity chip (cc_state_polarity chip)
  let m := tcpm_get_cc chip
  timer_mux_start { m.chip with cc1 := m.cc1, cc2 := m.cc2, debounce_cnt := 0 } 2

/-- The toggle logic has found something, or goes on. -/
def fusb_state_unattached (chip : Chip) (evt : Evt) : Chip :=
  let chip := { chip with notify.is_cc_connected := false, is_pd_support := false }
  if evt.cc && chip.cc_state != 0#8 then
    let chip := if bit chip.cc_state CC_STATE_TOGSS_IS_UFP then set_state chip .attach_wait_sink
      else set_state chip .attach_wait_source
    let v := tcpm_check_vbus chip
    start_debounce { v.1 with vbus_begin := v.2 }
  else chip

/-- The port is set up to try one role. -/
def fusb_state_try_attach_set (chip : Chip) (mode : RoleMode) : Chip :=
  if mode = .NONE ∨ mode = .DRP ∨ mode = .ASS then chip
  else
    let chip := tcpm_init chip
    let chip := tcpm_set_cc chip (if mode = .DFP then .DFP else .UFP)
    let chip := timer_mux_start chip T_PD_TRY_DRP
    set_state chip (if mode = .DFP then .attach_try_src else .attach_try_snk)

/-- A debounce reading: equal to the last one it counts, else it starts over. -/
def debounce (chip : Chip) : Chip :=
  let m := tcpm_get_cc chip
  if chip.cc1 = m.cc1 ∧ chip.cc2 = m.cc2 then { m.chip with debounce_cnt := (chip.debounce_cnt + 1) % 256 }
  else { m.chip with cc1 := m.cc1, cc2 := m.cc2, debounce_cnt := 0 }

/-- `fusb_state_attach_wait_sink` after its VBUS test. -/
def attach_wait_sink_measure (chip : Chip) : Chip :=
  let chip := debounce chip
  if chip.debounce_cnt > N_DEBOUNCE_CNT then
    let chip := { chip with timer_mux := T_DISABLED }
    if (chip.cc1 = .RP ∧ chip.cc2 = .OPEN) ∨ (chip.cc2 = .RP ∧ chip.cc1 = .OPEN) then
      set_state (timer_mux_start chip T_PD_SOURCE_ON) .attached_sink
    else set_state_unattached chip
  else timer_mux_start chip 2

/-- A sink is attached once the pins have been stable and there is VBUS. -/
def fusb_state_attach_wait_sink (chip : Chip) (evt : Evt) : Chip :=
  if evt.timer_mux then
    let v := tcpm_check_vbus chip
    if v.2 then
      let chip : Chip := { v.1 with timer_mux := T_DISABLED }
      if chip.role = .DRP ∧ chip.try_role = .DFP ∧ chip.try_role_complete = false then fusb_state_try_attach_set chip .DFP
      else if chip.try_role_complete then set_state (timer_mux_start chip T_PD_SOURCE_ON) .attached_sink
      else attach_wait_sink_measure chip
    else attach_wait_sink_measure v.1
  else chip

/-- A source is attached once the pins have been stable. -/
def fusb_state_attach_wait_source (chip : Chip) (evt : Evt) : Chip :=
  if evt.timer_mux then
    let chip := debounce chip
    if chip.debounce_cnt > N_DEBOUNCE_CNT then
      if (chip.cc1 = .OPEN ∨ chip.cc2 = .OPEN) ∧ (chip.cc1 = .RD ∨ chip.cc2 = .RD) then
        if chip.role = .DRP ∧ chip.try_role = .UFP ∧ chip.try_role_complete = false then fusb_state_try_attach_set chip .UFP
        else set_state chip .attached_source
      else set_state_unattached chip
    else timer_mux_start chip 2
  else chip

/-- Power and VCONN go on, and the policy of the source begins. -/
def fusb_state_attached_source (chip : Chip) : Chip :=
  let chip := platform_set_vbus_lvl_enable chip true false
  let chip := tcpm_set_polarity chip (cc_state_polarity chip)
  let chip := tcpm_set_vconn chip true
  let chip := { chip with
    notify.is_cc_connected := true
    notify.power_role := .SOURCE
    notify.data_role := .DFP
    hardrst_count := 0 }
  let chip := set_state chip .policy_src_startup
  regmap_update_bits chip .MASK MASK_M_COMP_CHNG 0#8

/-- With VBUS there the policy of the sink begins. -/
def fusb_state_attached_sink (chip : Chip) (evt : Evt) : Chip :=
  let v := tcpm_check_vbus chip
  if v.2 then
    let chip : Chip := { v.1 with timer_mux := T_DISABLED, timer_state := T_DISABLED }
    if chip.try_role_complete = false ∧ chip.try_role = .DFP ∧ chip.role = .DRP then fusb_state_try_attach_set chip .DFP
    else
      set_state { chip with
        try_role_complete := true
        notify.is_cc_connected := true
        notify.power_role := .SINK
        notify.data_role := .UFP
        hardrst_count := 0 } .policy_snk_startup
  else if evt.timer_mux then set_state_unattached v.1
  else timer_state_start v.1 2

/-- The toggle logic has found the role that is tried, or time is up. -/
def fusb_state_try_attach (chip : Chip) (evt : Evt) (mode : RoleMode) : Chip :=
  if evt.cc && chip.cc_state != 0#8 then
    let chip := { chip with try_role_complete := true }
    let chip := if bit chip.cc_state CC_STATE_TOGSS_IS_UFP then
        set_state chip (if mode = .UFP then .attach_wait_sink else .error_recovery)
      else set_state chip (if mode = .DFP then .attach_wait_source else .error_recovery)
    start_debounce chip
  else if evt.timer_mux then
    if !chip.try_role_complete then
      fusb_state_try_attach_set { chip with try_role_complete := true } (if mode = .DFP then .UFP else .DFP)
    else set_state chip .error_recovery
  else chip

/-- The partner is gone, unless the state is one in which its pins or VBUS may be. -/
def fusb_try_detach (chip : Chip) : Chip :=
  if bit chip.cc_state CC_STATE_TOGSS_IS_UFP ∧ chip.conn_state ≠ .policy_snk_transition_default ∧
      chip.conn_state ≠ .policy_src_prs_source_off ∧ chip.conn_state ≠ .policy_snk_prs_send_swap ∧
      chip.conn_state ≠ .policy_snk_prs_assert_rp ∧ chip.conn_state ≠ .policy_snk_prs_source_on ∧
      chip.conn_state ≠ .policy_snk_prs_transition_to_off then
    let v := tcpm_check_vbus chip
    if !v.2 then set_state_unattached v.1 else v.1
  else if chip.conn_state ≠ .policy_src_transition_default ∧ chip.conn_state ≠ .policy_src_prs_source_off ∧
      chip.conn_state ≠ .policy_snk_prs_source_on then
    let m := tcpm_get_cc chip
    let cc1 := if bit chip.cc_state CC_STATE_TOGSS_CC2 then m.cc2 else m.cc1
    if cc1 = .OPEN then set_state_unattached m.chip else m.chip
  else { chip with delay_cc := true }

end Fusb302
