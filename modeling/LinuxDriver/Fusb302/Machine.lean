import LinuxDriver.Fusb302.Attach
import LinuxDriver.Fusb302.Swap
import LinuxDriver.Lib.Runs
/-!
# The state machine

`state_machine_typec`: one work invocation reads the interrupt registers,
collects the expired timeouts, fetches a message if there is one and runs the
handler of the current state. `fusb_timer_handler` is the hrtimer callback,
`fusb30x_probe` the state the driver starts from.
-/

namespace Fusb302

/-! ## Collecting events -/

/-! The tests of `tcpc_alert`, in the order of the source. -/

/-- The comparator changed while the chip does not see itself as a sink. -/
def alert_comp_chng (env : Env) (a : Chip × Evt) : Chip × Evt :=
  if bit env.interrupt INTERRUPT_COMP_CHNG && !bit a.1.cc_state CC_STATE_TOGSS_IS_UFP then
    (status0_read a.1, { a.2 with cc := a.2.cc || bit (a.1.status0 0) STATUS0_COMP })
  else a

/-- VBUS came or went on a connected port. -/
def alert_vbusok (env : Env) (a : Chip × Evt) : Chip × Evt :=
  if bit env.interrupt INTERRUPT_VBUSOK && a.1.notify.is_cc_connected then (a.1, { a.2 with cc := true }) else a

/-- The toggling has found a partner: its outcome is kept and the toggling ends. -/
def alert_togdone (env : Env) (a : Chip × Evt) : Chip × Evt :=
  if bit env.interrupta INTERRUPTA_TOGDONE then
    let chip := { a.1 with cc_state := (a.1.status1a >>> 3) &&& 0x07#8 }
    (regmap_update_bits chip .CONTROL2 CONTROL2_TOGGLE 0#8, { a.2 with cc := true })
  else a

/-- A message was sent and acknowledged. -/
def alert_txsent (env : Env) (a : Chip × Evt) : Chip × Evt :=
  if bit env.interrupta INTERRUPTA_TXSENT then
    ({ a.1 with tx_state := .tx_success, log := .sent :: a.1.log }, { a.2 with tx := true })
  else a

/-- A message was received and acknowledged by the chip. -/
def alert_gcrcsent (env : Env) (a : Chip × Evt) : Chip × Evt :=
  if bit env.interruptb INTERRUPTB_GCRCSENT then (a.1, { a.2 with rx := true }) else a

/-- The partner sent a hard reset. -/
def alert_hardrst (env : Env) (a : Chip × Evt) : Chip × Evt :=
  if bit env.interrupta INTERRUPTA_HARDRST then
    (pd_execute_hard_reset (fusb302_pd_reset a.1), { a.2 with rec_reset := true })
  else a

/-- A message stayed without an acknowledgement. -/
def alert_retryfail (env : Env) (a : Chip × Evt) : Chip × Evt :=
  if bit env.interrupta INTERRUPTA_RETRYFAIL then
    ({ a.1 with tx_state := .tx_failed, log := .retryfail :: a.1.log }, { a.2 with tx := true })
  else a

/-- HARDSENT is reported twice: the first time the chip is reset, the second
time the hard reset counts as sent. -/
def alert_hardsent (env : Env) (a : Chip × Evt) : Chip × Evt :=
  if bit env.interrupta INTERRUPTA_HARDSENT then
    if !a.1.retry then (pd_execute_hard_reset (fusb302_pd_reset { a.1 with retry := true }), a.2)
    else ({ a.1 with retry := false, tx_state := .tx_success, timer_state := T_DISABLED }, { a.2 with tx := true })
  else a

/-- What the interrupt registers report. -/
def tcpc_alert (chip : Chip) (env : Env) : Chip × Evt :=
  (chip, {}) |> alert_comp_chng env |> alert_vbusok env |> alert_togdone env |> alert_txsent env
    |> alert_gcrcsent env |> alert_hardrst env |> alert_retryfail env |> alert_hardsent env

/-- The timeouts that expired since the last invocation, and the flags it left. -/
def mux_alert (chip : Chip) (evt : Evt) : Chip × Evt :=
  let evt := if chip.timer_mux = 0 then { evt with timer_mux := true } else evt
  let chip := if chip.timer_mux = 0 then { chip with timer_mux := T_DISABLED } else chip
  let evt := if chip.timer_state = 0 then { evt with timer_state := true } else evt
  let chip := if chip.timer_state = 0 then { chip with timer_state := T_DISABLED } else chip
  ({ chip with work_continue := false, delay_cc := false },
    { evt with work_continue := evt.work_continue || chip.work_continue, delay_cc := evt.delay_cc || chip.delay_cc })

/-! ## The dispatcher -/

/-- From `case policy_src_negotiate_cap` on: it runs into the next case. -/
def case_negotiate_cap (chip : Chip) (evt : Evt) : Chip :=
  fusb_state_src_transition_supply (fusb_state_src_negotiate_cap chip) evt

/-- Sends the capabilities; a REQUEST in answer is dealt with in the same pass. -/
def case_send_caps (chip : Chip) (evt : Evt) : Chip :=
  let chip := fusb_state_src_send_caps chip evt
  if chip.conn_state ≠ .policy_src_negotiate_cap then chip else case_negotiate_cap chip evt

/-- `case policy_snk_evaluate_caps` runs into the next case as well. -/
def case_evaluate_caps (chip : Chip) (evt : Evt) : Chip :=
  fusb_state_snk_select_cap (fusb_state_snk_evaluate_caps chip) evt

/-- `switch (chip->conn_state)`. -/
def dispatch (chip : Chip) (evt : Evt) : Chip :=
  match chip.conn_state with
  | .disabled => chip
  | .error_recovery => set_state_unattached chip
  | .unattached => fusb_state_unattached chip evt
  | .attach_wait_sink => fusb_state_attach_wait_sink chip evt
  | .attach_wait_source => fusb_state_attach_wait_source chip evt
  | .attached_source => fusb_state_attached_source chip
  | .attached_sink => fusb_state_attached_sink chip evt
  | .attach_try_src => fusb_state_try_attach chip evt .DFP
  | .attach_try_snk => fusb_state_try_attach chip evt .UFP
  | .policy_src_startup => fusb_state_src_startup chip
  | .policy_src_discovery => fusb_state_src_discovery chip evt
  | .policy_src_send_caps => case_send_caps chip evt
  | .policy_src_negotiate_cap => case_negotiate_cap chip evt
  | .policy_src_transition_supply => fusb_state_src_transition_supply chip evt
  | .policy_src_cap_response => fusb_state_src_cap_response chip
  | .policy_src_transition_default => fusb_state_src_transition_default chip evt
  | .policy_src_ready => fusb_state_src_ready chip evt
  | .policy_src_get_sink_caps => fusb_state_src_get_sink_cap chip evt
  | .policy_src_send_hardrst => fusb_state_src_send_hardreset chip evt
  | .policy_src_send_softrst => fusb_state_src_send_softreset chip evt
  | .policy_src_softrst => fusb_state_src_softreset chip
  | .policy_snk_startup => fusb_state_snk_startup chip
  | .policy_snk_discovery => fusb_state_snk_discovery chip
  | .policy_snk_wait_caps => fusb_state_snk_wait_caps chip evt
  | .policy_snk_evaluate_caps => case_evaluate_caps chip evt
  | .policy_snk_select_cap => fusb_state_snk_select_cap chip evt
  | .policy_snk_transition_sink => fusb_state_snk_transition_sink chip evt
  | .policy_snk_transition_default => fusb_state_snk_transition_default chip evt
  | .policy_snk_ready => fusb_state_snk_ready chip evt
  | .policy_snk_send_hardrst => fusb_state_snk_send_hardreset chip evt
  | .policy_snk_send_softrst => fusb_state_snk_send_softreset chip evt
  | .policy_snk_softrst => fusb_state_snk_softreset chip
  | .policy_src_prs_evaluate | .policy_snk_prs_evaluate => fusb_state_prs_evaluate chip
  | .policy_snk_prs_accept | .policy_src_prs_accept => fusb_state_prs_accept chip
  | .policy_snk_prs_reject | .policy_src_prs_reject | .policy_vcs_ufp_reject | .policy_drs_dfp_reject
  | .policy_drs_ufp_reject => fusb_state_prs_reject chip
  | .policy_src_prs_transition_to_off => fusb_state_src_prs_transition_to_off chip evt
  | .policy_src_prs_assert_rd => fusb_state_src_prs_assert_rd chip
  | .policy_src_prs_source_off => fusb_state_src_prs_source_off chip evt
  | .policy_snk_prs_send_swap | .policy_src_prs_send_swap => fusb_state_send_swap chip evt CMT_PR_SWAP
  | .policy_snk_prs_transition_to_off => fusb_state_snk_prs_transition_to_off chip evt
  | .policy_snk_prs_assert_rp => fusb_state_snk_prs_assert_rp chip
  | .policy_snk_prs_source_on => fusb_state_snk_prs_source_on chip evt
  | .policy_vcs_ufp_evaluate_swap => fusb_state_vcs_ufp_evaluate_swap chip
  | .policy_vcs_ufp_accept => fusb_state_vcs_ufp_accept chip
  | .policy_vcs_ufp_wait_for_dfp_vconn | .policy_vcs_dfp_wait_for_ufp_vconn => fusb_state_vcs_wait_for_vconn chip evt
  | .policy_vcs_ufp_turn_off_vconn | .policy_vcs_dfp_turn_off_vconn => fusb_state_vcs_set_vconn chip false
  | .policy_vcs_ufp_turn_on_vconn | .policy_vcs_dfp_turn_on_vconn => fusb_state_vcs_set_vconn chip true
  | .policy_vcs_ufp_send_ps_rdy | .policy_vcs_dfp_send_ps_rdy => fusb_state_vcs_send_ps_rdy chip
  | .policy_vcs_dfp_send_swap => fusb_state_send_swap chip evt CMT_VCONN_SWAP
  | .policy_drs_ufp_evaluate | .policy_drs_dfp_evaluate => fusb_state_drs_evaluate chip
  | .policy_drs_dfp_accept | .policy_drs_ufp_accept => fusb_state_drs_send_accept chip
  | .policy_drs_dfp_change | .policy_drs_ufp_change => fusb_state_drs_role_change chip
  | .policy_drs_ufp_send_swap | .policy_drs_dfp_send_swap => fusb_state_send_swap chip evt CMT_DR_SWAP

/-! ## One work invocation -/

/-- `EVENT_CC` on a connected port. -/
def detach (chip : Chip) (evt : Evt) : Chip :=
  if chip.notify.is_cc_connected && (evt.cc || evt.delay_cc) then fusb_try_detach chip else chip

/-- `EVENT_RX`: a soft reset is answered whatever the state. -/
def receive (chip : Chip) (evt : Evt) : Chip :=
  if evt.rx then
    let chip := tcpm_get_message chip
    if PACKET_IS_CONTROL_MSG chip.rec_head CMT_SOFTRESET then
      if chip.notify.power_role = .SOURCE then set_state chip .policy_src_softrst
      else set_state chip .policy_snk_softrst
    else chip
  else chip

/-- `EVENT_TX`. -/
def count_sent (chip : Chip) (evt : Evt) : Chip :=
  if evt.tx && decide (chip.tx_state = .tx_success) then { chip with msg_id := chip.msg_id + 1 } else chip

/-- The part of `state_machine_typec` between the alerts and the switch. -/
def before_switch (chip : Chip) (evt : Evt) : Chip := count_sent (receive (detach chip evt) evt) evt

/-- Loads what the hardware shows this invocation. -/
def observe (chip : Chip) (env : Env) : Chip :=
  { chip with status0 := env.status0, status1a := env.status1a, fifo := env.fifo, charge_dev := env.charge_dev }

/-- The events of an invocation and the port after both alerts. -/
def alerts (chip : Chip) (env : Env) : Chip × Evt :=
  let a := tcpc_alert (observe chip env) env
  mux_alert a.1 a.2

/-- One work invocation. -/
def state_machine_typec (chip : Chip) (env : Env) : Chip :=
  let a := alerts chip env
  if !a.2.any then a.1 else dispatch (before_switch a.1 a.2) a.2

/-- The events the switch sees. -/
def events (chip : Chip) (env : Env) : Evt := (alerts chip env).2

/-- The port the switch sees. -/
def at_switch (chip : Chip) (env : Env) : Chip := before_switch (alerts chip env).1 (events chip env)

/-- An invocation without an event runs no handler. -/
theorem state_machine_typec_eq (chip : Chip) (env : Env) :
    state_machine_typec chip env =
      if (events chip env).any then dispatch (at_switch chip env) (events chip env) else at_switch chip env := by
  unfold state_machine_typec at_switch events
  cases h : (alerts chip env).2.any
  · have hn : (alerts chip env).2.cc = false ∧ (alerts chip env).2.rx = false ∧ (alerts chip env).2.tx = false ∧
        (alerts chip env).2.delay_cc = false := by
      simp only [Evt.any, Bool.or_eq_false_iff] at h
      obtain ⟨⟨⟨⟨⟨⟨⟨hcc, hrx⟩, htx⟩, _⟩, _⟩, _⟩, _⟩, hd⟩ := h
      exact ⟨hcc, hrx, htx, hd⟩
    simp [h, before_switch, detach, receive, count_sent, hn]
  · simp [h]

/-! ## Runs -/

/-- Everything that changes a port: a work invocation, or the expiry of one of
its hrtimers. -/
inductive Act
  | work (env : Env)
  | timer_state
  | timer_mux

/-- `fusb_timer_handler`, for an armed hrtimer; its `queue_work` allows a work invocation later. -/
def fusb_timer_handler (chip : Chip) : Act → Chip
  | .timer_state =>
    if chip.timer_state_machine then
      { chip with
        timer_state_machine := false
        timer_state := if chip.timer_state ≠ T_DISABLED then 0 else chip.timer_state }
    else chip
  | .timer_mux =>
    if chip.timer_mux_machine then
      { chip with
        timer_mux_machine := false
        timer_mux := if chip.timer_mux ≠ T_DISABLED then 0 else chip.timer_mux }
    else chip
  | .work _ => chip

/-- One activation: the work runs, or an hrtimer expires. -/
def step (chip : Chip) (act : Act) : Chip :=
  match act with
  | .work env => state_machine_typec chip env
  | act => fusb_timer_handler chip act

theorem step_work (chip : Chip) (env : Env) :
    step chip (.work env) =
      if (events chip env).any then dispatch (at_switch chip env) (events chip env) else at_switch chip env :=
  state_machine_typec_eq chip env

/-- An expiry changes the timers only. -/
theorem fusb_timer_handler_eq (chip : Chip) (act : Act) : ∃ t, fusb_timer_handler chip act = { chip with toTimers := t } := by
  cases act with
  | work env => exact ⟨chip.toTimers, rfl⟩
  | timer_state =>
    unfold fusb_timer_handler
    dsimp only
    split
    · exact ⟨_, rfl⟩
    · exact ⟨chip.toTimers, rfl⟩
  | timer_mux =>
    unfold fusb_timer_handler
    dsimp only
    split
    · exact ⟨_, rfl⟩
    · exact ⟨chip.toTimers, rfl⟩

/-- What differs from board to board: the device tree's roles, which optional
GPIOs exist, and the chip's register defaults. -/
structure Board where
  role : RoleMode := .DRP
  try_role : RoleMode := .NONE
  vbus_5v : Bool := true
  vbus_other : Bool := false
  discharge : Bool := false
  defaults : Reg → Byte := fun _ => 0#8

/-- A GPIO the board may have, driven low. -/
def optional_gpio (present : Bool) : Option Bool := if present then some false else none

/-- The zeroed structure with the board's GPIOs, before `fusb30x_probe` fills it in. -/
def kzalloc (board : Board) : Chip where
  conn_state := .disabled
  sub_state := 0
  val_tmp := 0#8
  work_continue := false
  delay_cc := false
  timer_state := 0
  timer_mux := 0
  timer_state_machine := false
  timer_mux_machine := false
  send_head := 0#16
  send_load := fun _ => 0#32
  msg_id := 0
  tx_state := .tx_idle
  rec_head := 0#16
  rec_load := fun _ => 0#32
  caps_counter := 0
  hardrst_count := 0
  n_caps_used := 0
  pos_power := 0
  source_power_supply := fun _ => 0#32
  source_max_current := fun _ => 0#32
  partner_cap := fun _ => 0#32
  pd_cap_info := {}
  is_pd_support := false
  pd_output_vol := 0#32
  pd_output_cur := 0#32
  vbus_begin := false
  vdm_state := .DISCOVERY_ID
  vdm_substate := 0
  vdm_send_state := 0
  vdm_svid := fun _ => 0#16
  vdm_svid_num := 0
  vdm_id := 0#32
  cc_state := 0#8
  cc1 := .OPEN
  cc2 := .OPEN
  cc_polarity := .CC1
  debounce_cnt := 0
  vconn_enabled := false
  cc_meas_high := 0#8
  cc_meas_low := 0#8
  role := .NONE
  try_role := .NONE
  try_role_complete := false
  vconn_supported := false
  regs := board.defaults
  defaults := board.defaults
  gpio_vbus_5v := optional_gpio board.vbus_5v
  gpio_vbus_other := optional_gpio board.vbus_other
  gpio_discharge := optional_gpio board.discharge
  status0 := fun _ => 0#8
  status1a := 0#8
  fifo := []
  charge_dev := none
  retry := false
  log := []
  notify := {}
  notify_cmp := {}

/-- `fusb30x_probe` when every acquisition succeeds. A role the device tree
does not give is DRP; only DFP and UFP are accepted as `try_role`. -/
def fusb30x_probe (board : Board) : Chip :=
  let chip := { kzalloc board with timer_state := T_DISABLED, timer_mux := T_DISABLED }
  let chip := { chip with
    role := if board.role = .DFP ∨ board.role = .UFP then board.role else .DRP
    try_role := if board.try_role = .DFP ∨ board.try_role = .UFP then board.try_role else .NONE
    vconn_supported := true }
  let chip := tcpm_init chip
  let chip := tcpm_set_rx_enable chip false
  let chip := { chip with conn_state := .unattached }
  let chip := tcpm_set_cc chip chip.role
  { chip with
    n_caps_used := 1
    source_power_supply := fun i => if i = 0 then 0x64#32 else chip.source_power_supply i
    source_max_current := fun i => if i = 0 then 0x96#32 else chip.source_max_current i
    pd_cap_info := { dual_role_power := 1#32, data_role_swap := 1#32, externally_powered := 1#32 } }

/-- The port after the acts, from probe. -/
def ran (board : Board) (acts : List Act) : Chip := Runs.run step (fusb30x_probe board) acts

theorem meets_last {P : Chip → Act → Prop} {board : Board} {acts : List Act} {act : Act}
    (h : Runs.Meets step P (fusb30x_probe board) (acts ++ [act])) : P (ran board acts) act :=
  (Runs.Meets.append.1 h).2.1

/-! ## Inputs of concrete runs -/

/-- A control message of this type. -/
def control (type : Nat) : PdMsg where
  head := BitVec.ofNat 16 type
  load := fun _ => 0#32

/-- A data message of this type with these objects. -/
def data (type : Nat) (objects : List (BitVec 32)) : PdMsg where
  head := (BitVec.ofNat 16 objects.length <<< 12) ||| BitVec.ofNat 16 type
  load := fun i => objects.getD i 0#32

/-- Nothing new from the chip; VBUS is present. -/
def idle : Act := .work { status0 := fun _ => STATUS0_VBUSOK }

/-- The work runs because a message was acknowledged. -/
def txsent : Act := .work { interrupta := INTERRUPTA_TXSENT, status0 := fun _ => STATUS0_VBUSOK }

/-- The work runs because a message was not acknowledged. -/
def retryfail : Act := .work { interrupta := INTERRUPTA_RETRYFAIL, status0 := fun _ => STATUS0_VBUSOK }

/-- The work runs because `m` is in the FIFO. -/
def received (m : PdMsg) : Act :=
  .work { interruptb := INTERRUPTB_GCRCSENT, fifo := [m], status0 := fun _ => STATUS0_VBUSOK }

/-- A board that tries to be a source first, as it takes the shortest way to a sink. -/
def try_source : Board := { try_role := .DFP }

/-- A source's pull-up is seen on CC1. -/
def source_seen : Act :=
  .work { interrupta := INTERRUPTA_TOGDONE, status1a := 0x28#8, status0 := fun _ => STATUS0_VBUSOK }

/-- From probe of `try_source` to `policy_snk_wait_caps`. -/
def attach_sink : List Act :=
  [source_seen, .timer_mux, idle, .timer_mux, idle, source_seen, .timer_mux, idle, idle, idle, idle]

/-- A sink's pull-down is seen on CC1. -/
def sink_seen : Act :=
  .work { interrupta := INTERRUPTA_TOGDONE, status1a := 0x08#8, status0 := fun n => if n = 2 then STATUS0_COMP else 0#8 }

/-- The same pull-down in a debounce reading. -/
def sink_still_seen : Act := .work { status0 := fun n => if n = 1 then STATUS0_COMP else 0#8 }

/-- From probe of the default board to SOURCE_CAPABILITIES on the wire: 34
equal readings, then attachment, startup and the first message. -/
def attach_source : List Act :=
  sink_seen :: (List.replicate 34 [.timer_mux, sink_still_seen]).flatten ++ [idle, idle, idle]

/-- From SOURCE_CAPABILITIES on the wire to PS_RDY: the first object is asked for. -/
def contract : List Act :=
  [txsent, received (data DMT_REQUEST [0x10000000#32]), txsent, .timer_state, idle, idle]

/-- From `policy_snk_wait_caps` to a contract, and from there through PR_SWAP
to the new source's PS_RDY on the wire. -/
def swap_to_source : List Act :=
  [received (data DMT_SOURCECAPABILITIES [0x00019096#32]), idle, txsent, received (control CMT_ACCEPT),
    received (control CMT_PS_RDY), received (control CMT_PR_SWAP), idle, idle, txsent, idle,
    received (control CMT_PS_RDY), idle, idle, idle]

end Fusb302
