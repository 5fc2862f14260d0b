import LinuxDriver.Fusb302.Header
import Mathlib.Algebra.GroupWithZero.Nat
/-!
# The port

`struct fusb30x_chip` and the enumerations of `fusb302.h`. The fields are
grouped into parent structures (`extends`), so an update of one group leaves
the others as they are; they are used under their own names as in the source.
The last group, `Hw`, is what lies outside the driver: the registers, the GPIO
lines, the answers the chip gives during one work invocation, and a log of
what went over the wire, newest entry first. The log is read by theorems only.
-/

namespace Fusb302

/-- `enum connection_state`. -/
inductive ConnState
  | disabled
  | error_recovery
  | unattached
  | attach_wait_sink
  | attach_wait_source
  | attached_source
  | attached_sink
  | policy_src_startup
  | policy_src_send_caps
  | policy_src_discovery
  | policy_src_negotiate_cap
  | policy_src_cap_response
  | policy_src_transition_supply
  | policy_src_transition_default
  | policy_src_ready
  | policy_src_get_sink_caps
  | policy_src_send_softrst
  | policy_src_softrst
  | policy_src_send_hardrst
  | policy_snk_startup
  | policy_snk_discovery
  | policy_snk_wait_caps
  | policy_snk_evaluate_caps
  | policy_snk_select_cap
  | policy_snk_transition_sink
  | policy_snk_ready
  | policy_snk_send_softrst
  | policy_snk_softrst
  | policy_snk_send_hardrst
  | policy_snk_transition_default
  -- PR SWAP
  | policy_src_prs_evaluate
  | policy_src_prs_accept
  | policy_src_prs_transition_to_off
  | policy_src_prs_source_off
  | policy_src_prs_assert_rd
  | policy_src_prs_reject
  | policy_src_prs_send_swap
  | policy_snk_prs_evaluate
  | policy_snk_prs_accept
  | policy_snk_prs_transition_to_off
  | policy_snk_prs_source_on
  | policy_snk_prs_assert_rp
  | policy_snk_prs_reject
  | policy_snk_prs_send_swap
  -- VC SWAP
  | policy_vcs_dfp_send_swap
  | policy_vcs_dfp_wait_for_ufp_vconn
  | policy_vcs_dfp_turn_off_vconn
  | policy_vcs_dfp_turn_on_vconn
  | policy_vcs_dfp_send_ps_rdy
  | policy_vcs_ufp_evaluate_swap
  | policy_vcs_ufp_reject
  | policy_vcs_ufp_accept
  | policy_vcs_ufp_wait_for_dfp_vconn
  | policy_vcs_ufp_turn_off_vconn
  | policy_vcs_ufp_turn_on_vconn
  | policy_vcs_ufp_send_ps_rdy
  | policy_drs_ufp_evaluate
  | policy_drs_ufp_accept
  | policy_drs_ufp_reject
  | policy_drs_ufp_change
  | policy_drs_ufp_send_swap
  | policy_drs_dfp_evaluate
  | policy_drs_dfp_accept
  | policy_drs_dfp_reject
  | policy_drs_dfp_change
  | policy_drs_dfp_send_swap
  | attach_try_src
  | attach_try_snk
  deriving DecidableEq

/-- `enum vdm_state`. -/
inductive VdmState
  | DISCOVERY_ID
  | DISCOVERY_SVID
  | DISCOVERY_MODES
  | ENTER_MODE
  | UPDATE_STATUS
  | DP_CONFIG
  | NOTIFY
  | READY
  | ERR
  deriving DecidableEq

/-- `vdm_state++`. -/
def VdmState.next : VdmState → VdmState
  | .DISCOVERY_ID => .DISCOVERY_SVID
  | .DISCOVERY_SVID => .DISCOVERY_MODES
  | .DISCOVERY_MODES => .ENTER_MODE
  | .ENTER_MODE => .UPDATE_STATUS
  | .UPDATE_STATUS => .DP_CONFIG
  | .DP_CONFIG => .NOTIFY
  | .NOTIFY => .READY
  | .READY => .ERR
  | .ERR => .ERR

/-- `vdm_state < VDM_STATE_READY`. -/
def VdmState.ltReady : VdmState → Bool
  | .READY | .ERR => false
  | _ => true

/-- `enum role_mode`. -/
inductive RoleMode
  | NONE
  | DRP
  | UFP
  | DFP
  | ASS
  deriving DecidableEq

/-- `enum CC_ORIENTATION`. -/
inductive CcOrientation
  | NONE
  | CC1
  | CC2
  deriving DecidableEq

/-- `enum typec_cc_polarity`. -/
inductive TypecCcPolarity
  | CC1
  | CC2
  deriving DecidableEq

/-- `enum CC_MODE`. -/
inductive CcMode
  | PULL_UP
  | PULL_DOWN
  | PULL_NONE
  deriving DecidableEq

/-- `enum typec_power_role`. -/
inductive PowerRole
  | SINK
  | SOURCE
  deriving DecidableEq

/-- `enum typec_data_role`. -/
inductive DataRole
  | UFP
  | DFP
  deriving DecidableEq

/-- `enum tx_state`. -/
inductive TxState
  | tx_idle
  | tx_busy
  | tx_failed
  | tx_success
  deriving DecidableEq

/-- The values of `TYPEC_CC_VOLT_*`. -/
inductive CcVolt
  | OPEN
  | RA
  | RD
  | RP
  deriving DecidableEq

/-- `enum tcpm_rp_value`. -/
inductive TcpmRpValue
  | USB
  | RP_1A5
  | RP_3A0
  | RESERVED
  deriving DecidableEq

/-- The objects of a message are numbered from 0 on. -/
instance seven_ne_zero : NeZero 7 := ⟨by decide⟩

/-- A message as the receive FIFO holds it: a header and up to seven objects. -/
structure PdMsg where
  head : BitVec 16
  load : Fin 7 → BitVec 32

/-! ## The log -/

/-- What happened on the wire or to the policy, for statements about runs. -/
inductive Entry
  /-- `tcpm_get_message` returned this message. -/
  | recv (m : PdMsg)
  /-- `set_mesg(cmd, is_DMT)` built a message. -/
  | mesg (cmd : Nat) (is_DMT : Bool)
  /-- The REQUEST built asks for this position and object; `charge_dev` is what the charger reports. -/
  | requested (pos : Nat) (pdo : BitVec 32) (charge_dev : Option (Option Int × Option Int))
  /-- `fusb_state_src_negotiate_cap` looked at a REQUEST for this position with so many offers. -/
  | asked (pos n_caps_used : Nat)
  /-- `set_vdm_mesg(cmd)` built a message. -/
  | vdm (cmd : Nat)
  /-- These bytes were pushed into the transmit FIFO in this state. -/
  | fifo (senddata : List Byte) (state : ConnState)
  /-- The chip reported TXSENT. -/
  | sent
  /-- The chip reported RETRYFAIL. -/
  | retryfail
  /-- SEND_HARDRESET was written. -/
  | hardrst
  /-- The chip's PD logic was reset. -/
  | pd_reset
  /-- `fusb_soft_reset_parameter` ran. -/
  | soft_reset
  /-- A VDM acknowledgement of this command was processed. -/
  | ack (cmd : Nat)
  /-- `vdm_state` was set to this stage. -/
  | stage (s : VdmState)
  /-- One mode query of DISCOVERY_MODES was completed. -/
  | query
  /-- `notify.is_enter_mode` was set. -/
  | enter_mode

/-! ## The fields -/

/-- What the port tells the rest of the system. -/
structure NotifyInfo where
  orientation : CcOrientation := .NONE
  power_role : PowerRole := .SINK
  data_role : DataRole := .UFP
  is_cc_connected : Bool := false
  is_pd_connected : Bool := false
  is_enter_mode : Bool := false
  pin_assignment_support : BitVec 32 := 0#32
  pin_assignment_def : BitVec 32 := 0#32
  attention : Bool := false
  dp_status : BitVec 32 := 0#32
  dp_caps : BitVec 32 := 0#32
  deriving DecidableEq

/-- What the port says of itself in its capabilities. -/
structure PdCapInfo where
  peak_current : BitVec 32 := 0#32
  externally_powered : BitVec 32 := 0#32
  usb_suspend_support : BitVec 32 := 0#32
  usb_communications_cap : BitVec 32 := 0#32
  dual_role_power : BitVec 32 := 0#32
  data_role_swap : BitVec 32 := 0#32
  supply_type : BitVec 32 := 0#32

/-- The state machine proper. `work_continue` and `delay_cc` are the two bits
the source keeps in `work_continue`. -/
structure Policy where
  conn_state : ConnState
  sub_state : Nat
  val_tmp : BitVec 8
  work_continue : Bool
  delay_cc : Bool

/-- The two timeouts, and whether their hrtimers are armed. -/
structure Timers where
  timer_state : Nat
  timer_mux : Nat
  timer_state_machine : Bool
  timer_mux_machine : Bool

/-- The message to send, its number, and how far it is. -/
structure Tx where
  send_head : BitVec 16
  send_load : Fin 7 → BitVec 32
  msg_id : Nat
  tx_state : TxState

/-- The message in hand. -/
structure Rx where
  rec_head : BitVec 16
  rec_load : Fin 7 → BitVec 32

/-- The offers on both sides and how often they were made. -/
structure Supply where
  caps_counter : Nat
  hardrst_count : Nat
  n_caps_used : Nat
  pos_power : Nat
  source_power_supply : Fin 7 → BitVec 32
  source_max_current : Fin 7 → BitVec 32
  partner_cap : Fin 7 → BitVec 32
  pd_cap_info : PdCapInfo
  is_pd_support : Bool
  pd_output_vol : BitVec 32
  pd_output_cur : BitVec 32
  vbus_begin : Bool

/-- How far the exchange of vendor messages is. -/
structure Vdm where
  vdm_state : VdmState
  vdm_substate : Nat
  vdm_send_state : Nat
  vdm_svid : Fin 12 → BitVec 16
  vdm_svid_num : Nat
  vdm_id : BitVec 32

/-- The two CC pins. -/
structure Cc where
  cc_state : Byte
  cc1 : CcVolt
  cc2 : CcVolt
  cc_polarity : TypecCcPolarity
  debounce_cnt : Nat
  vconn_enabled : Bool
  cc_meas_high : Byte
  cc_meas_low : Byte
  role : RoleMode
  try_role : RoleMode
  try_role_complete : Bool
  vconn_supported : Bool

/-- What lies outside the driver. A GPIO is `none` when the board has none,
else the raw level it is driven to. `status0` lists the values successive
reads of STATUS0 return in the current invocation, `fifo` the messages in the
receive FIFO, `charge_dev` the two properties of the charger (when there is a
charger), `retry` the static variable of `tcpc_alert`. -/
structure Hw where
  regs : Reg → Byte
  defaults : Reg → Byte
  gpio_vbus_5v : Option Bool
  gpio_vbus_other : Option Bool
  gpio_discharge : Option Bool
  status0 : Nat → Byte
  status1a : Byte
  fifo : List PdMsg
  charge_dev : Option (Option Int × Option Int)
  retry : Bool
  log : List Entry

/-- `struct fusb30x_chip`, with the chip's registers and a log of what the driver did. -/
structure Chip extends Policy, Timers, Tx, Rx, Supply, Vdm, Cc, Hw where
  notify : NotifyInfo
  notify_cmp : NotifyInfo

/-! ## Events -/

/-- The bits of `evt`. -/
structure Evt where
  cc : Bool := false
  rx : Bool := false
  tx : Bool := false
  rec_reset : Bool := false
  work_continue : Bool := false
  timer_mux : Bool := false
  timer_state : Bool := false
  delay_cc : Bool := false

/-- `evt & FLAG_EVENT`. -/
def Evt.flag_event (evt : Evt) : Bool := evt.rx || evt.timer_mux || evt.timer_state

/-- `evt != 0`. -/
def Evt.any (evt : Evt) : Bool :=
  evt.cc || evt.rx || evt.tx || evt.rec_reset || evt.work_continue || evt.timer_mux || evt.timer_state || evt.delay_cc

/-- What the hardware shows one work invocation. -/
structure Env where
  interrupt : Byte := 0#8
  interrupta : Byte := 0#8
  interruptb : Byte := 0#8
  status1a : Byte := 0#8
  status0 : Nat → Byte := fun _ => 0#8
  fifo : List PdMsg := []
  charge_dev : Option (Option Int × Option Int) := none

/-! ## Words of the received and the built message -/

/-- `rec_load[i]`. Outside the array the driver would read a neighbouring
word; here it reads 0. -/
def Chip.rec_obj (chip : Chip) (i : Int) : BitVec 32 :=
  if h : 0 ≤ i ∧ i < 7 then chip.rec_load ⟨i.toNat, by omega⟩ else 0#32

/-- One more entry in the log. -/
def Chip.emit (chip : Chip) (e : Entry) : Chip := { chip with log := e :: chip.log }

end Fusb302
