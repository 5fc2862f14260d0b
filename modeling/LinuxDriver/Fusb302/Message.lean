import LinuxDriver.Fusb302.Tcpm
/-!
# Messages and state changes

Receiving, building and sending PD messages, and the functions every handler
uses to change the policy state.
-/

namespace Fusb302

/-! ## State changes -/

/-- Every change of state starts at sub-state 0 and asks for another pass. -/
def set_state (chip : Chip) (state : ConnState) : Chip :=
  { chip with conn_state := state, sub_state := 0, val_tmp := 0#8, work_continue := true }

/-- The next stage of the discovery. -/
def set_vdm_state (chip : Chip) (state : VdmState) : Chip :=
  { chip with vdm_state := state, log := .stage state :: chip.log }

/-- The port gives up its partner and looks for one again. -/
def set_state_unattached (chip : Chip) : Chip :=
  let chip := tcpm_init chip
  let chip := tcpm_set_rx_enable chip false
  let chip := set_state chip .unattached
  let chip := tcpm_set_cc chip chip.role
  let chip := { chip with notify := {} }
  let chip := platform_fusb_notify chip
  let chip := { chip with gpio_discharge := chip.gpio_discharge.map fun _ => false }
  let chip := regmap_update_bits chip .MASK MASK_M_COMP_CHNG MASK_M_COMP_CHNG
  { chip with try_role_complete := false }

/-- Either side sent a hard reset. -/
def pd_execute_hard_reset (chip : Chip) : Chip :=
  let chip := { chip with msg_id := 0 }
  let chip := set_vdm_state chip .DISCOVERY_ID
  if chip.notify.power_role = .SOURCE then set_state chip .policy_src_transition_default
  else set_state chip .policy_snk_transition_default

/-- The counters and the discovery start over. -/
def fusb_soft_reset_parameter (chip : Chip) : Chip :=
  let chip := { chip with caps_counter := 0, msg_id := 0 }
  let chip := set_vdm_state chip .DISCOVERY_ID
  let chip := { chip with vdm_substate := 0, vdm_send_state := 0, val_tmp := 0#8, pos_power := 0 }
  chip.emit .soft_reset

/-! ## Receiving -/

/-- The receive loop over the messages in the FIFO: GoodCRC messages are
skipped, the first other one is kept. Only the words it carries overwrite
`rec_load`. -/
def get_message (chip : Chip) : List PdMsg → Chip
  | [] => chip
  | m :: fifo =>
    if PACKET_IS_CONTROL_MSG m.head CMT_GOODCRC then get_message { chip with rec_head := m.head } fifo
    else
      { chip with
        rec_head := m.head
        rec_load := fun i => if i.val < PD_HEADER_CNT m.head then m.load i else chip.rec_load i
        log := .recv m :: chip.log }

/-- Fetches one message out of the FIFO. -/
def tcpm_get_message (chip : Chip) : Chip := get_message chip chip.fifo

/-! ## Building -/

/-- As the header carries it. -/
def PowerRole.toBit : PowerRole → BitVec 16
  | .SINK => 0#16
  | .SOURCE => 1#16

/-- As the header carries it. -/
def DataRole.toBit : DataRole → BitVec 16
  | .UFP => 0#16
  | .DFP => 1#16

/-- The header bits every message starts from. -/
def base_head (chip : Chip) : BitVec 16 :=
  ((BitVec.ofNat 16 chip.msg_id &&& 7#16) <<< 9) ||| ((chip.notify.power_role.toBit &&& 1#16) <<< 8) |||
    (1#16 <<< 6) ||| ((chip.notify.data_role.toBit &&& 1#16) <<< 5)

/-- The capability object for supply `i`. -/
def source_cap (chip : Chip) (i : Fin 7) : BitVec 32 :=
  (chip.pd_cap_info.supply_type <<< 30) ||| (chip.pd_cap_info.dual_role_power <<< 29) |||
    (chip.pd_cap_info.usb_suspend_support <<< 28) ||| (chip.pd_cap_info.externally_powered <<< 27) |||
    (chip.pd_cap_info.usb_communications_cap <<< 26) ||| (chip.pd_cap_info.data_role_swap <<< 25) |||
    (chip.pd_cap_info.peak_current <<< 20) ||| (chip.source_power_supply i <<< 10) ||| chip.source_max_current i

/-- The object of a REQUEST for the object at `pos_power`. -/
def request_load (chip : Chip) : BitVec 32 :=
  let load := (BitVec.ofNat 32 chip.pos_power <<< 28) ||| (0#32 <<< 27) ||| (1#32 <<< 26) ||| (0#32 <<< 25) ||| (0#32 <<< 24)
  let pdo := chip.rec_obj ((chip.pos_power : Int) - 1)
  match CAP_POWER_TYPE pdo with
  | 0 => load ||| ((CAP_FPDO_VOLTAGE pdo <<< 10) &&& 0x3ff#32) ||| (CAP_FPDO_CURRENT pdo &&& 0x3ff#32)
  | 1 => load ||| ((CAP_VPDO_VOLTAGE pdo <<< 10) &&& 0x3ff#32) ||| (CAP_VPDO_CURRENT pdo &&& 0x3ff#32)
  | _ => load

/-- Builds a message other than a vendor message. -/
def set_mesg (chip : Chip) (cmd : Nat) (is_DMT : Bool) : Chip :=
  let head := base_head chip
  let cmd_bits := BitVec.ofNat 16 cmd &&& 0xf#16
  let sourceCaps := is_DMT && cmd == DMT_SOURCECAPABILITIES
  let request := is_DMT && cmd == DMT_REQUEST
  { chip with
    send_head :=
      if sourceCaps then head ||| ((BitVec.ofNat 16 chip.n_caps_used &&& 3#16) <<< 12) ||| cmd_bits
      else if request then head ||| ((1#16 <<< 12) ||| cmd_bits)
      else if is_DMT then head
      else head ||| cmd_bits
    send_load := fun i =>
      if sourceCaps then (if i.val < chip.n_caps_used then source_cap chip i else chip.send_load i)
      else if request then (if i = 0 then request_load chip else chip.send_load i)
      else chip.send_load i
    log :=
      if request then
        .requested chip.pos_power (chip.rec_obj ((chip.pos_power : Int) - 1)) chip.charge_dev ::
          .mesg cmd is_DMT :: chip.log
      else .mesg cmd is_DMT :: chip.log }

/-- The pin assignment for the mode `caps` of a partner in the state `status`. -/
def pd_dfp_dp_get_pin_assignment (caps status : BitVec 32) : BitVec 32 :=
  let pin_caps := PD_DP_PIN_CAPS caps
  let pin_caps := if PD_VDO_DPSTS_MF_PREF status = 0#32 then pin_caps &&& ~~~MODE_DP_PIN_MF_MASK else pin_caps
  let pin_caps := if PD_DP_SIGNAL_GEN2 caps ≠ 0#32 then pin_caps &&& ~~~MODE_DP_PIN_DP_MASK
    else pin_caps &&& ~~~MODE_DP_PIN_BR2_MASK
  -- C and D before E and F
  let pin_caps := if pin_caps &&& 0x0c#32 ≠ 0#32 then pin_caps &&& ~~~0x30#32 else pin_caps
  if pin_caps = 0#32 then 0#32 else 1#32 <<< Nat.log2 pin_caps.toNat

/-- `vdm_svid[i]`; past the table the driver would read a neighbouring word, here 0. -/
def Chip.svid_at (chip : Chip) (i : Nat) : BitVec 16 := if h : i < 12 then chip.vdm_svid ⟨i, h⟩ else 0#16

/-- Builds a vendor message. -/
def set_vdm_mesg (chip : Chip) (cmd type mode : Nat) : Chip :=
  let head := base_head chip ||| (BitVec.ofNat 16 DMT_VENDERDEFINED &&& 0xf#16)
  let load := (1#32 <<< 15) ||| (0#32 <<< 13) ||| (BitVec.ofNat 32 type <<< 6) ||| BitVec.ofNat 32 cmd
  let one := head ||| (1#16 <<< 12)
  let two := head ||| (2#16 <<< 12)
  let pin := pd_dfp_dp_get_pin_assignment chip.notify.dp_caps chip.notify.dp_status
  let put := fun head load0 load1 =>
    { chip with
      send_head := head
      send_load := fun i => if i = 0 then load0 else if i = 1 then load1 else chip.send_load i
      notify.pin_assignment_def := if cmd = VDM_DP_CONFIG then pin else chip.notify.pin_assignment_def
      log := .vdm cmd :: chip.log }
  let load1 := chip.send_load 1
  if cmd = VDM_DISCOVERY_ID ∨ cmd = VDM_DISCOVERY_SVIDS ∨ cmd = VDM_ATTENTION then
    put one (load ||| (0xff00#32 <<< 16)) load1
  else if cmd = VDM_DISCOVERY_MODES then
    put one (load ||| ((chip.svid_at (chip.val_tmp >>> 1).toNat).setWidth 32 <<< 16)) load1
  else if cmd = VDM_ENTER_MODE then
    put one (load ||| (BitVec.ofNat 32 mode <<< 8) ||| (0xff01#32 <<< 16)) load1
  else if cmd = VDM_EXIT_MODE then
    put one (load ||| (0x0f#32 <<< 8) ||| (0xff01#32 <<< 16)) load1
  else if cmd = VDM_DP_STATUS_UPDATE then
    put two (load ||| (1#32 <<< 8) ||| (0xff01#32 <<< 16)) 5#32
  else if cmd = VDM_DP_CONFIG then
    put two (load ||| (1#32 <<< 8) ||| (0xff01#32 <<< 16)) ((pin <<< 8) ||| (1#32 <<< 2) ||| 2#32)
  else put head load load1

/-! ## Sending -/

/-- The four bytes of a word in memory order. -/
def le32 (w : BitVec 32) : List Byte :=
  [w.setWidth 8, (w >>> 8).setWidth 8, (w >>> 16).setWidth 8, (w >>> 24).setWidth 8]

/-- The frame `policy_send_data` assembles. -/
def senddata (chip : Chip) : List Byte :=
  let len := PD_HEADER_CNT chip.send_head <<< 2
  [FUSB_TKN_SYNC1, FUSB_TKN_SYNC1, FUSB_TKN_SYNC1, FUSB_TKN_SYNC2,
    FUSB_TKN_PACKSYM ||| (BitVec.ofNat 8 (len + 2) &&& 0x1f#8),
    (chip.send_head &&& 0xff#16).setWidth 8, ((chip.send_head >>> 8) &&& 0xff#16).setWidth 8] ++
  ((List.finRange 7).flatMap fun i => le32 (chip.send_load i)).take len ++
  [FUSB_TKN_JAMCRC, FUSB_TKN_EOP, FUSB_TKN_TXOFF, FUSB_TKN_TXON]

/-- `policy_send_data`; the source returns `tx_state`, which callers read off the result. -/
def policy_send_data (chip : Chip) : Chip :=
  match chip.tx_state with
  | .tx_idle => { chip with tx_state := .tx_busy, log := .fifo (senddata chip) chip.conn_state :: chip.log }
  | _ => chip

/-- Sends a hard reset, or waits for the one that was sent. -/
def policy_send_hardrst (chip : Chip) (evt : Evt) : Chip :=
  match chip.tx_state with
  | .tx_idle => timer_state_start { chip with tx_state := .tx_busy, log := .hardrst :: chip.log } T_BMC_TIMEOUT
  | _ => if evt.timer_state then { chip with tx_state := .tx_success } else chip

/-- `case 0` of the sending states: build a message and go to `case 1`. -/
def build_mesg (chip : Chip) (cmd : Nat) (is_DMT : Bool) : Chip :=
  { set_mesg chip cmd is_DMT with tx_state := .tx_idle, sub_state := 1 }

/-- `tmp = policy_send_data(chip)` followed by its two tests. -/
def send_then (chip : Chip) (success failed : Chip → Chip) : Chip :=
  let chip := policy_send_data chip
  match chip.tx_state with
  | .tx_success => success chip
  | .tx_failed => failed chip
  | _ => chip

end Fusb302
