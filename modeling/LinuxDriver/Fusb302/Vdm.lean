import LinuxDriver.Fusb302.Message
/-!
# Alternate modes

Vendor-defined messages: what the driver does with a received one, and the
machine that discovers and enters DisplayPort mode. The six `vdm_send_*`
functions of the source are one function with different commands, completion
tests and clean-up.
-/

namespace Fusb302

/-! ## Received messages -/

/-- Iteration `i` of the loop over DISCOVERY_SVIDS objects, `k` of them left. -/
def store_svids (chip : Chip) : Nat → Chip
  | 0 => chip
  | k + 1 =>
    let i := 5 - k
    let tmp := (chip.rec_obj (i + 1 : Nat) >>> 16) &&& 0xffff#32
    if tmp = 0#32 then chip
    else
      let chip := { chip with
        vdm_svid := fun j => if j.val = i * 2 then tmp.setWidth 16 else chip.vdm_svid j
        vdm_svid_num := chip.vdm_svid_num + 1 }
      let tmp := chip.rec_obj (i + 1 : Nat) &&& 0xffff#32
      if tmp = 0#32 then chip
      else
        store_svids { chip with
          vdm_svid := fun j => if j.val = i * 2 + 1 then tmp.setWidth 16 else chip.vdm_svid j
          vdm_svid_num := chip.vdm_svid_num + 1 } k

/-- DISCOVERY_MODES acknowledged: keep the first mode with pins. -/
def store_mode (chip : Chip) : Chip :=
  if PD_HEADER_CNT chip.rec_head > 1 then
    let tmp := chip.rec_obj 1
    if (tmp >>> 8) &&& 0x3f#32 = 0#32 ∧ (tmp >>> 16) &&& 0x3f#32 = 0#32 then
      { chip with val_tmp := chip.val_tmp ||| 1#8 }
    else
      { chip with
        notify.dp_caps := tmp
        notify.pin_assignment_def := 0#32
        notify.pin_assignment_support := PD_DP_PIN_CAPS tmp
        val_tmp := chip.val_tmp ||| 1#8 }
  else chip

/-- An acknowledged vendor command. -/
def process_vdm_ack (chip : Chip) (cmd : Nat) : Chip :=
  if cmd = VDM_DISCOVERY_ID then { chip with vdm_id := chip.rec_obj 1 }
  else if cmd = VDM_DISCOVERY_SVIDS then store_svids chip 6
  else if cmd = VDM_DISCOVERY_MODES then store_mode chip
  else if cmd = VDM_ENTER_MODE then { chip with val_tmp := 1#8 }
  else if cmd = VDM_DP_STATUS_UPDATE then
    { chip with notify.dp_status := GET_DP_STATUS (chip.rec_obj 1), val_tmp := 1#8 }
  else if cmd = VDM_DP_CONFIG then
    { chip with val_tmp := 1#8, notify.is_enter_mode := true, log := .enter_mode :: chip.log }
  else chip

/-- A received vendor message. -/
def process_vdm_msg (chip : Chip) : Chip :=
  let vdm_header := chip.rec_obj 0
  if GET_VDMHEAD_STRUCT_TYPE vdm_header = 0 then chip
  else if GET_VDMHEAD_CMD_TYPE vdm_header = VDM_TYPE_INIT then
    if GET_VDMHEAD_CMD vdm_header = VDM_ATTENTION then
      platform_fusb_notify
        { chip with notify.dp_status := GET_DP_STATUS (chip.rec_obj 1), notify.attention := true }
    else chip
  else if GET_VDMHEAD_CMD_TYPE vdm_header = VDM_TYPE_ACK then
    process_vdm_ack (chip.emit (.ack (GET_VDMHEAD_CMD vdm_header))) (GET_VDMHEAD_CMD vdm_header)
  else if GET_VDMHEAD_CMD_TYPE vdm_header = VDM_TYPE_NACK then set_vdm_state chip .ERR
  else chip

/-! ## The discovery machine -/

/-- What the `vdm_send_*` functions return: 0 or a negative error. -/
inductive VdmRet
  | zero
  | EPIPE
  | ETIMEDOUT
  | EINPROGRESS
  deriving DecidableEq

/-- `default:` of the `vdm_send_*` functions: wait for the acknowledgement. -/
def vdm_send.case_default (acked : Chip → Bool) (finish : Chip → Chip × VdmRet) (chip : Chip) (evt : Evt) :
    Chip × VdmRet :=
  if acked chip then finish { chip with vdm_send_state := 0 }
  else if evt.timer_state then ({ set_vdm_state chip .ERR with work_continue := true }, .ETIMEDOUT)
  else (chip, .EINPROGRESS)

/-- `case 1:` of the `vdm_send_*` functions: wait for the frame to be sent. -/
def vdm_send.case_1 (acked : Chip → Bool) (finish : Chip → Chip × VdmRet) (chip : Chip) (evt : Evt) :
    Chip × VdmRet :=
  let chip := policy_send_data chip
  match chip.tx_state with
  | .tx_success =>
    vdm_send.case_default acked finish (timer_state_start { chip with vdm_send_state := 2 } T_SENDER_RESPONSE) evt
  | .tx_failed => (set_vdm_state chip .ERR, .EPIPE)
  | _ => (chip, .EINPROGRESS)

/-- The common shape of the `vdm_send_*` functions. `start` is what `case 0`
clears for this command, `acked` the completion test, `finish` what follows it. -/
def vdm_send (cmd mode : Nat) (start : Chip → Chip) (acked : Chip → Bool) (finish : Chip → Chip × VdmRet)
    (chip : Chip) (evt : Evt) : Chip × VdmRet :=
  match chip.vdm_send_state with
  | 0 =>
    let chip := start (set_vdm_mesg chip cmd VDM_TYPE_INIT mode)
    vdm_send.case_1 acked finish { chip with tx_state := .tx_idle, vdm_send_state := 1 } evt
  | 1 => vdm_send.case_1 acked finish chip evt
  | _ => vdm_send.case_default acked finish chip evt

/-- Asks for the identity. -/
def vdm_send_discoveryid : Chip → Evt → Chip × VdmRet :=
  vdm_send VDM_DISCOVERY_ID 0 (fun chip => { chip with vdm_id := 0#32 }) (fun chip => chip.vdm_id != 0#32)
    (fun chip => (chip, .zero))

/-- Asks for the SVIDs. -/
def vdm_send_discoverysvid : Chip → Evt → Chip × VdmRet :=
  vdm_send VDM_DISCOVERY_SVIDS 0 (fun chip => { chip with vdm_svid := fun _ => 0#16, vdm_svid_num := 0 })
    (fun chip => chip.vdm_svid_num != 0) (fun chip => (chip, .zero))

/-- Asks for the modes of each SVID. -/
def vdm_send_discoverymodes (chip : Chip) (evt : Evt) : Chip × VdmRet :=
  if (chip.val_tmp >>> 1).toNat ≠ chip.vdm_svid_num then
    vdm_send VDM_DISCOVERY_MODES 0 id (fun chip => chip.val_tmp &&& 1#8 != 0#8)
      (fun chip => ({ chip with
        val_tmp := (chip.val_tmp &&& 0xfe#8) + 2#8, work_continue := true, log := .query :: chip.log },
        .EINPROGRESS)) chip evt
  else ({ chip with val_tmp := 0#8 }, .zero)

/-- `val_tmp` is the acknowledgement of the last three commands. -/
def vdm_send_val (cmd mode : Nat) (start : Chip → Chip) : Chip → Evt → Chip × VdmRet :=
  vdm_send cmd mode start (fun chip => chip.val_tmp != 0#8) (fun chip => ({ chip with val_tmp := 0#8 }, .zero))

/-- Enters DisplayPort. -/
def vdm_send_entermode : Chip → Evt → Chip × VdmRet :=
  vdm_send_val VDM_ENTER_MODE 1 fun chip => { chip with notify.is_enter_mode := false }

/-- Asks for the status. -/
def vdm_send_getdpstatus : Chip → Evt → Chip × VdmRet :=
  vdm_send_val VDM_DP_STATUS_UPDATE 1 id

/-- Configures the pins. -/
def vdm_send_dpconfig : Chip → Evt → Chip × VdmRet :=
  vdm_send_val VDM_DP_CONFIG 0 id

/-- Runs a stage and goes on by its result. -/
def AUTO_VDM_HANDLE (func : Chip → Evt → Chip × VdmRet) (chip : Chip) (evt : Evt) : Chip :=
  let r := func chip evt
  match r.2 with
  | .zero => { set_vdm_state r.1 r.1.vdm_state.next with work_continue := true }
  | .EINPROGRESS => r.1
  | _ => set_vdm_state r.1 .ERR

/-- The discovery, one stage at a time. -/
def auto_vdm_machine (chip : Chip) (evt : Evt) : Chip :=
  match chip.vdm_state with
  | .DISCOVERY_ID => AUTO_VDM_HANDLE vdm_send_discoveryid chip evt
  | .DISCOVERY_SVID => AUTO_VDM_HANDLE vdm_send_discoverysvid chip evt
  | .DISCOVERY_MODES => AUTO_VDM_HANDLE vdm_send_discoverymodes chip evt
  | .ENTER_MODE => AUTO_VDM_HANDLE vdm_send_entermode chip evt
  | .UPDATE_STATUS => AUTO_VDM_HANDLE vdm_send_getdpstatus chip evt
  | .DP_CONFIG => AUTO_VDM_HANDLE vdm_send_dpconfig chip evt
  | .NOTIFY => set_vdm_state (platform_fusb_notify chip) .READY
  | _ => chip

/-- The discovery is not over. -/
def VDM_IS_ACTIVE (chip : Chip) : Bool := chip.notify.data_role == .DFP && chip.vdm_state.ltReady

end Fusb302
