import LinuxDriver.Fusb302.Machine
import LinuxDriver.Fusb302.Wires
import LinuxDriver.Lib.Trace
/-!
# Frames

What the functions under the handlers leave alone, and what the message
builders and state changes do to the fields the later modules reason about.
-/

namespace Fusb302

variable (chip : Chip)

/-! ## The physical layer -/

/-- Only registers, CC fields and hardware readings differ. An `abbrev`, so
`simp` uses each conjunct as a rewrite rule. -/
abbrev PolicyKept (chip' chip : Chip) : Prop :=
  chip'.toPolicy = chip.toPolicy ∧ chip'.toTimers = chip.toTimers ∧ chip'.toTx = chip.toTx ∧ chip'.toRx = chip.toRx ∧
    chip'.toSupply = chip.toSupply ∧ chip'.toVdm = chip.toVdm ∧ chip'.notify = chip.notify ∧ chip'.log = chip.log ∧
    chip'.gpio_vbus_5v = chip.gpio_vbus_5v ∧ chip'.gpio_vbus_other = chip.gpio_vbus_other ∧
    chip'.charge_dev = chip.charge_dev

variable {chip} in
theorem PolicyKept.ite {a b : Chip} {c : Prop} [Decidable c] (ha : PolicyKept a chip) (hb : PolicyKept b chip) :
    PolicyKept (if c then a else b) chip := by
  split
  · exact ha
  · exact hb

@[simp] theorem regmap_write_kept (reg : Reg) (val : Byte) : PolicyKept (regmap_write chip reg val) chip := by
  simp [PolicyKept, regmap_write]

@[simp] theorem regmap_update_bits_kept (reg : Reg) (mask val : Byte) :
    PolicyKept (regmap_update_bits chip reg mask val) chip := by
  simp [PolicyKept, regmap_update_bits]

@[simp] theorem status0_read_kept : PolicyKept (status0_read chip) chip := by
  simp [PolicyKept, status0_read]

@[simp] theorem tcpm_check_vbus_kept : PolicyKept (tcpm_check_vbus chip).1 chip := by
  simp [PolicyKept, tcpm_check_vbus]

@[simp] theorem get_cc_retry_kept (store : Byte) (retry comp_times : Nat) (cc_measure : CcVolt) :
    PolicyKept (get_cc_retry store retry comp_times chip cc_measure).1 chip := by
  induction retry generalizing chip comp_times cc_measure with
  | zero => simp [PolicyKept, get_cc_retry]
  | succ retry ih =>
    simp only [get_cc_retry]
    by_cases hc : bit ((regmap_write chip .MEASURE chip.cc_meas_high).status0 0) STATUS0_COMP
    · by_cases h3 : comp_times + 1 = 3 <;> simp [PolicyKept, hc, h3, ih]
    · simp [PolicyKept, hc, ih]

@[simp] theorem get_cc_source_kept : PolicyKept (get_cc_source chip).1 chip := by
  unfold get_cc_source
  dsimp only
  split <;> split <;> simp [PolicyKept]

@[simp] theorem tcpm_get_cc_kept : PolicyKept (tcpm_get_cc chip).chip chip := by
  unfold tcpm_get_cc
  split <;> simp [PolicyKept, get_cc_sink]

@[simp] theorem tcpm_set_cc_pull_mode_kept (mode : CcMode) : PolicyKept (tcpm_set_cc_pull_mode chip mode) chip := by
  unfold tcpm_set_cc_pull_mode
  exact PolicyKept.ite (by simp [PolicyKept]) (by simp [PolicyKept])

@[simp] theorem tcpm_set_cc_kept (mode : RoleMode) : PolicyKept (tcpm_set_cc chip mode) chip := by
  cases mode <;> simp [PolicyKept, tcpm_set_cc]

@[simp] theorem tcpm_set_rx_enable_kept (enable : Bool) : PolicyKept (tcpm_set_rx_enable chip enable) chip := by
  cases enable <;> simp [PolicyKept, tcpm_set_rx_enable, fusb302_flush_rx_fifo]

@[simp] theorem tcpm_set_msg_header_kept : PolicyKept (tcpm_set_msg_header chip) chip := by
  simp [PolicyKept, tcpm_set_msg_header]

@[simp] theorem tcpm_set_polarity_kept (polarity : TypecCcPolarity) :
    PolicyKept (tcpm_set_polarity chip polarity) chip := by
  simp [PolicyKept, tcpm_set_polarity]

@[simp] theorem tcpm_set_vconn_kept (enable : Bool) : PolicyKept (tcpm_set_vconn chip enable) chip := by
  simp [PolicyKept, tcpm_set_vconn]

@[simp] theorem tcpm_select_rp_value_kept (rp : TcpmRpValue) : PolicyKept (tcpm_select_rp_value chip rp) chip := by
  simp [PolicyKept, tcpm_select_rp_value]

/-! ## VBUS and notification -/

/-- The level `platform_set_vbus_lvl_enable` leaves on `gpio_vbus_5v`. -/
def vbus_level (chip : Chip) (vbus_5v vbus_other : Bool) : Option Bool :=
  chip.gpio_vbus_5v.map fun _ => if chip.gpio_vbus_other.isSome then vbus_other else vbus_5v

@[simp] theorem platform_set_vbus_lvl_enable_frame (vbus_5v vbus_other : Bool) :
    let chip' := platform_set_vbus_lvl_enable chip vbus_5v vbus_other
    chip'.toPolicy = chip.toPolicy ∧ chip'.toTimers = chip.toTimers ∧ chip'.toTx = chip.toTx ∧
      chip'.toRx = chip.toRx ∧ chip'.toSupply = chip.toSupply ∧ chip'.toVdm = chip.toVdm ∧ chip'.toCc = chip.toCc ∧
      chip'.notify = chip.notify ∧ chip'.log = chip.log ∧ chip'.gpio_vbus_other = chip.gpio_vbus_other ∧
      chip'.charge_dev = chip.charge_dev ∧ chip'.gpio_vbus_5v = vbus_level chip vbus_5v vbus_other := by
  simp only [platform_set_vbus_lvl_enable, vbus_level, true_and]
  cases chip.gpio_vbus_other <;> cases chip.gpio_vbus_5v <;> rfl

@[simp] theorem tcpm_init_frame :
    (tcpm_init chip).toPolicy = chip.toPolicy ∧ (tcpm_init chip).toTimers = chip.toTimers ∧
      (tcpm_init chip).toTx = chip.toTx ∧ (tcpm_init chip).toRx = chip.toRx ∧
      (tcpm_init chip).toSupply = chip.toSupply ∧ (tcpm_init chip).toVdm = chip.toVdm ∧
      (tcpm_init chip).notify = { chip.notify with is_cc_connected := false } ∧
      (tcpm_init chip).log = .pd_reset :: chip.log ∧ (tcpm_init chip).gpio_vbus_other = chip.gpio_vbus_other ∧
      (tcpm_init chip).charge_dev = chip.charge_dev ∧ (tcpm_init chip).gpio_vbus_5v = vbus_level chip false false := by
  simp [tcpm_init, fusb302_pd_reset, Chip.emit]

@[simp] theorem platform_fusb_notify_frame :
    let chip' := platform_fusb_notify chip
    chip'.toPolicy = chip.toPolicy ∧ chip'.toTimers = chip.toTimers ∧ chip'.toTx = chip.toTx ∧
      chip'.toRx = chip.toRx ∧ chip'.toSupply = chip.toSupply ∧ chip'.toVdm = chip.toVdm ∧
      chip'.toCc = chip.toCc ∧ chip'.toHw = chip.toHw ∧ chip'.notify.power_role = chip.notify.power_role ∧
      chip'.notify.data_role = chip.notify.data_role ∧
      chip'.notify.is_cc_connected = chip.notify.is_cc_connected ∧
      chip'.notify.is_pd_connected = chip.notify.is_pd_connected ∧
      chip'.notify.is_enter_mode = chip.notify.is_enter_mode := by
  simp [platform_fusb_notify]

/-! ## Building and sending -/

@[simp] theorem set_mesg_frame (cmd : Nat) (is_DMT : Bool) :
    let chip' := set_mesg chip cmd is_DMT
    chip'.toPolicy = chip.toPolicy ∧ chip'.toTimers = chip.toTimers ∧ chip'.toRx = chip.toRx ∧
      chip'.toSupply = chip.toSupply ∧ chip'.toVdm = chip.toVdm ∧ chip'.toCc = chip.toCc ∧
      chip'.notify = chip.notify ∧ chip'.gpio_vbus_5v = chip.gpio_vbus_5v ∧
      chip'.gpio_vbus_other = chip.gpio_vbus_other ∧ chip'.charge_dev = chip.charge_dev ∧
      chip'.tx_state = chip.tx_state ∧ chip'.msg_id = chip.msg_id := by
  simp [set_mesg]

/-- Only a REQUEST is logged twice. -/
theorem set_mesg_log {cmd : Nat} {is_DMT : Bool} (h : (is_DMT && cmd == DMT_REQUEST) = false) :
    (set_mesg chip cmd is_DMT).log = .mesg cmd is_DMT :: chip.log := by
  simp [set_mesg, h]

variable {chip} in
theorem build_request_log :
    (build_mesg chip DMT_REQUEST true).log =
      .requested chip.pos_power (chip.rec_obj ((chip.pos_power : Int) - 1)) chip.charge_dev ::
        .mesg DMT_REQUEST true :: chip.log := rfl

@[simp] theorem build_mesg_frame (cmd : Nat) (is_DMT : Bool) :
    let chip' := build_mesg chip cmd is_DMT
    chip'.conn_state = chip.conn_state ∧ chip'.sub_state = 1 ∧ chip'.val_tmp = chip.val_tmp ∧
      chip'.work_continue = chip.work_continue ∧ chip'.delay_cc = chip.delay_cc ∧ chip'.toTimers = chip.toTimers ∧
      chip'.toRx = chip.toRx ∧ chip'.toSupply = chip.toSupply ∧ chip'.toVdm = chip.toVdm ∧ chip'.toCc = chip.toCc ∧
      chip'.notify = chip.notify ∧ chip'.gpio_vbus_5v = chip.gpio_vbus_5v ∧
      chip'.gpio_vbus_other = chip.gpio_vbus_other ∧ chip'.charge_dev = chip.charge_dev ∧
      chip'.tx_state = .tx_idle ∧ chip'.msg_id = chip.msg_id ∧ chip'.log = (set_mesg chip cmd is_DMT).log := by
  simp [build_mesg]

@[simp] theorem policy_send_data_frame :
    let chip' := policy_send_data chip
    chip'.toPolicy = chip.toPolicy ∧ chip'.toTimers = chip.toTimers ∧ chip'.toRx = chip.toRx ∧
      chip'.toSupply = chip.toSupply ∧ chip'.toVdm = chip.toVdm ∧ chip'.toCc = chip.toCc ∧
      chip'.notify = chip.notify ∧ chip'.gpio_vbus_5v = chip.gpio_vbus_5v ∧
      chip'.gpio_vbus_other = chip.gpio_vbus_other ∧ chip'.charge_dev = chip.charge_dev ∧
      chip'.send_head = chip.send_head ∧ chip'.send_load = chip.send_load ∧ chip'.msg_id = chip.msg_id := by
  cases h : chip.tx_state <;> simp [policy_send_data, h]

/-- A frame is written exactly when the transmitter is idle. -/
theorem policy_send_data_idle (h : chip.tx_state = .tx_idle) :
    policy_send_data chip =
      { chip with tx_state := .tx_busy, log := .fifo (senddata chip) chip.conn_state :: chip.log } := by
  simp [policy_send_data, h]

@[simp] theorem policy_send_data_tx_state :
    (policy_send_data chip).tx_state = if chip.tx_state = .tx_idle then .tx_busy else chip.tx_state := by
  cases h : chip.tx_state <;> simp [policy_send_data, h]

theorem policy_send_data_of_ne_idle (h : chip.tx_state ≠ .tx_idle) : policy_send_data chip = chip := by
  cases h' : chip.tx_state <;> simp_all [policy_send_data]

@[simp] theorem policy_send_hardrst_frame (evt : Evt) :
    let chip' := policy_send_hardrst chip evt
    chip'.toPolicy = chip.toPolicy ∧ chip'.toRx = chip.toRx ∧ chip'.toSupply = chip.toSupply ∧
      chip'.toVdm = chip.toVdm ∧ chip'.toCc = chip.toCc ∧ chip'.notify = chip.notify ∧
      chip'.gpio_vbus_5v = chip.gpio_vbus_5v ∧ chip'.gpio_vbus_other = chip.gpio_vbus_other ∧
      chip'.charge_dev = chip.charge_dev ∧ chip'.send_head = chip.send_head ∧ chip'.send_load = chip.send_load ∧
      chip'.msg_id = chip.msg_id ∧ chip'.timer_mux = chip.timer_mux := by
  unfold policy_send_hardrst
  split
  · simp [timer_state_start]
  · split <;> simp

/-- What `send_then` does, by the transmitter's state. -/
theorem send_then_cases (success failed : Chip → Chip) :
    (chip.tx_state = .tx_success ∧ send_then chip success failed = success chip) ∨
      (chip.tx_state = .tx_failed ∧ send_then chip success failed = failed chip) ∨
      (chip.tx_state ≠ .tx_success ∧ chip.tx_state ≠ .tx_failed ∧
        send_then chip success failed = policy_send_data chip) := by
  cases h : chip.tx_state <;> simp [send_then, policy_send_data, h]

/-- A freshly built message is written and nothing else happens. -/
@[simp] theorem send_then_build_mesg (cmd : Nat) (is_DMT : Bool) (success failed : Chip → Chip) :
    send_then (build_mesg chip cmd is_DMT) success failed = policy_send_data (build_mesg chip cmd is_DMT) := by
  simp [send_then, policy_send_data]

/-! ## Receiving -/

/-- Receiving overwrites the message registers and nothing else. -/
theorem get_message_frame (fifo : List PdMsg) :
    let chip' := get_message chip fifo
    chip'.conn_state = chip.conn_state ∧ chip'.notify.power_role = chip.notify.power_role ∧
      chip'.toPolicy = chip.toPolicy ∧ chip'.toTimers = chip.toTimers ∧ chip'.toTx = chip.toTx ∧
      chip'.toSupply = chip.toSupply ∧ chip'.toVdm = chip.toVdm ∧ chip'.toCc = chip.toCc ∧
      chip'.notify = chip.notify ∧ chip'.gpio_vbus_5v = chip.gpio_vbus_5v ∧
      chip'.gpio_vbus_other = chip.gpio_vbus_other ∧ chip'.charge_dev = chip.charge_dev := by
  induction fifo generalizing chip with
  | nil => simp [get_message]
  | cons m fifo ih =>
    unfold get_message
    split
    · exact ih { chip with rec_head := m.head }
    · simp

theorem tcpm_get_message_frame :
    let chip' := tcpm_get_message chip
    chip'.conn_state = chip.conn_state ∧ chip'.notify.power_role = chip.notify.power_role ∧
      chip'.toPolicy = chip.toPolicy ∧ chip'.toTimers = chip.toTimers ∧ chip'.toTx = chip.toTx ∧
      chip'.toSupply = chip.toSupply ∧ chip'.toVdm = chip.toVdm ∧ chip'.toCc = chip.toCc ∧
      chip'.notify = chip.notify ∧ chip'.gpio_vbus_5v = chip.gpio_vbus_5v ∧
      chip'.gpio_vbus_other = chip.gpio_vbus_other ∧ chip'.charge_dev = chip.charge_dev :=
  get_message_frame chip chip.fifo

theorem get_message_log (chip : Chip) (fifo : List PdMsg) :
    (get_message chip fifo).log = chip.log ∨ ∃ m, (get_message chip fifo).log = .recv m :: chip.log := by
  induction fifo generalizing chip with
  | nil => exact Or.inl rfl
  | cons m fifo ih =>
    unfold get_message
    split
    · exact ih { chip with rec_head := m.head }
    · exact Or.inr ⟨m, rfl⟩

/-! ## Choosing a supply -/

/-- What `fusb_set_pos_power` and its caller leave alone. -/
abbrev ChoiceKept (chip' chip : Chip) : Prop :=
  chip'.toPolicy = chip.toPolicy ∧ chip'.toTimers = chip.toTimers ∧ chip'.toTx = chip.toTx ∧ chip'.toRx = chip.toRx ∧
    chip'.toVdm = chip.toVdm ∧ chip'.toCc = chip.toCc ∧ chip'.notify = chip.notify ∧ chip'.toHw = chip.toHw ∧
    chip'.hardrst_count = chip.hardrst_count ∧ chip'.n_caps_used = chip.n_caps_used ∧
    chip'.partner_cap = chip.partner_cap

@[simp] theorem set_pos_power_from_kept (max_vol max_cur : Int) (i : Nat) :
    ChoiceKept (set_pos_power_from chip max_vol max_cur i) chip := by
  induction i with
  | zero => simp [ChoiceKept, set_pos_power_from]
  | succ i ih =>
    unfold set_pos_power_from
    split
    · simp [ChoiceKept]
    · exact ih

@[simp] theorem fusb302_set_pos_power_by_charge_ic_kept :
    ChoiceKept (fusb302_set_pos_power_by_charge_ic chip) chip := by
  unfold fusb302_set_pos_power_by_charge_ic fusb_set_pos_power
  dsimp only
  split
  · simp [ChoiceKept]
  · split <;> simp [ChoiceKept]

variable {chip} in
@[simp] theorem evaluate_caps_frame :
    let chip' := fusb_state_snk_evaluate_caps chip
    chip'.sub_state = 0 ∧ chip'.val_tmp = 0#8 ∧ chip'.toTimers = chip.toTimers ∧ chip'.toTx = chip.toTx ∧
      chip'.toRx = chip.toRx ∧ chip'.toVdm = chip.toVdm ∧ chip'.notify = chip.notify ∧ chip'.log = chip.log ∧
      chip'.charge_dev = chip.charge_dev ∧ chip'.gpio_vbus_5v = chip.gpio_vbus_5v ∧
      chip'.gpio_vbus_other = chip.gpio_vbus_other := by
  unfold fusb_state_snk_evaluate_caps
  dsimp only
  split <;> simp [set_state]

/-! ## Vendor-defined messages -/

/-- What both VDM functions leave alone. -/
abbrev VdmKept (chip' chip : Chip) : Prop :=
  chip'.conn_state = chip.conn_state ∧ chip'.sub_state = chip.sub_state ∧ chip'.toRx = chip.toRx ∧
    chip'.toSupply = chip.toSupply ∧ chip'.toCc = chip.toCc ∧ chip'.notify.power_role = chip.notify.power_role ∧
    chip'.notify.data_role = chip.notify.data_role ∧
    chip'.notify.is_cc_connected = chip.notify.is_cc_connected ∧
    chip'.notify.is_pd_connected = chip.notify.is_pd_connected ∧ chip'.gpio_vbus_5v = chip.gpio_vbus_5v ∧
    chip'.gpio_vbus_other = chip.gpio_vbus_other ∧ chip'.timer_mux = chip.timer_mux ∧ chip'.msg_id = chip.msg_id

@[simp] theorem store_svids_kept (k : Nat) : VdmKept (store_svids chip k) chip := by
  induction k generalizing chip with
  | zero => simp [VdmKept, store_svids]
  | succ k ih =>
    unfold store_svids
    dsimp only
    split
    · simp [VdmKept]
    · split <;> simp [VdmKept, ih]

@[simp] theorem store_mode_kept : VdmKept (store_mode chip) chip := by
  unfold store_mode
  dsimp only
  split
  · split <;> simp [VdmKept]
  · simp [VdmKept]

@[simp] theorem process_vdm_ack_kept (cmd : Nat) : VdmKept (process_vdm_ack chip cmd) chip := by
  unfold process_vdm_ack
  repeat' split
  all_goals simp [VdmKept]

@[simp] theorem process_vdm_msg_kept : VdmKept (process_vdm_msg chip) chip := by
  unfold process_vdm_msg
  dsimp only
  repeat' split
  all_goals simp [VdmKept, set_vdm_state, Chip.emit]

/-- A vendor-defined message is built in the send buffer: its header only adds
the number of objects, and nothing else of the port changes but the log. -/
def Builds (cmd : Nat) (chip chip' : Chip) : Prop :=
  ∃ (cnt : BitVec 16) (load : Fin 7 → BitVec 32) (pin : BitVec 32), chip' = { chip with
    send_head := base_head chip ||| (BitVec.ofNat 16 DMT_VENDERDEFINED &&& 0xf#16) ||| (cnt <<< 12)
    send_load := load
    notify.pin_assignment_def := pin
    log := .vdm cmd :: chip.log }

theorem builds_either {chip : Chip} {cmd : Nat} {p : Prop} [Decidable p] {a b : Chip} (ha : Builds cmd chip a) (hb : Builds cmd chip b) :
    Builds cmd chip (if p then a else b) := by
  split
  · exact ha
  · exact hb

theorem set_vdm_mesg_builds (chip : Chip) (cmd type mode : Nat) : Builds cmd chip (set_vdm_mesg chip cmd type mode) := by
  unfold set_vdm_mesg
  dsimp only
  iterate 6 refine builds_either ⟨_, _, _, rfl⟩ ?_
  -- no object is announced
  have h0 : ∀ head : BitVec 16, head = head ||| (0#16 <<< 12) := fun head => by simp
  rw [h0 (base_head chip ||| (BitVec.ofNat 16 DMT_VENDERDEFINED &&& 0xf#16))]
  exact ⟨_, _, _, rfl⟩

@[simp] theorem set_vdm_mesg_kept (cmd type mode : Nat) : VdmKept (set_vdm_mesg chip cmd type mode) chip := by
  obtain ⟨cnt, load, pin, he⟩ := set_vdm_mesg_builds chip cmd type mode
  rw [he]
  simp [VdmKept]

variable {acked : Chip → Bool} {start : Chip → Chip} {finish : Chip → Chip × VdmRet}

theorem vdm_send_default_kept (hf : ∀ c, VdmKept (finish c).1 c) (evt : Evt) :
    VdmKept (vdm_send.case_default acked finish chip evt).1 chip := by
  unfold vdm_send.case_default
  split
  · simp [VdmKept, hf]
  · split <;> simp [VdmKept, set_vdm_state]

theorem vdm_send_case_1_kept (hf : ∀ c, VdmKept (finish c).1 c) (evt : Evt) :
    VdmKept (vdm_send.case_1 acked finish chip evt).1 chip := by
  unfold vdm_send.case_1
  dsimp only
  split <;> simp [VdmKept, vdm_send_default_kept _ hf, timer_state_start, set_vdm_state]

theorem vdm_send_kept (hs : ∀ c, VdmKept (start c) c) (hf : ∀ c, VdmKept (finish c).1 c) (cmd mode : Nat) (evt : Evt) :
    VdmKept (vdm_send cmd mode start acked finish chip evt).1 chip := by
  unfold vdm_send
  split <;> simp [VdmKept, vdm_send_case_1_kept _ hf, vdm_send_default_kept _ hf, hs]

theorem AUTO_VDM_HANDLE_kept {func : Chip → Evt → Chip × VdmRet} (hf : ∀ c evt, VdmKept (func c evt).1 c)
    (evt : Evt) : VdmKept (AUTO_VDM_HANDLE func chip evt) chip := by
  unfold AUTO_VDM_HANDLE
  dsimp only
  split <;> simp [VdmKept, set_vdm_state, hf]

theorem vdm_send_discoverymodes_kept (evt : Evt) : VdmKept (vdm_send_discoverymodes chip evt).1 chip := by
  unfold vdm_send_discoverymodes
  split
  · exact vdm_send_kept _ (by simp [VdmKept]) (by simp [VdmKept]) ..
  · simp [VdmKept]

@[simp] theorem auto_vdm_machine_kept (evt : Evt) : VdmKept (auto_vdm_machine chip evt) chip := by
  unfold auto_vdm_machine
  split
  · exact AUTO_VDM_HANDLE_kept _ (fun c _ => vdm_send_kept c (by simp [VdmKept]) (by simp [VdmKept]) ..) evt
  · exact AUTO_VDM_HANDLE_kept _ (fun c _ => vdm_send_kept c (by simp [VdmKept]) (by simp [VdmKept]) ..) evt
  · exact AUTO_VDM_HANDLE_kept _ vdm_send_discoverymodes_kept evt
  · exact AUTO_VDM_HANDLE_kept _ (fun c _ => vdm_send_kept c (by simp [VdmKept]) (by simp [VdmKept]) ..) evt
  · exact AUTO_VDM_HANDLE_kept _ (fun c _ => vdm_send_kept c (by simp [VdmKept]) (by simp [VdmKept]) ..) evt
  · exact AUTO_VDM_HANDLE_kept _ (fun c _ => vdm_send_kept c (by simp [VdmKept]) (by simp [VdmKept]) ..) evt
  · simp [VdmKept, set_vdm_state]
  · simp [VdmKept]

/-! ## What the VDM functions log -/

/-- Entries of the VDM functions. -/
def Entry.talk : Entry → Prop
  | .vdm _ | .ack _ | .stage _ | .query | .enter_mode | .fifo .. => True
  | _ => False

/-- Only VDM entries are added. -/
abbrev Talks (chip' chip : Chip) : Prop := Trace.Added Entry.talk chip.log chip'.log

/-- Storing SVIDs only adds to their number. -/
theorem store_svids_frame (chip : Chip) (k : Nat) :
    let chip' := store_svids chip k
    chip.vdm_svid_num ≤ chip'.vdm_svid_num ∧ chip'.toPolicy = chip.toPolicy ∧ chip'.vdm_state = chip.vdm_state ∧
      chip'.vdm_send_state = chip.vdm_send_state ∧ chip'.vdm_id = chip.vdm_id ∧ chip'.notify = chip.notify ∧
      chip'.log = chip.log := by
  induction k generalizing chip with
  | zero => simp [store_svids]
  | succ k ih =>
    unfold store_svids
    dsimp only
    split
    · simp
    · split
      · simp
      · obtain ⟨hn, hr⟩ := ih _
        exact ⟨Nat.le_trans (Nat.le_add_right _ 2) hn, hr⟩

theorem store_mode_frame (chip : Chip) :
    let chip' := store_mode chip
    chip'.toVdm = chip.toVdm ∧ chip'.log = chip.log ∧ chip'.notify.data_role = chip.notify.data_role ∧
      chip'.notify.is_enter_mode = chip.notify.is_enter_mode ∧
      chip'.val_tmp = if PD_HEADER_CNT chip.rec_head > 1 then chip.val_tmp ||| 1#8 else chip.val_tmp := by
  unfold store_mode
  dsimp only
  split
  · split <;> simp
  · simp

/-- The upper bits of `val_tmp` count the mode queries, the lowest one says that one is answered. -/
theorem or_one_count (v : BitVec 8) : (v ||| 1#8) >>> 1 = v >>> 1 := by
  revert v
  decide

theorem count_query (v : BitVec 8) (n : Nat) (h : (v >>> 1).toNat < n) :
    (((v &&& 0xfe#8) + 2#8) >>> 1).toNat ≤ n ∧ ((v &&& 0xfe#8) + 2#8) &&& 1#8 = 0#8 := by
  have hb : ∀ v : BitVec 8, (((v &&& 0xfe#8) + 2#8) >>> 1).toNat ≤ (v >>> 1).toNat + 1 ∧
      ((v &&& 0xfe#8) + 2#8) &&& 1#8 = 0#8 := by decide
  obtain ⟨hle, h0⟩ := hb v
  exact ⟨by omega, h0⟩

theorem set_vdm_mesg_frame (chip : Chip) (cmd type mode : Nat) :
    let chip' := set_vdm_mesg chip cmd type mode
    chip'.toPolicy = chip.toPolicy ∧ chip'.toVdm = chip.toVdm ∧ chip'.notify.data_role = chip.notify.data_role ∧
      chip'.notify.is_enter_mode = chip.notify.is_enter_mode := by
  obtain ⟨cnt, load, pin, he⟩ := set_vdm_mesg_builds chip cmd type mode
  rw [he]
  exact ⟨rfl, rfl, rfl, rfl⟩

/-- Entries of a received vendor-defined message. -/
def Entry.reply : Entry → Prop
  | .ack _ | .stage _ | .enter_mode => True
  | _ => False

theorem process_vdm_ack_replies (cmd : Nat) : Trace.Added Entry.reply chip.log (process_vdm_ack chip cmd).log := by
  unfold process_vdm_ack
  repeat' split
  · exact .refl _
  · exact .of_eq (store_svids_frame chip 6).2.2.2.2.2.2
  · exact .of_eq (store_mode_frame chip).2.1
  · exact .refl _
  · exact .refl _
  · exact .cons (e := Entry.enter_mode) trivial (.refl _)
  · exact .refl _

theorem process_vdm_msg_replies : Trace.Added Entry.reply chip.log (process_vdm_msg chip).log := by
  unfold process_vdm_msg
  dsimp only
  repeat' split
  · exact .refl _
  · exact .of_eq (by simp)
  · exact .refl _
  · have ha : Trace.Added Entry.reply chip.log (chip.emit (.ack (GET_VDMHEAD_CMD (chip.rec_obj 0)))).log :=
      .cons (e := Entry.ack _) trivial (.refl _)
    exact ha.trans (process_vdm_ack_replies ..)
  · exact .cons (e := Entry.stage _) trivial (.refl _)
  · exact .refl _

theorem process_vdm_msg_talks : Talks (process_vdm_msg chip) chip := by
  refine (process_vdm_msg_replies chip).mono ?_
  intro e he
  cases e <;> trivial

theorem set_vdm_mesg_log (cmd type mode : Nat) : (set_vdm_mesg chip cmd type mode).log = .vdm cmd :: chip.log := by
  obtain ⟨cnt, load, pin, he⟩ := set_vdm_mesg_builds chip cmd type mode
  rw [he]

theorem policy_send_data_talks : Talks (policy_send_data chip) chip := by
  unfold policy_send_data
  split
  · exact .cons trivial (.refl _)
  · exact .refl _

theorem vdm_send_default_talks (hf : ∀ c, Talks (finish c).1 c) (evt : Evt) :
    Talks (vdm_send.case_default acked finish chip evt).1 chip := by
  unfold vdm_send.case_default
  repeat' split
  · exact hf _
  · exact .cons trivial (.refl _)
  · exact .refl _

theorem vdm_send_case_1_talks (hf : ∀ c, Talks (finish c).1 c) (evt : Evt) :
    Talks (vdm_send.case_1 acked finish chip evt).1 chip := by
  have hs := policy_send_data_talks chip
  unfold vdm_send.case_1
  dsimp only
  split
  · exact hs.trans (vdm_send_default_talks (timer_state_start { policy_send_data chip with vdm_send_state := 2 }
      T_SENDER_RESPONSE) hf evt)
  · exact .cons trivial hs
  · exact hs

theorem vdm_send_talks (hs : ∀ c, (start c).log = c.log) (hf : ∀ c, Talks (finish c).1 c) (cmd mode : Nat) (evt : Evt) :
    Talks (vdm_send cmd mode start acked finish chip evt).1 chip := by
  unfold vdm_send
  split
  · have hm : Talks { start (set_vdm_mesg chip cmd VDM_TYPE_INIT mode) with
        tx_state := .tx_idle, vdm_send_state := 1 } chip := by
      have hl : (start (set_vdm_mesg chip cmd VDM_TYPE_INIT mode)).log = .vdm cmd :: chip.log := by
        rw [hs, set_vdm_mesg_log]
      exact (Trace.Added.cons (e := .vdm cmd) trivial (.refl chip.log)).trans (.of_eq hl)
    exact hm.trans (vdm_send_case_1_talks _ hf evt)
  · exact vdm_send_case_1_talks _ hf evt
  · exact vdm_send_default_talks _ hf evt

theorem AUTO_VDM_HANDLE_talks {func : Chip → Evt → Chip × VdmRet} (hf : ∀ c evt, Talks (func c evt).1 c) (evt : Evt) :
    Talks (AUTO_VDM_HANDLE func chip evt) chip := by
  unfold AUTO_VDM_HANDLE
  dsimp only
  split
  · exact .cons trivial (hf chip evt)
  · exact hf chip evt
  · exact .cons trivial (hf chip evt)

theorem vdm_send_discoveryid_talks (evt : Evt) : Talks (vdm_send_discoveryid chip evt).1 chip := by
  unfold vdm_send_discoveryid
  apply vdm_send_talks
  · intro c
    rfl
  · intro c
    exact .refl _

theorem vdm_send_discoverysvid_talks (evt : Evt) : Talks (vdm_send_discoverysvid chip evt).1 chip := by
  unfold vdm_send_discoverysvid
  apply vdm_send_talks
  · intro c
    rfl
  · intro c
    exact .refl _

theorem vdm_send_discoverymodes_talks (evt : Evt) : Talks (vdm_send_discoverymodes chip evt).1 chip := by
  unfold vdm_send_discoverymodes
  split
  · apply vdm_send_talks
    · intro c
      rfl
    · intro c
      exact .cons trivial (.refl _)
  · exact .refl _

theorem vdm_send_val_talks (cmd mode : Nat) (hs : ∀ c, (start c).log = c.log) (evt : Evt) :
    Talks (vdm_send_val cmd mode start chip evt).1 chip := by
  unfold vdm_send_val
  apply vdm_send_talks
  · exact hs
  · intro c
    exact .refl _

theorem vdm_send_entermode_talks (evt : Evt) : Talks (vdm_send_entermode chip evt).1 chip := by
  unfold vdm_send_entermode
  apply vdm_send_val_talks
  intro c
  rfl

theorem vdm_send_getdpstatus_talks (evt : Evt) : Talks (vdm_send_getdpstatus chip evt).1 chip := by
  unfold vdm_send_getdpstatus
  apply vdm_send_val_talks
  intro c
  rfl

theorem vdm_send_dpconfig_talks (evt : Evt) : Talks (vdm_send_dpconfig chip evt).1 chip := by
  unfold vdm_send_dpconfig
  apply vdm_send_val_talks
  intro c
  rfl

theorem auto_vdm_machine_talks (evt : Evt) : Talks (auto_vdm_machine chip evt) chip := by
  unfold auto_vdm_machine
  split
  · exact AUTO_VDM_HANDLE_talks _ vdm_send_discoveryid_talks evt
  · exact AUTO_VDM_HANDLE_talks _ vdm_send_discoverysvid_talks evt
  · exact AUTO_VDM_HANDLE_talks _ vdm_send_discoverymodes_talks evt
  · exact AUTO_VDM_HANDLE_talks _ vdm_send_entermode_talks evt
  · exact AUTO_VDM_HANDLE_talks _ vdm_send_getdpstatus_talks evt
  · exact AUTO_VDM_HANDLE_talks _ vdm_send_dpconfig_talks evt
  · exact .cons trivial (.of_eq (by simp))
  · exact .refl _

/-! ## The ready states -/

/-- A swap message changes the policy state and nothing else. -/
theorem swap_msg_process_policy (evt : Evt) : ∃ p, fusb_state_swap_msg_process chip evt = { chip with toPolicy := p } := by
  unfold fusb_state_swap_msg_process
  repeat' split
  all_goals exact ⟨_, rfl⟩

@[simp] theorem swap_msg_process_frame (evt : Evt) :
    let chip' := fusb_state_swap_msg_process chip evt
    chip'.toTimers = chip.toTimers ∧ chip'.toTx = chip.toTx ∧ chip'.toRx = chip.toRx ∧
      chip'.toSupply = chip.toSupply ∧ chip'.toVdm = chip.toVdm ∧ chip'.toCc = chip.toCc ∧ chip'.toHw = chip.toHw ∧
      chip'.notify = chip.notify := by
  obtain ⟨p, he⟩ := swap_msg_process_policy chip evt
  rw [he]
  simp

@[simp] theorem ready_rx_frame (evt : Evt) :
    let chip' := ready_rx chip evt
    chip'.toRx = chip.toRx ∧ chip'.toSupply = chip.toSupply ∧ chip'.toCc = chip.toCc ∧
      chip'.notify.power_role = chip.notify.power_role ∧ chip'.notify.data_role = chip.notify.data_role ∧
      chip'.gpio_vbus_5v = chip.gpio_vbus_5v ∧ chip'.gpio_vbus_other = chip.gpio_vbus_other := by
  unfold ready_rx
  split
  · split
    · simp
    · split <;> simp
  · simp

/-! ## The attach phase -/

/-- The states before a policy starts. -/
def attaching : ConnState → Bool
  | .disabled | .error_recovery | .unattached | .attach_wait_sink | .attach_wait_source | .attached_source
  | .attached_sink | .attach_try_src | .attach_try_snk => true
  | _ => false

variable {chip} {evt : Evt}

/-- How a handler of the attach phase ends: in the attach phase with VBUS off
or as it was, or by starting the policy of one role. -/
inductive AttachStep (chip chip' : Chip) : Prop
  | attach (hs : attaching chip'.conn_state = true) (ho : chip'.gpio_vbus_other = chip.gpio_vbus_other)
      (hv : chip'.gpio_vbus_5v = chip.gpio_vbus_5v ∨ chip'.gpio_vbus_5v = vbus_level chip false false)
  | source (hs : chip'.conn_state = .policy_src_startup) (hr : chip'.notify.power_role = .SOURCE)
  | sink (hs : chip'.conn_state = .policy_snk_startup) (hr : chip'.notify.power_role = .SINK)
      (hv : chip'.gpio_vbus_5v = chip.gpio_vbus_5v)

/-- A change that keeps the attach phase and VBUS. -/
theorem AttachStep.same {chip' : Chip} (hs : attaching chip'.conn_state = true)
    (ho : chip'.gpio_vbus_other = chip.gpio_vbus_other) (hv : chip'.gpio_vbus_5v = chip.gpio_vbus_5v) :
    AttachStep chip chip' := .attach hs ho (Or.inl hv)

/-- The first step of a handler is outside the policy. -/
theorem AttachStep.after {c chip' : Chip} (h : AttachStep c chip') (ho : c.gpio_vbus_other = chip.gpio_vbus_other)
    (hv : c.gpio_vbus_5v = chip.gpio_vbus_5v) : AttachStep chip chip' := by
  cases h with
  | attach hs ho' hv' =>
    refine .attach hs (ho'.trans ho) ?_
    rwa [vbus_level, ho, hv] at hv'
  | source hs hr => exact .source hs hr
  | sink hs hr hv' => exact .sink hs hr (hv'.trans hv)

theorem set_state_unattached_frame :
    (set_state_unattached chip).conn_state = .unattached ∧ (set_state_unattached chip).sub_state = 0 ∧
      (set_state_unattached chip).notify.power_role = .SINK ∧
      (set_state_unattached chip).gpio_vbus_other = chip.gpio_vbus_other ∧
      (set_state_unattached chip).gpio_vbus_5v = vbus_level chip false false := by
  simp [set_state_unattached, set_state]

theorem set_state_unattached_step : AttachStep chip (set_state_unattached chip) := by
  obtain ⟨hc, _, _, ho, hv⟩ := @set_state_unattached_frame chip
  exact .attach (by rw [hc]; rfl) ho (Or.inr hv)

theorem try_attach_set_step (h : attaching chip.conn_state = true) (mode : RoleMode) :
    AttachStep chip (fusb_state_try_attach_set chip mode) := by
  unfold fusb_state_try_attach_set
  dsimp only
  split
  · exact .same h rfl rfl
  · refine .attach ?_ (by simp [set_state, timer_mux_start]) (Or.inr (by simp [set_state, timer_mux_start]))
    simp only [set_state]
    split <;> rfl

@[simp] theorem start_debounce_frame :
    (start_debounce chip).conn_state = chip.conn_state ∧ (start_debounce chip).notify = chip.notify ∧
      (start_debounce chip).gpio_vbus_5v = chip.gpio_vbus_5v ∧
      (start_debounce chip).gpio_vbus_other = chip.gpio_vbus_other := by
  simp [start_debounce, timer_mux_start]

theorem start_debounce_step (h : attaching chip.conn_state = true) : AttachStep chip (start_debounce chip) :=
  .same (by simpa using h) (by simp) (by simp)

@[simp] theorem debounce_frame :
    (debounce chip).conn_state = chip.conn_state ∧ (debounce chip).notify = chip.notify ∧
      (debounce chip).gpio_vbus_5v = chip.gpio_vbus_5v ∧ (debounce chip).gpio_vbus_other = chip.gpio_vbus_other := by
  unfold debounce
  dsimp only
  split <;> simp

theorem attach_wait_sink_measure_step (h : attaching chip.conn_state = true) :
    AttachStep chip (attach_wait_sink_measure chip) := by
  unfold attach_wait_sink_measure
  dsimp only
  repeat' split
  · exact .same rfl (by simp [set_state, timer_mux_start]) (by simp [set_state, timer_mux_start])
  · exact set_state_unattached_step.after (by simp) (by simp)
  · exact .same (by simpa [timer_mux_start] using h) (by simp [timer_mux_start]) (by simp [timer_mux_start])

theorem attach_wait_sink_step (h : attaching chip.conn_state = true) :
    AttachStep chip (fusb_state_attach_wait_sink chip evt) := by
  unfold fusb_state_attach_wait_sink
  dsimp only
  repeat' split
  · exact (try_attach_set_step (by simpa using h) _).after (by simp) (by simp)
  · exact .same rfl (by simp [set_state, timer_mux_start]) (by simp [set_state, timer_mux_start])
  · exact (attach_wait_sink_measure_step (by simpa using h)).after (by simp) (by simp)
  · exact (attach_wait_sink_measure_step (by simpa using h)).after (by simp) (by simp)
  · exact .same h rfl rfl

theorem attach_wait_source_step (h : attaching chip.conn_state = true) :
    AttachStep chip (fusb_state_attach_wait_source chip evt) := by
  unfold fusb_state_attach_wait_source
  dsimp only
  repeat' split
  · exact (try_attach_set_step (by simpa using h) _).after (by simp) (by simp)
  · exact .same rfl (by simp [set_state]) (by simp [set_state])
  · exact set_state_unattached_step.after (by simp) (by simp)
  · exact .same (by simpa [timer_mux_start] using h) (by simp [timer_mux_start]) (by simp [timer_mux_start])
  · exact .same h rfl rfl

theorem attached_sink_step (h : attaching chip.conn_state = true) :
    AttachStep chip (fusb_state_attached_sink chip evt) := by
  unfold fusb_state_attached_sink
  dsimp only
  repeat' split
  · exact (try_attach_set_step (by simpa using h) _).after (by simp) (by simp)
  · exact .sink rfl rfl (by simp [set_state])
  · exact set_state_unattached_step.after (by simp) (by simp)
  · exact .same (by simpa [timer_state_start] using h) (by simp [timer_state_start]) (by simp [timer_state_start])

theorem try_attach_step (h : attaching chip.conn_state = true) (mode : RoleMode) :
    AttachStep chip (fusb_state_try_attach chip evt mode) := by
  unfold fusb_state_try_attach
  dsimp only
  repeat' split
  · exact (start_debounce_step rfl).after rfl rfl
  · exact (start_debounce_step rfl).after rfl rfl
  · exact (start_debounce_step rfl).after rfl rfl
  · exact (start_debounce_step rfl).after rfl rfl
  · exact (try_attach_set_step (by simpa using h) _).after rfl rfl
  · exact (try_attach_set_step (by simpa using h) _).after rfl rfl
  · exact .same rfl rfl rfl
  · exact .same h rfl rfl

theorem unattached_step (h : attaching chip.conn_state = true) :
    AttachStep chip (fusb_state_unattached chip evt) := by
  unfold fusb_state_unattached
  dsimp only
  repeat' split
  · exact (start_debounce_step rfl).after rfl rfl
  · exact (start_debounce_step rfl).after rfl rfl
  · exact .same h rfl rfl

/-- Every handler of the attach phase ends in one of the three ways. -/
theorem attach_step (h : attaching chip.conn_state = true) : AttachStep chip (dispatch chip evt) := by
  have never : ∀ {s}, chip.conn_state = s → attaching s = false → AttachStep chip (dispatch chip evt) := by
    intro s hs ht
    rw [hs, ht] at h
    cases h
  cases hc : chip.conn_state <;> first
    | exact never hc rfl
    | unfold dispatch
      simp only [hc]
  · exact .same h rfl rfl
  · exact set_state_unattached_step
  · exact unattached_step h
  · exact attach_wait_sink_step h
  · exact attach_wait_source_step h
  · exact .source (by simp [fusb_state_attached_source, set_state]) (by simp [fusb_state_attached_source, set_state])
  · exact attached_sink_step h
  · exact try_attach_step h _
  · exact try_attach_step h _

/-! ## On the way to a soft reset

The states from which a policy starts, or goes on, only after
`fusb_soft_reset_parameter`. A hard reset leads to them. -/

/-- A state of a reset, or of attaching. -/
def resetting : ConnState → Bool
  | .policy_src_startup | .policy_snk_startup | .policy_src_transition_default | .policy_snk_transition_default
  | .policy_src_send_hardrst | .policy_snk_send_hardrst | .policy_src_softrst | .policy_snk_softrst => true
  | s => attaching s

/-- `fusb_soft_reset_parameter` has just run. -/
structure JustReset (chip : Chip) : Prop where
  stage : chip.vdm_state = .DISCOVERY_ID
  idle : chip.vdm_send_state = 0
  val_tmp : chip.val_tmp = 0#8

/-- On the way there, or there. -/
def ResettingOrReset (chip : Chip) : Prop := resetting chip.conn_state = true ∨ JustReset chip

theorem just_reset {s : ConnState} : JustReset (set_state (fusb_soft_reset_parameter chip) s) := ⟨rfl, rfl, rfl⟩

theorem send_hardreset_resetting {next : ConnState} (h : resetting chip.conn_state = true) (hn : resetting next = true) :
    resetting (send_hardreset chip evt next).conn_state = true := by
  have hd : ∀ c : Chip, resetting c.conn_state = true →
      resetting (send_hardreset.case_default c evt next).conn_state = true := by
    intro c hc
    unfold send_hardreset.case_default
    dsimp only
    split
    · exact hn
    · rfl
    · simpa using hc
  unfold send_hardreset
  split
  · exact hd _ h
  · exact hd _ h

theorem softreset_resetting {success : Chip → Chip} {failed : ConnState} (h : resetting chip.conn_state = true)
    (hs : JustReset (success chip)) (hf : resetting failed = true) :
    ResettingOrReset (softreset chip success failed) := by
  unfold softreset
  split
  · rw [send_then_build_mesg]
    exact Or.inl (by simpa using h)
  · rcases send_then_cases chip success (fun chip => set_state chip failed) with ⟨_, he⟩ | ⟨_, he⟩ | ⟨_, _, he⟩ <;> rw [he]
    · exact Or.inr hs
    · exact Or.inl hf
    · exact Or.inl (by simpa using h)

theorem snk_transition_default_resetting (h : resetting chip.conn_state = true) :
    resetting (fusb_state_snk_transition_default chip evt).conn_state = true := by
  have hd : ∀ c : Chip, resetting c.conn_state = true →
      resetting (fusb_state_snk_transition_default.case_1 c evt).conn_state = true := by
    intro c hc
    unfold fusb_state_snk_transition_default.case_1
    dsimp only
    repeat' split
    · simpa [timer_state_start] using hc
    · rfl
    · simpa using hc
  unfold fusb_state_snk_transition_default
  dsimp only
  split
  · apply hd
    split
    · simpa [timer_state_start, timer_mux_start] using h
    · exact h
  · exact hd _ h
  · repeat' split
    · rfl
    · rfl
    · simpa using h

/-- A handler of these states stays among them or resets. -/
theorem resetting_step (h : resetting chip.conn_state = true) : ResettingOrReset (dispatch chip evt) := by
  cases ha : attaching chip.conn_state
  · unfold dispatch
    split
    all_goals rename_i hc
    all_goals try (rw [hc] at ha; cases ha)
    all_goals try (rw [hc] at h; cases h)
    · refine Or.inr ⟨?_, ?_, ?_⟩ <;> simp [fusb_state_src_startup, set_state, fusb_soft_reset_parameter, Chip.emit, set_vdm_state]
    · refine Or.inl ?_
      unfold fusb_state_src_transition_default
      repeat' split
      · simp [timer_state_start, hc, resetting]
      · rfl
      · rw [hc]
        rfl
    · exact Or.inl (send_hardreset_resetting (by rw [hc]; rfl) rfl)
    · exact softreset_resetting (by rw [hc]; rfl) just_reset rfl
    · refine Or.inr ⟨?_, ?_, ?_⟩ <;> simp [fusb_state_snk_startup, set_state, fusb_soft_reset_parameter, Chip.emit, set_vdm_state]
    · exact Or.inl (snk_transition_default_resetting (by rw [hc]; rfl))
    · exact Or.inl (send_hardreset_resetting (by rw [hc]; rfl) rfl)
    · exact softreset_resetting (by rw [hc]; rfl) ⟨rfl, rfl, rfl⟩ rfl
  · refine Or.inl ?_
    cases @attach_step _ evt ha with
    | attach hs =>
      generalize (dispatch chip evt).conn_state = s at hs
      cases s <;> first | rfl | cases hs
    | source hs => rw [hs]; rfl
    | sink hs => rw [hs]; rfl

/-! ## Up to the switch -/

variable {env : Env} {P : Chip → Prop}

/-- The chip reports a hard reset: one received, or the first HARDSENT of our own. -/
def hard_reset_reported (chip : Chip) (env : Env) : Bool :=
  bit env.interrupta INTERRUPTA_HARDRST || (bit env.interrupta INTERRUPTA_HARDSENT && !chip.retry)

/-- The message fetched is a SOFTRESET. -/
def soft_reset_received (chip : Chip) (env : Env) : Bool :=
  (events chip env).rx &&
    PACKET_IS_CONTROL_MSG (tcpm_get_message (detach (alerts chip env).1 (events chip env))).rec_head CMT_SOFTRESET

/-- Whatever this invocation does to the port before its switch keeps `P`. -/
structure Survives (chip : Chip) (env : Env) (P : Chip → Prop) : Prop where
  observe : ∀ c, P c → P (observe c env)
  phy : ∀ c c', PolicyKept c' c → P c → P c'
  sent : ∀ c, P c → P { c with tx_state := .tx_success, log := .sent :: c.log }
  retryfail : ∀ c, P c → P { c with tx_state := .tx_failed, log := .retryfail :: c.log }
  hard_reset : hard_reset_reported chip env = true → ∀ c, P c → P (pd_execute_hard_reset (fusb302_pd_reset c))
  hardsent : ∀ c, P c → P { c with tx_state := .tx_success, timer_state := T_DISABLED }
  expire : ∀ c t, P c → P { c with toTimers := t }
  collect : ∀ c w d, P c → P { c with work_continue := w, delay_cc := d }
  unattached : ∀ c, P c → P (set_state_unattached c)
  message : ∀ c, P c → P (tcpm_get_message c)
  softrst : soft_reset_received chip env = true → ∀ c, P c →
    P (set_state c (if c.notify.power_role = .SOURCE then .policy_src_softrst else .policy_snk_softrst))
  count : ∀ c, P c → P { c with msg_id := c.msg_id + 1 }

/-- Whatever the two alerts do to the port keeps `P`, which may also read the wires. -/
structure Collects (chip : Chip) (env : Env) (P : Chip → Prop) : Prop where
  observe : ∀ c, P c → P (observe c env)
  phy : ∀ c c', PolicyKept c' c → c'.wires = c.wires → P c → P c'
  sent : ∀ c, P c → P { c with tx_state := .tx_success, log := .sent :: c.log }
  retryfail : ∀ c, P c → P { c with tx_state := .tx_failed, log := .retryfail :: c.log }
  hard_reset : hard_reset_reported chip env = true → ∀ c, P c → P (pd_execute_hard_reset (fusb302_pd_reset c))
  hardsent : ∀ c, P c → P { c with tx_state := .tx_success, timer_state := T_DISABLED }
  expire : ∀ c t, P c → P { c with toTimers := t }
  collect : ∀ c w d, P c → P { c with work_continue := w, delay_cc := d }

/-- `Survives`, for such a `P`. -/
structure Passes (chip : Chip) (env : Env) (P : Chip → Prop) : Prop extends Collects chip env P where
  unattached : ∀ c, P c → P (set_state_unattached c)
  message : ∀ c, P c → P (tcpm_get_message c)
  softrst : soft_reset_received chip env = true → ∀ c, P c →
    P (set_state c (if c.notify.power_role = .SOURCE then .policy_src_softrst else .policy_snk_softrst))
  count : ∀ c, P c → P { c with msg_id := c.msg_id + 1 }

theorem Survives.passes (k : Survives chip env P) : Passes chip env P :=
  { k with phy := fun c c' hk _ => k.phy c c' hk }

/-- The tests of `tcpc_alert` before TXSENT. -/
def alert_before_txsent (chip : Chip) (env : Env) : Chip × Evt :=
  (observe chip env, {}) |> alert_comp_chng env |> alert_vbusok env |> alert_togdone env

/-- They only look at the wires. -/
theorem before_txsent_keeps (h : P (observe chip env)) (phy : ∀ c c', PolicyKept c' c → c'.wires = c.wires → P c → P c') :
    let a := alert_before_txsent chip env
    P a.1 ∧ a.1.retry = chip.retry ∧ a.2.tx = false := by
  have comp : ∀ a : Chip × Evt, P a.1 ∧ a.1.retry = chip.retry ∧ a.2.tx = false →
      P (alert_comp_chng env a).1 ∧ (alert_comp_chng env a).1.retry = chip.retry ∧ (alert_comp_chng env a).2.tx = false := by
    rintro a ⟨hp, hr, ht⟩
    unfold alert_comp_chng
    split
    · exact ⟨phy _ _ (status0_read_kept _) rfl hp, hr, ht⟩
    · exact ⟨hp, hr, ht⟩
  have vbusok : ∀ a : Chip × Evt, P a.1 ∧ a.1.retry = chip.retry ∧ a.2.tx = false →
      P (alert_vbusok env a).1 ∧ (alert_vbusok env a).1.retry = chip.retry ∧ (alert_vbusok env a).2.tx = false := by
    intro a ha
    unfold alert_vbusok
    split <;> exact ha
  have togdone : ∀ a : Chip × Evt, P a.1 ∧ a.1.retry = chip.retry ∧ a.2.tx = false →
      P (alert_togdone env a).1 ∧ (alert_togdone env a).1.retry = chip.retry ∧ (alert_togdone env a).2.tx = false := by
    rintro a ⟨hp, hr, ht⟩
    unfold alert_togdone
    split
    · exact ⟨phy a.1 _ (by simp [PolicyKept]) ((update_wires _ _ rfl).trans rfl) hp, hr, ht⟩
    · exact ⟨hp, hr, ht⟩
  exact togdone _ (vbusok _ (comp (observe chip env, {}) ⟨h, rfl, rfl⟩))

theorem tcpc_alert_keeps (k : Collects chip env P) (h : P chip) : P (tcpc_alert (observe chip env) env).1 := by
  -- the flag of the first HARDSENT is carried along
  obtain ⟨hp, hr, _⟩ := before_txsent_keeps (k.observe _ h) k.phy
  have txsent : ∀ a : Chip × Evt, P a.1 ∧ a.1.retry = chip.retry →
      P (alert_txsent env a).1 ∧ (alert_txsent env a).1.retry = chip.retry := by
    intro a ha
    unfold alert_txsent
    split
    · exact ⟨k.sent _ ha.1, ha.2⟩
    · exact ha
  have gcrcsent : ∀ a : Chip × Evt, P a.1 ∧ a.1.retry = chip.retry →
      P (alert_gcrcsent env a).1 ∧ (alert_gcrcsent env a).1.retry = chip.retry := by
    intro a ha
    unfold alert_gcrcsent
    split <;> exact ha
  have hardrst : ∀ a : Chip × Evt, P a.1 ∧ a.1.retry = chip.retry →
      P (alert_hardrst env a).1 ∧ (alert_hardrst env a).1.retry = chip.retry := by
    intro a ha
    unfold alert_hardrst
    split
    · rename_i hb
      refine ⟨k.hard_reset (by simp [hard_reset_reported, hb]) _ ha.1, ?_⟩
      rw [← ha.2]
      unfold pd_execute_hard_reset
      dsimp only
      split <;> rfl
    · exact ha
  have retryfail : ∀ a : Chip × Evt, P a.1 ∧ a.1.retry = chip.retry →
      P (alert_retryfail env a).1 ∧ (alert_retryfail env a).1.retry = chip.retry := by
    intro a ha
    unfold alert_retryfail
    split
    · exact ⟨k.retryfail _ ha.1, ha.2⟩
    · exact ha
  have hardsent : ∀ a : Chip × Evt, P a.1 ∧ a.1.retry = chip.retry → P (alert_hardsent env a).1 := by
    intro a ha
    unfold alert_hardsent
    split
    · rename_i hb
      split
      · rename_i hr
        rw [ha.2] at hr
        exact k.hard_reset (by rw [hard_reset_reported, hb, hr, Bool.and_true, Bool.or_true]) _
          (k.phy a.1 _ (by simp [PolicyKept]) rfl ha.1)
      · have hs := k.hardsent _ ha.1
        exact k.phy _ _ (by simp [PolicyKept]) (by rfl) hs
    · exact ha.1
  exact hardsent _ (retryfail _ (hardrst _ (gcrcsent _ (txsent (alert_before_txsent chip env) ⟨hp, hr⟩))))

theorem alerts_keep (k : Collects chip env P) (h : P chip) : P (alerts chip env).1 := by
  have ht := tcpc_alert_keeps k h
  unfold alerts mux_alert
  dsimp only
  generalize (tcpc_alert (observe chip env) env).1 = c at ht ⊢
  have ht' := k.collect _ false false (k.expire c
    { c.toTimers with
      timer_mux := if c.timer_mux = 0 then T_DISABLED else c.timer_mux
      timer_state := if c.timer_state = 0 then T_DISABLED else c.timer_state } ht)
  by_cases hm : c.timer_mux = 0 <;> by_cases hs : c.timer_state = 0 <;> simpa [hm, hs] using ht'

theorem fusb_try_detach_cases :
    (∃ c, PolicyKept c chip ∧ c.wires = chip.wires ∧ (fusb_try_detach chip = c ∨ fusb_try_detach chip = set_state_unattached c)) ∨
      fusb_try_detach chip = { chip with delay_cc := true } := by
  unfold fusb_try_detach
  dsimp only
  split
  · refine Or.inl ⟨_, tcpm_check_vbus_kept chip, rfl, ?_⟩
    split
    · exact Or.inr rfl
    · exact Or.inl rfl
  · split
    · refine Or.inl ⟨_, tcpm_get_cc_kept chip, tcpm_get_cc_wires chip, ?_⟩
      repeat' split
      all_goals first | exact Or.inl rfl | exact Or.inr rfl
    · exact Or.inr rfl

theorem detach_keeps (k : Passes chip env P) {c : Chip} {evt : Evt} (h : P c) : P (detach c evt) := by
  unfold detach
  split
  · rcases @fusb_try_detach_cases c with ⟨c', hk, hw, he | he⟩ | he <;> rw [he]
    · exact k.phy _ _ hk hw h
    · exact k.unattached _ (k.phy _ _ hk hw h)
    · exact k.collect _ _ _ h
  · exact h

theorem at_switch_keeps (k : Passes chip env P) (h : P chip) : P (at_switch chip env) := by
  have hd : P (detach (alerts chip env).1 (events chip env)) := detach_keeps k (alerts_keep k.toCollects h)
  have hr : P (receive (detach (alerts chip env).1 (events chip env)) (events chip env)) := by
    unfold receive
    dsimp only
    split
    · rename_i hrx
      have hm := k.message _ hd
      split
      · rename_i hp
        have hs := k.softrst (by rw [soft_reset_received, hrx, hp]; rfl) _ hm
        split <;> rename_i hrole
        · rwa [if_pos hrole] at hs
        · rwa [if_neg hrole] at hs
      · exact hm
    · exact hd
  unfold at_switch before_switch count_sent
  split
  · exact k.count _ hr
  · exact hr

theorem probe_log (board : Board) : (fusb30x_probe board).log = [.pd_reset] := by simp [fusb30x_probe, kzalloc]

/-- A step keeps `P` when its switch does. -/
theorem step_keeps (k : ∀ env, Passes chip env P) {act : Act} (h : P chip)
    (hd : ∀ env, act = .work env → (events chip env).any = true → P (at_switch chip env) →
      P (dispatch (at_switch chip env) (events chip env))) :
    P (step chip act) := by
  have ht : P (fusb_timer_handler chip act) := by
    obtain ⟨t, he⟩ := fusb_timer_handler_eq chip act
    rw [he]
    exact (k {}).expire _ _ h
  cases act with
  | work env =>
    have ha := at_switch_keeps (k env) h
    rw [step_work]
    split
    · rename_i hany
      exact hd env rfl hany ha
    · exact ha
  | timer_state => exact ht
  | timer_mux => exact ht

end Fusb302
