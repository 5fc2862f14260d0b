import LinuxDriver.Fusb302.Machine
/-!
# The static variable

`retry` of `tcpc_alert` is read and written there, at a HARDSENT, and nowhere
else: every other function does the same to a port whatever its value.
-/

namespace Fusb302

/-- With another value of `retry`. -/
def Chip.with_retry (chip : Chip) (retry : Bool) : Chip := { chip with retry := retry }

/-- `f` neither reads nor writes the static variable. -/
def Blind (f : Chip → Chip) : Prop := ∀ chip retry, (f chip).with_retry retry = f (chip.with_retry retry)

variable {β : Type} {evt : Evt}

/-- The chip of a pair with another value of `retry`. -/
def retried (a : Chip × β) (retry : Bool) : Chip × β := (a.1.with_retry retry, a.2)

/-- `f` does not look at `retry`. -/
def BlindPair (f : Chip → Chip × β) : Prop := ∀ chip retry, retried (f chip) retry = f (chip.with_retry retry)

theorem Blind.comp {f g : Chip → Chip} (hg : Blind g) (hf : Blind f) : Blind fun chip => g (f chip) := by
  intro chip r
  rw [hg, hf]

theorem ite_retry {p : Prop} [Decidable p] (a b : Chip) (r : Bool) :
    (if p then a else b).with_retry r = if p then a.with_retry r else b.with_retry r := by
  split <;> rfl

theorem ite_retried {p : Prop} [Decidable p] (a b : Chip × β) (r : Bool) :
    retried (if p then a else b) r = if p then retried a r else retried b r := by
  split <;> rfl

@[simp] theorem with_retry_retry (c : Chip) (r : Bool) : (c.with_retry r).retry = r := rfl
@[simp] theorem with_own_retry (c : Chip) : c.with_retry c.retry = c := rfl

theorem with_retry_policy (c : Chip) (r : Bool) : (c.with_retry r).toPolicy = c.toPolicy := rfl
theorem with_retry_timers (c : Chip) (r : Bool) : (c.with_retry r).toTimers = c.toTimers := rfl
theorem with_retry_tx (c : Chip) (r : Bool) : (c.with_retry r).toTx = c.toTx := rfl
theorem with_retry_vdm (c : Chip) (r : Bool) : (c.with_retry r).toVdm = c.toVdm := rfl

/-! ## The physical layer -/

theorem get_cc_retry_blind (store : Byte) (retry comp_times : Nat) (cc_measure : CcVolt) :
    BlindPair (get_cc_retry store retry comp_times · cc_measure) := by
  intro chip r
  induction retry generalizing chip comp_times cc_measure with
  | zero => rfl
  | succ retry ih =>
    dsimp only at ih ⊢
    unfold get_cc_retry
    simp only [ite_retried, ih]
    rfl

theorem get_cc_source_blind : BlindPair get_cc_source := by
  intro chip r
  have first : ∀ store, BlindPair fun c =>
      if bit (c.status0 0) STATUS0_COMP then get_cc_retry store 3 0 (status0_read c) .OPEN
      else
        let low := regmap_write (status0_read c) .MEASURE c.cc_meas_low
        (status0_read low, if bit (low.status0 0) STATUS0_COMP then CcVolt.RD else .RA) := by
    intro store c r
    dsimp only
    rw [ite_retried, get_cc_retry_blind]
    rfl
  let restore := fun a : Chip × CcVolt =>
    let c := regmap_write a.1 .SWITCHES0 (chip.regs .SWITCHES0)
    (regmap_write c .MEASURE c.cc_meas_high, a.2)
  have hf := fun val => first (chip.regs .SWITCHES0)
    (regmap_write (regmap_write chip .SWITCHES0 val) .MEASURE chip.cc_meas_high) r
  exact congrArg restore (hf _)

theorem tcpm_get_cc_blind (chip : Chip) (r : Bool) :
    tcpm_get_cc (chip.with_retry r) =
      ⟨(tcpm_get_cc chip).chip.with_retry r, (tcpm_get_cc chip).cc1, (tcpm_get_cc chip).cc2⟩ := by
  unfold tcpm_get_cc
  rw [← get_cc_source_blind]
  by_cases hc : bit chip.cc_state CC_STATE_TOGSS_IS_UFP = true
  · rw [if_pos hc]
    exact if_pos hc
  · rw [if_neg hc]
    exact if_neg hc

theorem tcpm_set_cc_pull_mode_blind (mode : CcMode) : Blind (tcpm_set_cc_pull_mode · mode) := by
  intro chip r
  dsimp only
  unfold tcpm_set_cc_pull_mode
  cases mode <;> exact ite_retry _ _ r

theorem tcpm_set_cc_blind (mode : RoleMode) : Blind (tcpm_set_cc · mode) := by
  have toggle : ∀ mask val, Blind fun c =>
      regmap_update_bits (regmap_update_bits c .CONTROL2 mask val) .CONTROL2 CONTROL2_TOGGLE CONTROL2_TOGGLE :=
    fun _ _ _ _ => rfl
  cases mode
  · exact fun _ _ => rfl
  · exact (toggle _ _).comp (tcpm_set_cc_pull_mode_blind .PULL_NONE)
  · exact (toggle _ _).comp (tcpm_set_cc_pull_mode_blind .PULL_UP)
  · exact (toggle _ _).comp (tcpm_set_cc_pull_mode_blind .PULL_UP)
  · exact fun _ _ => rfl

theorem tcpm_init_blind : Blind tcpm_init := fun _ _ => rfl
theorem platform_fusb_notify_blind : Blind platform_fusb_notify := fun _ _ => rfl

/-! ## Messages -/

theorem set_state_blind (state : ConnState) : Blind (set_state · state) := fun _ _ => rfl

theorem set_state_unattached_blind : Blind set_state_unattached := by
  have first : Blind fun c => set_state (tcpm_set_rx_enable (tcpm_init c) false) .unattached := fun _ _ => rfl
  have toggle : Blind fun c => tcpm_set_cc c c.role := fun c r => tcpm_set_cc_blind c.role c r
  have last : Blind fun c =>
      let chip := platform_fusb_notify { c with notify := {} }
      let chip := { chip with gpio_discharge := chip.gpio_discharge.map fun _ => false }
      let chip := regmap_update_bits chip .MASK MASK_M_COMP_CHNG MASK_M_COMP_CHNG
      { chip with try_role_complete := false } := fun _ _ => rfl
  exact last.comp (toggle.comp first)

theorem pd_execute_hard_reset_blind : Blind pd_execute_hard_reset := by
  intro chip r
  unfold pd_execute_hard_reset
  exact ite_retry _ _ r

theorem get_message_blind (fifo : List PdMsg) : Blind (get_message · fifo) := by
  intro chip r
  induction fifo generalizing chip with
  | nil => rfl
  | cons m fifo ih =>
    dsimp only at ih ⊢
    unfold get_message
    rw [ite_retry, ih]
    rfl

theorem set_vdm_mesg_blind (cmd type mode : Nat) : Blind (set_vdm_mesg · cmd type mode) := by
  intro chip r
  dsimp only
  unfold set_vdm_mesg
  dsimp only
  simp only [ite_retry]
  rfl

theorem policy_send_data_blind : Blind policy_send_data := by
  intro chip r
  unfold policy_send_data
  rw [with_retry_tx]
  cases chip.tx_state <;> rfl

theorem policy_send_hardrst_blind : Blind (policy_send_hardrst · evt) := by
  intro chip r
  dsimp only
  unfold policy_send_hardrst
  rw [with_retry_tx]
  cases chip.tx_state
  · rfl
  · exact ite_retry _ _ r
  · exact ite_retry _ _ r
  · exact ite_retry _ _ r

theorem send_then_blind {success failed : Chip → Chip} (hs : Blind success) (hf : Blind failed) :
    Blind (send_then · success failed) := by
  intro chip r
  dsimp only
  unfold send_then
  rw [← policy_send_data_blind]
  generalize policy_send_data chip = c
  dsimp only
  rw [with_retry_tx]
  cases c.tx_state
  · rfl
  · rfl
  · exact hf c r
  · exact hs c r

/-! ## Attachment -/

/-- Both readings of the lines, and what is made of them. -/
theorem measured_blind {f : CcVolt → CcVolt → Chip → Chip} (hf : ∀ cc1 cc2, Blind (f cc1 cc2)) :
    Blind fun c => f (tcpm_get_cc c).cc1 (tcpm_get_cc c).cc2 (tcpm_get_cc c).chip := by
  intro chip r
  dsimp only
  rw [tcpm_get_cc_blind]
  exact hf _ _ _ r

theorem start_debounce_blind : Blind start_debounce := by
  have store : ∀ cc1 cc2, Blind fun c => timer_mux_start { c with cc1 := cc1, cc2 := cc2, debounce_cnt := 0 } 2 :=
    fun _ _ _ _ => rfl
  have polarity : Blind fun c => tcpm_set_polarity c (cc_state_polarity c) := fun _ _ => rfl
  exact (measured_blind store).comp polarity

theorem debounce_blind : Blind debounce := by
  intro chip r
  unfold debounce
  rw [tcpm_get_cc_blind]
  exact ite_retry ..

theorem state_unattached_blind : Blind (fusb_state_unattached · evt) := by
  have start : Blind fun c =>
      let v := tcpm_check_vbus (if bit c.cc_state CC_STATE_TOGSS_IS_UFP then set_state c .attach_wait_sink
        else set_state c .attach_wait_source)
      start_debounce { v.1 with vbus_begin := v.2 } := by
    intro c r
    dsimp only
    rw [start_debounce_blind]
    by_cases hc : bit c.cc_state CC_STATE_TOGSS_IS_UFP = true
    · rw [if_pos hc, if_pos (show bit (c.with_retry r).cc_state _ = true from hc)]
      rfl
    · rw [if_neg hc, if_neg (show ¬bit (c.with_retry r).cc_state _ = true from hc)]
      rfl
  intro chip r
  refine (ite_retry ..).trans ?_
  rw [start _ r]
  rfl

theorem try_attach_set_blind (mode : RoleMode) : Blind (fusb_state_try_attach_set · mode) := by
  have toggle : Blind fun c => tcpm_set_cc (tcpm_init c) (if mode = .DFP then .DFP else .UFP) :=
    (tcpm_set_cc_blind _).comp tcpm_init_blind
  have wait : Blind fun c => set_state (timer_mux_start c T_PD_TRY_DRP) (if mode = .DFP then .attach_try_src else .attach_try_snk) :=
    fun _ _ => rfl
  intro chip r
  refine (ite_retry ..).trans ?_
  rw [(wait.comp toggle) chip r]
  rfl

theorem attach_wait_sink_measure_blind : Blind attach_wait_sink_measure := by
  intro chip r
  unfold attach_wait_sink_measure
  rw [← debounce_blind]
  dsimp only
  simp only [ite_retry, set_state_unattached_blind _ r]
  rfl

theorem attach_wait_sink_blind : Blind (fusb_state_attach_wait_sink · evt) := by
  intro chip r
  dsimp only
  unfold fusb_state_attach_wait_sink
  dsimp only
  simp only [ite_retry, try_attach_set_blind _ _ r, attach_wait_sink_measure_blind _ r]
  rfl

theorem attach_wait_source_blind : Blind (fusb_state_attach_wait_source · evt) := by
  intro chip r
  dsimp only
  unfold fusb_state_attach_wait_source
  rw [← debounce_blind]
  dsimp only
  simp only [ite_retry, try_attach_set_blind _ _ r, set_state_unattached_blind _ r]
  rfl

theorem attached_source_blind : Blind fusb_state_attached_source := fun _ _ => rfl

theorem attached_sink_blind : Blind (fusb_state_attached_sink · evt) := by
  intro chip r
  dsimp only
  unfold fusb_state_attached_sink
  dsimp only
  simp only [ite_retry, try_attach_set_blind _ _ r, set_state_unattached_blind _ r]
  rfl

theorem try_attach_blind (mode : RoleMode) : Blind (fusb_state_try_attach · evt mode) := by
  intro chip r
  dsimp only
  unfold fusb_state_try_attach
  dsimp only
  simp only [ite_retry, try_attach_set_blind _ _ r, start_debounce_blind _ r]
  rfl

theorem try_detach_blind : Blind fusb_try_detach := by
  intro chip r
  unfold fusb_try_detach
  dsimp only
  rw [tcpm_get_cc_blind]
  simp only [ite_retry, set_state_unattached_blind _ r]
  rfl

/-! ## Source -/

theorem src_startup_blind : Blind fusb_state_src_startup := fun _ _ => rfl

theorem src_discovery_blind : Blind (fusb_state_src_discovery · evt) := by
  intro chip r
  dsimp only
  unfold fusb_state_src_discovery
  rw [with_retry_policy]
  rcases chip.sub_state with _ | n
  · exact ite_retry ..
  · simp only [ite_retry]
    rfl

theorem src_send_caps_case_default_blind : Blind (fusb_state_src_send_caps.case_default · evt) := by
  intro chip r
  dsimp only
  unfold fusb_state_src_send_caps.case_default
  simp only [ite_retry]
  rfl

theorem src_send_caps_case_1_blind : Blind (fusb_state_src_send_caps.case_1 · evt) := by
  intro chip r
  dsimp only
  unfold fusb_state_src_send_caps.case_1
  rw [← policy_send_data_blind]
  generalize policy_send_data chip = c
  dsimp only
  rw [with_retry_tx]
  cases c.tx_state
  · rw [ite_retry, src_send_caps_case_default_blind]
  · rw [ite_retry, src_send_caps_case_default_blind]
  · rfl
  · refine (ite_retry ..).trans ?_
    rw [src_send_caps_case_default_blind]
    rfl

theorem src_send_caps_blind : Blind (fusb_state_src_send_caps · evt) := by
  intro chip r
  dsimp only
  unfold fusb_state_src_send_caps
  rw [with_retry_policy]
  rcases chip.sub_state with _ | _ | n
  · exact src_send_caps_case_1_blind _ r
  · exact src_send_caps_case_1_blind _ r
  · exact src_send_caps_case_default_blind _ r

theorem src_negotiate_cap_blind : Blind fusb_state_src_negotiate_cap := by
  intro chip r
  exact ite_retry ..

theorem src_transition_supply_blind : Blind (fusb_state_src_transition_supply · evt) := by
  have case_1 : Blind fusb_state_src_transition_supply.case_1 := send_then_blind (fun _ _ => rfl) fun _ _ => rfl
  intro chip r
  dsimp only
  unfold fusb_state_src_transition_supply
  rw [with_retry_policy]
  rcases chip.sub_state with _ | _ | _ | n
  · exact case_1 _ r
  · exact case_1 _ r
  · exact ite_retry ..
  · exact send_then_blind (set_state_blind _) (set_state_blind _) _ r

theorem src_cap_response_blind : Blind fusb_state_src_cap_response := by
  have case_default : Blind fusb_state_src_cap_response.case_default :=
    send_then_blind (fun _ _ => ite_retry ..) fun _ _ => rfl
  intro chip r
  unfold fusb_state_src_cap_response
  rw [with_retry_policy]
  rcases chip.sub_state with _ | n
  · exact case_default _ r
  · exact case_default _ r

theorem src_transition_default_blind : Blind (fusb_state_src_transition_default · evt) := by
  intro chip r
  dsimp only
  unfold fusb_state_src_transition_default
  rw [with_retry_policy]
  rcases chip.sub_state with _ | n
  · rfl
  · exact ite_retry ..

theorem swap_msg_process_blind : Blind (fusb_state_swap_msg_process · evt) := by
  intro chip r
  dsimp only
  unfold fusb_state_swap_msg_process
  simp only [ite_retry]
  rfl

theorem send_and_wait_blind (failed : ConnState) : Blind (send_and_wait · failed) :=
  send_then_blind (fun _ _ => rfl) fun _ _ => rfl

theorem src_get_sink_cap_blind : Blind (fusb_state_src_get_sink_cap · evt) := by
  have case_default : Blind (fusb_state_src_get_sink_cap.case_default · evt) := by
    intro c r
    dsimp only
    unfold fusb_state_src_get_sink_cap.case_default
    simp only [ite_retry]
    rfl
  have case_1 : Blind (fusb_state_src_get_sink_cap.case_1 · evt) := by
    intro c r
    refine (ite_retry ..).trans ?_
    rw [case_default _ r, send_and_wait_blind _ _ r]
    rfl
  intro chip r
  dsimp only
  unfold fusb_state_src_get_sink_cap
  rw [with_retry_policy]
  rcases chip.sub_state with _ | _ | n
  · exact case_1 _ r
  · exact case_1 _ r
  · exact case_default _ r

theorem send_hardreset_blind (next : ConnState) : Blind (send_hardreset · evt next) := by
  have case_default : Blind (send_hardreset.case_default · evt next) := by
    intro c r
    dsimp only
    unfold send_hardreset.case_default
    have hp := @policy_send_hardrst_blind evt c r
    dsimp only at hp
    rw [← hp]
    dsimp only
    rw [with_retry_tx]
    generalize policy_send_hardrst c evt = d
    cases d.tx_state <;> rfl
  intro chip r
  dsimp only
  unfold send_hardreset
  rw [with_retry_policy]
  rcases chip.sub_state with _ | n
  · exact case_default _ r
  · exact case_default _ r

theorem softreset_blind {success : Chip → Chip} (hs : Blind success) (failed : ConnState) :
    Blind (softreset · success failed) := by
  intro chip r
  dsimp only
  unfold softreset
  rw [with_retry_policy]
  rcases chip.sub_state with _ | n
  · exact send_then_blind hs (set_state_blind _) _ r
  · exact send_then_blind hs (set_state_blind _) _ r

theorem send_softreset_blind {accepted : Chip → Chip} (ha : Blind accepted) (failed : ConnState) :
    Blind (send_softreset · evt accepted failed) := by
  have case_default : Blind (send_softreset.case_default · evt accepted failed) := by
    intro c r
    dsimp only
    unfold send_softreset.case_default
    simp only [ite_retry, ha _ r]
    rfl
  have case_1 : Blind (send_softreset.case_1 · evt accepted failed) := by
    intro c r
    refine (ite_retry ..).trans ?_
    rw [case_default _ r, send_and_wait_blind _ _ r]
    rfl
  intro chip r
  dsimp only
  unfold send_softreset
  rw [with_retry_policy]
  rcases chip.sub_state with _ | _ | n
  · exact case_1 _ r
  · exact case_1 _ r
  · exact case_default _ r

/-! ## Sink -/

theorem snk_startup_blind : Blind fusb_state_snk_startup := fun _ _ => rfl

theorem snk_discovery_blind : Blind fusb_state_snk_discovery := fun _ _ => rfl

theorem give_up_blind : Blind give_up := fun _ _ => ite_retry ..

theorem snk_wait_caps_blind : Blind (fusb_state_snk_wait_caps · evt) := by
  intro chip r
  dsimp only
  unfold fusb_state_snk_wait_caps
  simp only [ite_retry, give_up_blind _ r]
  rfl

theorem set_pos_power_from_blind (max_vol max_cur : Int) (i : Nat) : Blind (set_pos_power_from · max_vol max_cur i) := by
  intro chip r
  dsimp only
  induction i with
  | zero => rfl
  | succ i ih =>
    unfold set_pos_power_from
    rw [show (chip.with_retry r).rec_obj i = chip.rec_obj i from rfl]
    cases fits max_vol max_cur (chip.rec_obj i) with
    | none => exact ih
    | some p => rfl

theorem pos_power_5v_blind (chip : Chip) (r : Bool) (i : Nat) :
    pos_power_5v (chip.with_retry r) i = pos_power_5v chip i := by
  induction i with
  | zero => rfl
  | succ i ih =>
    unfold pos_power_5v
    rw [ih]
    rfl

theorem evaluate_caps_blind : Blind fusb_state_snk_evaluate_caps := by
  have charge : Blind fusb302_set_pos_power_by_charge_ic := by
    intro c r
    unfold fusb302_set_pos_power_by_charge_ic
    rw [show (c.with_retry r).charge_dev = c.charge_dev from rfl]
    cases c.charge_dev with
    | none => rfl
    | some dev =>
      refine (ite_retry ..).trans ?_
      exact congrArg (ite _ · _) (set_pos_power_from_blind _ _ _ c r)
  have last : Blind fun c =>
      if c.pos_power = 0 ∨ c.pos_power > 7 then set_state { c with pos_power := 0 } .policy_snk_wait_caps
      else set_state c .policy_snk_select_cap := fun _ _ => ite_retry ..
  have first : Blind fun c =>
      { c with hardrst_count := 0, pos_power := pos_power_5v { c with hardrst_count := 0 } (PD_HEADER_CNT c.rec_head) } := by
    intro c r
    have hp := pos_power_5v_blind { c with hardrst_count := 0 } r (PD_HEADER_CNT c.rec_head)
    exact congrArg (fun n => ({ c with hardrst_count := 0, pos_power := n } : Chip).with_retry r) hp.symm
  exact last.comp (charge.comp first)

theorem snk_select_cap_case_default_blind : Blind (fusb_state_snk_select_cap.case_default · evt) := by
  intro chip r
  dsimp only
  unfold fusb_state_snk_select_cap.case_default
  simp only [ite_retry]
  rfl

theorem snk_select_cap_case_1_blind : Blind (fusb_state_snk_select_cap.case_1 · evt) := by
  intro chip r
  dsimp only
  unfold fusb_state_snk_select_cap.case_1
  rw [← policy_send_data_blind]
  generalize policy_send_data chip = c
  dsimp only
  rw [with_retry_tx]
  cases c.tx_state
  · rw [ite_retry, snk_select_cap_case_default_blind]
  · rw [ite_retry, snk_select_cap_case_default_blind]
  · rfl
  · refine (ite_retry ..).trans ?_
    rw [snk_select_cap_case_default_blind]
    rfl

theorem snk_select_cap_blind : Blind (fusb_state_snk_select_cap · evt) := by
  intro chip r
  dsimp only
  unfold fusb_state_snk_select_cap
  rw [with_retry_policy]
  rcases chip.sub_state with _ | _ | n
  · exact snk_select_cap_case_1_blind _ r
  · exact snk_select_cap_case_1_blind _ r
  · exact snk_select_cap_case_default_blind _ r

theorem snk_transition_sink_blind : Blind (fusb_state_snk_transition_sink · evt) := by
  intro chip r
  dsimp only
  unfold fusb_state_snk_transition_sink
  simp only [ite_retry]
  rfl

theorem snk_transition_default_blind : Blind (fusb_state_snk_transition_default · evt) := by
  have case_1 : Blind (fusb_state_snk_transition_default.case_1 · evt) := by
    intro c r
    dsimp only
    unfold fusb_state_snk_transition_default.case_1
    dsimp only
    simp only [ite_retry]
    rfl
  have header : Blind fun c => if c.notify.data_role = .DFP then tcpm_set_msg_header c else c := fun _ _ => ite_retry ..
  have first : Blind fun c => timer_state_start (timer_mux_start { c with notify.is_pd_connected := false } T_NO_RESPONSE)
      (T_PS_HARD_RESET_MAX + T_SAFE_0V) := fun _ _ => rfl
  have begun : Blind fun c : Chip => { c with sub_state := 1 } := fun _ _ => rfl
  intro chip r
  dsimp only
  unfold fusb_state_snk_transition_default
  rw [with_retry_policy]
  rcases chip.sub_state with _ | _ | n
  · exact (case_1.comp (begun.comp (header.comp first))) chip r
  · exact case_1 _ r
  · dsimp only
    simp only [ite_retry]
    rfl

theorem snk_soft_reset_done_blind : Blind snk_soft_reset_done := fun _ _ => rfl

/-! ## Swaps -/

theorem simple_msg_blind {cmd : Nat} {is_DMT : Bool} {success failed : Chip → ConnState}
    (hs : ∀ c r, success (c.with_retry r) = success c) (hf : ∀ c r, failed (c.with_retry r) = failed c) :
    Blind fun c => fusb_state_send_simple_msg c cmd is_DMT (success c) (failed c) := by
  intro chip r
  dsimp only
  unfold fusb_state_send_simple_msg
  rw [hs, hf, with_retry_policy]
  rcases chip.sub_state with _ | _ | n
  · exact send_then_blind (set_state_blind _) (set_state_blind _) _ r
  · exact send_then_blind (set_state_blind _) (set_state_blind _) _ r
  · rfl

theorem prs_reject_blind : Blind fusb_state_prs_reject := simple_msg_blind (fun _ _ => rfl) fun _ _ => rfl
theorem prs_accept_blind : Blind fusb_state_prs_accept := simple_msg_blind (fun _ _ => rfl) fun _ _ => rfl
theorem vcs_ufp_accept_blind : Blind fusb_state_vcs_ufp_accept := simple_msg_blind (fun _ _ => rfl) fun _ _ => rfl
theorem vcs_send_ps_rdy_blind : Blind fusb_state_vcs_send_ps_rdy := simple_msg_blind (fun _ _ => rfl) fun _ _ => rfl
theorem drs_send_accept_blind : Blind fusb_state_drs_send_accept := simple_msg_blind (fun _ _ => rfl) fun _ _ => rfl

theorem prs_evaluate_blind : Blind fusb_state_prs_evaluate := fun _ _ => ite_retry ..

theorem src_prs_transition_to_off_blind : Blind (fusb_state_src_prs_transition_to_off · evt) := by
  intro chip r
  dsimp only
  unfold fusb_state_src_prs_transition_to_off
  rw [with_retry_policy]
  rcases chip.sub_state with _ | _ | n
  · rfl
  · dsimp only
    simp only [ite_retry]
    rfl
  · rfl

theorem prs_assert_blind (mode : CcMode) (state : ConnState) :
    Blind fun c => set_state (tcpm_set_cc_pull_mode c mode) state :=
  (set_state_blind state).comp (tcpm_set_cc_pull_mode_blind mode)

theorem src_prs_failed_blind : Blind src_prs_failed := fun _ _ => rfl

theorem src_prs_source_off_blind : Blind (fusb_state_src_prs_source_off · evt) := by
  have case_1 : Blind fusb_state_src_prs_source_off.case_1 := send_then_blind (fun _ _ => rfl) src_prs_failed_blind
  intro chip r
  dsimp only
  unfold fusb_state_src_prs_source_off
  rw [with_retry_policy]
  rcases chip.sub_state with _ | _ | _ | n
  · exact case_1 _ r
  · exact case_1 _ r
  · dsimp only
    simp only [ite_retry]
    rfl
  · rfl

theorem snk_prs_failed_blind : Blind snk_prs_failed := fun _ _ => rfl

theorem snk_prs_transition_to_off_blind : Blind (fusb_state_snk_prs_transition_to_off · evt) := by
  have case_1 : Blind (fusb_state_snk_prs_transition_to_off.case_1 · evt) := by
    intro c r
    dsimp only
    unfold fusb_state_snk_prs_transition_to_off.case_1
    simp only [ite_retry]
    rfl
  intro chip r
  dsimp only
  unfold fusb_state_snk_prs_transition_to_off
  rw [with_retry_policy]
  rcases chip.sub_state with _ | _ | n
  · exact case_1 _ r
  · exact case_1 _ r
  · rfl

theorem snk_prs_source_on_blind : Blind (fusb_state_snk_prs_source_on · evt) := by
  have case_2 : Blind fusb_state_snk_prs_source_on.case_2 := send_then_blind (fun _ _ => rfl) snk_prs_failed_blind
  intro chip r
  dsimp only
  unfold fusb_state_snk_prs_source_on
  rw [with_retry_policy]
  rcases chip.sub_state with _ | _ | _ | _ | n
  · rfl
  · exact case_2 _ r
  · exact case_2 _ r
  · exact ite_retry ..
  · rfl

theorem send_swap_blind (cmd : Nat) : Blind (fusb_state_send_swap · evt cmd) := by
  have case_1 : Blind (fusb_state_send_swap.case_1 · cmd) := send_then_blind (fun _ _ => rfl) fun _ _ => ite_retry ..
  have accepted : Blind (fusb_state_send_swap.accepted · cmd) := by
    intro c r
    dsimp only
    unfold fusb_state_send_swap.accepted
    dsimp only
    simp only [ite_retry]
    rfl
  intro chip r
  dsimp only
  unfold fusb_state_send_swap
  rw [with_retry_policy]
  rcases chip.sub_state with _ | _ | _ | n
  · exact case_1 _ r
  · exact case_1 _ r
  · dsimp only
    simp only [ite_retry, accepted _ r]
    rfl
  · rfl

theorem vcs_ufp_evaluate_swap_blind : Blind fusb_state_vcs_ufp_evaluate_swap := fun _ _ => ite_retry ..

theorem vcs_set_vconn_blind (on : Bool) : Blind (fusb_state_vcs_set_vconn · on) := by
  intro chip r
  cases on <;> rfl

theorem vcs_wait_for_vconn_blind : Blind (fusb_state_vcs_wait_for_vconn · evt) := by
  have case_1 : Blind (fusb_state_vcs_wait_for_vconn.case_1 · evt) := by
    intro c r
    dsimp only
    unfold fusb_state_vcs_wait_for_vconn.case_1
    simp only [ite_retry]
    rfl
  intro chip r
  dsimp only
  unfold fusb_state_vcs_wait_for_vconn
  rw [with_retry_policy]
  rcases chip.sub_state with _ | _ | n
  · exact case_1 _ r
  · exact case_1 _ r
  · rfl

theorem drs_evaluate_blind : Blind fusb_state_drs_evaluate := fun _ _ => ite_retry ..

theorem drs_role_change_blind : Blind fusb_state_drs_role_change := fun _ _ => rfl

/-! ## Vendor-defined messages -/

theorem store_svids_blind (k : Nat) : Blind (store_svids · k) := by
  intro chip r
  dsimp only
  induction k generalizing chip with
  | zero => rfl
  | succ k ih =>
    unfold store_svids
    dsimp only
    simp only [ite_retry, ih]
    rfl

theorem process_vdm_msg_blind : Blind process_vdm_msg := by
  have mode : Blind store_mode := by
    intro c r
    unfold store_mode
    dsimp only
    simp only [ite_retry]
    rfl
  have ack : ∀ cmd, Blind (process_vdm_ack · cmd) := by
    intro cmd c r
    dsimp only
    unfold process_vdm_ack
    simp only [ite_retry, mode c r, store_svids_blind 6 c r]
    rfl
  intro chip r
  unfold process_vdm_msg
  dsimp only
  simp only [ite_retry, ack _ _ r]
  rfl

theorem vdm_send_blind {cmd mode : Nat} {begin : Chip → Chip} {acks : Chip → Bool} {finish : Chip → Chip × VdmRet}
    (hb : Blind begin) (ha : ∀ c r, acks (c.with_retry r) = acks c) (hf : BlindPair finish) :
    BlindPair (vdm_send cmd mode begin acks finish · evt) := by
  have case_default : BlindPair (vdm_send.case_default acks finish · evt) := by
    intro c r
    dsimp only
    unfold vdm_send.case_default
    rw [ha]
    simp only [ite_retried, hf _ r]
    rfl
  have case_1 : BlindPair (vdm_send.case_1 acks finish · evt) := by
    intro c r
    dsimp only
    unfold vdm_send.case_1
    rw [← policy_send_data_blind]
    dsimp only
    rw [with_retry_tx]
    generalize policy_send_data c = d
    cases d.tx_state
    · rfl
    · rfl
    · rfl
    · exact case_default _ r
  intro chip r
  dsimp only
  unfold vdm_send
  rw [with_retry_vdm]
  rcases chip.vdm_send_state with _ | _ | n
  · -- what is done before the command is handed over composes
    have first : Blind fun c => begin (set_vdm_mesg c cmd VDM_TYPE_INIT mode) := hb.comp (set_vdm_mesg_blind _ _ _)
    have idle : Blind fun c : Chip => { c with tx_state := .tx_idle, vdm_send_state := 1 } := fun _ _ => rfl
    have hi := (idle.comp first) chip r
    exact (case_1 _ r).trans (congrArg (vdm_send.case_1 acks finish · evt) hi)
  · exact case_1 _ r
  · exact case_default _ r

theorem auto_vdm_machine_blind : Blind (auto_vdm_machine · evt) := by
  have handle : ∀ func : Chip → Evt → Chip × VdmRet, BlindPair (func · evt) → Blind (AUTO_VDM_HANDLE func · evt) := by
    intro func hf c r
    dsimp only
    unfold AUTO_VDM_HANDLE
    have hr := hf c r
    dsimp only at hr
    rw [← hr]
    unfold retried
    dsimp only
    generalize func c evt = a
    cases a.2 <;> rfl
  have modes : BlindPair (vdm_send_discoverymodes · evt) := by
    intro c r
    refine (ite_retried ..).trans ?_
    exact (congrArg (ite _ · _) (vdm_send_blind (fun _ _ => rfl) (fun _ _ => rfl) (fun _ _ => rfl) c r)).trans rfl
  intro chip r
  dsimp only
  unfold auto_vdm_machine
  rw [with_retry_vdm]
  cases chip.vdm_state
  · exact handle _ (vdm_send_blind (fun _ _ => rfl) (fun _ _ => rfl) fun _ _ => rfl) chip r
  · exact handle _ (vdm_send_blind (fun _ _ => rfl) (fun _ _ => rfl) fun _ _ => rfl) chip r
  · exact handle _ modes chip r
  · exact handle _ (vdm_send_blind (fun _ _ => rfl) (fun _ _ => rfl) fun _ _ => rfl) chip r
  · exact handle _ (vdm_send_blind (fun _ _ => rfl) (fun _ _ => rfl) fun _ _ => rfl) chip r
  · exact handle _ (vdm_send_blind (fun _ _ => rfl) (fun _ _ => rfl) fun _ _ => rfl) chip r
  · rfl
  · rfl
  · rfl

/-! ## The dispatcher -/

theorem ready_rx_blind : Blind (ready_rx · evt) := by
  have done : Blind fun c => { process_vdm_msg c with work_continue := true, timer_state := T_DISABLED } := by
    intro c r
    dsimp only
    rw [← process_vdm_msg_blind]
    rfl
  intro chip r
  dsimp only
  unfold ready_rx
  simp only [ite_retry, swap_msg_process_blind _ r, done _ r]
  rfl

theorem src_ready_blind : Blind (fusb_state_src_ready · evt) := by
  have rest : Blind fun c =>
      if c.partner_cap 0 = 0#32 then set_state c .policy_src_get_sink_caps
      else if VDM_IS_ACTIVE c then auto_vdm_machine c evt
      else c := by
    intro c r
    simp only [ite_retry, auto_vdm_machine_blind _ r]
    rfl
  exact rest.comp ready_rx_blind

theorem snk_ready_blind : Blind (fusb_state_snk_ready · evt) := by
  have machine : Blind fun c => if VDM_IS_ACTIVE c then auto_vdm_machine c evt else c := by
    intro c r
    simp only [ite_retry, auto_vdm_machine_blind _ r]
    rfl
  exact platform_fusb_notify_blind.comp (swap_msg_process_blind.comp (machine.comp ready_rx_blind))

theorem case_negotiate_cap_blind : Blind (case_negotiate_cap · evt) :=
  src_transition_supply_blind.comp src_negotiate_cap_blind

theorem case_send_caps_blind : Blind (case_send_caps · evt) := by
  have rest : Blind fun c => if c.conn_state ≠ .policy_src_negotiate_cap then c else case_negotiate_cap c evt := by
    intro c r
    simp only [ite_retry, case_negotiate_cap_blind _ r]
    rfl
  exact rest.comp src_send_caps_blind

theorem case_evaluate_caps_blind : Blind (case_evaluate_caps · evt) :=
  snk_select_cap_blind.comp evaluate_caps_blind

theorem dispatch_blind : Blind (dispatch · evt) := by
  intro chip r
  dsimp only
  unfold dispatch
  rw [with_retry_policy]
  cases chip.conn_state
  · rfl
  · exact set_state_unattached_blind _ r
  · exact state_unattached_blind _ r
  · exact attach_wait_sink_blind _ r
  · exact attach_wait_source_blind _ r
  · exact attached_source_blind _ r
  · exact attached_sink_blind _ r
  · exact src_startup_blind _ r
  · exact case_send_caps_blind _ r
  · exact src_discovery_blind _ r
  · exact case_negotiate_cap_blind _ r
  · exact src_cap_response_blind _ r
  · exact src_transition_supply_blind _ r
  · exact src_transition_default_blind _ r
  · exact src_ready_blind _ r
  · exact src_get_sink_cap_blind _ r
  · exact send_softreset_blind (fun _ _ => rfl) _ _ r
  · exact softreset_blind (fun _ _ => rfl) _ _ r
  · exact send_hardreset_blind _ _ r
  · exact snk_startup_blind _ r
  · exact snk_discovery_blind _ r
  · exact snk_wait_caps_blind _ r
  · exact case_evaluate_caps_blind _ r
  · exact snk_select_cap_blind _ r
  · exact snk_transition_sink_blind _ r
  · exact snk_ready_blind _ r
  · exact send_softreset_blind snk_soft_reset_done_blind _ _ r
  · exact softreset_blind snk_soft_reset_done_blind _ _ r
  · exact send_hardreset_blind _ _ r
  · exact snk_transition_default_blind _ r
  · exact prs_evaluate_blind _ r
  · exact prs_accept_blind _ r
  · exact src_prs_transition_to_off_blind _ r
  · exact src_prs_source_off_blind _ r
  · exact prs_assert_blind _ _ _ r
  · exact prs_reject_blind _ r
  · exact send_swap_blind _ _ r
  · exact prs_evaluate_blind _ r
  · exact prs_accept_blind _ r
  · exact snk_prs_transition_to_off_blind _ r
  · exact snk_prs_source_on_blind _ r
  · exact prs_assert_blind _ _ _ r
  · exact prs_reject_blind _ r
  · exact send_swap_blind _ _ r
  · exact send_swap_blind _ _ r
  · exact vcs_wait_for_vconn_blind _ r
  · exact vcs_set_vconn_blind _ _ r
  · exact vcs_set_vconn_blind _ _ r
  · exact vcs_send_ps_rdy_blind _ r
  · exact vcs_ufp_evaluate_swap_blind _ r
  · exact prs_reject_blind _ r
  · exact vcs_ufp_accept_blind _ r
  · exact vcs_wait_for_vconn_blind _ r
  · exact vcs_set_vconn_blind _ _ r
  · exact vcs_set_vconn_blind _ _ r
  · exact vcs_send_ps_rdy_blind _ r
  · exact drs_evaluate_blind _ r
  · exact drs_send_accept_blind _ r
  · exact prs_reject_blind _ r
  · exact drs_role_change_blind _ r
  · exact send_swap_blind _ _ r
  · exact drs_evaluate_blind _ r
  · exact drs_send_accept_blind _ r
  · exact prs_reject_blind _ r
  · exact drs_role_change_blind _ r
  · exact send_swap_blind _ _ r
  · exact try_attach_blind _ _ r
  · exact try_attach_blind _ _ r

/-! ## A step -/

/-- The chip reports that a hard reset of ours is on the wire. -/
def Env.hardsent (env : Env) : Bool := bit env.interrupta INTERRUPTA_HARDSENT

/-- The work finds HARDSENT. -/
def Act.hardsent : Act → Bool
  | .work env => env.hardsent
  | _ => false

/-- A test of `tcpc_alert` that leaves the static variable alone. -/
def BlindAlert (f : Chip × Evt → Chip × Evt) : Prop := ∀ a retry, retried (f a) retry = f (retried a retry)

theorem BlindAlert.ite {c : Chip × Evt → Bool} {f : Chip × Evt → Chip × Evt} (hc : ∀ a r, c (retried a r) = c a)
    (hf : BlindAlert f) : BlindAlert fun a => if c a then f a else a := by
  intro a r
  dsimp only
  rw [hc, ite_retried, hf]

/-- The tests of `tcpc_alert` before the last. -/
def alert_before_hardsent (env : Env) (a : Chip × Evt) : Chip × Evt :=
  a |> alert_comp_chng env |> alert_vbusok env |> alert_togdone env |> alert_txsent env |> alert_gcrcsent env
    |> alert_hardrst env |> alert_retryfail env

theorem alert_before_hardsent_blind (env : Env) : BlindAlert (alert_before_hardsent env) := by
  have comp : BlindAlert (alert_comp_chng env) := .ite (fun _ _ => rfl) fun _ _ => rfl
  have vbusok : BlindAlert (alert_vbusok env) := .ite (fun _ _ => rfl) fun _ _ => rfl
  have togdone : BlindAlert (alert_togdone env) := .ite (fun _ _ => rfl) fun _ _ => rfl
  have txsent : BlindAlert (alert_txsent env) := .ite (fun _ _ => rfl) fun _ _ => rfl
  have gcrcsent : BlindAlert (alert_gcrcsent env) := .ite (fun _ _ => rfl) fun _ _ => rfl
  have hardrst : BlindAlert (alert_hardrst env) := by
    refine .ite (fun _ _ => rfl) fun a r => ?_
    exact congrArg (·, { a.2 with rec_reset := true }) (pd_execute_hard_reset_blind (fusb302_pd_reset a.1) r)
  have retryfail : BlindAlert (alert_retryfail env) := .ite (fun _ _ => rfl) fun _ _ => rfl
  intro a r
  unfold alert_before_hardsent
  rw [retryfail, hardrst, gcrcsent, txsent, togdone, vbusok, comp]

theorem tcpc_alert_blind {env : Env} (h : env.hardsent = false) : BlindPair (tcpc_alert · env) := by
  have hardsent : ∀ a, alert_hardsent env a = a := fun a => if_neg (Bool.eq_false_iff.1 h)
  intro chip r
  have hb := alert_before_hardsent_blind env (chip, {}) r
  exact (congrArg (retried · r) (hardsent _)).trans (hb.trans (hardsent _).symm)

theorem mux_alert_blind (evt : Evt) : BlindPair (mux_alert · evt) := by
  intro chip r
  unfold mux_alert
  by_cases hm : chip.timer_mux = 0 <;> by_cases hs : chip.timer_state = 0 <;>
    simp [hm, hs, with_retry_timers, with_retry_policy, retried] <;> rfl

theorem detach_blind : Blind (detach · evt) := by
  intro chip r
  refine (ite_retry ..).trans ?_
  rw [try_detach_blind]
  rfl

theorem receive_blind : Blind (receive · evt) := by
  have fetch : Blind tcpm_get_message := fun c r => get_message_blind c.fifo c r
  have answer : Blind fun c =>
      if PACKET_IS_CONTROL_MSG c.rec_head CMT_SOFTRESET then
        if c.notify.power_role = .SOURCE then set_state c .policy_src_softrst else set_state c .policy_snk_softrst
      else c := by
    intro c r
    simp only [ite_retry]
    rfl
  intro chip r
  refine (ite_retry ..).trans ?_
  rw [(answer.comp fetch) chip r]
  rfl

theorem before_switch_blind : Blind (before_switch · evt) := by
  have count : Blind (count_sent · evt) := fun _ _ => ite_retry ..
  exact count.comp (receive_blind.comp detach_blind)

/-- An invocation without a HARDSENT is the same whatever the static variable. -/
theorem state_machine_typec_blind {env : Env} (h : env.hardsent = false) : Blind (state_machine_typec · env) := by
  have ha : BlindPair (alerts · env) := by
    intro c r
    have ho : observe (c.with_retry r) env = (observe c env).with_retry r := rfl
    have ht : tcpc_alert ((observe c env).with_retry r) env = retried (tcpc_alert (observe c env) env) r :=
      (tcpc_alert_blind h _ r).symm
    unfold alerts
    dsimp only
    rw [ho, ht]
    exact mux_alert_blind _ _ r
  intro chip r
  dsimp only
  unfold state_machine_typec
  have hr := ha chip r
  dsimp only at hr
  rw [← hr]
  refine (ite_retry ..).trans ?_
  rw [(dispatch_blind.comp before_switch_blind) _ r]
  rfl

theorem step_blind {act : Act} (h : act.hardsent = false) : Blind (step · act) := by
  cases act with
  | work env => exact state_machine_typec_blind h
  | timer_state => exact fun _ _ => ite_retry ..
  | timer_mux => exact fun _ _ => ite_retry ..

/-! ## The static variable itself -/

theorem Blind.kept {f : Chip → Chip} (hf : Blind f) (chip : Chip) : (f chip).retry = chip.retry := by
  have h := hf chip chip.retry
  rw [with_own_retry] at h
  rw [← h]
  rfl

theorem BlindPair.kept {f : Chip → Chip × β} (hf : BlindPair f) (chip : Chip) : (f chip).1.retry = chip.retry := by
  have h : Blind fun c => (f c).1 := fun c r => congrArg Prod.fst (hf c r)
  exact h.kept chip

theorem tcpc_alert_retry (chip : Chip) (env : Env) : (tcpc_alert chip env).1.retry = (chip.retry != env.hardsent) := by
  have hb : (alert_before_hardsent env (chip, {})).1.retry = chip.retry := by
    rw [show (chip, ({} : Evt)) = retried (chip, {}) chip.retry from rfl, ← alert_before_hardsent_blind]
    rfl
  rw [← hb]
  change (alert_hardsent env (alert_before_hardsent env (chip, {}))).1.retry = _
  generalize alert_before_hardsent env (chip, {}) = a
  unfold alert_hardsent
  cases hs : bit env.interrupta INTERRUPTA_HARDSENT with
  | false => simp [Env.hardsent, hs]
  | true =>
    cases hr : a.1.retry with
    | false =>
      have hk : _ = true := pd_execute_hard_reset_blind.kept (fusb302_pd_reset { a.1 with retry := true })
      simpa [Env.hardsent, hs] using hk
    | true => simp [Env.hardsent, hs]

/-- A HARDSENT flips the static variable, and nothing else changes it. -/
theorem step_retry (chip : Chip) (act : Act) : (step chip act).retry = (chip.retry != act.hardsent) := by
  cases act with
  | work env =>
    have ha : (alerts chip env).1.retry = (chip.retry != env.hardsent) :=
      ((mux_alert_blind _).kept _).trans (tcpc_alert_retry (observe chip env) env)
    change (state_machine_typec chip env).retry = _
    unfold state_machine_typec
    dsimp only
    split
    · exact ha
    · exact (dispatch_blind.kept _).trans ((before_switch_blind.kept _).trans ha)
  | timer_state => exact ((@step_blind .timer_state rfl).kept chip).trans (Bool.bne_false _).symm
  | timer_mux => exact ((@step_blind .timer_mux rfl).kept chip).trans (Bool.bne_false _).symm

end Fusb302
