import LinuxDriver.Fusb302.Ordinary
/-!
# What a policy leaves alone

The offers probe sets, the debounce of the CC lines and the role the port tries
are settled before a policy starts. No handler of a policy writes them, and
none goes back to the search for a partner: it gives up by an error recovery or
for good.
-/

namespace Fusb302

/-- What a policy leaves alone. -/
structure Standing where
  n_caps_used : Nat
  source_power_supply : Fin 7 → BitVec 32
  source_max_current : Fin 7 → BitVec 32
  pd_cap_info : PdCapInfo
  partner_cap : Fin 7 → BitVec 32
  cc1 : CcVolt
  cc2 : CcVolt
  debounce_cnt : Nat
  role : RoleMode
  try_role : RoleMode
  try_role_complete : Bool

/-- The view of a chip. -/
def Chip.standing (chip : Chip) : Standing where
  n_caps_used := chip.n_caps_used
  source_power_supply := chip.source_power_supply
  source_max_current := chip.source_max_current
  pd_cap_info := chip.pd_cap_info
  partner_cap := chip.partner_cap
  cc1 := chip.cc1
  cc2 := chip.cc2
  debounce_cnt := chip.debounce_cnt
  role := chip.role
  try_role := chip.try_role
  try_role_complete := chip.try_role_complete

/-- The states of the search for a partner. -/
def ConnState.seeking : ConnState → Bool
  | .unattached | .attach_wait_sink | .attach_wait_source | .attached_source | .attached_sink | .attach_try_src
  | .attach_try_snk => true
  | _ => false

/-- A policy goes on, with this standing. -/
structure Stands (x : Standing) (chip : Chip) : Prop where
  standing : chip.standing = x
  seeking : chip.conn_state.seeking = false

variable {x : Standing} {chip c c' : Chip} {evt : Evt} {env : Env} {cmd : Nat} {is_DMT : Bool} {s : ConnState}

/-! ## Below the handlers -/

/-- States that a policy's handlers enter by themselves: none of the search, and
not the query that a ready source starts. -/
def ConnState.entered : ConnState → Bool
  | .policy_src_get_sink_caps => false
  | s => !s.seeking

/-- A set of states that has all of these. -/
structure Scope where
  holds : ConnState → Prop
  opens : ∀ {s}, s.entered = true → holds s

/-- A policy goes on in these states, with this standing. -/
structure StandsIn (b : Scope) (x : Standing) (chip : Chip) : Prop where
  standing : chip.standing = x
  state : b.holds chip.conn_state

variable {b : Scope}

theorem StandsIn.kept (h : StandsIn b x c) (hs : c'.standing = c.standing) (hc : c'.conn_state = c.conn_state) :
    StandsIn b x c' := ⟨hs.trans h.standing, by rw [hc]; exact h.state⟩

theorem StandsIn.move (h : StandsIn b x c) (hs : s.entered = true) : StandsIn b x (set_state c s) := ⟨h.standing, b.opens hs⟩

@[simp] theorem set_state_standing : (set_state chip s).standing = chip.standing := rfl

@[simp] theorem regmap_write_standing (reg : Reg) (val : Byte) : (regmap_write chip reg val).standing = chip.standing :=
  rfl

@[simp] theorem regmap_update_bits_standing (reg : Reg) (mask val : Byte) :
    (regmap_update_bits chip reg mask val).standing = chip.standing := rfl

@[simp] theorem platform_set_vbus_lvl_enable_standing (vbus_5v vbus_other : Bool) :
    (platform_set_vbus_lvl_enable chip vbus_5v vbus_other).standing = chip.standing := rfl

@[simp] theorem tcpm_set_cc_pull_mode_standing (mode : CcMode) :
    (tcpm_set_cc_pull_mode chip mode).standing = chip.standing := by
  unfold tcpm_set_cc_pull_mode
  dsimp only
  repeat' split
  all_goals rfl

@[simp] theorem tcpm_set_cc_standing (mode : RoleMode) : (tcpm_set_cc chip mode).standing = chip.standing := by
  cases mode <;> simp [tcpm_set_cc]

@[simp] theorem tcpm_set_rx_enable_standing (enable : Bool) :
    (tcpm_set_rx_enable chip enable).standing = chip.standing := by
  cases enable <;> rfl

@[simp] theorem tcpm_set_vconn_standing (enable : Bool) : (tcpm_set_vconn chip enable).standing = chip.standing := rfl

@[simp] theorem tcpm_select_rp_value_standing (rp : TcpmRpValue) :
    (tcpm_select_rp_value chip rp).standing = chip.standing := rfl

@[simp] theorem tcpm_init_standing : (tcpm_init chip).standing = chip.standing := by
  unfold tcpm_init
  simp only [regmap_write_standing, regmap_update_bits_standing, tcpm_set_vconn_standing,
    tcpm_select_rp_value_standing]
  rfl

@[simp] theorem set_state_unattached_standing :
    (set_state_unattached chip).standing = { chip.standing with try_role_complete := false } := by
  have hi : (set_state (tcpm_set_rx_enable (tcpm_init chip) false) .unattached).standing = chip.standing := by
    rw [set_state_standing, tcpm_set_rx_enable_standing, tcpm_init_standing]
  unfold set_state_unattached
  dsimp only
  generalize set_state (tcpm_set_rx_enable (tcpm_init chip) false) .unattached = c at hi ⊢
  have hc := (@tcpm_set_cc_standing c c.role).trans hi
  generalize tcpm_set_cc c c.role = d at hc
  rw [← hc]
  rfl

@[simp] theorem policy_send_data_standing : (policy_send_data chip).standing = chip.standing := by
  cases h : chip.tx_state <;> simp [policy_send_data, h, Chip.standing]

theorem policy_send_hardrst_standing : (policy_send_hardrst chip evt).standing = chip.standing := by
  unfold policy_send_hardrst
  repeat' split
  all_goals rfl

theorem set_vdm_mesg_standing (chip : Chip) (cmd type mode : Nat) :
    (set_vdm_mesg chip cmd type mode).standing = chip.standing := by
  obtain ⟨cnt, load, pin, he⟩ := set_vdm_mesg_builds chip cmd type mode
  rw [he]
  rfl

theorem send_then_stands {success failed : Chip → Chip} (h : StandsIn b x chip) (hs : StandsIn b x (success chip))
    (hf : StandsIn b x (failed chip)) : StandsIn b x (send_then chip success failed) := by
  rcases send_then_cases chip success failed with ⟨_, he⟩ | ⟨_, he⟩ | ⟨_, _, he⟩ <;> rw [he]
  · exact hs
  · exact hf
  · exact h.kept (by simp) (by simp)

theorem sent_build_stands (h : StandsIn b x chip) (cmd : Nat) (is_DMT : Bool) :
    StandsIn b x (policy_send_data (build_mesg chip cmd is_DMT)) :=
  h.kept (policy_send_data_standing.trans rfl) (by simp)

theorem send_and_wait_stands (h : StandsIn b x chip) {failed : ConnState} (hf : failed.entered = true) :
    StandsIn b x (send_and_wait chip failed) :=
  send_then_stands h (h.kept rfl rfl) (h.move hf)

/-! ## The policy's handlers -/

theorem by_power_role_entered {src snk : ConnState} (h : src.entered = true) (h' : snk.entered = true) :
    (by_power_role chip src snk).entered = true := by
  unfold by_power_role
  split
  · exact h
  · exact h'

theorem by_data_role_entered {dfp ufp : ConnState} (h : dfp.entered = true) (h' : ufp.entered = true) :
    (by_data_role chip dfp ufp).entered = true := by
  unfold by_data_role
  split
  · exact h
  · exact h'

theorem src_discovery_stands (h : StandsIn b x chip) : StandsIn b x (fusb_state_src_discovery chip evt) := by
  unfold fusb_state_src_discovery
  dsimp only
  repeat' split
  all_goals first | exact h.kept rfl rfl | exact ⟨h.standing, b.opens rfl⟩

theorem src_send_caps_stands (h : StandsIn b x chip) : StandsIn b x (fusb_state_src_send_caps chip evt) := by
  have hd : ∀ {c : Chip}, StandsIn b x c → StandsIn b x (fusb_state_src_send_caps.case_default c evt) := by
    intro c hc
    unfold fusb_state_src_send_caps.case_default
    repeat' split
    all_goals first | exact hc | exact hc.move rfl
  have h1 : ∀ {c : Chip}, StandsIn b x c → StandsIn b x (fusb_state_src_send_caps.case_1 c evt) := by
    intro c hc
    have hs : StandsIn b x (policy_send_data c) := hc.kept (by simp) (by simp)
    unfold fusb_state_src_send_caps.case_1
    dsimp only
    repeat' split
    · exact hs.move rfl
    · exact hs.kept rfl rfl
    · exact hd (hs.kept rfl rfl)
    · exact hs
    · exact hd hs
  unfold fusb_state_src_send_caps
  split
  · exact h1 (h.kept rfl rfl)
  · exact h1 h
  · exact hd h

theorem negotiate_cap_stands (h : StandsIn b x chip) : StandsIn b x (fusb_state_src_negotiate_cap chip) := by
  unfold fusb_state_src_negotiate_cap
  dsimp only
  split
  · exact ⟨h.standing, b.opens rfl⟩
  · exact ⟨h.standing, b.opens rfl⟩

theorem src_transition_supply_stands (h : StandsIn b x chip) :
    StandsIn b x (fusb_state_src_transition_supply chip evt) := by
  unfold fusb_state_src_transition_supply
  split
  · rw [fusb_state_src_transition_supply.case_1, send_then_build_mesg]
    exact sent_build_stands h ..
  · exact send_then_stands h (h.kept rfl rfl) (h.move rfl)
  · split
    · exact h.kept rfl rfl
    · exact h
  · exact send_then_stands h (h.move rfl) (h.move rfl)

theorem src_cap_response_stands (h : StandsIn b x chip) : StandsIn b x (fusb_state_src_cap_response chip) := by
  unfold fusb_state_src_cap_response fusb_state_src_cap_response.case_default
  split
  · rw [send_then_build_mesg]
    exact sent_build_stands h ..
  · refine send_then_stands h ?_ (h.move rfl)
    split
    · exact h.move rfl
    · exact h.move rfl

theorem src_transition_default_stands (h : StandsIn b x chip) :
    StandsIn b x (fusb_state_src_transition_default chip evt) := by
  unfold fusb_state_src_transition_default
  dsimp only
  split
  · exact h.kept rfl rfl
  · split
    · exact ⟨h.standing, b.opens rfl⟩
    · exact h

theorem send_hardreset_stands (h : StandsIn b x chip) {next : ConnState} (hn : next.entered = true) :
    StandsIn b x (send_hardreset chip evt next) := by
  have hd : ∀ {c : Chip}, StandsIn b x c → StandsIn b x (send_hardreset.case_default c evt next) := by
    intro c hc
    have hp : StandsIn b x (policy_send_hardrst c evt) := hc.kept policy_send_hardrst_standing (by simp)
    unfold send_hardreset.case_default
    dsimp only
    split
    · exact ⟨hp.standing, b.opens hn⟩
    · exact hp.move rfl
    · exact hp
  unfold send_hardreset
  split
  · exact hd (h.kept rfl rfl)
  · exact hd h

theorem softreset_stands {success : Chip → Chip} {failed : ConnState} (h : StandsIn b x chip)
    (hs : StandsIn b x (success chip)) (hf : failed.entered = true) : StandsIn b x (softreset chip success failed) := by
  unfold softreset
  split
  · rw [send_then_build_mesg]
    exact sent_build_stands h ..
  · exact send_then_stands h hs (h.move hf)

theorem send_softreset_stands {accepted : Chip → Chip} {failed : ConnState} (h : StandsIn b x chip)
    (ha : ∀ {c : Chip}, StandsIn b x c → StandsIn b x (accepted c)) (hf : failed.entered = true) :
    StandsIn b x (send_softreset chip evt accepted failed) := by
  have hd : ∀ {c : Chip}, StandsIn b x c → StandsIn b x (send_softreset.case_default c evt accepted failed) := by
    intro c hc
    unfold send_softreset.case_default
    repeat' split
    · exact ha hc
    · exact hc
    · exact hc.move hf
    · exact hc
  have h1 : ∀ {c : Chip}, StandsIn b x c → StandsIn b x (send_softreset.case_1 c evt accepted failed) := by
    intro c hc
    unfold send_softreset.case_1
    dsimp only
    split
    · exact send_and_wait_stands hc hf
    · exact hd (send_and_wait_stands hc hf)
  unfold send_softreset
  split
  · exact h1 (h.kept rfl rfl)
  · exact h1 h
  · exact hd h

theorem snk_wait_caps_stands (h : StandsIn b x chip) : StandsIn b x (fusb_state_snk_wait_caps chip evt) := by
  have hg : StandsIn b x (give_up chip) := by
    unfold give_up
    split
    · exact h.move rfl
    · exact h.move rfl
  unfold fusb_state_snk_wait_caps
  repeat' split
  all_goals first | exact h | exact hg | exact ⟨h.standing, b.opens rfl⟩

theorem set_pos_power_from_standing (chip : Chip) (max_vol max_cur : Int) (n : Nat) :
    (set_pos_power_from chip max_vol max_cur n).standing = chip.standing := by
  induction n with
  | zero => rfl
  | succ n ih =>
    unfold set_pos_power_from
    split
    · rfl
    · exact ih

theorem evaluate_caps_stands (h : StandsIn b x chip) : StandsIn b x (fusb_state_snk_evaluate_caps chip) := by
  have hp : ∀ c : Chip, (fusb302_set_pos_power_by_charge_ic c).standing = c.standing := by
    intro c
    unfold fusb302_set_pos_power_by_charge_ic fusb_set_pos_power
    dsimp only
    repeat' split
    · rfl
    · exact set_pos_power_from_standing ..
    · rfl
  unfold fusb_state_snk_evaluate_caps
  dsimp only
  split
  · exact ⟨(hp _).trans h.standing, b.opens rfl⟩
  · exact ⟨(hp _).trans h.standing, b.opens rfl⟩

theorem snk_select_cap_stands (h : StandsIn b x chip) : StandsIn b x (fusb_state_snk_select_cap chip evt) := by
  have hd : ∀ {c : Chip}, StandsIn b x c → StandsIn b x (fusb_state_snk_select_cap.case_default c evt) := by
    intro c hc
    unfold fusb_state_snk_select_cap.case_default
    repeat' split
    all_goals first | exact hc | exact ⟨hc.standing, b.opens rfl⟩
  have h1 : ∀ {c : Chip}, StandsIn b x c → StandsIn b x (fusb_state_snk_select_cap.case_1 c evt) := by
    intro c hc
    have hs : StandsIn b x (policy_send_data c) := hc.kept (by simp) (by simp)
    unfold fusb_state_snk_select_cap.case_1
    dsimp only
    repeat' split
    · exact hs.move rfl
    · exact hs.kept rfl rfl
    · exact hd (hs.kept rfl rfl)
    · exact hs
    · exact hd hs
  unfold fusb_state_snk_select_cap
  split
  · exact h1 (h.kept rfl rfl)
  · exact h1 h
  · exact hd h

theorem snk_transition_sink_stands (h : StandsIn b x chip) : StandsIn b x (fusb_state_snk_transition_sink chip evt) := by
  unfold fusb_state_snk_transition_sink
  repeat' split
  all_goals first | exact h | exact ⟨h.standing, b.opens rfl⟩

theorem snk_transition_default_stands (h : StandsIn b x chip) :
    StandsIn b x (fusb_state_snk_transition_default chip evt) := by
  have h1 : ∀ {c : Chip}, StandsIn b x c → StandsIn b x (fusb_state_snk_transition_default.case_1 c evt) := by
    intro c hc
    unfold fusb_state_snk_transition_default.case_1
    dsimp only
    repeat' split
    all_goals first | exact hc.kept rfl rfl | exact ⟨hc.standing, b.opens rfl⟩
  unfold fusb_state_snk_transition_default
  dsimp only
  repeat' split
  · exact h1 (h.kept rfl rfl)
  · exact h1 (h.kept rfl rfl)
  · exact h1 h
  all_goals first | exact h.kept rfl rfl | exact ⟨h.standing, b.opens rfl⟩

theorem simple_msg_stands {success failed : ConnState} (h : StandsIn b x chip) (hs : success.entered = true)
    (hf : failed.entered = true) : StandsIn b x (fusb_state_send_simple_msg chip cmd is_DMT success failed) := by
  unfold fusb_state_send_simple_msg
  dsimp only
  split
  · rw [send_then_build_mesg]
    exact sent_build_stands h ..
  · exact send_then_stands h (h.move hs) (h.move hf)
  · exact h

theorem src_prs_transition_to_off_stands (h : StandsIn b x chip) :
    StandsIn b x (fusb_state_src_prs_transition_to_off chip evt) := by
  unfold fusb_state_src_prs_transition_to_off
  dsimp only
  repeat' split
  all_goals first | exact h.kept rfl rfl | exact ⟨h.standing, b.opens rfl⟩

theorem src_prs_source_off_stands (h : StandsIn b x chip) : StandsIn b x (fusb_state_src_prs_source_off chip evt) := by
  have hf : StandsIn b x (src_prs_failed chip) := ⟨h.standing, b.opens rfl⟩
  unfold fusb_state_src_prs_source_off fusb_state_src_prs_source_off.case_1
  dsimp only
  repeat' split
  · rw [send_then_build_mesg]
    exact sent_build_stands h ..
  · exact send_then_stands h (h.kept rfl rfl) hf
  · exact ⟨h.standing, b.opens rfl⟩
  · exact h
  · exact hf
  · exact h
  · exact h

theorem snk_prs_transition_to_off_stands (h : StandsIn b x chip) :
    StandsIn b x (fusb_state_snk_prs_transition_to_off chip evt) := by
  have h1 : ∀ {c : Chip}, StandsIn b x c → StandsIn b x (fusb_state_snk_prs_transition_to_off.case_1 c evt) := by
    intro c hc
    unfold fusb_state_snk_prs_transition_to_off.case_1
    repeat' split
    all_goals first | exact hc | exact ⟨hc.standing, b.opens rfl⟩
  unfold fusb_state_snk_prs_transition_to_off
  split
  · exact h1 (h.kept rfl rfl)
  · exact h1 h
  · exact h

theorem snk_prs_source_on_stands (h : StandsIn b x chip) : StandsIn b x (fusb_state_snk_prs_source_on chip evt) := by
  have h2 : ∀ {c : Chip}, StandsIn b x c → StandsIn b x (fusb_state_snk_prs_source_on.case_2 c) := fun hc =>
    send_then_stands hc (hc.kept rfl rfl) ⟨hc.standing, b.opens rfl⟩
  unfold fusb_state_snk_prs_source_on
  dsimp only
  repeat' split
  · exact h.kept rfl rfl
  · exact h2 (h.kept rfl rfl)
  · exact h2 h
  · exact ⟨h.standing, b.opens rfl⟩
  · exact h
  · exact h

theorem send_swap_stands (h : StandsIn b x chip) : StandsIn b x (fusb_state_send_swap chip evt cmd) := by
  have h1 : ∀ {c : Chip}, StandsIn b x c → StandsIn b x (fusb_state_send_swap.case_1 c cmd) := by
    intro c hc
    refine send_then_stands hc (hc.kept rfl rfl) ?_
    split
    · exact hc.move rfl
    · exact hc.move (by_power_role_entered rfl rfl)
  have ha : StandsIn b x (fusb_state_send_swap.accepted chip cmd) := by
    unfold fusb_state_send_swap.accepted
    dsimp only
    repeat' split
    · exact ⟨h.standing, b.opens rfl⟩
    · exact ⟨h.standing, b.opens rfl⟩
    · exact ⟨h.standing, b.opens (by_power_role_entered rfl rfl)⟩
    · exact ⟨h.standing, b.opens (by_data_role_entered rfl rfl)⟩
    · exact h.kept rfl rfl
  unfold fusb_state_send_swap
  dsimp only
  repeat' split
  · exact h1 (h.kept rfl rfl)
  · exact h1 h
  · exact ha
  · exact ⟨h.standing, b.opens (by_power_role_entered rfl rfl)⟩
  · exact h
  · exact h.move (by_power_role_entered rfl rfl)
  · exact h
  · exact h

theorem prs_evaluate_stands (h : StandsIn b x chip) : StandsIn b x (fusb_state_prs_evaluate chip) := by
  unfold fusb_state_prs_evaluate
  split
  · exact h.move rfl
  · exact h.move rfl

theorem vcs_ufp_evaluate_swap_stands (h : StandsIn b x chip) : StandsIn b x (fusb_state_vcs_ufp_evaluate_swap chip) := by
  unfold fusb_state_vcs_ufp_evaluate_swap
  split
  · exact h.move rfl
  · exact h.move rfl

theorem vcs_set_vconn_stands (h : StandsIn b x chip) (on : Bool) : StandsIn b x (fusb_state_vcs_set_vconn chip on) := by
  cases on
  · exact ⟨h.standing, b.opens (by_power_role_entered rfl rfl)⟩
  · exact ⟨h.standing, b.opens (by_data_role_entered rfl rfl)⟩

theorem drs_evaluate_stands (h : StandsIn b x chip) : StandsIn b x (fusb_state_drs_evaluate chip) := by
  unfold fusb_state_drs_evaluate
  split
  · exact h.move (by_data_role_entered rfl rfl)
  · exact h.move (by_data_role_entered rfl rfl)

theorem vcs_wait_for_vconn_stands (h : StandsIn b x chip) : StandsIn b x (fusb_state_vcs_wait_for_vconn chip evt) := by
  have h1 : ∀ {c : Chip}, StandsIn b x c → StandsIn b x (fusb_state_vcs_wait_for_vconn.case_1 c evt) := by
    intro c hc
    unfold fusb_state_vcs_wait_for_vconn.case_1
    repeat' split
    · exact hc.move (by_data_role_entered rfl rfl)
    · exact hc
    · exact hc.move (by_power_role_entered rfl rfl)
    · exact hc
  unfold fusb_state_vcs_wait_for_vconn
  split
  · exact h1 (h.kept rfl rfl)
  · exact h1 h
  · exact h

/-! ## The ready states -/

theorem swap_msg_process_stands (h : StandsIn b x chip) : StandsIn b x (fusb_state_swap_msg_process chip evt) := by
  unfold fusb_state_swap_msg_process
  repeat' split
  all_goals first | exact h | exact h.move rfl | exact ⟨h.standing, h.state⟩

theorem store_svids_standing (chip : Chip) (k : Nat) : (store_svids chip k).standing = chip.standing := by
  induction k generalizing chip with
  | zero => rfl
  | succ k ih =>
    unfold store_svids
    dsimp only
    repeat' split
    · rfl
    · rfl
    · exact ih _

theorem process_vdm_ack_standing (chip : Chip) (cmd : Nat) : (process_vdm_ack chip cmd).standing = chip.standing := by
  unfold process_vdm_ack store_mode
  dsimp only
  repeat' split
  all_goals first | rfl | exact store_svids_standing ..

theorem process_vdm_msg_stands (h : StandsIn b x chip) : StandsIn b x (process_vdm_msg chip) := by
  refine ⟨?_, by simpa using h.state⟩
  rw [← h.standing]
  unfold process_vdm_msg
  dsimp only
  repeat' split
  all_goals first | rfl | exact process_vdm_ack_standing ..

theorem stands_waits : Waits (StandsIn b x) fun r => StandsIn b x r.1 where
  send h := h.kept (by simp) (by simp)
  sent h := h.kept rfl rfl
  failed h := h.kept rfl rfl
  timeout h := h.kept rfl rfl
  waiting h := h

theorem vdm_send_stands {mode : Nat} {begin : Chip → Chip} {acks : Chip → Bool} {finish : Chip → Chip × VdmRet}
    (h : StandsIn b x chip) (hb : ∀ {c : Chip}, StandsIn b x c → StandsIn b x (begin c))
    (hf : ∀ {c : Chip}, StandsIn b x c → StandsIn b x (finish c).1) :
    StandsIn b x (vdm_send cmd mode begin acks finish chip evt).1 := by
  refine stands_waits.vdm_send (fun _ => ?_) (fun _ => h) fun c hc _ => hf (hc.kept rfl rfl)
  have hm : StandsIn b x (begin (set_vdm_mesg chip cmd VDM_TYPE_INIT mode)) :=
    hb (h.kept (set_vdm_mesg_standing ..) (by rw [(set_vdm_mesg_frame ..).1]))
  exact (hm.kept rfl rfl : StandsIn b x { begin (set_vdm_mesg chip cmd VDM_TYPE_INIT mode) with
    tx_state := .tx_idle, vdm_send_state := 1 }).kept (by simp) (by simp)

theorem auto_vdm_machine_stands (h : StandsIn b x chip) : StandsIn b x (auto_vdm_machine chip evt) := by
  have handle : ∀ func, StandsIn b x (func chip evt).1 → StandsIn b x (AUTO_VDM_HANDLE func chip evt) := by
    intro func hf
    unfold AUTO_VDM_HANDLE
    dsimp only
    split
    all_goals exact hf.kept rfl rfl
  have same : ∀ {c : Chip}, StandsIn b x c → StandsIn b x c := fun h => h
  unfold auto_vdm_machine
  split
  · exact handle _ (vdm_send_stands h (fun h => h.kept rfl rfl) same)
  · exact handle _ (vdm_send_stands h (fun h => h.kept rfl rfl) same)
  · refine handle _ ?_
    unfold vdm_send_discoverymodes
    split
    · exact vdm_send_stands h same fun h => h.kept rfl rfl
    · exact h.kept rfl rfl
  · exact handle _ (vdm_send_stands h (fun h => h.kept rfl rfl) fun h => h.kept rfl rfl)
  · exact handle _ (vdm_send_stands h same fun h => h.kept rfl rfl)
  · exact handle _ (vdm_send_stands h same fun h => h.kept rfl rfl)
  · exact h.kept rfl rfl
  · exact h

theorem ready_rx_stands (h : StandsIn b x chip) : StandsIn b x (ready_rx chip evt) := by
  unfold ready_rx
  repeat' split
  · exact (process_vdm_msg_stands h).kept rfl rfl
  · exact swap_msg_process_stands h
  · exact h
  · exact h

/-- A ready source that has no capabilities of its partner asks for them. -/
theorem src_ready_stands (h : StandsIn b x chip) (hq : chip.partner_cap 0 = 0#32 → b.holds .policy_src_get_sink_caps) :
    StandsIn b x (fusb_state_src_ready chip evt) := by
  have hr : StandsIn b x (ready_rx chip evt) := ready_rx_stands h
  have hp : (ready_rx chip evt).partner_cap = chip.partner_cap :=
    congrArg Standing.partner_cap (hr.standing.trans h.standing.symm)
  unfold fusb_state_src_ready
  dsimp only
  repeat' split
  · rename_i h0
    exact ⟨hr.standing, hq (by rwa [hp] at h0)⟩
  · exact auto_vdm_machine_stands hr
  · exact hr

theorem snk_ready_stands (h : StandsIn b x chip) : StandsIn b x (fusb_state_snk_ready chip evt) := by
  unfold fusb_state_snk_ready
  dsimp only
  refine (swap_msg_process_stands ?_ : StandsIn b x (fusb_state_swap_msg_process _ evt)).kept rfl rfl
  split
  · exact auto_vdm_machine_stands (ready_rx_stands h)
  · exact ready_rx_stands h

/-! ## The states that write `partner_cap` -/

/-- The states of a policy. -/
def policies : Scope where
  holds s := s.seeking = false
  opens {s} h := by cases s <;> first | rfl | cases h

theorem Stands.within (h : Stands x c) : StandsIn policies x c := ⟨h.standing, h.seeking⟩

theorem StandsIn.stands (h : StandsIn policies x c) : Stands x c := ⟨h.standing, h.state⟩

/-- The partner's capabilities apart. -/
def StandsBut (x : Standing) (chip : Chip) : Prop := ∃ caps, Stands { x with partner_cap := caps } chip

theorem Stands.but (h : Stands x chip) : StandsBut x chip := by
  obtain ⟨rfl, hs⟩ := h
  exact ⟨chip.partner_cap, rfl, hs⟩

theorem src_startup_stands (h : Stands x chip) :
    Stands { x with partner_cap := fun _ => 0#32 } (fusb_state_src_startup chip) := by
  obtain ⟨rfl, _⟩ := h
  exact ⟨rfl, rfl⟩

theorem snk_startup_stands (h : Stands x chip) :
    Stands { x with partner_cap := fun _ => 0#32 } (fusb_state_snk_startup chip) := by
  obtain ⟨rfl, _⟩ := h
  exact ⟨rfl, rfl⟩

theorem src_get_sink_cap_stands (h : Stands x chip) : StandsBut x (fusb_state_src_get_sink_cap chip evt) := by
  have hd : ∀ {c : Chip}, Stands x c → StandsBut x (fusb_state_src_get_sink_cap.case_default c evt) := by
    rintro c ⟨rfl, hs⟩
    unfold fusb_state_src_get_sink_cap.case_default
    repeat' split
    · exact ⟨_, rfl, rfl⟩
    · exact ⟨_, rfl, rfl⟩
    · exact ⟨_, rfl, rfl⟩
    · exact ⟨c.partner_cap, rfl, hs⟩
  have h1 : ∀ {c : Chip}, Stands x c → StandsBut x (fusb_state_src_get_sink_cap.case_1 c evt) := by
    intro c hc
    unfold fusb_state_src_get_sink_cap.case_1
    dsimp only
    split
    · exact (send_and_wait_stands hc.within rfl).stands.but
    · exact hd (send_and_wait_stands hc.within rfl).stands
  unfold fusb_state_src_get_sink_cap
  split
  · exact h1 ⟨h.standing, h.seeking⟩
  · exact h1 h
  · exact hd h

/-! ## The switch -/

/-- The states whose handlers write `partner_cap`. -/
def ConnState.writes_caps : ConnState → Bool
  | .policy_src_startup | .policy_snk_startup | .policy_src_get_sink_caps => true
  | _ => false

theorem dispatch_stands_in (h : StandsIn b x chip) (hs : chip.conn_state.seeking = false)
    (he : chip.conn_state ≠ .error_recovery) (hw : chip.conn_state.writes_caps = false)
    (hq : chip.conn_state = .policy_src_ready → chip.partner_cap 0 = 0#32 → b.holds .policy_src_get_sink_caps) :
    StandsIn b x (dispatch chip evt) := by
  unfold dispatch
  split
  all_goals rename_i hc
  all_goals try (rw [hc] at hs; cases hs)
  all_goals try (rw [hc] at hw; cases hw)
  · exact h
  · exact absurd hc he
  · exact src_discovery_stands h
  · unfold case_send_caps case_negotiate_cap
    dsimp only
    split
    · exact src_send_caps_stands h
    · exact src_transition_supply_stands (negotiate_cap_stands (src_send_caps_stands h))
  · exact src_transition_supply_stands (negotiate_cap_stands h)
  · exact src_transition_supply_stands h
  · exact src_cap_response_stands h
  · exact src_transition_default_stands h
  · exact src_ready_stands h (hq hc)
  · exact send_hardreset_stands h rfl
  · exact send_softreset_stands h (fun hc => ⟨hc.standing, b.opens rfl⟩) rfl
  · exact softreset_stands h ⟨h.standing, b.opens rfl⟩ rfl
  · exact ⟨h.standing, b.opens rfl⟩
  · exact snk_wait_caps_stands h
  · exact snk_select_cap_stands (evaluate_caps_stands h)
  · exact snk_select_cap_stands h
  · exact snk_transition_sink_stands h
  · exact snk_transition_default_stands h
  · exact snk_ready_stands h
  · exact send_hardreset_stands h rfl
  · exact send_softreset_stands h (fun hc => ⟨hc.standing, b.opens rfl⟩) rfl
  · exact softreset_stands h ⟨h.standing, b.opens rfl⟩ rfl
  · exact prs_evaluate_stands h
  · exact prs_evaluate_stands h
  · exact simple_msg_stands h (by_power_role_entered rfl rfl) (by_power_role_entered rfl rfl)
  · exact simple_msg_stands h (by_power_role_entered rfl rfl) (by_power_role_entered rfl rfl)
  · exact simple_msg_stands h (by_power_role_entered rfl rfl) (by_power_role_entered rfl rfl)
  · exact simple_msg_stands h (by_power_role_entered rfl rfl) (by_power_role_entered rfl rfl)
  · exact simple_msg_stands h (by_power_role_entered rfl rfl) (by_power_role_entered rfl rfl)
  · exact simple_msg_stands h (by_power_role_entered rfl rfl) (by_power_role_entered rfl rfl)
  · exact simple_msg_stands h (by_power_role_entered rfl rfl) (by_power_role_entered rfl rfl)
  · exact src_prs_transition_to_off_stands h
  · exact ⟨(tcpm_set_cc_pull_mode_standing _).trans h.standing, b.opens rfl⟩
  · exact src_prs_source_off_stands h
  · exact send_swap_stands h
  · exact send_swap_stands h
  · exact snk_prs_transition_to_off_stands h
  · exact ⟨(tcpm_set_cc_pull_mode_standing _).trans h.standing, b.opens rfl⟩
  · exact snk_prs_source_on_stands h
  · exact vcs_ufp_evaluate_swap_stands h
  · exact simple_msg_stands h (by split <;> rfl) (by_power_role_entered rfl rfl)
  · exact vcs_wait_for_vconn_stands h
  · exact vcs_wait_for_vconn_stands h
  · exact vcs_set_vconn_stands h _
  · exact vcs_set_vconn_stands h _
  · exact vcs_set_vconn_stands h _
  · exact vcs_set_vconn_stands h _
  · exact simple_msg_stands h (by_power_role_entered rfl rfl) (by_power_role_entered rfl rfl)
  · exact simple_msg_stands h (by_power_role_entered rfl rfl) (by_power_role_entered rfl rfl)
  · exact send_swap_stands h
  · exact drs_evaluate_stands h
  · exact drs_evaluate_stands h
  · exact simple_msg_stands h (by_power_role_entered rfl rfl) rfl
  · exact simple_msg_stands h (by_power_role_entered rfl rfl) rfl
  · exact ⟨h.standing, b.opens (by_power_role_entered rfl rfl)⟩
  · exact ⟨h.standing, b.opens (by_power_role_entered rfl rfl)⟩
  · exact send_swap_stands h
  · exact send_swap_stands h

theorem dispatch_stands (h : Stands x chip) (he : chip.conn_state ≠ .error_recovery)
    (hw : chip.conn_state.writes_caps = false) : Stands x (dispatch chip evt) :=
  (dispatch_stands_in h.within h.seeking he hw fun _ _ => rfl).stands

/-- A handler of a policy writes nothing of the standing but the partner's capabilities. -/
theorem dispatch_stands_but (h : Stands x chip) (he : chip.conn_state ≠ .error_recovery) :
    StandsBut x (dispatch chip evt) := by
  cases hw : chip.conn_state.writes_caps
  · exact (dispatch_stands h he hw).but
  · unfold dispatch
    split
    all_goals rename_i hc
    all_goals try (rw [hc] at hw; cases hw)
    · exact ⟨_, src_startup_stands h⟩
    · exact src_get_sink_cap_stands h
    · exact ⟨_, snk_startup_stands h⟩

/-! ## The offers -/

/-- What SOURCE_CAPABILITIES is built from. -/
def Chip.offers (chip : Chip) : Nat × (Fin 7 → BitVec 32) × (Fin 7 → BitVec 32) × PdCapInfo :=
  (chip.n_caps_used, chip.source_power_supply, chip.source_max_current, chip.pd_cap_info)

/-- The offers of both sides. -/
def Chip.capabilities (chip : Chip) : (Nat × (Fin 7 → BitVec 32) × (Fin 7 → BitVec 32) × PdCapInfo) × (Fin 7 → BitVec 32) :=
  (chip.offers, chip.partner_cap)

theorem capabilities_of_supply (h : c'.toSupply = c.toSupply) : c'.capabilities = c.capabilities := by
  rw [Chip.capabilities, Chip.capabilities, Chip.offers, Chip.offers, h]

theorem PolicyKept.capabilities (h : PolicyKept c' c) : c'.capabilities = c.capabilities := capabilities_of_supply h.2.2.2.2.1

theorem StandsBut.offers (h : StandsBut c.standing c') : c'.offers = c.offers := by
  obtain ⟨caps, he, _⟩ := h
  have hx : c'.offers = (c'.standing.n_caps_used, c'.standing.source_power_supply, c'.standing.source_max_current,
    c'.standing.pd_cap_info) := rfl
  rw [hx, he]
  rfl

theorem set_state_unattached_capabilities (chip : Chip) : (set_state_unattached chip).capabilities = chip.capabilities :=
  capabilities_of_supply (by simp [set_state_unattached, set_state])

theorem try_attach_set_capabilities (chip : Chip) (mode : RoleMode) :
    (fusb_state_try_attach_set chip mode).capabilities = chip.capabilities := by
  unfold fusb_state_try_attach_set
  dsimp only
  split
  · rfl
  · exact capabilities_of_supply (by simp [set_state, timer_mux_start])

theorem start_debounce_capabilities (chip : Chip) : (start_debounce chip).capabilities = chip.capabilities :=
  capabilities_of_supply (by simp [start_debounce, timer_mux_start])

theorem debounce_capabilities (chip : Chip) : (debounce chip).capabilities = chip.capabilities := by
  unfold debounce
  dsimp only
  split <;> exact capabilities_of_supply (by simp)

theorem attach_wait_sink_measure_capabilities (chip : Chip) : (attach_wait_sink_measure chip).capabilities = chip.capabilities := by
  unfold attach_wait_sink_measure
  dsimp only
  repeat' split
  · exact debounce_capabilities chip
  · exact (set_state_unattached_capabilities _).trans (debounce_capabilities chip)
  · exact debounce_capabilities chip

theorem seeking_capabilities (hs : chip.conn_state.seeking = true) : (dispatch chip evt).capabilities = chip.capabilities := by
  unfold dispatch
  split
  all_goals rename_i hc
  all_goals try (rw [hc] at hs; cases hs)
  · rfl
  · unfold fusb_state_unattached
    dsimp only
    repeat' split
    · exact start_debounce_capabilities _
    · exact start_debounce_capabilities _
    · rfl
  · unfold fusb_state_attach_wait_sink
    dsimp only
    repeat' split
    · exact try_attach_set_capabilities ..
    · rfl
    · exact attach_wait_sink_measure_capabilities _
    · exact attach_wait_sink_measure_capabilities _
    · rfl
  · unfold fusb_state_attach_wait_source
    dsimp only
    repeat' split
    · exact (try_attach_set_capabilities ..).trans (debounce_capabilities chip)
    · exact debounce_capabilities chip
    · exact (set_state_unattached_capabilities _).trans (debounce_capabilities chip)
    · exact debounce_capabilities chip
    · rfl
  · rfl
  · unfold fusb_state_attached_sink
    dsimp only
    repeat' split
    · exact try_attach_set_capabilities ..
    · rfl
    · exact set_state_unattached_capabilities _
    · rfl
  all_goals
    unfold fusb_state_try_attach
    dsimp only
    repeat' split
    all_goals first | exact try_attach_set_capabilities .. | exact start_debounce_capabilities _ | rfl

theorem dispatch_offers : (dispatch chip evt).offers = chip.offers := by
  cases hs : chip.conn_state.seeking
  · by_cases he : chip.conn_state = .error_recovery
    · unfold dispatch
      rw [he]
      exact congrArg Prod.fst (set_state_unattached_capabilities chip)
    · exact (dispatch_stands_but ⟨rfl, hs⟩ he).offers
  · exact congrArg Prod.fst (seeking_capabilities hs)

theorem get_message_capabilities (chip : Chip) : (tcpm_get_message chip).capabilities = chip.capabilities :=
  capabilities_of_supply (tcpm_get_message_frame chip).2.2.2.2.2.1

theorem hard_reset_capabilities (chip : Chip) : (pd_execute_hard_reset chip).capabilities = chip.capabilities := by
  unfold pd_execute_hard_reset
  dsimp only
  split <;> rfl

/-- What depends on the offers of both sides is left alone up to the switch. -/
theorem capabilities_survive {α : Type} {f : Chip → α} (hf : ∀ {c c'}, c'.capabilities = c.capabilities → f c' = f c) (x : α)
    (chip : Chip) (env : Env) : Survives chip env fun c => f c = x where
  observe _ h := h ▸ hf rfl
  phy _ _ hk h := (hf hk.capabilities).trans h
  sent _ h := h ▸ hf rfl
  retryfail _ h := h ▸ hf rfl
  hard_reset _ c h := by
    have hc : (pd_execute_hard_reset (fusb302_pd_reset c)).capabilities = c.capabilities :=
      hard_reset_capabilities (fusb302_pd_reset c)
    exact (hf hc).trans h
  hardsent _ h := h ▸ hf rfl
  expire _ _ h := h ▸ hf rfl
  collect _ _ _ h := h ▸ hf rfl
  unattached c h := (hf (set_state_unattached_capabilities c)).trans h
  message c h := (hf (get_message_capabilities c)).trans h
  softrst _ _ h := h ▸ hf rfl
  count _ h := h ▸ hf rfl

theorem step_offers (chip : Chip) (act : Act) : (step chip act).offers = chip.offers :=
  step_keeps (P := fun c => c.offers = chip.offers) (fun env => (capabilities_survive (congrArg Prod.fst) _ chip env).passes) rfl
    fun _ _ _ h => dispatch_offers.trans h

theorem ran_offers (board : Board) (acts : List Act) : (ran board acts).offers = (fusb30x_probe board).offers := by
  unfold ran
  generalize fusb30x_probe board = chip
  induction acts generalizing chip with
  | nil => rfl
  | cons act acts ih => exact (ih (step chip act)).trans (step_offers chip act)

end Fusb302
