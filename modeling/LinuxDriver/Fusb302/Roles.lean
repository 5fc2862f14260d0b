import LinuxDriver.Fusb302.Frames
/-!
# Power role and policy state

In a state of the source's policy the port is a source, in a state of the
sink's policy it is a sink, as long as no power role swap turns a sink into a
source: the last step of that swap enters the source's policy without writing
the role.
-/

namespace Fusb302

variable {chip : Chip} {evt : Evt}

/-! ## The invariant -/

/-- The role a policy state belongs to. -/
def policyRole : ConnState → Option PowerRole
  | .policy_src_startup | .policy_src_discovery | .policy_src_send_caps | .policy_src_negotiate_cap
  | .policy_src_transition_supply | .policy_src_cap_response | .policy_src_ready | .policy_src_get_sink_caps =>
    some .SOURCE
  | .policy_snk_startup | .policy_snk_discovery | .policy_snk_wait_caps | .policy_snk_evaluate_caps
  | .policy_snk_select_cap | .policy_snk_transition_sink | .policy_snk_ready => some .SINK
  | _ => none

/-- The role and the policy state agree. -/
def Agree (chip : Chip) : Prop := ∀ r, policyRole chip.conn_state = some r → chip.notify.power_role = r

/-- May the port be in state `s` with role `r`? `policyRole` extended to the
reset and swap states, and the states of a power role swap of our own, which
nothing enters, excluded. -/
@[simp] def settled (r : PowerRole) : ConnState → Bool
  | .policy_src_startup | .policy_src_discovery | .policy_src_send_caps | .policy_src_negotiate_cap
  | .policy_src_transition_supply | .policy_src_cap_response | .policy_src_ready | .policy_src_get_sink_caps
  | .policy_src_transition_default | .policy_src_send_softrst | .policy_src_softrst | .policy_src_send_hardrst
  | .policy_src_prs_transition_to_off => r == .SOURCE
  | .policy_snk_startup | .policy_snk_discovery | .policy_snk_wait_caps | .policy_snk_evaluate_caps
  | .policy_snk_select_cap | .policy_snk_transition_sink | .policy_snk_ready
  | .policy_snk_transition_default | .policy_snk_send_softrst | .policy_snk_softrst | .policy_snk_send_hardrst
  | .policy_src_prs_assert_rd | .policy_src_prs_source_off | .policy_snk_prs_transition_to_off
  | .policy_snk_prs_assert_rp | .policy_snk_prs_source_on => r == .SINK
  | .policy_src_prs_send_swap | .policy_snk_prs_send_swap => false
  | _ => true

/-- The roles suit the state. -/
def Settled (chip : Chip) : Prop := settled chip.notify.power_role chip.conn_state = true

theorem Settled.agree (h : Settled chip) : Agree chip := by
  intro r hr
  unfold Settled at h
  cases hc : chip.conn_state <;> simp_all [policyRole, settled]

/-! ## Ways to keep it -/

/-- A change that keeps the state and the role. -/
theorem Settled.stay {chip' : Chip} (h : Settled chip) (hs : chip'.conn_state = chip.conn_state)
    (hr : chip'.notify.power_role = chip.notify.power_role) : Settled chip' := by
  rwa [Settled, hs, hr]

theorem settled_set_state {s : ConnState} (h : settled chip.notify.power_role s = true) : Settled (set_state chip s) := h

theorem settled_by_power_role {r : PowerRole} {src snk : ConnState} (hs : settled .SOURCE src = true)
    (hk : settled .SINK snk = true) : settled r (if r = .SOURCE then src else snk) = true := by
  cases r
  · exact hk
  · exact hs

/-- A sending step: it stays, or ends by one of its two branches. -/
theorem settled_send_then {success failed : Chip → Chip} (h : Settled chip) (hs : Settled (success chip))
    (hf : Settled (failed chip)) : Settled (send_then chip success failed) := by
  rcases send_then_cases chip success failed with ⟨_, he⟩ | ⟨_, he⟩ | ⟨_, _, he⟩ <;> rw [he]
  · exact hs
  · exact hf
  · exact h.stay (by simp) (by simp)

theorem settled_simple_msg {cmd : Nat} {is_DMT : Bool} {success failed : ConnState} (h : Settled chip)
    (hs : settled chip.notify.power_role success = true) (hf : settled chip.notify.power_role failed = true) :
    Settled (fusb_state_send_simple_msg chip cmd is_DMT success failed) := by
  unfold fusb_state_send_simple_msg
  dsimp only
  split
  · rw [send_then_build_mesg]
    exact h.stay (by simp) (by simp)
  · exact settled_send_then h hs hf
  · exact h

theorem set_state_unattached_settled : Settled (set_state_unattached chip) := by
  simp [Settled, settled, set_state_unattached, set_state]

/-! ## The handlers -/

theorem attaching_settled (ha : attaching chip.conn_state = true) : Settled (dispatch chip evt) := by
  have any : ∀ {s}, attaching s = true → ∀ r, settled r s = true := by
    intro s hs r
    cases s <;> first | rfl | cases hs
  unfold Settled
  cases @attach_step _ evt ha with
  | attach hs => exact any hs _
  | source hs hr => rw [hs, hr]; rfl
  | sink hs hr => rw [hs, hr]; rfl

theorem src_startup_settled (hr : chip.notify.power_role = .SOURCE) : Settled (fusb_state_src_startup chip) := by
  simp [Settled, settled, fusb_state_src_startup, fusb_soft_reset_parameter, set_vdm_state, Chip.emit, set_state, hr]

theorem src_discovery_settled (h : Settled chip) (hr : chip.notify.power_role = .SOURCE) :
    Settled (fusb_state_src_discovery chip evt) := by
  unfold fusb_state_src_discovery
  dsimp only
  repeat' split
  all_goals simp_all [Settled, settled, set_state, timer_state_start]

/-- A settled port with the given role. -/
abbrev Plays (r : PowerRole) (chip : Chip) : Prop := chip.notify.power_role = r ∧ Settled chip

variable {r : PowerRole}

theorem Plays.move (h : Plays r chip) {s : ConnState} (hs : settled r s = true) : Settled (set_state chip s) := by
  rw [← h.1] at hs
  exact hs

theorem settled_by_data_role {dfp ufp : ConnState} (hd : settled chip.notify.power_role dfp = true)
    (hu : settled chip.notify.power_role ufp = true) : Settled (set_state chip (by_data_role chip dfp ufp)) := by
  unfold by_data_role
  split
  · exact hd
  · exact hu

theorem settled_by_role {src snk : ConnState} (hs : settled .SOURCE src = true)
    (hk : settled .SINK snk = true) : Settled (set_state chip (by_power_role chip src snk)) :=
  settled_set_state (settled_by_power_role hs hk)

theorem Plays.keep (h : Plays r chip) {chip' : Chip} (hs : chip'.conn_state = chip.conn_state)
    (hr : chip'.notify = chip.notify) : Plays r chip' := ⟨by rw [hr, h.1], h.2.stay hs (by rw [hr])⟩

theorem Plays.send (h : Plays r chip) : Plays r (policy_send_data chip) := h.keep (by simp) (by simp)

theorem Plays.build (h : Plays r chip) (cmd : Nat) (is_DMT : Bool) : Plays r (build_mesg chip cmd is_DMT) :=
  h.keep (by simp) (by simp)

theorem Plays.send_and_wait (h : Plays r chip) {failed : ConnState} (hf : settled r failed = true) :
    Settled (send_and_wait chip failed) :=
  settled_send_then h.2 h.2 (h.move hf)

theorem Plays.go (h : Plays r chip) {s : ConnState} (hs : settled r s = true) : Plays r (set_state chip s) :=
  ⟨h.1, h.move hs⟩

theorem src_send_caps_default_settled (h : Plays .SOURCE chip) :
    Plays .SOURCE (fusb_state_src_send_caps.case_default chip evt) := by
  unfold fusb_state_src_send_caps.case_default
  repeat' split
  all_goals first | exact h | exact h.go rfl

theorem src_send_caps_case_1_settled (h : Plays .SOURCE chip) :
    Plays .SOURCE (fusb_state_src_send_caps.case_1 chip evt) := by
  unfold fusb_state_src_send_caps.case_1
  dsimp only
  repeat' split
  all_goals first | exact h.send | exact h.send.go rfl | exact src_send_caps_default_settled h.send

theorem src_send_caps_settled (h : Plays .SOURCE chip) : Plays .SOURCE (fusb_state_src_send_caps chip evt) := by
  unfold fusb_state_src_send_caps
  split
  · exact src_send_caps_case_1_settled (h.build ..)
  · exact src_send_caps_case_1_settled h
  · exact src_send_caps_default_settled h

theorem src_transition_supply_settled (h : Plays .SOURCE chip) :
    Settled (fusb_state_src_transition_supply chip evt) := by
  unfold fusb_state_src_transition_supply fusb_state_src_transition_supply.case_1
  split
  · rw [send_then_build_mesg]
    exact (h.build ..).send.2
  · exact settled_send_then h.2 h.2 (h.move rfl)
  · split
    · exact h.2.stay (by simp) (by simp)
    · exact h.2
  · exact settled_send_then h.2 (h.move rfl) (h.move rfl)

theorem src_negotiate_cap_settled (h : Plays .SOURCE chip) : Plays .SOURCE (fusb_state_src_negotiate_cap chip) := by
  unfold fusb_state_src_negotiate_cap
  dsimp only
  split
  · exact ⟨h.1, h.move rfl⟩
  · exact ⟨h.1, h.move rfl⟩

theorem src_cap_response_settled (h : Plays .SOURCE chip) : Settled (fusb_state_src_cap_response chip) := by
  have hd : ∀ {c}, Plays .SOURCE c → Settled (fusb_state_src_cap_response.case_default c) := by
    intro c hc
    refine settled_send_then hc.2 ?_ (hc.move rfl)
    split <;> exact hc.move rfl
  unfold fusb_state_src_cap_response
  split
  · exact hd (h.build ..)
  · exact hd h

theorem src_transition_default_settled (h : Plays .SOURCE chip) :
    Settled (fusb_state_src_transition_default chip evt) := by
  unfold fusb_state_src_transition_default
  split
  · exact h.2.stay (by simp [timer_state_start]) (by simp [timer_state_start])
  · split
    · simp [Settled, settled, set_state, timer_mux_start, h.1]
    · exact h.2

theorem swap_msg_process_settled (h : Settled chip) : Settled (fusb_state_swap_msg_process chip evt) := by
  unfold fusb_state_swap_msg_process
  repeat' split
  all_goals first | exact h | exact settled_set_state rfl

theorem swap_msg_process_power_role :
    (fusb_state_swap_msg_process chip evt).notify.power_role = chip.notify.power_role := by
  unfold fusb_state_swap_msg_process
  repeat' split
  all_goals rfl

theorem ready_rx_power_role : (ready_rx chip evt).notify.power_role = chip.notify.power_role := by
  unfold ready_rx
  repeat' split
  · simp
  · exact swap_msg_process_power_role
  · rfl
  · rfl

theorem send_and_wait_power_role {failed : ConnState} :
    (send_and_wait chip failed).notify.power_role = chip.notify.power_role := by
  unfold send_and_wait
  rcases send_then_cases chip _ _ with ⟨_, he⟩ | ⟨_, he⟩ | ⟨_, _, he⟩ <;> rw [he]
  · rfl
  · rfl
  · simp

theorem ready_rx_settled (h : Settled chip) : Settled (ready_rx chip evt) := by
  unfold ready_rx
  repeat' split
  · exact h.stay (by simp) (by simp)
  · exact swap_msg_process_settled h
  · exact h
  · exact h

theorem src_ready_settled (h : Plays .SOURCE chip) : Settled (fusb_state_src_ready chip evt) := by
  have hr : Plays .SOURCE (ready_rx chip evt) := ⟨(ready_rx_power_role ..).trans h.1, ready_rx_settled h.2⟩
  unfold fusb_state_src_ready
  dsimp only
  repeat' split
  · exact hr.move rfl
  · exact hr.2.stay (by simp) (by simp)
  · exact hr.2

theorem src_get_sink_cap_default_settled (h : Plays .SOURCE chip) :
    Settled (fusb_state_src_get_sink_cap.case_default chip evt) := by
  unfold fusb_state_src_get_sink_cap.case_default
  repeat' split
  all_goals first | exact h.2 | exact h.move rfl

theorem src_get_sink_cap_settled (h : Plays .SOURCE chip) : Settled (fusb_state_src_get_sink_cap chip evt) := by
  have h1 : ∀ {c}, Plays .SOURCE c → Settled (fusb_state_src_get_sink_cap.case_1 c evt) := by
    intro c hc
    have hw : Plays .SOURCE (send_and_wait c .policy_src_send_softrst) :=
      ⟨(send_and_wait_power_role ..).trans hc.1, hc.send_and_wait rfl⟩
    unfold fusb_state_src_get_sink_cap.case_1
    dsimp only
    split
    · exact hw.2
    · exact src_get_sink_cap_default_settled hw
  unfold fusb_state_src_get_sink_cap
  split
  · exact h1 (h.build ..)
  · exact h1 h
  · exact src_get_sink_cap_default_settled h

theorem send_hardreset_settled {next : ConnState} (h : Plays r chip) (hn : settled r next = true) :
    Settled (send_hardreset chip evt next) := by
  have hd : ∀ {c}, Plays r c → Settled (send_hardreset.case_default c evt next) := by
    intro c hc
    have hs : Plays r (policy_send_hardrst c evt) := hc.keep (by simp) (by simp)
    unfold send_hardreset.case_default
    dsimp only
    split
    · exact hs.move hn
    · exact hs.move rfl
    · exact hs.2
  unfold send_hardreset
  split
  · exact hd h
  · exact hd h

theorem softreset_settled {success : Chip → Chip} {failed : ConnState} (h : Plays r chip)
    (hs : Settled (success chip)) (hf : settled r failed = true) : Settled (softreset chip success failed) := by
  unfold softreset
  split
  · rw [send_then_build_mesg]
    exact (h.build ..).send.2
  · exact settled_send_then h.2 hs (h.move hf)

theorem send_softreset_settled {accepted : Chip → Chip} {failed : ConnState} (h : Plays r chip)
    (ha : ∀ c, Plays r c → Settled (accepted c)) (hf : settled r failed = true) :
    Settled (send_softreset chip evt accepted failed) := by
  have hd : ∀ {c}, Plays r c → Settled (send_softreset.case_default c evt accepted failed) := by
    intro c hc
    unfold send_softreset.case_default
    repeat' split
    all_goals first | exact ha c hc | exact hc.2 | exact hc.move hf
  have h1 : ∀ {c}, Plays r c → Settled (send_softreset.case_1 c evt accepted failed) := by
    intro c hc
    have hw : Plays r (send_and_wait c failed) := ⟨(send_and_wait_power_role ..).trans hc.1, hc.send_and_wait hf⟩
    unfold send_softreset.case_1
    dsimp only
    split
    · exact hw.2
    · exact hd hw
  unfold send_softreset
  split
  · exact h1 (h.build ..)
  · exact h1 h
  · exact hd h

theorem snk_startup_settled (hr : chip.notify.power_role = .SINK) : Settled (fusb_state_snk_startup chip) := by
  simp [Settled, settled, fusb_state_snk_startup, fusb_soft_reset_parameter, set_vdm_state, Chip.emit, set_state, hr]

theorem snk_wait_caps_settled (h : Plays .SINK chip) : Settled (fusb_state_snk_wait_caps chip evt) := by
  unfold fusb_state_snk_wait_caps give_up
  repeat' split
  all_goals first | exact h.2 | exact h.move rfl

theorem snk_evaluate_caps_settled (h : Plays .SINK chip) : Plays .SINK (fusb_state_snk_evaluate_caps chip) := by
  unfold fusb_state_snk_evaluate_caps
  dsimp only
  split <;> simp [Plays, Settled, settled, set_state, h.1]

theorem snk_select_cap_settled (h : Plays .SINK chip) : Settled (fusb_state_snk_select_cap chip evt) := by
  have hd : ∀ {c}, Plays .SINK c → Settled (fusb_state_snk_select_cap.case_default c evt) := by
    intro c hc
    unfold fusb_state_snk_select_cap.case_default
    repeat' split
    all_goals first | exact hc.2 | exact hc.move rfl
  have h1 : ∀ {c}, Plays .SINK c → Settled (fusb_state_snk_select_cap.case_1 c evt) := by
    intro c hc
    unfold fusb_state_snk_select_cap.case_1
    dsimp only
    repeat' split
    all_goals first | exact hc.send.2 | exact hc.send.move rfl | exact hd hc.send
  unfold fusb_state_snk_select_cap
  split
  · exact h1 (h.build ..)
  · exact h1 h
  · exact hd h

theorem snk_transition_sink_settled (h : Plays .SINK chip) : Settled (fusb_state_snk_transition_sink chip evt) := by
  unfold fusb_state_snk_transition_sink
  repeat' split
  all_goals first | exact h.2 | exact h.move rfl

theorem snk_transition_default_settled (h : Plays .SINK chip) :
    Settled (fusb_state_snk_transition_default chip evt) := by
  have h1 : ∀ {c}, Plays .SINK c → Settled (fusb_state_snk_transition_default.case_1 c evt) := by
    intro c hc
    have hv : Plays .SINK (tcpm_check_vbus c).1 := hc.keep (by simp) (by simp)
    unfold fusb_state_snk_transition_default.case_1
    dsimp only
    repeat' split
    all_goals first | exact hv.2 | exact hv.move rfl
  have hv : Plays .SINK (tcpm_check_vbus chip).1 := h.keep (by simp) (by simp)
  unfold fusb_state_snk_transition_default
  dsimp only
  split
  · refine h1 ?_
    split
    · exact ⟨by simp [timer_state_start, timer_mux_start, h.1], h.2.stay (by simp [timer_state_start, timer_mux_start])
        (by simp [timer_state_start, timer_mux_start])⟩
    · exact h
  · exact h1 h
  · repeat' split
    all_goals first | exact hv.2 | exact hv.move rfl

theorem snk_ready_settled (h : Settled chip) : Settled (fusb_state_snk_ready chip evt) := by
  have hr := @ready_rx_settled _ evt h
  unfold fusb_state_snk_ready
  dsimp only
  have hm : Settled (if VDM_IS_ACTIVE (ready_rx chip evt) = true then auto_vdm_machine (ready_rx chip evt) evt
      else ready_rx chip evt) := by
    split
    · exact hr.stay (by simp) (by simp)
    · exact hr
  exact (@swap_msg_process_settled _ evt hm).stay (by simp) (by simp)

theorem prs_evaluate_settled : Settled (fusb_state_prs_evaluate chip) := by
  unfold fusb_state_prs_evaluate
  split <;> exact settled_set_state rfl

theorem prs_reject_settled (h : Settled chip) : Settled (fusb_state_prs_reject chip) :=
  settled_simple_msg h (settled_by_power_role rfl rfl) (settled_by_power_role rfl rfl)

theorem prs_accept_settled (h : Settled chip) : Settled (fusb_state_prs_accept chip) :=
  settled_simple_msg h (settled_by_power_role rfl rfl) (settled_by_power_role rfl rfl)

theorem src_prs_transition_to_off_settled (h : Settled chip) :
    Settled (fusb_state_src_prs_transition_to_off chip evt) := by
  unfold fusb_state_src_prs_transition_to_off
  dsimp only
  repeat' split
  all_goals first | exact h | simp [Settled, settled, set_state]

theorem src_prs_assert_rd_settled (h : Plays .SINK chip) : Settled (fusb_state_src_prs_assert_rd chip) := by
  simp [Settled, settled, fusb_state_src_prs_assert_rd, set_state, h.1]

theorem src_prs_failed_settled : Settled (src_prs_failed chip) := by
  simp [Settled, settled, src_prs_failed, set_state]

theorem src_prs_source_off_settled (h : Plays .SINK chip) : Settled (fusb_state_src_prs_source_off chip evt) := by
  unfold fusb_state_src_prs_source_off fusb_state_src_prs_source_off.case_1
  dsimp only
  split
  · rw [send_then_build_mesg]
    exact (h.build ..).send.2
  · exact settled_send_then h.2 h.2 src_prs_failed_settled
  · repeat' split
    all_goals first | exact h.2 | exact src_prs_failed_settled | simp [Settled, settled, set_state, h.1]
  · exact h.2

theorem snk_prs_failed_settled : Settled (snk_prs_failed chip) := by
  simp [Settled, settled, snk_prs_failed, set_state]

theorem snk_prs_transition_to_off_settled (h : Plays .SINK chip) :
    Settled (fusb_state_snk_prs_transition_to_off chip evt) := by
  have h1 : ∀ {c}, Plays .SINK c → Settled (fusb_state_snk_prs_transition_to_off.case_1 c evt) := by
    intro c hc
    unfold fusb_state_snk_prs_transition_to_off.case_1
    repeat' split
    all_goals first | exact hc.2 | exact hc.move rfl | exact snk_prs_failed_settled
  unfold fusb_state_snk_prs_transition_to_off
  split
  · exact h1 h
  · exact h1 h
  · exact h.2

theorem snk_prs_assert_rp_settled (h : Plays .SINK chip) : Settled (fusb_state_snk_prs_assert_rp chip) := by
  simp [Settled, settled, fusb_state_snk_prs_assert_rp, set_state, h.1]

/-- The last step of a sink's swap to source. -/
def swap_ends (chip : Chip) (evt : Evt) : Prop :=
  chip.conn_state = .policy_snk_prs_source_on ∧ chip.sub_state = 3 ∧ evt.timer_state = true

instance : Decidable (swap_ends chip evt) := by unfold swap_ends; infer_instance

theorem snk_prs_source_on_settled (h : Plays .SINK chip) (hx : ¬(chip.sub_state = 3 ∧ evt.timer_state = true)) :
    Settled (fusb_state_snk_prs_source_on chip evt) := by
  unfold fusb_state_snk_prs_source_on fusb_state_snk_prs_source_on.case_2
  split
  · exact h.2.stay (by simp) (by simp)
  · refine settled_send_then (h.2.stay (by simp) (by simp)) (h.2.stay ?_ ?_) snk_prs_failed_settled
    · simp [timer_state_start]
    · simp [timer_state_start]
  · exact settled_send_then h.2 h.2 snk_prs_failed_settled
  · rename_i h3
    rw [if_neg fun ht => hx ⟨h3, ht⟩]
    exact h.2
  · exact h.2

theorem send_swap_settled {cmd : Nat} (h : Settled chip) (hc : cmd ≠ CMT_PR_SWAP) :
    Settled (fusb_state_send_swap chip evt cmd) := by
  have h1 : ∀ {c}, Settled c → Settled (fusb_state_send_swap.case_1 c cmd) := by
    intro c hc
    refine settled_send_then hc hc ?_
    split
    · exact settled_set_state rfl
    · exact settled_by_role rfl rfl
  have ha : Settled (fusb_state_send_swap.accepted chip cmd) := by
    unfold fusb_state_send_swap.accepted
    dsimp only
    repeat' split
    all_goals first | exact h | exact settled_set_state rfl | exact absurd ‹_› hc | exact settled_by_data_role rfl rfl
  unfold fusb_state_send_swap
  split
  · exact h1 (h.stay (by simp) (by simp))
  · exact h1 h
  · repeat' split
    all_goals first | exact h | exact ha | exact settled_by_role rfl rfl
  · exact h

theorem vcs_ufp_evaluate_swap_settled : Settled (fusb_state_vcs_ufp_evaluate_swap chip) := by
  unfold fusb_state_vcs_ufp_evaluate_swap
  split <;> exact settled_set_state rfl

theorem vcs_ufp_accept_settled (h : Settled chip) : Settled (fusb_state_vcs_ufp_accept chip) := by
  refine settled_simple_msg h ?_ (settled_by_power_role rfl rfl)
  split <;> rfl

theorem vcs_set_vconn_settled (on : Bool) : Settled (fusb_state_vcs_set_vconn chip on) := by
  unfold fusb_state_vcs_set_vconn
  split
  · exact settled_by_data_role rfl rfl
  · exact settled_by_role rfl rfl

theorem vcs_send_ps_rdy_settled (h : Settled chip) : Settled (fusb_state_vcs_send_ps_rdy chip) :=
  settled_simple_msg h (settled_by_power_role rfl rfl) (settled_by_power_role rfl rfl)

theorem vcs_wait_for_vconn_settled (h : Settled chip) : Settled (fusb_state_vcs_wait_for_vconn chip evt) := by
  have h1 : ∀ {c}, Settled c → Settled (fusb_state_vcs_wait_for_vconn.case_1 c evt) := by
    intro c hc
    unfold fusb_state_vcs_wait_for_vconn.case_1
    repeat' split
    all_goals first | exact hc | exact settled_by_data_role rfl rfl | exact settled_by_role rfl rfl
  unfold fusb_state_vcs_wait_for_vconn
  split
  · exact h1 h
  · exact h1 h
  · exact h

theorem drs_evaluate_settled : Settled (fusb_state_drs_evaluate chip) := by
  unfold fusb_state_drs_evaluate
  split <;> exact settled_by_data_role rfl rfl

theorem drs_send_accept_settled (h : Settled chip) : Settled (fusb_state_drs_send_accept chip) :=
  settled_simple_msg h (settled_by_power_role rfl rfl) rfl

theorem drs_role_change_settled : Settled (fusb_state_drs_role_change chip) := settled_by_role rfl rfl

/-! ## The dispatcher -/

theorem Settled.source (h : Settled chip) (hs : settled .SINK chip.conn_state = false) : Plays .SOURCE chip := by
  refine ⟨?_, h⟩
  unfold Settled at h
  cases hr : chip.notify.power_role
  · rw [hr, hs] at h
    cases h
  · rfl

theorem Settled.sink (h : Settled chip) (hs : settled .SOURCE chip.conn_state = false) : Plays .SINK chip := by
  refine ⟨?_, h⟩
  unfold Settled at h
  cases hr : chip.notify.power_role
  · rfl
  · rw [hr, hs] at h
    cases h

theorem case_send_caps_settled (h : Plays .SOURCE chip) : Settled (case_send_caps chip evt) := by
  have hc := @src_send_caps_settled _ evt h
  unfold case_send_caps
  dsimp only
  split
  · exact hc.2
  · exact src_transition_supply_settled (src_negotiate_cap_settled hc)

theorem dispatch_settled (h : Settled chip) (hx : ¬swap_ends chip evt) : Settled (dispatch chip evt) := by
  -- a state that no sink, or no source, can be in tells the role
  have src : ∀ {s}, chip.conn_state = s → settled .SINK s = false → Plays .SOURCE chip :=
    fun hc hs => h.source (hc ▸ hs)
  have snk : ∀ {s}, chip.conn_state = s → settled .SOURCE s = false → Plays .SINK chip :=
    fun hc hs => h.sink (hc ▸ hs)
  -- the states of a swap of our own are entered in neither role
  have own : ∀ {s}, chip.conn_state = s → (∀ r, settled r s = false) → False := by
    intro s hc hs
    have := hs chip.notify.power_role
    rw [← hc] at this
    exact absurd h (by rw [Settled, this]; decide)
  cases ha : attaching chip.conn_state
  case true => exact attaching_settled ha
  unfold dispatch
  split
  all_goals rename_i hc
  all_goals try (rw [hc] at ha; cases ha)
  · exact src_startup_settled (src hc rfl).1
  · exact src_discovery_settled h (src hc rfl).1
  · exact case_send_caps_settled (src hc rfl)
  · exact src_transition_supply_settled (src_negotiate_cap_settled (src hc rfl))
  · exact src_transition_supply_settled (src hc rfl)
  · exact src_cap_response_settled (src hc rfl)
  · exact src_transition_default_settled (src hc rfl)
  · exact src_ready_settled (src hc rfl)
  · exact src_get_sink_cap_settled (src hc rfl)
  · exact send_hardreset_settled (src hc rfl) rfl
  · exact send_softreset_settled (src hc rfl) (fun c hc => hc.move rfl) rfl
  · exact softreset_settled (src hc rfl) ((src hc rfl).move rfl) rfl
  · exact snk_startup_settled (snk hc rfl).1
  · exact (snk hc rfl).move rfl
  · exact snk_wait_caps_settled (snk hc rfl)
  · exact snk_select_cap_settled (snk_evaluate_caps_settled (snk hc rfl))
  · exact snk_select_cap_settled (snk hc rfl)
  · exact snk_transition_sink_settled (snk hc rfl)
  · exact snk_transition_default_settled (snk hc rfl)
  · exact snk_ready_settled h
  · exact send_hardreset_settled (snk hc rfl) rfl
  · exact send_softreset_settled (snk hc rfl) (fun c hc => hc.move rfl) rfl
  · exact softreset_settled (snk hc rfl) ((snk hc rfl).move rfl) rfl
  · exact prs_evaluate_settled
  · exact prs_evaluate_settled
  · exact prs_accept_settled h
  · exact prs_accept_settled h
  · exact prs_reject_settled h
  · exact prs_reject_settled h
  · exact prs_reject_settled h
  · exact prs_reject_settled h
  · exact prs_reject_settled h
  · exact src_prs_transition_to_off_settled h
  · exact src_prs_assert_rd_settled (snk hc rfl)
  · exact src_prs_source_off_settled (snk hc rfl)
  · exact (own hc fun _ => rfl).elim
  · exact (own hc fun _ => rfl).elim
  · exact snk_prs_transition_to_off_settled (snk hc rfl)
  · exact snk_prs_assert_rp_settled (snk hc rfl)
  · exact snk_prs_source_on_settled (snk hc rfl) fun h3 => hx ⟨hc, h3⟩
  · exact vcs_ufp_evaluate_swap_settled
  · exact vcs_ufp_accept_settled h
  · exact vcs_wait_for_vconn_settled h
  · exact vcs_wait_for_vconn_settled h
  · exact vcs_set_vconn_settled _
  · exact vcs_set_vconn_settled _
  · exact vcs_set_vconn_settled _
  · exact vcs_set_vconn_settled _
  · exact vcs_send_ps_rdy_settled h
  · exact vcs_send_ps_rdy_settled h
  · exact send_swap_settled h (by decide)
  · exact drs_evaluate_settled
  · exact drs_evaluate_settled
  · exact drs_send_accept_settled h
  · exact drs_send_accept_settled h
  · exact drs_role_change_settled
  · exact drs_role_change_settled
  · exact send_swap_settled h (by decide)
  · exact send_swap_settled h (by decide)

/-- The last step of the swap enters the source's policy as a sink. -/
theorem swap_ends_disagree (h : Settled chip) (hx : swap_ends chip evt) : ¬Agree (dispatch chip evt) := by
  obtain ⟨hc, h3, ht⟩ := hx
  have hr := (h.sink (by rw [hc]; rfl)).1
  intro ha
  have := ha .SOURCE (by simp [dispatch, hc, fusb_state_snk_prs_source_on, h3, ht, set_state, policyRole])
  simp [dispatch, hc, fusb_state_snk_prs_source_on, h3, ht, set_state, hr] at this

/-! ## Runs -/

theorem settled_survives (env : Env) : Survives chip env Settled where
  observe _ h := h
  phy _ _ hk h := h.stay (by rw [hk.1]) (by rw [hk.2.2.2.2.2.2.1])
  sent _ h := h
  retryfail _ h := h
  hard_reset _ c _ := by
    unfold pd_execute_hard_reset
    dsimp only
    cases hr : c.notify.power_role <;>
      simp [Settled, settled, fusb302_pd_reset, Chip.emit, set_vdm_state, set_state, hr]
  hardsent _ h := h
  expire _ _ h := h
  collect _ _ _ h := h
  unattached _ _ := set_state_unattached_settled
  message c h := h.stay (tcpm_get_message_frame c).1 (tcpm_get_message_frame c).2.1
  softrst _ _ _ := settled_by_power_role rfl rfl
  count _ h := h

/-- The step ends a power role swap from sink to source. -/
def ends_swap (chip : Chip) : Act → Prop
  | .work env => swap_ends (at_switch chip env) (events chip env)
  | _ => False

instance (act : Act) : Decidable (ends_swap chip act) :=
  match act with
  | .work env => inferInstanceAs (Decidable (swap_ends (at_switch chip env) (events chip env)))
  | .timer_state | .timer_mux => inferInstanceAs (Decidable False)

theorem step_settled (h : Settled chip) {act : Act} (hx : ¬ends_swap chip act) : Settled (step chip act) := by
  refine step_keeps (fun env => (settled_survives env).passes) h ?_
  rintro env rfl _ ha
  exact dispatch_settled ha hx

theorem step_disagree (h : Settled chip) {act : Act} (hx : ends_swap chip act) : ¬Agree (step chip act) := by
  cases act with
  | work env =>
    have hany : (events chip env).any = true := by simp [Evt.any, hx.2.2]
    rw [step_work, if_pos hany]
    exact swap_ends_disagree (at_switch_keeps (settled_survives env).passes h) hx
  | timer_state => exact hx.elim
  | timer_mux => exact hx.elim

theorem probe_settled (board : Board) : Settled (fusb30x_probe board) := by
  simp [Settled, settled, fusb30x_probe]

/-- In every state of a run the power role agrees with the policy state,
exactly when no step of the run ends a swap from sink to source. -/
theorem roles_agree_iff (board : Board) (acts : List Act) :
    (∀ chip ∈ Runs.visited step (fusb30x_probe board) acts, Agree chip) ↔
      Runs.Meets step (fun chip act => ¬ends_swap chip act) (fusb30x_probe board) acts :=
  Runs.visited_iff_meets (fun _ h => h.agree) (fun _ _ h hx => step_settled h hx)
    (fun _ _ h hx => step_disagree h (not_not.1 hx)) acts (probe_settled board)

/-- A sink that has swapped sends capabilities with the role of a sink. -/
theorem swapped_source_is_sink :
    ¬∀ chip ∈ Runs.visited step (fusb30x_probe try_source) (attach_sink ++ swap_to_source ++ [txsent, .timer_state] ++ [idle]), Agree chip := by
  intro h
  refine step_disagree ?_ ?_ (h _ (Runs.step_mem_visited ..))
  · unfold Settled
    decide +kernel
  · decide +kernel

end Fusb302
