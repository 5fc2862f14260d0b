import LinuxDriver.Fusb302.Ordinary
/-!
# The mode kept and the timers

What the handlers do to the timers is start and disable them. The mode the
discovery keeps, with its pins, is changed by an answer that gives pins and
when the port forgets its partner; every other handler leaves it alone.
-/

namespace Fusb302

/-- What `store_mode` keeps. -/
def Chip.mode (chip : Chip) : BitVec 32 × BitVec 32 := (chip.notify.dp_caps, chip.notify.pin_assignment_support)

/-- `P`, of the timers and the mode, survives starting and disabling a timer. -/
structure Timed (P : Timers → BitVec 32 × BitVec 32 → Prop) : Prop where
  state : ∀ {x m ms}, P x m → 0 < ms ∧ ms < T_DISABLED → P { x with timer_state := ms, timer_state_machine := true } m
  mux : ∀ {x m ms}, P x m → 0 < ms ∧ ms < T_DISABLED → P { x with timer_mux := ms, timer_mux_machine := true } m
  no_state : ∀ {x m}, P x m → P { x with timer_state := T_DISABLED } m
  no_mux : ∀ {x m}, P x m → P { x with timer_mux := T_DISABLED } m

/-- `P` of this chip. -/
abbrev At (P : Timers → BitVec 32 × BitVec 32 → Prop) (chip : Chip) : Prop := P chip.toTimers chip.mode

variable {P : Timers → BitVec 32 × BitVec 32 → Prop} {chip c c' : Chip} {evt : Evt} {cmd : Nat}

theorem At.kept (h : At P c) (he : c'.toTimers = c.toTimers ∧ c'.mode = c.mode) : At P c' := by
  unfold At
  rwa [he.1, he.2]

/-! ## The handlers -/

theorem send_then_timed {success failed : Chip → Chip} (h : At P chip)
    (hs : At P (success chip)) (hf : At P (failed chip)) : At P (send_then chip success failed) := by
  rcases send_then_cases chip success failed with ⟨_, he⟩ | ⟨_, he⟩ | ⟨_, _, he⟩ <;> rw [he]
  · exact hs
  · exact hf
  · exact h.kept (by simp [Chip.mode])

theorem sent_build_timed (h : At P chip) (cmd : Nat) (is_DMT : Bool) :
    At P (policy_send_data (build_mesg chip cmd is_DMT)) := h.kept (by simp [Chip.mode])

theorem src_discovery_timed (k : Timed P) (h : At P chip) : At P (fusb_state_src_discovery chip evt) := by
  unfold fusb_state_src_discovery
  dsimp only
  repeat' split
  all_goals first | exact h | exact k.state h (by decide)

theorem src_send_caps_timed (k : Timed P) (h : At P chip) : At P (fusb_state_src_send_caps chip evt) := by
  have hd : ∀ {c : Chip}, At P c → At P (fusb_state_src_send_caps.case_default c evt) := by
    intro c hc
    unfold fusb_state_src_send_caps.case_default
    repeat' split
    all_goals exact hc
  have h1 : ∀ {c : Chip}, At P c → At P (fusb_state_src_send_caps.case_1 c evt) := by
    intro c hc
    have hs : At P (policy_send_data c) := hc.kept (by simp [Chip.mode])
    unfold fusb_state_src_send_caps.case_1
    dsimp only
    repeat' split
    · exact hs
    · exact k.no_mux (k.state hs (by decide))
    · exact hd (k.no_mux (k.state hs (by decide)))
    · exact hs
    · exact hd hs
  unfold fusb_state_src_send_caps
  split
  · exact h1 (h.kept (by simp [Chip.mode]))
  · exact h1 h
  · exact hd h

theorem negotiate_cap_timed (h : At P chip) : At P (fusb_state_src_negotiate_cap chip) := by
  unfold fusb_state_src_negotiate_cap
  dsimp only
  split
  all_goals exact h

theorem src_transition_supply_timed (k : Timed P) (h : At P chip) :
    At P (fusb_state_src_transition_supply chip evt) := by
  unfold fusb_state_src_transition_supply
  split
  · rw [fusb_state_src_transition_supply.case_1, send_then_build_mesg]
    exact sent_build_timed h ..
  · exact send_then_timed h (k.state h (by decide)) h
  · split
    · exact h.kept (by simp [Chip.mode])
    · exact h
  · exact send_then_timed h h h

theorem src_cap_response_timed (h : At P chip) : At P (fusb_state_src_cap_response chip) := by
  unfold fusb_state_src_cap_response fusb_state_src_cap_response.case_default
  split
  · rw [send_then_build_mesg]
    exact sent_build_timed h ..
  · refine send_then_timed h ?_ h
    split
    all_goals exact h

theorem src_transition_default_timed (k : Timed P) (h : At P chip) :
    At P (fusb_state_src_transition_default chip evt) := by
  unfold fusb_state_src_transition_default
  dsimp only
  split
  · exact k.state h (by decide)
  · split
    · exact k.mux h (by decide)
    · exact h

theorem send_and_wait_timed (k : Timed P) (h : At P chip) (failed : ConnState) :
    At P (send_and_wait chip failed) := send_then_timed h (k.state h (by decide)) h

theorem src_get_sink_cap_timed (k : Timed P) (h : At P chip) : At P (fusb_state_src_get_sink_cap chip evt) := by
  have hd : ∀ {c : Chip}, At P c → At P (fusb_state_src_get_sink_cap.case_default c evt) := by
    intro c hc
    unfold fusb_state_src_get_sink_cap.case_default
    repeat' split
    all_goals exact hc
  have h1 : ∀ {c : Chip}, At P c → At P (fusb_state_src_get_sink_cap.case_1 c evt) := by
    intro c hc
    unfold fusb_state_src_get_sink_cap.case_1
    dsimp only
    split
    · exact send_and_wait_timed k hc _
    · exact hd (send_and_wait_timed k hc _)
  unfold fusb_state_src_get_sink_cap
  split
  · exact h1 (h.kept (by simp [Chip.mode]))
  · exact h1 h
  · exact hd h

theorem send_hardreset_timed (k : Timed P) (h : At P chip) (next : ConnState) :
    At P (send_hardreset chip evt next) := by
  have hp : ∀ {c : Chip}, At P c → At P (policy_send_hardrst c evt) := by
    intro c hc
    unfold policy_send_hardrst
    repeat' split
    · exact k.state hc (by decide)
    · exact hc
    · exact hc
  have hd : ∀ {c : Chip}, At P c → At P (send_hardreset.case_default c evt next) := by
    intro c hc
    unfold send_hardreset.case_default
    dsimp only
    split
    all_goals exact hp hc
  unfold send_hardreset
  split
  · exact hd h
  · exact hd h

theorem softreset_timed {success : Chip → Chip} {failed : ConnState} (h : At P chip)
    (hs : At P (success chip)) : At P (softreset chip success failed) := by
  unfold softreset
  split
  · rw [send_then_build_mesg]
    exact sent_build_timed h ..
  · exact send_then_timed h hs h

theorem send_softreset_timed {accepted : Chip → Chip} {failed : ConnState} (k : Timed P) (h : At P chip)
    (ha : ∀ {c : Chip}, At P c → At P (accepted c)) : At P (send_softreset chip evt accepted failed) := by
  have hd : ∀ {c : Chip}, At P c → At P (send_softreset.case_default c evt accepted failed) := by
    intro c hc
    unfold send_softreset.case_default
    repeat' split
    · exact ha hc
    all_goals exact hc
  have h1 : ∀ {c : Chip}, At P c → At P (send_softreset.case_1 c evt accepted failed) := by
    intro c hc
    unfold send_softreset.case_1
    dsimp only
    split
    · exact send_and_wait_timed k hc _
    · exact hd (send_and_wait_timed k hc _)
  unfold send_softreset
  split
  · exact h1 (h.kept (by simp [Chip.mode]))
  · exact h1 h
  · exact hd h

theorem snk_wait_caps_timed (k : Timed P) (h : At P chip) : At P (fusb_state_snk_wait_caps chip evt) := by
  unfold fusb_state_snk_wait_caps give_up
  repeat' split
  all_goals first | exact h | exact k.no_mux h

theorem snk_select_cap_timed (k : Timed P) (h : At P chip) : At P (fusb_state_snk_select_cap chip evt) := by
  have hd : ∀ {c : Chip}, At P c → At P (fusb_state_snk_select_cap.case_default c evt) := by
    intro c hc
    unfold fusb_state_snk_select_cap.case_default
    repeat' split
    all_goals first | exact hc | exact k.state hc (by decide)
  have h1 : ∀ {c : Chip}, At P c → At P (fusb_state_snk_select_cap.case_1 c evt) := by
    intro c hc
    have hs : At P (policy_send_data c) := hc.kept (by simp [Chip.mode])
    unfold fusb_state_snk_select_cap.case_1
    dsimp only
    repeat' split
    · exact hs
    · exact k.state hs (by decide)
    · exact hd (k.state hs (by decide))
    · exact hs
    · exact hd hs
  unfold fusb_state_snk_select_cap
  split
  · exact h1 (h.kept (by simp [Chip.mode]))
  · exact h1 h
  · exact hd h

theorem snk_transition_sink_timed (h : At P chip) : At P (fusb_state_snk_transition_sink chip evt) := by
  unfold fusb_state_snk_transition_sink
  repeat' split
  all_goals exact h

theorem snk_transition_default_timed (k : Timed P) (h : At P chip) :
    At P (fusb_state_snk_transition_default chip evt) := by
  have h1 : ∀ {c : Chip}, At P c → At P (fusb_state_snk_transition_default.case_1 c evt) := by
    intro c hc
    unfold fusb_state_snk_transition_default.case_1
    dsimp only
    repeat' split
    all_goals first | exact hc | exact k.state hc (by decide)
  unfold fusb_state_snk_transition_default
  dsimp only
  split
  · apply h1
    split
    all_goals exact k.state (k.mux h (by decide)) (by decide)
  · exact h1 h
  · repeat' split
    all_goals first | exact h | exact k.no_state h

theorem simple_msg_timed {is_DMT : Bool} {success failed : ConnState} (h : At P chip) :
    At P (fusb_state_send_simple_msg chip cmd is_DMT success failed) := by
  unfold fusb_state_send_simple_msg
  dsimp only
  split
  · rw [send_then_build_mesg]
    exact sent_build_timed h ..
  · exact send_then_timed h h h
  · exact h

/-! ## Swaps -/

theorem prs_evaluate_timed (h : At P chip) : At P (fusb_state_prs_evaluate chip) := by
  unfold fusb_state_prs_evaluate
  split
  all_goals exact h

theorem vcs_ufp_evaluate_swap_timed (h : At P chip) : At P (fusb_state_vcs_ufp_evaluate_swap chip) := by
  unfold fusb_state_vcs_ufp_evaluate_swap
  split
  all_goals exact h

theorem drs_evaluate_timed (h : At P chip) : At P (fusb_state_drs_evaluate chip) := by
  unfold fusb_state_drs_evaluate
  split
  all_goals exact h

theorem src_prs_transition_to_off_timed (k : Timed P) (h : At P chip) :
    At P (fusb_state_src_prs_transition_to_off chip evt) := by
  unfold fusb_state_src_prs_transition_to_off
  dsimp only
  repeat' split
  all_goals first | exact h | exact k.state h (by decide)

theorem src_prs_source_off_timed (k : Timed P) (h : At P chip) : At P (fusb_state_src_prs_source_off chip evt) := by
  unfold fusb_state_src_prs_source_off fusb_state_src_prs_source_off.case_1
  split
  · rw [send_then_build_mesg]
    exact sent_build_timed h ..
  · exact send_then_timed h (k.state h (by decide)) h
  · repeat' split
    all_goals first | exact h | exact k.no_state h
  · exact h

theorem snk_prs_transition_to_off_timed (k : Timed P) (h : At P chip) :
    At P (fusb_state_snk_prs_transition_to_off chip evt) := by
  have h1 : ∀ {c : Chip}, At P c → At P (fusb_state_snk_prs_transition_to_off.case_1 c evt) := by
    intro c hc
    unfold fusb_state_snk_prs_transition_to_off.case_1
    repeat' split
    all_goals exact hc
  unfold fusb_state_snk_prs_transition_to_off
  split
  · exact h1 (k.state h (by decide))
  · exact h1 h
  · exact h

theorem snk_prs_source_on_timed (k : Timed P) (h : At P chip) : At P (fusb_state_snk_prs_source_on chip evt) := by
  have h2 : ∀ {c : Chip}, At P c → At P (fusb_state_snk_prs_source_on.case_2 c) := by
    intro c hc
    exact send_then_timed hc (k.state hc (by decide)) hc
  unfold fusb_state_snk_prs_source_on
  split
  · exact h
  · exact h2 (h.kept (by simp [Chip.mode]))
  · exact h2 h
  · split
    all_goals exact h
  · exact h

theorem send_swap_timed (k : Timed P) (h : At P chip) : At P (fusb_state_send_swap chip evt cmd) := by
  have h1 : ∀ {c : Chip}, At P c → At P (fusb_state_send_swap.case_1 c cmd) := by
    intro c hc
    refine send_then_timed hc (k.state hc (by decide)) ?_
    split
    all_goals exact hc
  have ha : At P (fusb_state_send_swap.accepted chip cmd) := by
    unfold fusb_state_send_swap.accepted
    dsimp only
    repeat' split
    all_goals exact k.no_state h
  unfold fusb_state_send_swap
  split
  · exact h1 (h.kept (by simp [Chip.mode]))
  · exact h1 h
  · repeat' split
    all_goals first | exact ha | exact h | exact k.no_state h
  · exact h

theorem vcs_wait_for_vconn_timed (k : Timed P) (h : At P chip) : At P (fusb_state_vcs_wait_for_vconn chip evt) := by
  have h1 : ∀ {c : Chip}, At P c → At P (fusb_state_vcs_wait_for_vconn.case_1 c evt) := by
    intro c hc
    unfold fusb_state_vcs_wait_for_vconn.case_1
    repeat' split
    all_goals exact hc
  unfold fusb_state_vcs_wait_for_vconn
  split
  · exact h1 (k.state h (by decide))
  · exact h1 h
  · exact h

/-! ## The discovery machine -/

theorem set_vdm_mesg_mode (chip : Chip) (cmd type mode : Nat) :
    (set_vdm_mesg chip cmd type mode).toTimers = chip.toTimers ∧ (set_vdm_mesg chip cmd type mode).mode = chip.mode := by
  obtain ⟨cnt, load, pin, he⟩ := set_vdm_mesg_builds chip cmd type mode
  rw [he]
  exact ⟨rfl, rfl⟩

theorem timed_waits (k : Timed P) : Waits (At P) fun r => At P r.1 where
  send h := h.kept (by simp [Chip.mode])
  sent h := k.state h (by decide)
  failed h := h
  timeout h := h
  waiting h := h

theorem vdm_send_timed {mode : Nat} {begin : Chip → Chip} {acks : Chip → Bool} {finish : Chip → Chip × VdmRet}
    (k : Timed P) (h : At P chip) (hb : ∀ c : Chip, (begin c).toTimers = c.toTimers ∧ (begin c).mode = c.mode)
    (hf : ∀ c : Chip, (finish c).1.toTimers = c.toTimers ∧ (finish c).1.mode = c.mode) :
    At P (vdm_send cmd mode begin acks finish chip evt).1 := by
  refine (timed_waits k).vdm_send (fun _ => ?_) (fun _ => h) fun c hc _ => At.kept hc (hf _)
  have hm : At P (begin (set_vdm_mesg chip cmd VDM_TYPE_INIT mode)) := At.kept (h.kept (set_vdm_mesg_mode ..)) (hb _)
  exact hm.kept (by simp [Chip.mode])

theorem auto_vdm_machine_timed (k : Timed P) (h : At P chip) : At P (auto_vdm_machine chip evt) := by
  have handle : ∀ func, At P (func chip evt).1 → At P (AUTO_VDM_HANDLE func chip evt) := by
    intro func hf
    unfold AUTO_VDM_HANDLE
    dsimp only
    split
    all_goals exact hf
  have same : ∀ c : Chip, c.toTimers = c.toTimers ∧ c.mode = c.mode := fun _ => ⟨rfl, rfl⟩
  unfold auto_vdm_machine
  split
  · exact handle _ (vdm_send_timed k h same same)
  · exact handle _ (vdm_send_timed k h same same)
  · refine handle _ ?_
    unfold vdm_send_discoverymodes
    split
    · exact vdm_send_timed k h same same
    · exact h
  · exact handle _ (vdm_send_timed k h same same)
  · exact handle _ (vdm_send_timed k h same same)
  · exact handle _ (vdm_send_timed k h same same)
  · exact h
  · exact h

theorem swap_msg_process_timed (h : At P chip) : At P (fusb_state_swap_msg_process chip evt) :=
  h.kept (by simp [Chip.mode])

/-! ## The switch -/

/-- The policy's handlers, the ready states apart. -/
theorem dispatch_timed (k : Timed P) (h : At P chip) (ha : attaching chip.conn_state = false)
    (hn : chip.conn_state ≠ .policy_src_ready ∧ chip.conn_state ≠ .policy_snk_ready) : At P (dispatch chip evt) := by
  unfold dispatch
  split
  all_goals rename_i hc
  all_goals try (rw [hc] at ha; cases ha)
  · exact h
  · exact src_discovery_timed k h
  · unfold case_send_caps case_negotiate_cap
    dsimp only
    split
    · exact src_send_caps_timed k h
    · exact src_transition_supply_timed k (negotiate_cap_timed (src_send_caps_timed k h))
  · exact src_transition_supply_timed k (negotiate_cap_timed h)
  · exact src_transition_supply_timed k h
  · exact src_cap_response_timed h
  · exact src_transition_default_timed k h
  · exact absurd hc hn.1
  · exact src_get_sink_cap_timed k h
  · exact send_hardreset_timed k h _
  · exact send_softreset_timed k h fun hc => hc
  · exact softreset_timed h h
  · exact h
  · exact k.state h (by decide)
  · exact snk_wait_caps_timed k h
  · exact snk_select_cap_timed k (h.kept (by simp [Chip.mode]))
  · exact snk_select_cap_timed k h
  · exact snk_transition_sink_timed h
  · exact snk_transition_default_timed k h
  · exact absurd hc hn.2
  · exact send_hardreset_timed k h _
  · exact send_softreset_timed k h fun hc => k.state hc (by decide)
  · exact softreset_timed h (k.state h (by decide))
  · exact prs_evaluate_timed h
  · exact prs_evaluate_timed h
  · exact simple_msg_timed h
  · exact simple_msg_timed h
  · exact simple_msg_timed h
  · exact simple_msg_timed h
  · exact simple_msg_timed h
  · exact simple_msg_timed h
  · exact simple_msg_timed h
  · exact src_prs_transition_to_off_timed k h
  · exact h.kept (by simp [Chip.mode, fusb_state_src_prs_assert_rd, set_state])
  · exact src_prs_source_off_timed k h
  · exact send_swap_timed k h
  · exact send_swap_timed k h
  · exact snk_prs_transition_to_off_timed k h
  · exact h.kept (by simp [Chip.mode, fusb_state_snk_prs_assert_rp, set_state])
  · exact snk_prs_source_on_timed k h
  · exact vcs_ufp_evaluate_swap_timed h
  · exact simple_msg_timed h
  · exact vcs_wait_for_vconn_timed k h
  · exact vcs_wait_for_vconn_timed k h
  · exact h
  · exact h
  · exact h
  · exact h
  · exact simple_msg_timed h
  · exact simple_msg_timed h
  · exact send_swap_timed k h
  · exact drs_evaluate_timed h
  · exact drs_evaluate_timed h
  · exact simple_msg_timed h
  · exact simple_msg_timed h
  · exact h
  · exact h
  · exact send_swap_timed k h
  · exact send_swap_timed k h

/-! ## The mode -/

theorem mode_of_notify (h : c'.notify = c.notify) : c'.mode = c.mode := by rw [Chip.mode, Chip.mode, h]

theorem mode_timed (kept : BitVec 32 × BitVec 32) : Timed fun _ m => m = kept where
  state h _ := h
  mux h _ := h
  no_state h := h
  no_mux h := h

/-- The policy's handlers, the ready states apart, leave the mode alone. -/
theorem dispatch_mode (hr : resetting chip.conn_state = false)
    (hn : chip.conn_state ≠ .policy_src_ready ∧ chip.conn_state ≠ .policy_snk_ready) :
    (dispatch chip evt).mode = chip.mode := by
  have ha : attaching chip.conn_state = false := by
    generalize chip.conn_state = s at hr
    cases s <;> first | rfl | cases hr
  exact dispatch_timed (mode_timed chip.mode) rfl ha hn

theorem swap_msg_process_mode : (fusb_state_swap_msg_process chip evt).mode = chip.mode :=
  swap_msg_process_timed (P := fun _ m => m = chip.mode) rfl

theorem auto_vdm_machine_mode : (auto_vdm_machine chip evt).mode = chip.mode :=
  auto_vdm_machine_timed (mode_timed chip.mode) rfl

end Fusb302
