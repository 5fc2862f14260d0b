import LinuxDriver.Fusb302.Request
/-!
# Timeouts

A port that waits for its partner has a live timeout, as long as no invocation
leaves it waiting after its timeout was taken: `mux_alert` takes an expiry
before the handler runs, and a handler that tests for a message first never
looks at it.
-/

namespace Fusb302

variable {chip : Chip} {evt : Evt}

/-! ## Waiting -/

/-- The places of the state machine that wait for an answer or a timeout. -/
def waiting : ConnState → Nat → Bool
  | .policy_src_discovery, sub => sub == 1
  | .policy_src_send_caps, sub => sub == 2
  | .policy_src_transition_supply, sub => sub == 2
  | .policy_src_transition_default, sub => sub == 1
  | .policy_src_get_sink_caps, sub => sub == 2
  | .policy_src_send_softrst, sub => sub == 2
  | .policy_snk_send_softrst, sub => sub == 2
  | .policy_snk_wait_caps, _ => true
  | .policy_snk_select_cap, sub => sub == 2
  | .policy_snk_transition_sink, _ => true
  | .policy_snk_transition_default, sub => sub == 1 || sub == 2
  | .policy_src_prs_transition_to_off, sub => sub == 1
  | .policy_src_prs_source_off, sub => sub == 2
  | .policy_snk_prs_transition_to_off, sub => sub == 1
  | .policy_snk_prs_source_on, sub => sub == 3
  | .policy_vcs_dfp_wait_for_ufp_vconn, sub => sub == 1
  | .policy_vcs_ufp_wait_for_dfp_vconn, sub => sub == 1
  | _, _ => false

/-- A waiting port has a timeout running or about to be taken. -/
structure Live (chip : Chip) : Prop where
  timeout : waiting chip.conn_state chip.sub_state = true → chip.timer_state ≠ T_DISABLED

theorem live_of_not_waiting (h : waiting chip.conn_state chip.sub_state = false) : Live chip :=
  ⟨fun hw => by rw [h] at hw; cases hw⟩

theorem live_of_timer (h : chip.timer_state ≠ T_DISABLED) : Live chip := ⟨fun _ => h⟩

/-! ## What ends a wait -/

/-- Either the awaited message, or the expiry when there is no message at all. -/
def answered (evt : Evt) (msg : Bool) : Bool := if evt.rx then msg else evt.timer_state

/-- The sink's REQUEST is refused, and it has no contract to go back to. -/
def refused (chip : Chip) (evt : Evt) : Bool :=
  evt.rx && (PACKET_IS_CONTROL_MSG chip.rec_head CMT_WAIT || PACKET_IS_CONTROL_MSG chip.rec_head CMT_REJECT) &&
    !chip.notify.is_pd_connected

/-- `fusb_state_snk_select_cap` stops waiting for the answer. -/
def select_out (chip : Chip) (evt : Evt) : Bool :=
  answered evt (PACKET_IS_CONTROL_MSG chip.rec_head CMT_ACCEPT ||
    ((PACKET_IS_CONTROL_MSG chip.rec_head CMT_WAIT || PACKET_IS_CONTROL_MSG chip.rec_head CMT_REJECT) &&
      chip.notify.is_pd_connected))

/-- The handler of a waiting state leaves it or starts a new timeout. -/
def way_out (chip : Chip) (evt : Evt) : Bool :=
  match chip.conn_state with
  | .policy_src_discovery => evt.timer_state || evt.timer_mux
  | .policy_src_send_caps => evt.flag_event
  | .policy_src_get_sink_caps => evt.rx || evt.timer_state
  | .policy_src_send_softrst | .policy_snk_send_softrst => answered evt (PACKET_IS_CONTROL_MSG chip.rec_head CMT_ACCEPT)
  | .policy_snk_wait_caps =>
    if evt.rx then PACKET_IS_DATA_MSG chip.rec_head DMT_SOURCECAPABILITIES
    else evt.timer_state || (evt.timer_mux && decide (chip.hardrst_count > N_HARDRESET_COUNT))
  | .policy_snk_transition_sink =>
    answered evt (PACKET_IS_CONTROL_MSG chip.rec_head CMT_PS_RDY ||
      PACKET_IS_DATA_MSG chip.rec_head DMT_SOURCECAPABILITIES)
  | .policy_snk_transition_default => evt.timer_state || (tcpm_check_vbus chip).2 == (chip.sub_state == 2)
  | .policy_src_prs_source_off | .policy_snk_prs_transition_to_off | .policy_vcs_dfp_wait_for_ufp_vconn
  | .policy_vcs_ufp_wait_for_dfp_vconn => answered evt (PACKET_IS_CONTROL_MSG chip.rec_head CMT_PS_RDY)
  | _ => evt.timer_state

/-- The message in hand has an acceptable object, whatever its type. -/
def any_acceptable (chip : Chip) : Bool :=
  (List.range (PD_HEADER_CNT chip.rec_head)).any fun i => acceptable chip.charge_dev (chip.rec_obj i)

/-- The handler ends in a waiting state without starting its timeout. The sink
enters `policy_snk_wait_caps` in this way when nothing on offer is acceptable
and when its REQUEST is refused. -/
def waits (chip : Chip) (evt : Evt) : Bool :=
  match chip.conn_state with
  | .policy_snk_evaluate_caps => if any_acceptable chip then refused chip evt else !select_out chip evt
  | .policy_snk_select_cap =>
    (waiting chip.conn_state chip.sub_state && !select_out chip evt) ||
      (refused chip evt && !(chip.sub_state == 1 && (chip.tx_state == .tx_success || chip.tx_state == .tx_failed)))
  | _ => waiting chip.conn_state chip.sub_state && !way_out chip evt

/-! ## How a handler ends -/

/-- A handler that waits keeps the timeout it found; one that does not wait
leaves a live port. -/
inductive Outcome (chip chip' : Chip) : Bool → Prop
  | waits (hw : waiting chip'.conn_state chip'.sub_state = true) (ht : chip'.timer_state = chip.timer_state) :
    Outcome chip chip' true
  | live (h : Live chip') : Outcome chip chip' false

variable {chip' : Chip} {b x : Bool}

theorem Outcome.live_iff (h : Outcome chip chip' b) : Live chip' ↔ ¬(chip.timer_state = T_DISABLED ∧ b = true) := by
  cases h with
  | waits hw ht =>
    rw [← ht]
    constructor
    · intro h hn
      exact h.timeout hw hn.1
    · intro h
      exact ⟨fun _ hn => h ⟨hn, rfl⟩⟩
  | live h => simp [h]

/-- The port was not waiting, or has stopped. -/
theorem Outcome.done (hb : b = false) (h : Live chip') : Outcome chip chip' b := hb ▸ .live h

/-- The port does what it did before. -/
theorem Outcome.stay (hx : x = false) (hc : chip'.conn_state = chip.conn_state) (hs : chip'.sub_state = chip.sub_state)
    (ht : chip'.timer_state = chip.timer_state) :
    Outcome chip chip' (waiting chip.conn_state chip.sub_state && !x) := by
  rw [hx, Bool.not_false, Bool.and_true]
  cases hw : waiting chip.conn_state chip.sub_state
  · exact .live (live_of_not_waiting (by rw [hc, hs, hw]))
  · exact .waits (by rw [hc, hs, hw]) ht

theorem Outcome.out (hx : x = true) (h : Live chip') :
    Outcome chip chip' (waiting chip.conn_state chip.sub_state && !x) := .done (by simp [hx]) h

/-- A port that does not wait is left as it is. -/
theorem Outcome.idle (hw : waiting chip.conn_state chip.sub_state = false) :
    Outcome chip chip (waiting chip.conn_state chip.sub_state && !x) :=
  .done (by rw [hw]; rfl) (live_of_not_waiting hw)

/-- The shortest wait: only the timer ends it. -/
theorem timer_outcome (h : Live chip') :
    Outcome chip (if evt.timer_state then chip' else chip)
      (waiting chip.conn_state chip.sub_state && !evt.timer_state) := by
  by_cases hs : evt.timer_state = true
  · rw [if_pos hs]
    exact .out hs h
  · rw [if_neg hs]
    exact .stay (by simpa using hs) rfl rfl rfl

/-- The part of a handler after a first one that kept the timeout. -/
theorem Outcome.after {c : Chip} (h : Outcome c chip' b) (ht : c.timer_state = chip.timer_state) :
    Outcome chip chip' b := by
  cases h with
  | waits hw ht' => exact .waits hw (ht'.trans ht)
  | live h => exact .live h

/-- From a live port a handler that only goes on waiting leaves a live port. -/
theorem Outcome.keep (h : Outcome chip chip' (waiting chip.conn_state chip.sub_state && x)) (hl : Live chip) :
    Live chip' := by
  refine h.live_iff.2 ?_
  rintro ⟨ht, hw⟩
  rw [Bool.and_eq_true] at hw
  exact hl.timeout hw.1 ht

/-- Nothing but these two states waits from its first moment on. -/
theorem live_set_state {s : ConnState} (h : waiting s 0 = false) : Live (set_state chip s) := live_of_not_waiting h

theorem live_start {ms n : Nat} (h : ms ≠ T_DISABLED) : Live { timer_state_start chip ms with sub_state := n } :=
  live_of_timer h

theorem live_send_then {success failed : Chip → Chip} (hn : waiting chip.conn_state chip.sub_state = false)
    (hs : Live (success chip)) (hf : Live (failed chip)) : Live (send_then chip success failed) := by
  rcases send_then_cases chip success failed with ⟨_, he⟩ | ⟨_, he⟩ | ⟨_, _, he⟩ <;> rw [he]
  · exact hs
  · exact hf
  · exact live_of_not_waiting (by simpa using hn)

theorem live_build (hn : waiting chip.conn_state 1 = false) (cmd : Nat) (is_DMT : Bool) :
    Live (policy_send_data (build_mesg chip cmd is_DMT)) := live_of_not_waiting (by simpa using hn)

theorem live_simple_msg {cmd : Nat} {is_DMT : Bool} {success failed : ConnState}
    (hn : ∀ sub, waiting chip.conn_state sub = false) (hs : waiting success 0 = false) (hf : waiting failed 0 = false) :
    Live (fusb_state_send_simple_msg chip cmd is_DMT success failed) := by
  unfold fusb_state_send_simple_msg
  dsimp only
  split
  · rw [send_then_build_mesg]
    exact live_build (hn 1) _ _
  · exact live_send_then (hn _) (live_set_state hs) (live_set_state hf)
  · exact live_of_not_waiting (hn _)

theorem waiting_by_power_role {src snk : ConnState} (hs : waiting src 0 = false) (hk : waiting snk 0 = false) :
    waiting (by_power_role chip src snk) 0 = false := by
  unfold by_power_role
  split
  · exact hs
  · exact hk

theorem waiting_by_data_role {dfp ufp : ConnState} (hd : waiting dfp 0 = false) (hu : waiting ufp 0 = false) :
    waiting (by_data_role chip dfp ufp) 0 = false := by
  unfold by_data_role
  split
  · exact hd
  · exact hu

/-! ## The source's states -/

theorem src_discovery_outcome (hc : chip.conn_state = .policy_src_discovery) :
    Outcome chip (fusb_state_src_discovery chip evt)
      (waiting chip.conn_state chip.sub_state && !(evt.timer_state || evt.timer_mux)) := by
  unfold fusb_state_src_discovery
  dsimp only
  split
  · rename_i h0
    refine .done (by rw [hc, h0]; rfl) ?_
    split
    · exact live_start (by decide)
    · exact live_set_state rfl
  · by_cases hs : evt.timer_state = true
    · rw [if_pos hs]
      exact .out (by simp [hs]) (live_set_state rfl)
    · rw [if_neg hs]
      by_cases hm : evt.timer_mux = true
      · rw [if_pos hm]
        refine .out (by simp [hm]) ?_
        repeat' split
        all_goals exact live_set_state rfl
      · rw [if_neg hm]
        exact .stay (by simp [hs, hm]) rfl rfl rfl

theorem src_send_caps_default_outcome :
    Outcome chip (fusb_state_src_send_caps.case_default chip evt)
      (waiting chip.conn_state chip.sub_state && !evt.flag_event) := by
  unfold fusb_state_src_send_caps.case_default Evt.flag_event
  by_cases hr : evt.rx = true
  · rw [if_pos hr]
    refine .out (by simp [hr]) ?_
    split <;> exact live_set_state rfl
  · rw [if_neg hr]
    by_cases hs : evt.timer_state = true
    · rw [if_pos hs]
      refine .out (by simp [hs]) ?_
      split <;> exact live_set_state rfl
    · rw [if_neg hs]
      by_cases hm : evt.timer_mux = true
      · rw [if_pos hm]
        refine .out (by simp [hm]) ?_
        repeat' split
        all_goals exact live_set_state rfl
      · rw [if_neg hm]
        exact .stay (by simp [hr, hs, hm]) rfl rfl rfl

theorem src_send_caps_case_1_live (hc : chip.conn_state = .policy_src_send_caps) (h1 : chip.sub_state = 1) :
    Live (fusb_state_src_send_caps.case_1 chip evt) := by
  unfold fusb_state_src_send_caps.case_1
  dsimp only
  have then_default : ∀ {c}, Live c → Live (if !evt.flag_event then c else fusb_state_src_send_caps.case_default c evt) := by
    intro c hl
    split
    · exact hl
    · exact src_send_caps_default_outcome.keep hl
  split
  · exact live_set_state rfl
  · exact then_default (live_of_timer (show T_SENDER_RESPONSE ≠ T_DISABLED by decide))
  · exact then_default (live_of_not_waiting (by simp [hc, h1, waiting]))

theorem src_send_caps_outcome (hc : chip.conn_state = .policy_src_send_caps) :
    Outcome chip (fusb_state_src_send_caps chip evt) (waiting chip.conn_state chip.sub_state && !evt.flag_event) := by
  unfold fusb_state_src_send_caps
  split
  · rename_i h0
    exact .done (by rw [hc, h0]; rfl) (src_send_caps_case_1_live (by simpa using hc) (by simp))
  · rename_i h1
    exact .done (by rw [hc, h1]; rfl) (src_send_caps_case_1_live hc h1)
  · exact src_send_caps_default_outcome

theorem src_transition_supply_outcome (hc : chip.conn_state = .policy_src_transition_supply) :
    Outcome chip (fusb_state_src_transition_supply chip evt)
      (waiting chip.conn_state chip.sub_state && !evt.timer_state) := by
  unfold fusb_state_src_transition_supply
  split
  · rename_i h0
    refine .done (by rw [hc, h0]; rfl) ?_
    unfold fusb_state_src_transition_supply.case_1
    rw [send_then_build_mesg]
    exact live_build (by rw [hc]; rfl) _ _
  · rename_i h1
    have hw : waiting chip.conn_state chip.sub_state = false := by rw [hc, h1]; rfl
    exact .done (by rw [hw]; rfl) (live_send_then hw (live_start (by decide)) (live_set_state rfl))
  · refine timer_outcome (live_of_not_waiting ?_)
    simp [hc, waiting]
  · rename_i _ _ h2
    have hw : waiting chip.conn_state chip.sub_state = false := by
      rw [hc]
      exact decide_eq_false h2
    exact .done (by rw [hw]; rfl) (live_send_then hw (live_set_state rfl) (live_set_state rfl))

/-- The dispatcher runs from the request on into its answer. -/
theorem negotiate_cap_live : Live (case_negotiate_cap chip evt) := by
  unfold case_negotiate_cap
  have h0 : (fusb_state_src_negotiate_cap chip).sub_state = 0 := by
    unfold fusb_state_src_negotiate_cap
    dsimp only
    split <;> rfl
  have hc : (fusb_state_src_negotiate_cap chip).conn_state = .policy_src_cap_response ∨
      (fusb_state_src_negotiate_cap chip).conn_state = .policy_src_transition_supply := by
    unfold fusb_state_src_negotiate_cap
    dsimp only
    split
    · exact Or.inl rfl
    · exact Or.inr rfl
  unfold fusb_state_src_transition_supply
  simp only [h0, fusb_state_src_transition_supply.case_1]
  rw [send_then_build_mesg]
  rcases hc with hc | hc <;> exact live_build (by rw [hc]; rfl) _ _

theorem case_send_caps_outcome (hc : chip.conn_state = .policy_src_send_caps) :
    Outcome chip (case_send_caps chip evt) (waiting chip.conn_state chip.sub_state && !evt.flag_event) := by
  have h := @src_send_caps_outcome _ evt hc
  unfold case_send_caps
  dsimp only
  split
  · exact h
  · rename_i hn
    have hn := not_not.1 hn
    -- it took up a request, so it did not wait
    refine .done ?_ negotiate_cap_live
    cases hb : waiting chip.conn_state chip.sub_state && !evt.flag_event
    · rfl
    · rw [hb] at h
      cases h with
      | waits hw _ =>
        rw [hn] at hw
        cases hw

theorem src_cap_response_live (hc : chip.conn_state = .policy_src_cap_response) :
    Live (fusb_state_src_cap_response chip) := by
  unfold fusb_state_src_cap_response
  split
  · unfold fusb_state_src_cap_response.case_default
    rw [send_then_build_mesg]
    exact live_build (by rw [hc]; rfl) _ _
  · refine live_send_then (by rw [hc]; rfl) ?_ (live_set_state rfl)
    split <;> exact live_set_state rfl

theorem src_transition_default_outcome (hc : chip.conn_state = .policy_src_transition_default) :
    Outcome chip (fusb_state_src_transition_default chip evt)
      (waiting chip.conn_state chip.sub_state && !evt.timer_state) := by
  unfold fusb_state_src_transition_default
  split
  · rename_i h0
    exact .done (by rw [hc, h0]; rfl) (live_start (by decide))
  · exact timer_outcome (live_set_state rfl)

/-! ## The states that send and then wait -/

theorem send_and_wait_live {failed : ConnState} (hw : waiting chip.conn_state chip.sub_state = false)
    (hf : waiting failed 0 = false) : Live (send_and_wait chip failed) :=
  live_send_then hw (live_start (by decide)) (live_set_state hf)

theorem get_sink_cap_default_outcome :
    Outcome chip (fusb_state_src_get_sink_cap.case_default chip evt)
      (waiting chip.conn_state chip.sub_state && !(evt.rx || evt.timer_state)) := by
  unfold fusb_state_src_get_sink_cap.case_default
  by_cases hr : evt.rx = true
  · rw [if_pos hr]
    refine .out (by simp [hr]) ?_
    split <;> exact live_set_state rfl
  · rw [if_neg hr]
    by_cases hs : evt.timer_state = true
    · rw [if_pos hs]
      exact .out (by simp [hs]) (live_set_state rfl)
    · rw [if_neg hs]
      exact .stay (by simp [hr, hs]) rfl rfl rfl

/-- `case 1` of these states: the frame, then `default:`. -/
theorem send_then_default_live {default : Chip → Chip} {w : Chip → Bool} {failed : ConnState}
    (hd : ∀ c, Outcome c (default c) (waiting c.conn_state c.sub_state && w c))
    (hw : waiting chip.conn_state chip.sub_state = false) (hf : waiting failed 0 = false) :
    Live (if !evt.flag_event then send_and_wait chip failed else default (send_and_wait chip failed)) := by
  have hl : Live (send_and_wait chip failed) := send_and_wait_live hw hf
  split
  · exact hl
  · exact (hd _).keep hl

theorem get_sink_cap_outcome (hc : chip.conn_state = .policy_src_get_sink_caps) :
    Outcome chip (fusb_state_src_get_sink_cap chip evt)
      (waiting chip.conn_state chip.sub_state && !(evt.rx || evt.timer_state)) := by
  unfold fusb_state_src_get_sink_cap
  split
  · rename_i h0
    exact .done (by rw [hc, h0]; rfl)
      (send_then_default_live (fun _ => get_sink_cap_default_outcome) (by simp [hc, waiting]) rfl)
  · rename_i h1
    exact .done (by rw [hc, h1]; rfl)
      (send_then_default_live (fun _ => get_sink_cap_default_outcome) (by rw [hc, h1]; rfl) rfl)
  · exact get_sink_cap_default_outcome

/-- The shape of most waits: a message is looked at first, and only one kind ends the wait. -/
theorem answered_outcome {msg : Bool} {c d : Chip} (hc : Live c) (hd : Live d) :
    Outcome chip (if evt.rx then (if msg then c else chip) else if evt.timer_state then d else chip)
      (waiting chip.conn_state chip.sub_state && !answered evt msg) := by
  unfold answered
  by_cases hr : evt.rx = true
  · rw [if_pos hr, if_pos hr]
    by_cases hm : msg = true
    · rw [if_pos hm]
      exact .out hm hc
    · rw [if_neg hm]
      exact .stay (by simpa using hm) rfl rfl rfl
  · rw [if_neg hr, if_neg hr]
    exact timer_outcome hd

theorem send_softreset_default_outcome {accepted : Chip → Chip} {failed : ConnState} (ha : ∀ c, Live (accepted c))
    (hf : waiting failed 0 = false) :
    Outcome chip (send_softreset.case_default chip evt accepted failed)
      (waiting chip.conn_state chip.sub_state && !answered evt (PACKET_IS_CONTROL_MSG chip.rec_head CMT_ACCEPT)) :=
  answered_outcome (ha chip) (live_set_state hf)

theorem send_softreset_outcome {accepted : Chip → Chip} {failed : ConnState} (ha : ∀ c, Live (accepted c))
    (hf : waiting failed 0 = false) (hw : ∀ sub, waiting chip.conn_state sub = (sub == 2)) :
    Outcome chip (send_softreset chip evt accepted failed)
      (waiting chip.conn_state chip.sub_state && !answered evt (PACKET_IS_CONTROL_MSG chip.rec_head CMT_ACCEPT)) := by
  unfold send_softreset
  split
  · rename_i h0
    refine .done (by rw [hw, h0]; rfl) ?_
    exact send_then_default_live (fun _ => send_softreset_default_outcome ha hf) (by simp [hw]) hf
  · rename_i h1
    refine .done (by rw [hw, h1]; rfl) ?_
    exact send_then_default_live (fun _ => send_softreset_default_outcome ha hf) (by rw [hw, h1]; rfl) hf
  · exact send_softreset_default_outcome ha hf

theorem src_send_softreset_outcome (hc : chip.conn_state = .policy_src_send_softrst) :
    Outcome chip (fusb_state_src_send_softreset chip evt)
      (waiting chip.conn_state chip.sub_state && !answered evt (PACKET_IS_CONTROL_MSG chip.rec_head CMT_ACCEPT)) :=
  send_softreset_outcome (fun _ => live_set_state rfl) rfl fun _ => by rw [hc]; rfl

theorem softreset_live {success : Chip → Chip} {failed : ConnState} (hs : ∀ c, Live (success c))
    (hf : waiting failed 0 = false) (hw : ∀ sub, waiting chip.conn_state sub = false) :
    Live (softreset chip success failed) := by
  unfold softreset
  split
  · rw [send_then_build_mesg]
    exact live_build (hw 1) _ _
  · exact live_send_then (hw _) (hs _) (live_set_state hf)

theorem send_hardreset_default_live {next : ConnState} (hn : waiting next 0 = false)
    (hw : ∀ sub, waiting chip.conn_state sub = false) : Live (send_hardreset.case_default chip evt next) := by
  unfold send_hardreset.case_default
  dsimp only
  split
  · exact live_set_state hn
  · exact live_set_state rfl
  · exact live_of_not_waiting (by simp [hw])

theorem send_hardreset_live {next : ConnState} (hn : waiting next 0 = false)
    (hw : ∀ sub, waiting chip.conn_state sub = false) : Live (send_hardreset chip evt next) := by
  unfold send_hardreset
  split
  · exact send_hardreset_default_live hn hw
  · exact send_hardreset_default_live hn hw

/-! ## The ready states -/

/-- The port is in a state that never waits. -/
def Rests (chip : Chip) : Prop := ∀ sub, waiting chip.conn_state sub = false

theorem Rests.live (h : Rests chip) : Live chip := live_of_not_waiting (h _)

theorem Rests.of_eq (h : Rests chip) (hc : chip'.conn_state = chip.conn_state) : Rests chip' := by
  rwa [Rests, hc]

theorem swap_msg_process_rests (h : Rests chip) : Rests (fusb_state_swap_msg_process chip evt) := by
  unfold fusb_state_swap_msg_process
  repeat' split
  all_goals first
    | exact h
    | exact fun _ => rfl

theorem ready_rx_rests (h : Rests chip) : Rests (ready_rx chip evt) := by
  unfold ready_rx
  repeat' split
  · exact h.of_eq (process_vdm_msg_kept chip).1
  · exact swap_msg_process_rests h
  · exact h
  · exact h

theorem src_ready_live (hc : chip.conn_state = .policy_src_ready) : Live (fusb_state_src_ready chip evt) := by
  have hr : Rests (ready_rx chip evt) := ready_rx_rests (by rw [Rests, hc]; exact fun _ => rfl)
  unfold fusb_state_src_ready
  dsimp only
  split
  · exact live_set_state rfl
  · split
    · exact (hr.of_eq (auto_vdm_machine_kept _ evt).1).live
    · exact hr.live

theorem snk_ready_live (hc : chip.conn_state = .policy_snk_ready) : Live (fusb_state_snk_ready chip evt) := by
  have hr : Rests (ready_rx chip evt) := ready_rx_rests (by rw [Rests, hc]; exact fun _ => rfl)
  have hv : Rests (if VDM_IS_ACTIVE (ready_rx chip evt) then auto_vdm_machine (ready_rx chip evt) evt
      else ready_rx chip evt) := by
    split
    · exact hr.of_eq (auto_vdm_machine_kept _ evt).1
    · exact hr
  unfold fusb_state_snk_ready
  dsimp only
  refine Rests.live ((@swap_msg_process_rests _ evt hv).of_eq ?_)
  simp

/-! ## The sink's states -/

theorem snk_soft_reset_done_live : Live (snk_soft_reset_done chip) :=
  live_of_timer (show T_TYPEC_SINK_WAIT_CAP ≠ T_DISABLED by decide)

theorem snk_send_softreset_outcome (hc : chip.conn_state = .policy_snk_send_softrst) :
    Outcome chip (fusb_state_snk_send_softreset chip evt)
      (waiting chip.conn_state chip.sub_state && !answered evt (PACKET_IS_CONTROL_MSG chip.rec_head CMT_ACCEPT)) :=
  send_softreset_outcome (fun _ => snk_soft_reset_done_live) rfl fun _ => by rw [hc]; rfl

theorem snk_discovery_live : Live (fusb_state_snk_discovery chip) :=
  live_of_timer (show T_TYPEC_SINK_WAIT_CAP ≠ T_DISABLED by decide)

theorem give_up_live : Live (give_up chip) := by
  unfold give_up
  split <;> exact live_set_state rfl

theorem snk_wait_caps_outcome :
    Outcome chip (fusb_state_snk_wait_caps chip evt)
      (waiting chip.conn_state chip.sub_state &&
        !(if evt.rx then PACKET_IS_DATA_MSG chip.rec_head DMT_SOURCECAPABILITIES
          else evt.timer_state || (evt.timer_mux && decide (chip.hardrst_count > N_HARDRESET_COUNT)))) := by
  unfold fusb_state_snk_wait_caps
  by_cases hr : evt.rx = true
  · rw [if_pos hr, if_pos hr]
    by_cases hd : PACKET_IS_DATA_MSG chip.rec_head DMT_SOURCECAPABILITIES = true
    · rw [if_pos hd]
      exact .out hd (live_set_state rfl)
    · rw [if_neg hd]
      exact .stay (by simpa using hd) rfl rfl rfl
  · rw [if_neg hr, if_neg hr]
    by_cases hs : evt.timer_state = true
    · rw [if_pos hs]
      refine .out (by simp [hs]) ?_
      repeat' split
      · exact live_set_state rfl
      · exact live_set_state rfl
      · exact give_up_live
    · rw [if_neg hs]
      by_cases hm : (evt.timer_mux && decide (chip.hardrst_count > N_HARDRESET_COUNT)) = true
      · rw [if_pos hm]
        exact .out (by rw [hm, Bool.or_true]) give_up_live
      · rw [if_neg hm]
        exact .stay (by rw [eq_false_of_ne_true hs, eq_false_of_ne_true hm]; rfl) rfl rfl rfl

theorem snk_transition_sink_outcome :
    Outcome chip (fusb_state_snk_transition_sink chip evt)
      (waiting chip.conn_state chip.sub_state && !answered evt
        (PACKET_IS_CONTROL_MSG chip.rec_head CMT_PS_RDY || PACKET_IS_DATA_MSG chip.rec_head DMT_SOURCECAPABILITIES)) := by
  unfold fusb_state_snk_transition_sink
  by_cases hp : PACKET_IS_CONTROL_MSG chip.rec_head CMT_PS_RDY = true
  · have h := @answered_outcome chip evt true _ _
      (@live_set_state { chip with notify.is_pd_connected := true } .policy_snk_ready rfl)
      (@live_set_state chip .policy_snk_send_hardrst rfl)
    simpa [hp] using h
  · have h := @answered_outcome chip evt (PACKET_IS_DATA_MSG chip.rec_head DMT_SOURCECAPABILITIES) _ _
      (@live_set_state chip .policy_snk_evaluate_caps rfl)
      (@live_set_state chip .policy_snk_send_hardrst rfl)
    simpa [hp] using h

theorem snk_transition_default_case_1_outcome :
    Outcome chip (fusb_state_snk_transition_default.case_1 chip evt)
      (waiting chip.conn_state chip.sub_state && !(evt.timer_state || (tcpm_check_vbus chip).2 == false)) := by
  unfold fusb_state_snk_transition_default.case_1
  dsimp only
  by_cases hv : (tcpm_check_vbus chip).2 = true
  · rw [hv]
    by_cases hs : evt.timer_state = true
    · rw [if_neg (by decide), if_pos hs]
      exact .out (by simp [hs]) (live_set_state rfl)
    · rw [if_neg (by decide), if_neg hs]
      exact .stay (by simpa using hs) (by simp) (by simp) (by simp)
  · rw [eq_false_of_ne_true hv, if_pos (by decide)]
    exact .out (by simp) (live_start (by decide))

theorem snk_transition_default_outcome (hc : chip.conn_state = .policy_snk_transition_default) :
    Outcome chip (fusb_state_snk_transition_default chip evt)
      (waiting chip.conn_state chip.sub_state &&
        !(evt.timer_state || (tcpm_check_vbus chip).2 == (chip.sub_state == 2))) := by
  unfold fusb_state_snk_transition_default
  split
  · rename_i h0
    refine .done (by rw [hc, h0]; rfl) ?_
    dsimp only
    refine snk_transition_default_case_1_outcome.keep (live_of_timer ?_)
    have hne : T_PS_HARD_RESET_MAX + T_SAFE_0V ≠ T_DISABLED := by decide
    split
    · simpa [timer_state_start] using hne
    · exact hne
  · rename_i h1
    rw [h1]
    have h := @snk_transition_default_case_1_outcome chip evt
    rwa [h1] at h
  · rename_i h0 h1
    dsimp only
    by_cases h2 : chip.sub_state = 2
    · rw [h2]
      by_cases hv : (tcpm_check_vbus chip).2 = true
      · rw [if_pos hv, hv]
        exact .done (by simp) (live_set_state rfl)
      · rw [if_neg hv, eq_false_of_ne_true hv]
        by_cases hs : evt.timer_state = true
        · rw [if_pos hs]
          exact .done (by simp [hs]) (live_set_state rfl)
        · rw [if_neg hs, ← h2]
          exact .stay (by simpa [h2] using hs) (by simp) (by simp) (by simp)
    · have hw : waiting chip.conn_state chip.sub_state = false := by
        rw [hc]
        exact Bool.or_eq_false_iff.2 ⟨beq_false_of_ne h1, beq_false_of_ne h2⟩
      rw [hw]
      refine .done rfl ?_
      repeat' split
      · exact live_set_state rfl
      · exact live_set_state rfl
      · exact live_of_not_waiting (by simpa using hw)

/-! ## The sink's REQUEST -/

theorem select_cap_default_outcome :
    Outcome chip (fusb_state_snk_select_cap.case_default chip evt)
      ((waiting chip.conn_state chip.sub_state && !select_out chip evt) || refused chip evt) := by
  unfold fusb_state_snk_select_cap.case_default
  by_cases hr : evt.rx = true
  · rw [if_pos hr]
    by_cases h0 : PD_HEADER_CNT chip.rec_head = 0
    · rw [if_pos h0]
      by_cases ha : PD_HEADER_TYPE chip.rec_head = CMT_ACCEPT
      · rw [if_pos ha]
        refine .done ?_ (live_of_timer (show T_PS_TRANSITION ≠ T_DISABLED by decide))
        simp [select_out, refused, answered, PACKET_IS_CONTROL_MSG, hr, h0, ha, CMT_ACCEPT, CMT_WAIT, CMT_REJECT]
      · rw [if_neg ha]
        by_cases hn : PD_HEADER_TYPE chip.rec_head = CMT_WAIT ∨ PD_HEADER_TYPE chip.rec_head = CMT_REJECT
        · -- refused: to the ready state with a contract, else to wait for capabilities
          rw [if_pos hn]
          have hc : (PACKET_IS_CONTROL_MSG chip.rec_head CMT_WAIT || PACKET_IS_CONTROL_MSG chip.rec_head CMT_REJECT) =
              true := by
            rcases hn with hn | hn <;> simp [PACKET_IS_CONTROL_MSG, h0, hn]
          by_cases hp : chip.notify.is_pd_connected = true
          · rw [if_pos hp]
            refine .done ?_ (live_set_state rfl)
            simp [select_out, refused, answered, hr, hc, hp]
          · rw [if_neg hp]
            have hw : ((waiting chip.conn_state chip.sub_state && !select_out chip evt) || refused chip evt) = true := by
              simp [refused, hr, hc, hp]
            rw [hw]
            exact .waits rfl rfl
        · rw [if_neg hn]
          rw [not_or] at hn
          have hw : refused chip evt = false := by simp [refused, PACKET_IS_CONTROL_MSG, hn]
          rw [hw, Bool.or_false]
          exact .stay (by simp [select_out, answered, PACKET_IS_CONTROL_MSG, hr, ha, hn]) rfl rfl rfl
    · rw [if_neg h0]
      have hw : refused chip evt = false := by simp [refused, PACKET_IS_CONTROL_MSG, h0]
      rw [hw, Bool.or_false]
      exact .stay (by simp [select_out, answered, PACKET_IS_CONTROL_MSG, hr, h0]) rfl rfl rfl
  · rw [if_neg hr]
    have hw : refused chip evt = false := by simp [refused, hr]
    rw [hw, Bool.or_false]
    by_cases hs : evt.timer_state = true
    · rw [if_pos hs]
      exact .out (by simp [select_out, answered, hr, hs]) (live_set_state rfl)
    · rw [if_neg hs]
      exact .stay (by simp [select_out, answered, hr, hs]) rfl rfl rfl

/-- A refusal without a contract is not an answer that ends the wait. -/
theorem select_out_of_refused (h : refused chip evt = true) : select_out chip evt = false := by
  simp only [refused, Bool.and_eq_true, Bool.or_eq_true, Bool.not_eq_true'] at h
  obtain ⟨⟨hr, hm⟩, hp⟩ := h
  have ha : PACKET_IS_CONTROL_MSG chip.rec_head CMT_ACCEPT = false := by
    simp only [PACKET_IS_CONTROL_MSG, Bool.and_eq_true, beq_iff_eq] at hm ⊢
    rcases hm with hm | hm <;> simp [hm.2, CMT_ACCEPT, CMT_WAIT, CMT_REJECT]
  simp [select_out, answered, hr, ha, hp]

/-- `case 1` while the frame is under way: `default:` when there is something to look at. -/
theorem select_cap_busy_outcome (hs : chip.tx_state ≠ .tx_success) (hf : chip.tx_state ≠ .tx_failed) :
    Outcome chip (fusb_state_snk_select_cap.case_1 chip evt)
      ((waiting chip.conn_state chip.sub_state && !select_out chip evt) || refused chip evt) := by
  -- `default:` sees the port as `policy_send_data` leaves it
  obtain ⟨c, he⟩ : ∃ c, c = policy_send_data chip := ⟨_, rfl⟩
  have hc : c.conn_state = chip.conn_state := by simp [he]
  have hn : c.sub_state = chip.sub_state := by simp [he]
  have ht : c.timer_state = chip.timer_state := by simp [he]
  have hd : Outcome c (fusb_state_snk_select_cap.case_default c evt)
      ((waiting chip.conn_state chip.sub_state && !select_out chip evt) || refused chip evt) := by
    have h := @select_cap_default_outcome c evt
    rw [hc, hn] at h
    simpa [select_out, refused, he] using h
  have hw : Outcome chip (if !evt.flag_event then c else fusb_state_snk_select_cap.case_default c evt)
      ((waiting chip.conn_state chip.sub_state && !select_out chip evt) || refused chip evt) := by
    split
    · rename_i hq
      obtain ⟨hr, hts⟩ : evt.rx = false ∧ evt.timer_state = false := by
        simp only [Evt.flag_event, Bool.not_eq_true', Bool.or_eq_false_iff] at hq
        exact ⟨hq.1.1, hq.2⟩
      have hz : refused chip evt = false := by simp [refused, hr]
      rw [hz, Bool.or_false]
      exact .stay (by simp [select_out, answered, hr, hts]) hc hn ht
    · exact hd.after ht
  have hx : c.tx_state ≠ .tx_success ∧ c.tx_state ≠ .tx_failed := by
    rw [he, policy_send_data_tx_state]
    split
    · exact ⟨by decide, by decide⟩
    · exact ⟨hs, hf⟩
  unfold fusb_state_snk_select_cap.case_1
  rw [← he]
  dsimp only
  split
  · exact absurd ‹_› hx.2
  · exact absurd ‹_› hx.1
  · exact hw

/-- `case 1` with the outcome of the frame in hand. -/
theorem select_cap_sent_live (h : chip.tx_state = .tx_success ∨ chip.tx_state = .tx_failed) :
    Live (fusb_state_snk_select_cap.case_1 chip evt) := by
  have he : policy_send_data chip = chip := policy_send_data_of_ne_idle chip (by rcases h with h | h <;> simp [h])
  unfold fusb_state_snk_select_cap.case_1
  rw [he]
  dsimp only
  rcases h with h | h
  · simp only [h]
    have ht : T_SENDER_RESPONSE ≠ T_DISABLED := by decide
    split
    · exact live_start ht
    · exact select_cap_default_outcome.live_iff.2 fun hn => ht hn.1
  · simp only [h]
    exact live_set_state rfl

/-- The port sends a REQUEST it has just built. -/
theorem select_cap_build_outcome (h0 : chip.sub_state = 0) :
    Outcome chip (fusb_state_snk_select_cap chip evt)
      ((waiting chip.conn_state 1 && !select_out chip evt) || refused chip evt) := by
  have h := @select_cap_busy_outcome (build_mesg chip DMT_REQUEST true) evt (by simp) (by simp)
  have hb := build_mesg_frame chip DMT_REQUEST true
  dsimp only at hb
  unfold fusb_state_snk_select_cap
  simp only [h0]
  have he : select_out (build_mesg chip DMT_REQUEST true) evt = select_out chip evt ∧
      refused (build_mesg chip DMT_REQUEST true) evt = refused chip evt := by simp [select_out, refused]
  rw [hb.1, hb.2.1, he.1, he.2] at h
  exact h.after (by simp)

theorem snk_select_cap_outcome (hc : chip.conn_state = .policy_snk_select_cap) :
    Outcome chip (fusb_state_snk_select_cap chip evt)
      ((waiting chip.conn_state chip.sub_state && !select_out chip evt) ||
        (refused chip evt &&
          !(chip.sub_state == 1 && (chip.tx_state == .tx_success || chip.tx_state == .tx_failed)))) := by
  by_cases h0 : chip.sub_state = 0
  · have h := @select_cap_build_outcome _ evt h0
    rw [hc] at h ⊢
    simpa [h0, waiting] using h
  by_cases h1 : chip.sub_state = 1
  · have hw : waiting chip.conn_state chip.sub_state = false := by rw [hc, h1]; rfl
    have hu : fusb_state_snk_select_cap chip evt = fusb_state_snk_select_cap.case_1 chip evt := by
      unfold fusb_state_snk_select_cap
      simp only [h1]
    rw [hu]
    by_cases ht : chip.tx_state = .tx_success ∨ chip.tx_state = .tx_failed
    · refine .done ?_ (select_cap_sent_live ht)
      rw [hw]
      rcases ht with ht | ht <;> simp [h1, ht]
    · rw [not_or] at ht
      simpa [h1, beq_false_of_ne ht.1, beq_false_of_ne ht.2] using @select_cap_busy_outcome _ evt ht.1 ht.2
  · have hu : fusb_state_snk_select_cap chip evt = fusb_state_snk_select_cap.case_default chip evt := by
      unfold fusb_state_snk_select_cap
      split
      · exact absurd ‹_› h0
      · exact absurd ‹_› h1
      · rfl
    rw [hu]
    simpa [beq_false_of_ne h1] using @select_cap_default_outcome chip evt

/-- The sink that finds nothing acceptable waits for another offer, and builds a REQUEST meanwhile. -/
theorem evaluate_caps_outcome :
    Outcome chip (case_evaluate_caps chip evt)
      (if any_acceptable chip then refused chip evt else !select_out chip evt) := by
  have hf := @evaluate_caps_frame chip
  have h := @select_cap_build_outcome (fusb_state_snk_evaluate_caps chip) evt hf.1
  have he : select_out (fusb_state_snk_evaluate_caps chip) evt = select_out chip evt ∧
      refused (fusb_state_snk_evaluate_caps chip) evt = refused chip evt := by simp [select_out, refused]
  rw [he.1, he.2] at h
  unfold case_evaluate_caps
  refine Outcome.after ?_ (congrArg Timers.timer_state hf.2.2.1)
  rcases @evaluate_caps_spec chip with ⟨hw, _, hn⟩ | ⟨hs, i, hi, _, ha⟩
  · have hb : any_acceptable chip = false := by simpa [any_acceptable] using hn
    rw [hw] at h
    rw [hb]
    have hr : ((waiting .policy_snk_wait_caps 1 && !select_out chip evt) || refused chip evt) = !select_out chip evt := by
      cases hz : refused chip evt
      · simp [waiting]
      · simp [waiting, select_out_of_refused hz]
    rw [hr] at h
    exact h
  · have hb : any_acceptable chip = true := by
      simp only [any_acceptable, List.any_eq_true, List.mem_range]
      exact ⟨i, hi, ha⟩
    rw [hs] at h
    rw [hb]
    exact h

/-! ## Swaps -/

theorem prs_evaluate_live : Live (fusb_state_prs_evaluate chip) := by
  unfold fusb_state_prs_evaluate
  split <;> exact live_set_state rfl

theorem prs_reject_live (hw : Rests chip) : Live (fusb_state_prs_reject chip) :=
  live_simple_msg hw (waiting_by_power_role rfl rfl) (waiting_by_power_role rfl rfl)

theorem prs_accept_live (hw : Rests chip) : Live (fusb_state_prs_accept chip) :=
  live_simple_msg hw (waiting_by_power_role rfl rfl) (waiting_by_power_role rfl rfl)

theorem src_prs_transition_to_off_outcome (hc : chip.conn_state = .policy_src_prs_transition_to_off) :
    Outcome chip (fusb_state_src_prs_transition_to_off chip evt)
      (waiting chip.conn_state chip.sub_state && !evt.timer_state) := by
  unfold fusb_state_src_prs_transition_to_off
  split
  · rename_i h0
    exact .done (by rw [hc, h0]; rfl) (live_start (by decide))
  · refine timer_outcome ?_
    dsimp only
    split <;> exact live_set_state rfl
  · rename_i _ h1
    refine .idle ?_
    rw [hc]
    exact beq_false_of_ne h1

theorem src_prs_source_off_outcome (hc : chip.conn_state = .policy_src_prs_source_off) :
    Outcome chip (fusb_state_src_prs_source_off chip evt)
      (waiting chip.conn_state chip.sub_state && !answered evt (PACKET_IS_CONTROL_MSG chip.rec_head CMT_PS_RDY)) := by
  unfold fusb_state_src_prs_source_off
  split
  · rename_i h0
    refine .done (by rw [hc, h0]; rfl) ?_
    unfold fusb_state_src_prs_source_off.case_1
    rw [send_then_build_mesg]
    exact live_build (by rw [hc]; rfl) _ _
  · rename_i h1
    have hw : waiting chip.conn_state chip.sub_state = false := by rw [hc, h1]; rfl
    exact .done (by rw [hw]; rfl) (live_send_then hw (live_start (by decide)) (live_set_state rfl))
  · exact answered_outcome (live_set_state rfl) (live_set_state rfl)
  · rename_i _ _ h2
    refine .idle ?_
    rw [hc]
    exact beq_false_of_ne h2

theorem snk_prs_transition_to_off_case_1_outcome :
    Outcome chip (fusb_state_snk_prs_transition_to_off.case_1 chip evt)
      (waiting chip.conn_state chip.sub_state && !answered evt (PACKET_IS_CONTROL_MSG chip.rec_head CMT_PS_RDY)) := by
  refine answered_outcome ?_ (live_set_state rfl)
  split <;> exact live_set_state rfl

theorem snk_prs_transition_to_off_outcome (hc : chip.conn_state = .policy_snk_prs_transition_to_off) :
    Outcome chip (fusb_state_snk_prs_transition_to_off chip evt)
      (waiting chip.conn_state chip.sub_state && !answered evt (PACKET_IS_CONTROL_MSG chip.rec_head CMT_PS_RDY)) := by
  unfold fusb_state_snk_prs_transition_to_off
  split
  · rename_i h0
    exact .done (by rw [hc, h0]; rfl) (snk_prs_transition_to_off_case_1_outcome.keep (live_start (by decide)))
  · exact snk_prs_transition_to_off_case_1_outcome
  · rename_i _ h1
    refine .idle ?_
    rw [hc]
    exact beq_false_of_ne h1

theorem snk_prs_source_on_outcome (hc : chip.conn_state = .policy_snk_prs_source_on) :
    Outcome chip (fusb_state_snk_prs_source_on chip evt)
      (waiting chip.conn_state chip.sub_state && !evt.timer_state) := by
  unfold fusb_state_snk_prs_source_on
  split
  · rename_i h0
    refine .done (by rw [hc, h0]; rfl) (live_of_not_waiting ?_)
    simp [hc, waiting]
  · rename_i h1
    refine .done (by rw [hc, h1]; rfl) ?_
    unfold fusb_state_snk_prs_source_on.case_2
    exact live_send_then (by simp [hc, waiting]) (live_start (by decide)) (live_set_state rfl)
  · rename_i h2
    have hw : waiting chip.conn_state chip.sub_state = false := by rw [hc, h2]; rfl
    exact .done (by rw [hw]; rfl) (live_send_then hw (live_start (by decide)) (live_set_state rfl))
  · exact timer_outcome (live_set_state rfl)
  · rename_i _ _ _ h3
    refine .idle ?_
    rw [hc]
    exact beq_false_of_ne h3

theorem send_swap_accepted_live {cmd : Nat} (hw : Rests chip) : Live (fusb_state_send_swap.accepted chip cmd) := by
  unfold fusb_state_send_swap.accepted
  dsimp only
  split
  · split <;> exact live_set_state rfl
  · split
    · refine live_of_not_waiting ?_
      simp only [set_state, tcpm_set_msg_header_kept]
      exact waiting_by_power_role rfl rfl
    · split
      · exact live_set_state (waiting_by_data_role rfl rfl)
      · exact live_of_not_waiting (hw _)

theorem send_swap_live {cmd : Nat} (hw : Rests chip) : Live (fusb_state_send_swap chip evt cmd) := by
  have back : ∀ c : Chip, Live (set_state c (by_power_role c .policy_src_ready .policy_snk_ready)) := fun c =>
    live_set_state (waiting_by_power_role rfl rfl)
  unfold fusb_state_send_swap
  split
  · unfold fusb_state_send_swap.case_1
    rw [send_then_build_mesg]
    exact live_build (hw 1) _ _
  · refine live_send_then (hw _) (live_start (by decide)) ?_
    split
    · exact live_set_state rfl
    · exact live_set_state (waiting_by_power_role rfl rfl)
  · repeat' split
    · exact send_swap_accepted_live hw
    · exact back _
    · exact hw.live
    · exact back _
    · exact hw.live
  · exact hw.live

theorem vcs_ufp_evaluate_swap_live : Live (fusb_state_vcs_ufp_evaluate_swap chip) := by
  unfold fusb_state_vcs_ufp_evaluate_swap
  split <;> exact live_set_state rfl

theorem vcs_ufp_accept_live (hw : Rests chip) : Live (fusb_state_vcs_ufp_accept chip) := by
  refine live_simple_msg hw ?_ (waiting_by_power_role rfl rfl)
  split <;> rfl

theorem vcs_set_vconn_live {on : Bool} : Live (fusb_state_vcs_set_vconn chip on) := by
  cases on
  · exact live_set_state (waiting_by_power_role rfl rfl)
  · exact live_set_state (waiting_by_data_role rfl rfl)

theorem vcs_send_ps_rdy_live (hw : Rests chip) : Live (fusb_state_vcs_send_ps_rdy chip) :=
  live_simple_msg hw (waiting_by_power_role rfl rfl) (waiting_by_power_role rfl rfl)

theorem vcs_wait_case_1_outcome :
    Outcome chip (fusb_state_vcs_wait_for_vconn.case_1 chip evt)
      (waiting chip.conn_state chip.sub_state && !answered evt (PACKET_IS_CONTROL_MSG chip.rec_head CMT_PS_RDY)) :=
  answered_outcome (live_set_state (waiting_by_data_role rfl rfl)) (live_set_state (waiting_by_power_role rfl rfl))

theorem vcs_wait_for_vconn_outcome (hw : ∀ sub, waiting chip.conn_state sub = (sub == 1)) :
    Outcome chip (fusb_state_vcs_wait_for_vconn chip evt)
      (waiting chip.conn_state chip.sub_state && !answered evt (PACKET_IS_CONTROL_MSG chip.rec_head CMT_PS_RDY)) := by
  unfold fusb_state_vcs_wait_for_vconn
  split
  · rename_i h0
    exact .done (by rw [hw, h0]; rfl) (vcs_wait_case_1_outcome.keep (live_start (by decide)))
  · exact vcs_wait_case_1_outcome
  · rename_i _ h1
    have hn : waiting chip.conn_state chip.sub_state = false := by
      rw [hw]
      exact beq_false_of_ne h1
    exact .done (by rw [hn]; rfl) (live_of_not_waiting hn)

theorem drs_evaluate_live : Live (fusb_state_drs_evaluate chip) := by
  unfold fusb_state_drs_evaluate
  split <;> exact live_set_state (waiting_by_data_role rfl rfl)

theorem drs_send_accept_live (hw : Rests chip) : Live (fusb_state_drs_send_accept chip) :=
  live_simple_msg hw (waiting_by_power_role rfl rfl) rfl

theorem drs_role_change_live : Live (fusb_state_drs_role_change chip) :=
  live_set_state (waiting_by_power_role rfl rfl)

/-! ## One step -/

theorem attach_live (h : attaching chip.conn_state = true) : Live (dispatch chip evt) := by
  refine live_of_not_waiting ?_
  cases @attach_step _ evt h with
  | attach hs =>
    generalize (dispatch chip evt).conn_state = s at hs
    cases s <;> first | rfl | cases hs
  | source hs => rw [hs]; rfl
  | sink hs => rw [hs]; rfl

/-- How every handler ends. -/
theorem dispatch_outcome : Outcome chip (dispatch chip evt) (waits chip evt) := by
  -- a state that never waits has only to leave a live port
  have rest : ∀ {s c'}, chip.conn_state = s → (∀ sub, waiting s sub = false) → s ≠ .policy_snk_evaluate_caps →
      (Rests chip → Live c') → Outcome chip c' (waits chip evt) := by
    intro s c' hc hw hs hl
    refine .done ?_ (hl (by rwa [Rests, hc]))
    unfold waits
    split
    · exact absurd (hc.symm.trans ‹_›) hs
    · rename_i h
      have := hw 2
      rw [← hc, h] at this
      cases this
    · rw [hc, hw, Bool.false_and]
  cases ha : attaching chip.conn_state
  · unfold dispatch
    split
    all_goals rename_i hc
    all_goals try (rw [hc] at ha; cases ha)
    · exact rest hc (fun _ => rfl) (by decide) fun _ => live_of_not_waiting (by simp [fusb_state_src_startup, set_state, waiting])
    · simpa only [waits, way_out, hc] using @src_discovery_outcome _ evt hc
    · simpa only [waits, way_out, hc] using @case_send_caps_outcome _ evt hc
    · exact rest hc (fun _ => rfl) (by decide) fun _ => negotiate_cap_live
    · simpa only [waits, way_out, hc] using @src_transition_supply_outcome _ evt hc
    · exact rest hc (fun _ => rfl) (by decide) fun _ => src_cap_response_live hc
    · simpa only [waits, way_out, hc] using @src_transition_default_outcome _ evt hc
    · exact rest hc (fun _ => rfl) (by decide) fun _ => src_ready_live hc
    · simpa only [waits, way_out, hc] using @get_sink_cap_outcome _ evt hc
    · exact rest hc (fun _ => rfl) (by decide) (send_hardreset_live rfl)
    · simpa only [waits, way_out, hc] using @src_send_softreset_outcome _ evt hc
    · exact rest hc (fun _ => rfl) (by decide) (softreset_live (fun _ => live_set_state rfl) rfl)
    · exact rest hc (fun _ => rfl) (by decide) fun _ => live_of_not_waiting (by simp [fusb_state_snk_startup, set_state, waiting])
    · exact rest hc (fun _ => rfl) (by decide) fun _ => snk_discovery_live
    · simpa only [waits, way_out, hc] using @snk_wait_caps_outcome chip evt
    · simpa only [waits, hc] using @evaluate_caps_outcome chip evt
    · simpa only [waits, hc] using @snk_select_cap_outcome _ evt hc
    · simpa only [waits, way_out, hc] using @snk_transition_sink_outcome chip evt
    · simpa only [waits, way_out, hc] using @snk_transition_default_outcome _ evt hc
    · exact rest hc (fun _ => rfl) (by decide) fun _ => snk_ready_live hc
    · exact rest hc (fun _ => rfl) (by decide) (send_hardreset_live rfl)
    · simpa only [waits, way_out, hc] using @snk_send_softreset_outcome _ evt hc
    · exact rest hc (fun _ => rfl) (by decide) (softreset_live (fun _ => snk_soft_reset_done_live) rfl)
    · exact rest hc (fun _ => rfl) (by decide) fun _ => prs_evaluate_live
    · exact rest hc (fun _ => rfl) (by decide) fun _ => prs_evaluate_live
    · exact rest hc (fun _ => rfl) (by decide) prs_accept_live
    · exact rest hc (fun _ => rfl) (by decide) prs_accept_live
    · exact rest hc (fun _ => rfl) (by decide) prs_reject_live
    · exact rest hc (fun _ => rfl) (by decide) prs_reject_live
    · exact rest hc (fun _ => rfl) (by decide) prs_reject_live
    · exact rest hc (fun _ => rfl) (by decide) prs_reject_live
    · exact rest hc (fun _ => rfl) (by decide) prs_reject_live
    · simpa only [waits, way_out, hc] using @src_prs_transition_to_off_outcome _ evt hc
    · exact rest hc (fun _ => rfl) (by decide) fun _ => live_set_state rfl
    · simpa only [waits, way_out, hc] using @src_prs_source_off_outcome _ evt hc
    · exact rest hc (fun _ => rfl) (by decide) send_swap_live
    · exact rest hc (fun _ => rfl) (by decide) send_swap_live
    · simpa only [waits, way_out, hc] using @snk_prs_transition_to_off_outcome _ evt hc
    · exact rest hc (fun _ => rfl) (by decide) fun _ => live_set_state rfl
    · simpa only [waits, way_out, hc] using @snk_prs_source_on_outcome _ evt hc
    · exact rest hc (fun _ => rfl) (by decide) fun _ => vcs_ufp_evaluate_swap_live
    · exact rest hc (fun _ => rfl) (by decide) vcs_ufp_accept_live
    · simpa only [waits, way_out, hc] using @vcs_wait_for_vconn_outcome chip evt (fun _ => by rw [hc]; rfl)
    · simpa only [waits, way_out, hc] using @vcs_wait_for_vconn_outcome chip evt (fun _ => by rw [hc]; rfl)
    · exact rest hc (fun _ => rfl) (by decide) fun _ => vcs_set_vconn_live
    · exact rest hc (fun _ => rfl) (by decide) fun _ => vcs_set_vconn_live
    · exact rest hc (fun _ => rfl) (by decide) fun _ => vcs_set_vconn_live
    · exact rest hc (fun _ => rfl) (by decide) fun _ => vcs_set_vconn_live
    · exact rest hc (fun _ => rfl) (by decide) vcs_send_ps_rdy_live
    · exact rest hc (fun _ => rfl) (by decide) vcs_send_ps_rdy_live
    · exact rest hc (fun _ => rfl) (by decide) send_swap_live
    · exact rest hc (fun _ => rfl) (by decide) fun _ => drs_evaluate_live
    · exact rest hc (fun _ => rfl) (by decide) fun _ => drs_evaluate_live
    · exact rest hc (fun _ => rfl) (by decide) drs_send_accept_live
    · exact rest hc (fun _ => rfl) (by decide) drs_send_accept_live
    · exact rest hc (fun _ => rfl) (by decide) fun _ => drs_role_change_live
    · exact rest hc (fun _ => rfl) (by decide) fun _ => drs_role_change_live
    · exact rest hc (fun _ => rfl) (by decide) send_swap_live
    · exact rest hc (fun _ => rfl) (by decide) send_swap_live
  · refine .done ?_ (attach_live ha)
    unfold waits
    cases hc : chip.conn_state <;> rw [hc] at ha <;> first | rfl | cases ha

/-- The handler leaves a live port unless it waits on a timeout already taken. -/
theorem dispatch_live_iff :
    Live (dispatch chip evt) ↔ ¬(chip.timer_state = T_DISABLED ∧ waits chip evt = true) := dispatch_outcome.live_iff

/-! ## Runs -/

/-- The step ends in a wait, and the state's timeout is off when its handler
runs: taken in this invocation, disabled by a late HARDSENT or by an earlier state. -/
def starves (chip : Chip) : Act → Prop
  | .work env =>
    (events chip env).any = true ∧ (at_switch chip env).timer_state = T_DISABLED ∧
      waits (at_switch chip env) (events chip env) = true
  | _ => False

instance (act : Act) : Decidable (starves chip act) :=
  match act with
  | .work _ => inferInstanceAs (Decidable (_ ∧ _))
  | .timer_state | .timer_mux => inferInstanceAs (Decidable False)

/-- Nothing in these alerts calls for a handler. -/
def Silent (a : Chip × Evt) : Prop := a.2.tx = false ∧ a.2.rec_reset = false ∧ a.1.work_continue = false

/-- The wait and its timeout. -/
def wait_of (chip : Chip) : ConnState × Nat × Nat := (chip.conn_state, chip.sub_state, chip.timer_state)

/-- An alert that stays silent changes no wait. -/
def Quiet (alert : Chip × Evt → Chip × Evt) : Prop :=
  ∀ a, Silent (alert a) → Silent a ∧ wait_of (alert a).1 = wait_of a.1

theorem Quiet.comp {f g : Chip × Evt → Chip × Evt} (hf : Quiet f) (hg : Quiet g) : Quiet (g ∘ f) := by
  intro a h
  obtain ⟨h', he⟩ := hg (f a) h
  obtain ⟨h'', he'⟩ := hf a h'
  exact ⟨h'', he.trans he'⟩

/-- An alert does nothing unless its interrupt bit is set. -/
theorem quiet_ite {c : Chip × Evt → Bool} {f : Chip × Evt → Chip × Evt} (hf : Quiet f) :
    Quiet fun a => if c a then f a else a := by
  intro a h
  dsimp only at h ⊢
  split at h
  · rename_i hc
    rw [if_pos hc]
    exact hf a h
  · rename_i hc
    rw [if_neg hc]
    exact ⟨h, rfl⟩

theorem quiet_of_loud {f : Chip × Evt → Chip × Evt} (hf : ∀ a, ¬Silent (f a)) : Quiet f := fun a h => absurd h (hf a)

theorem tcpc_alert_quiet {env : Env} (h : Silent (tcpc_alert chip env)) :
    wait_of (tcpc_alert chip env).1 = wait_of chip := by
  have comp : Quiet (alert_comp_chng env) := quiet_ite fun a h => by simpa [Silent, wait_of] using h
  have vbusok : Quiet (alert_vbusok env) := quiet_ite fun a h => ⟨h, rfl⟩
  have togdone : Quiet (alert_togdone env) := quiet_ite fun a h => by simpa [Silent, wait_of] using h
  have txsent : Quiet (alert_txsent env) := quiet_ite (quiet_of_loud fun a h => by cases h.1)
  have gcrcsent : Quiet (alert_gcrcsent env) := quiet_ite fun a h => ⟨h, rfl⟩
  have hardrst : Quiet (alert_hardrst env) := quiet_ite (quiet_of_loud fun a h => by cases h.2.1)
  have retryfail : Quiet (alert_retryfail env) := quiet_ite (quiet_of_loud fun a h => by cases h.1)
  have hardsent : Quiet (alert_hardsent env) := by
    refine quiet_ite (quiet_of_loud fun a h => ?_)
    split at h
    · -- the first HARDSENT raises no event but sets `work_continue`
      unfold pd_execute_hard_reset at h
      dsimp only at h
      split at h <;> cases h.2.2
    · cases h.1
  have all := ((((((comp.comp vbusok).comp togdone).comp txsent).comp gcrcsent).comp hardrst).comp retryfail).comp hardsent
  exact (all (chip, {}) h).2

theorem mux_alert_quiet (h : (mux_alert chip evt).2.any = false) :
    Silent (chip, evt) ∧ wait_of (mux_alert chip evt).1 = wait_of chip := by
  unfold mux_alert at h ⊢
  by_cases hm : chip.timer_mux = 0 <;> by_cases hs : chip.timer_state = 0
  · simp [hm, hs, Evt.any] at h
  · simp [hm, hs, Evt.any] at h
  · simp [hm, hs, Evt.any] at h
  · simp only [hm, hs, if_false, Evt.any, Bool.or_eq_false_iff] at h ⊢
    obtain ⟨⟨⟨⟨⟨⟨_, htx⟩, hrec⟩, hw⟩, _⟩, _⟩, _⟩ := h
    exact ⟨⟨htx, hrec, hw.2⟩, rfl⟩

/-- An invocation without an event leaves the wait and its timeout as they are. -/
theorem at_switch_quiet {env : Env} (h : (events chip env).any = false) : wait_of (at_switch chip env) = wait_of chip := by
  have hb : at_switch chip env = (alerts chip env).1 := by
    simp only [Evt.any, Bool.or_eq_false_iff] at h
    obtain ⟨⟨⟨⟨⟨⟨⟨hcc, hrx⟩, htx⟩, _⟩, _⟩, _⟩, _⟩, hdelay⟩ := h
    simp [at_switch, before_switch, detach, receive, count_sent, hcc, hrx, htx, hdelay]
  obtain ⟨hs, hm⟩ := mux_alert_quiet h
  rw [hb]
  exact hm.trans (tcpc_alert_quiet hs)

theorem step_live (h : Live chip) {act : Act} (hx : ¬starves chip act) : Live (step chip act) := by
  cases act with
  | work env =>
    rw [step_work]
    split
    · rename_i hany
      exact dispatch_live_iff.2 fun hn => hx ⟨hany, hn⟩
    · rename_i hany
      have hq := at_switch_quiet (eq_false_of_ne_true hany)
      simp only [wait_of, Prod.mk.injEq] at hq
      refine ⟨?_⟩
      rw [hq.1, hq.2.1, hq.2.2]
      exact h.timeout
  | timer_state =>
    refine ⟨fun hw => ?_⟩
    unfold step fusb_timer_handler at hw ⊢
    dsimp only at hw ⊢
    split at hw
    · -- the timeout of a waiting port fires: it is 0 until the worker takes it
      rename_i ha
      rw [if_pos ha, if_pos (h.timeout hw)]
      exact show 0 ≠ T_DISABLED by decide
    · rename_i ha
      rw [if_neg ha]
      exact h.timeout hw
  | timer_mux =>
    refine ⟨fun hw => ?_⟩
    unfold step fusb_timer_handler at hw ⊢
    dsimp only at hw ⊢
    split at hw
    · rename_i ha
      rw [if_pos ha]
      exact h.timeout hw
    · rename_i ha
      rw [if_neg ha]
      exact h.timeout hw

theorem step_starves {act : Act} (hx : starves chip act) : ¬Live (step chip act) := by
  cases act with
  | work env =>
    rw [step_work, if_pos hx.1, dispatch_live_iff]
    exact fun hn => hn hx.2
  | timer_state => exact hx.elim
  | timer_mux => exact hx.elim

theorem probe_live (board : Board) : Live (fusb30x_probe board) := by
  refine live_of_not_waiting ?_
  simp [fusb30x_probe, waiting]

/-- In every state of a run a waiting port has a live timeout, exactly when no
step of the run waits on a timeout already taken. -/
theorem timeouts_live_iff (board : Board) (acts : List Act) :
    (∀ chip ∈ Runs.visited step (fusb30x_probe board) acts, Live chip) ↔
      Runs.Meets step (fun chip act => ¬starves chip act) (fusb30x_probe board) acts :=
  Runs.visited_iff_meets (I := Live) (fun _ h => h) (fun _ _ h hx => step_live h hx)
    (fun _ _ _ hx => step_starves (not_not.1 hx)) acts (probe_live board)

/-- A sink waiting for capabilities gets another message in the invocation that takes its timeout. -/
theorem expiry_behind_message_lost :
    ¬∀ chip ∈ Runs.visited step (fusb30x_probe try_source)
      (attach_sink ++ [.timer_state] ++ [received (control CMT_PS_RDY)]), Live chip := by
  intro h
  refine step_starves ?_ (h _ (Runs.step_mem_visited ..))
  decide +kernel

end Fusb302
