import LinuxDriver.Fusb302.Flight
/-!
# The sending states

What the policy states do to the frame in flight. A handler that sends stays
until the outcome is known; it leaves a frame behind only when it gives up.
-/

namespace Fusb302

variable {chip c c' : Chip} {evt : Evt} {cmd : Nat}

/-! ## Giving up -/

/-- The outcome of the state's message is not known yet. -/
def unreported (chip : Chip) : Bool :=
  chip.sub_state == 0 || (chip.sub_state == 1 && (chip.tx_state == .tx_idle || chip.tx_state == .tx_busy))

/-- The handler of `policy_src_send_caps` goes on to a state that sends. -/
def send_caps_leaves (chip : Chip) (evt : Evt) : Bool :=
  evt.rx || (if evt.timer_state then decide (chip.hardrst_count ≤ N_HARDRESET_COUNT)
    else evt.timer_mux && chip.is_pd_support && decide (chip.hardrst_count ≤ N_HARDRESET_COUNT))

/-- The handler of the two states takes the ACCEPT of its SOFTRESET, or gives up waiting. -/
def send_softreset_leaves (chip : Chip) (evt : Evt) : Bool :=
  if evt.rx then PACKET_IS_CONTROL_MSG chip.rec_head CMT_ACCEPT else evt.timer_state

/-- The handler of `policy_snk_select_cap` takes an answer to its REQUEST. -/
def select_cap_leaves (chip : Chip) (evt : Evt) : Bool :=
  if evt.rx then
    PD_HEADER_CNT chip.rec_head == 0 && (PD_HEADER_TYPE chip.rec_head == CMT_ACCEPT ||
      (PD_HEADER_TYPE chip.rec_head == CMT_WAIT || PD_HEADER_TYPE chip.rec_head == CMT_REJECT) &&
        chip.notify.is_pd_connected)
  else evt.timer_state

/-- The handler of `policy_snk_wait_caps` goes on to a state that sends. -/
def snk_wait_caps_leaves (chip : Chip) (evt : Evt) : Bool :=
  if evt.rx then PACKET_IS_DATA_MSG chip.rec_head DMT_SOURCECAPABILITIES
  else evt.timer_state && decide (chip.hardrst_count ≤ N_HARDRESET_COUNT)

/-- The discovery waits for a report. -/
def vdm_flying (chip : Chip) : Bool := vdm_waits chip && (chip.tx_state == .tx_idle || chip.tx_state == .tx_busy)

/-- A vendor-defined message that refuses a command. -/
def vdm_refused (chip : Chip) (evt : Evt) : Bool :=
  vdm_in_hand chip evt && GET_VDMHEAD_STRUCT_TYPE (chip.rec_obj 0) != 0 &&
    GET_VDMHEAD_CMD_TYPE (chip.rec_obj 0) == VDM_TYPE_NACK

/-- All modes are asked for. -/
def queries_done (chip : Chip) : Bool :=
  chip.vdm_state == .DISCOVERY_MODES && (chip.val_tmp >>> 1).toNat == chip.vdm_svid_num

/-- The discovery will have sent a command, or still wait for its report, when
its turn in a ready state is over. -/
def vdm_will_wait (chip : Chip) : Bool :=
  VDM_IS_ACTIVE chip && chip.vdm_state.sends &&
    (if queries_done chip then chip.vdm_send_state == 1 else chip.vdm_send_state == 0 || vdm_flying chip)

/-- `policy_snk_ready` looks for a swap again after the discovery. -/
def swap_leaves (chip : Chip) (evt : Evt) : Bool :=
  evt.rx && (PACKET_IS_CONTROL_MSG chip.rec_head CMT_PR_SWAP || PACKET_IS_CONTROL_MSG chip.rec_head CMT_DR_SWAP)

/-- The handler leaves its state for another message while the frame in flight
has no report. -/
def gives_up (chip : Chip) (evt : Evt) : Bool :=
  match chip.conn_state with
  | .policy_src_send_caps => unreported chip && send_caps_leaves chip evt
  | .policy_src_get_sink_caps => unreported chip && (evt.rx || evt.timer_state)
  | .policy_src_send_softrst | .policy_snk_send_softrst => unreported chip && send_softreset_leaves chip evt
  | .policy_snk_evaluate_caps => select_cap_leaves chip evt
  | .policy_snk_select_cap => unreported chip && select_cap_leaves chip evt
  | .policy_snk_wait_caps => (flight chip.log).isSome && snk_wait_caps_leaves chip evt
  | .policy_src_ready => vdm_flying chip && vdm_refused chip evt
  | .policy_snk_ready => vdm_flying chip && vdm_refused chip evt || vdm_will_wait chip && swap_leaves chip evt
  | _ => false

theorem unreported_zero (h0 : c.sub_state = 0) : unreported c = true := by simp [unreported, h0]

theorem unreported_one (h1 : c.sub_state = 1) (ht : c.tx_state = .tx_idle ∨ c.tx_state = .tx_busy) :
    unreported c = true := by
  rcases ht with ht | ht <;> simp [unreported, h1, ht]

/-! ## Source -/

theorem src_startup_sends (h : Ground chip) : Sends (fusb_state_src_startup chip) := by
  have hs : Ground (fusb_soft_reset_parameter { chip with notify.is_pd_connected := false }) :=
    Ground.soft_reset (h.keep rfl rfl)
  exact hs.move rfl rfl rfl

theorem src_discovery_sends (h : Ground chip) (hc : chip.conn_state = .policy_src_discovery) :
    Sends (fusb_state_src_discovery chip evt) := by
  unfold fusb_state_src_discovery
  dsimp only
  repeat' split
  · exact h.stay rfl rfl hc fun _ => rfl
  · exact h.move rfl rfl rfl
  · exact h.move rfl rfl rfl
  · exact h.move rfl rfl rfl
  · exact h.move rfl rfl rfl
  · exact h.move rfl rfl rfl
  · exact h.stay rfl rfl hc fun _ => rfl

/-- Every way out of `policy_src_send_caps`, when nothing is in flight. -/
theorem send_caps_default_sends (h : Ground c) (hs : Sends c) : Sends (fusb_state_src_send_caps.case_default c evt) := by
  unfold fusb_state_src_send_caps.case_default
  repeat' split
  all_goals first | exact hs | exact h.move rfl rfl rfl

/-- And when the frame has no report. -/
theorem send_caps_default_flying (h : Sends c)
    (hg : send_caps_leaves c evt = false) :
    Sends (fusb_state_src_send_caps.case_default c evt) := by
  obtain ⟨hrx, hg⟩ := Bool.or_eq_false_iff.1 hg
  unfold fusb_state_src_send_caps.case_default
  rw [if_neg (by rw [hrx]; decide)]
  split
  · rename_i ht
    rw [if_pos ht] at hg
    rw [if_neg (of_decide_eq_false hg)]
    exact Flies.left h rfl rfl rfl
  · rename_i ht
    rw [if_neg ht] at hg
    split
    · rename_i hm
      split
      · exact Flies.left h rfl rfl rfl
      · rename_i hp
        split
        · exact Flies.left h rfl rfl rfl
        · rename_i hn
          simp only [Bool.not_eq_true', Bool.not_eq_false] at hp
          rw [hm, hp, Bool.true_and, Bool.true_and] at hg
          exact absurd (of_decide_eq_false hg) (by omega)
    · exact h

theorem send_caps_case_1_sends (h : Sends c) (hc : c.conn_state = .policy_src_send_caps) (h1 : c.sub_state = 1)
    (hg : c.tx_state = .tx_idle ∨ c.tx_state = .tx_busy → send_caps_leaves c evt = false) :
    Sends (fusb_state_src_send_caps.case_1 c evt) := by
  have hr : c.conn_state.awaits c.sub_state = true := by rw [hc, h1]; rfl
  unfold fusb_state_src_send_caps.case_1
  -- the frame is on its way, was sent, was lost, or is handed over now
  rcases Sends.send_data h hr with ⟨ht, he⟩ | ⟨ht, hn⟩ | ⟨ht, hn⟩ | ⟨ht, hw⟩
  · rw [he]
    simp only [ht]
    split
    · exact h
    · exact send_caps_default_flying h (hg (Or.inr ht))
  · rw [policy_send_data_of_ne_idle c (by rw [ht]; decide)]
    simp only [ht]
    have hk : Ground { timer_state_start { c with hardrst_count := 0, caps_counter := 0 } T_SENDER_RESPONSE with
        timer_mux := T_DISABLED, sub_state := c.sub_state + 1, is_pd_support := true } := hn.keep rfl rfl
    have hs := hk.rest rfl rfl hc (show c.sub_state + 1 = 2 by rw [h1]) rfl
    split
    · exact hs
    · exact send_caps_default_sends hk hs
  · rw [policy_send_data_of_ne_idle c (by rw [ht]; decide)]
    simp only [ht]
    exact hn.move rfl rfl rfl
  · have hb : (policy_send_data c).tx_state = .tx_busy := by simp [ht]
    obtain ⟨_, _, _, hp, _⟩ := @policy_send_data_frame c
    simp only [hb]
    split
    · exact hw
    · refine send_caps_default_flying hw ?_
      rw [send_caps_leaves, show (policy_send_data c).hardrst_count = c.hardrst_count from congrArg Supply.hardrst_count hp,
        show (policy_send_data c).is_pd_support = c.is_pd_support from congrArg Supply.is_pd_support hp]
      exact hg (Or.inl ht)

theorem src_send_caps_sends (h : Sends chip) (hc : chip.conn_state = .policy_src_send_caps)
    (hg : gives_up chip evt = false) : Sends (fusb_state_src_send_caps chip evt) := by
  simp only [gives_up, hc] at hg
  unfold fusb_state_src_send_caps
  split
  · rename_i h0
    rw [unreported_zero h0, Bool.true_and] at hg
    exact send_caps_case_1_sends (h.start hc rfl h0).build hc rfl fun _ => hg
  · rename_i h1
    refine send_caps_case_1_sends h hc h1 fun ht => ?_
    rwa [unreported_one h1 ht, Bool.true_and] at hg
  · rename_i h0 h1
    have ha : ConnState.awaits .policy_src_send_caps chip.sub_state = false := by simpa [ConnState.awaits] using h1
    exact send_caps_default_sends (h.rested hc rfl ha) h

/-- In the state of a REQUEST just taken up. -/
theorem transition_supply_first (h : Ground c) (h0 : c.sub_state = 0) (hr : c.conn_state.awaits 1 = true) :
    Sends (fusb_state_src_transition_supply c evt) := by
  unfold fusb_state_src_transition_supply fusb_state_src_transition_supply.case_1
  rw [h0]
  dsimp only
  rw [send_then_build_mesg]
  exact h.send_build (Or.inl hr)

theorem case_negotiate_cap_sends (h : Ground chip) : Sends (case_negotiate_cap chip evt) := by
  have hn : Ground (fusb_state_src_negotiate_cap chip) := by
    unfold fusb_state_src_negotiate_cap
    dsimp only
    split
    · exact h.add (.cons trivial (.refl _)) rfl
    · exact h.add (.cons trivial (.refl _)) rfl
  unfold case_negotiate_cap
  apply transition_supply_first hn
  · unfold fusb_state_src_negotiate_cap
    dsimp only
    split <;> rfl
  · unfold fusb_state_src_negotiate_cap
    dsimp only
    split <;> rfl

theorem src_transition_supply_sends (h : Sends chip) (hc : chip.conn_state = .policy_src_transition_supply) :
    Sends (fusb_state_src_transition_supply chip evt) := by
  have ha : ∀ n, n ≠ 0 → n ≠ 2 → ConnState.awaits .policy_src_transition_supply n = true := by
    intro n h0 h2
    simp [ConnState.awaits, h0, h2]
  unfold fusb_state_src_transition_supply fusb_state_src_transition_supply.case_1
  split
  · rename_i h0
    rw [send_then_build_mesg]
    exact (h.start hc rfl h0).send_build (Or.inl (by rw [hc]; rfl))
  · rename_i h1
    refine h.send_then (by rw [hc, h1]; rfl) ?_ ?_
    · intro hn
      exact hn.rest rfl rfl hc (show chip.sub_state + 1 = 2 by rw [h1]) rfl
    · intro hn
      exact hn.move rfl rfl rfl
  · -- PS_RDY is built in sub-state 2, where ACCEPT has been reported
    rename_i h2
    have hn : Ground chip := h.rested hc rfl (by rw [h2]; rfl)
    split
    · have hv : Ground (platform_set_vbus_lvl_enable { chip with notify.is_pd_connected := true } true false) :=
        hn.keep rfl rfl
      have hm : Ground (set_mesg (platform_set_vbus_lvl_enable { chip with notify.is_pd_connected := true } true false)
          CMT_PS_RDY false) := hv.mesg
      refine Ground.knows (hm.keep rfl rfl) fun _ => ?_
      exact .built rfl hm.flight (set_mesg_id _ CMT_PS_RDY false)
    · exact h
  · rename_i h0 h1 h2
    refine h.send_then (by rw [hc]; exact ha _ h0 h2) ?_ ?_
    · intro hn
      exact hn.move rfl rfl rfl
    · intro hn
      exact hn.move rfl rfl rfl

theorem case_send_caps_sends (h : Sends chip) (hc : chip.conn_state = .policy_src_send_caps)
    (hg : gives_up chip evt = false) : Sends (case_send_caps chip evt) := by
  have hs := src_send_caps_sends h hc hg
  unfold case_send_caps
  dsimp only
  split
  · exact hs
  · rename_i hn
    exact case_negotiate_cap_sends (hs.rested (not_not.1 hn) rfl rfl)

theorem src_cap_response_sends (h : Sends chip) (hc : chip.conn_state = .policy_src_cap_response) :
    Sends (fusb_state_src_cap_response chip) := by
  unfold fusb_state_src_cap_response fusb_state_src_cap_response.case_default
  split
  · rename_i h0
    rw [send_then_build_mesg]
    exact (h.start hc rfl h0).send_build (Or.inl (by rw [hc]; rfl))
  · rename_i h0
    have ha : ConnState.awaits .policy_src_cap_response chip.sub_state = true := by simpa [ConnState.awaits] using h0
    refine h.send_then (by rw [hc, ha]) ?_ ?_
    · intro hn
      split
      · exact hn.move rfl rfl rfl
      · exact hn.move rfl rfl rfl
    · intro hn
      exact hn.move rfl rfl rfl

theorem src_transition_default_sends (h : Ground chip) (hc : chip.conn_state = .policy_src_transition_default) :
    Sends (fusb_state_src_transition_default chip evt) := by
  unfold fusb_state_src_transition_default
  dsimp only
  repeat' split
  · exact h.stay rfl rfl hc fun _ => rfl
  · exact h.stay rfl rfl hc fun _ => rfl
  · exact h.move rfl rfl rfl
  · exact h.stay rfl rfl hc fun _ => rfl

/-- Sending, then waiting for an answer. -/
theorem send_and_wait_sends {failed : ConnState} (h : Sends c) (hr : c.conn_state.awaits 1 = true) (h1 : c.sub_state = 1)
    (h2 : c.conn_state.awaits 2 = false) : Sends (send_and_wait c failed) := by
  refine h.send_then (by rw [h1, hr]) ?_ ?_
  · intro hn
    exact hn.rest rfl rfl rfl (show c.sub_state + 1 = 2 by rw [h1]) h2
  · intro hn
    exact hn.move rfl rfl rfl

/-- After it nothing is in flight, or the outcome is not known yet. -/
theorem send_and_wait_cases {failed : ConnState} (h : Sends c) (hr : c.conn_state.awaits c.sub_state = true) :
    Ground (send_and_wait c failed) ∨
      ((c.tx_state = .tx_idle ∨ c.tx_state = .tx_busy) ∧ (send_and_wait c failed).toRx = c.toRx) := by
  have hw : c.tx_state = .tx_idle ∨ c.tx_state = .tx_busy → (send_and_wait c failed).toRx = c.toRx := by
    intro ht
    unfold send_and_wait
    rcases send_then_cases c _ _ with ⟨hs, _⟩ | ⟨hs, _⟩ | ⟨_, _, he⟩
    · rw [hs] at ht
      rcases ht with ht | ht <;> cases ht
    · rw [hs] at ht
      rcases ht with ht | ht <;> cases ht
    · rw [he]
      simp
  rcases Sends.send_data h hr with ⟨ht, _⟩ | ⟨ht, hn⟩ | ⟨ht, hn⟩ | ⟨ht, _⟩
  · exact Or.inr ⟨Or.inr ht, hw (Or.inr ht)⟩
  · refine Or.inl ?_
    unfold send_and_wait
    rcases send_then_cases c _ _ with ⟨_, he⟩ | ⟨hf, _⟩ | ⟨hs, _, _⟩
    · rw [he]
      exact hn.keep rfl rfl
    · rw [ht] at hf
      cases hf
    · exact absurd ht hs
  · refine Or.inl ?_
    unfold send_and_wait
    rcases send_then_cases c _ _ with ⟨hs, _⟩ | ⟨_, he⟩ | ⟨_, hf, _⟩
    · rw [ht] at hs
      cases hs
    · rw [he]
      exact hn.keep rfl rfl
    · exact absurd ht hf
  · exact Or.inr ⟨Or.inl ht, hw (Or.inl ht)⟩

theorem get_sink_cap_default_sends (h : Sends c) (hg : Ground c ∨ (evt.rx || evt.timer_state) = false) :
    Sends (fusb_state_src_get_sink_cap.case_default c evt) := by
  unfold fusb_state_src_get_sink_cap.case_default
  rcases hg with hn | hg
  · repeat' split
    all_goals first | exact h | exact hn.move rfl rfl rfl
  · obtain ⟨hr, ht⟩ := Bool.or_eq_false_iff.1 hg
    rw [if_neg (by rw [hr]; decide), if_neg (by rw [ht]; decide)]
    exact h

theorem get_sink_cap_case_1_sends (h : Sends c) (hc : c.conn_state = .policy_src_get_sink_caps) (h1 : c.sub_state = 1)
    (hg : c.tx_state = .tx_idle ∨ c.tx_state = .tx_busy → (evt.rx || evt.timer_state) = false) :
    Sends (fusb_state_src_get_sink_cap.case_1 c evt) := by
  have hr : c.conn_state.awaits 1 = true := by rw [hc]; rfl
  have hw : Sends (send_and_wait c .policy_src_send_softrst) := send_and_wait_sends h hr h1 (by rw [hc]; rfl)
  unfold fusb_state_src_get_sink_cap.case_1
  dsimp only
  split
  · exact hw
  · refine get_sink_cap_default_sends hw ?_
    rcases send_and_wait_cases h (by rw [h1, hr]) with hn | ⟨ht, _⟩
    · exact Or.inl hn
    · exact Or.inr (hg ht)

theorem src_get_sink_cap_sends (h : Sends chip) (hc : chip.conn_state = .policy_src_get_sink_caps)
    (hg : gives_up chip evt = false) : Sends (fusb_state_src_get_sink_cap chip evt) := by
  simp only [gives_up, hc] at hg
  unfold fusb_state_src_get_sink_cap
  split
  · rename_i h0
    rw [unreported_zero h0, Bool.true_and] at hg
    exact get_sink_cap_case_1_sends (h.start hc rfl h0).build hc rfl fun _ => hg
  · rename_i h1
    refine get_sink_cap_case_1_sends h hc h1 fun ht => ?_
    rwa [unreported_one h1 ht, Bool.true_and] at hg
  · rename_i h0 h1
    have ha : ConnState.awaits .policy_src_get_sink_caps chip.sub_state = false := by simpa [ConnState.awaits] using h1
    exact get_sink_cap_default_sends h (Or.inl (h.rested hc rfl ha))

/-- The chip sends the hard reset by itself: no frame is written. -/
theorem send_hardreset_sends {next : ConnState} {s : ConnState} (h : Ground chip) (hc : chip.conn_state = s)
    (ha : ∀ n, s.awaits n = false) : Sends (send_hardreset chip evt next) := by
  have hs : ∀ c, Ground c → c.conn_state = s →
      Ground (policy_send_hardrst c evt) ∧ (policy_send_hardrst c evt).conn_state = s := by
    intro c hn hc
    unfold policy_send_hardrst
    split
    · have hr : Ground { c with tx_state := .tx_busy, log := .hardrst :: c.log } := hn.hardrst rfl
      exact ⟨hr.keep rfl rfl, hc⟩
    · split
      · exact ⟨hn.keep rfl rfl, hc⟩
      · exact ⟨hn, hc⟩
  have hd : ∀ c, Ground c → c.conn_state = s → Sends (send_hardreset.case_default c evt next) := by
    intro c hn hc
    obtain ⟨hn, hc⟩ := hs c hn hc
    unfold send_hardreset.case_default
    dsimp only
    split
    · exact hn.move rfl rfl rfl
    · exact hn.move rfl rfl rfl
    · exact hn.stay rfl rfl hc ha
  unfold send_hardreset
  split
  · exact hd _ (h.keep rfl rfl) hc
  · exact hd _ h hc

theorem softreset_sends {success : Chip → Chip} {failed : ConnState} (h : Sends chip)
    (hi : chip.conn_state.indifferent = false) (ha : ∀ n, n ≠ 0 → chip.conn_state.awaits n = true) (hs : Ground chip → Sends (success chip)) :
    Sends (softreset chip success failed) := by
  unfold softreset
  split
  · rename_i h0
    rw [send_then_build_mesg]
    exact (h.start rfl hi h0).send_build (Or.inl (ha 1 (by decide)))
  · rename_i h0
    refine h.send_then (ha _ h0) hs ?_
    intro hn
    exact hn.move rfl rfl rfl

theorem send_softreset_default_sends {accepted : Chip → Chip} {failed : ConnState} (h : Sends c)
    (hg : Ground c ∨ send_softreset_leaves c evt = false) (ha : Ground c → Sends (accepted c)) :
    Sends (send_softreset.case_default c evt accepted failed) := by
  unfold send_softreset.case_default
  rcases hg with hn | hg
  · repeat' split
    all_goals first | exact h | exact ha hn | exact hn.move rfl rfl rfl
  · unfold send_softreset_leaves at hg
    split
    · rename_i hr
      rw [if_pos hr] at hg
      rw [if_neg (by rw [hg]; decide)]
      exact h
    · rename_i hr
      rw [if_neg hr] at hg
      rw [if_neg (by rw [hg]; decide)]
      exact h

theorem send_softreset_case_1_sends {accepted : Chip → Chip} {failed : ConnState} (h : Sends c)
    (hr : c.conn_state.awaits 1 = true) (h2 : c.conn_state.awaits 2 = false) (h1 : c.sub_state = 1)
    (hg : c.tx_state = .tx_idle ∨ c.tx_state = .tx_busy → send_softreset_leaves c evt = false)
    (ha : ∀ c, Ground c → Sends (accepted c)) : Sends (send_softreset.case_1 c evt accepted failed) := by
  have hw : Sends (send_and_wait c failed) := send_and_wait_sends h hr h1 h2
  unfold send_softreset.case_1
  dsimp only
  split
  · exact hw
  · refine send_softreset_default_sends hw ?_ (ha _)
    rcases send_and_wait_cases h (by rw [h1, hr]) with hn | ⟨ht, hx⟩
    · exact Or.inl hn
    · refine Or.inr ?_
      rw [send_softreset_leaves, show (send_and_wait c failed).rec_head = c.rec_head from congrArg Rx.rec_head hx]
      exact hg ht

theorem send_softreset_sends {accepted : Chip → Chip} {failed s : ConnState} (h : Sends chip) (hc : chip.conn_state = s)
    (hi : s.indifferent = false) (hr : ∀ n, s.awaits n = (n == 1))
    (hg : (unreported chip && send_softreset_leaves chip evt) = false) (ha : ∀ c, Ground c → Sends (accepted c)) :
    Sends (send_softreset chip evt accepted failed) := by
  have h1 : chip.conn_state.awaits 1 = true := by rw [hc, hr]; rfl
  have h2 : chip.conn_state.awaits 2 = false := by rw [hc, hr]; rfl
  unfold send_softreset
  split
  · rename_i h0
    rw [unreported_zero h0, Bool.true_and] at hg
    exact send_softreset_case_1_sends (h.start hc hi h0).build h1 h2 rfl (fun _ => hg) ha
  · rename_i hs
    refine send_softreset_case_1_sends h h1 h2 hs (fun ht => ?_) ha
    rwa [unreported_one hs ht, Bool.true_and] at hg
  · rename_i h0 hs
    refine send_softreset_default_sends h (Or.inl (h.rested hc hi ?_)) (ha _)
    rw [hr]
    simpa using hs

theorem soft_reset_done_sends {s : ConnState} (h : Ground c) : Sends (set_state (fusb_soft_reset_parameter c) s) :=
  h.soft_reset.move rfl rfl rfl

/-! ## Sink -/

theorem snk_startup_sends (h : Ground chip) : Sends (fusb_state_snk_startup chip) := by
  have hs : Ground (fusb_soft_reset_parameter { chip with notify.is_pd_connected := false }) :=
    Ground.soft_reset (h.keep rfl rfl)
  exact hs.move rfl rfl rfl

theorem snk_discovery_sends (h : Ground chip) : Sends (fusb_state_snk_discovery chip) := h.move rfl rfl rfl

theorem give_up_sends (h : Sends c) : Sends (give_up c) := by
  unfold give_up
  split
  · exact Flies.left h rfl rfl rfl
  · exact Flies.left h rfl rfl rfl

theorem snk_wait_caps_sends (h : Sends chip) (hg : ((flight chip.log).isSome && snk_wait_caps_leaves chip evt) = false) :
    Sends (fusb_state_snk_wait_caps chip evt) := by
  have hn : snk_wait_caps_leaves chip evt = true → Ground chip := by
    intro hl
    rw [hl, Bool.and_true] at hg
    exact Flies.grounded h (Option.isSome_eq_false_iff.1 hg |> Option.isNone_iff_eq_none.1)
  unfold snk_wait_caps_leaves at hn
  unfold fusb_state_snk_wait_caps
  split
  · rename_i hr
    rw [if_pos hr] at hn
    split
    · rename_i hp
      exact (hn hp).move rfl rfl rfl
    · exact h
  · rename_i hr
    rw [if_neg hr] at hn
    split
    · rename_i ht
      rw [ht, Bool.true_and] at hn
      split
      · rename_i hl
        split
        · exact (hn (decide_eq_true hl)).move rfl rfl rfl
        · exact (hn (decide_eq_true hl)).move rfl rfl rfl
      · exact give_up_sends h
    · split
      · exact give_up_sends h
      · exact h

theorem select_cap_default_sends (h : Sends c) (hg : Ground c ∨ select_cap_leaves c evt = false) :
    Sends (fusb_state_snk_select_cap.case_default c evt) := by
  unfold fusb_state_snk_select_cap.case_default
  rcases hg with hn | hg
  · repeat' split
    all_goals first | exact h | exact hn.move rfl rfl rfl
  · unfold select_cap_leaves at hg
    split
    · rename_i hr
      rw [if_pos hr] at hg
      split
      · rename_i h0
        split
        · rename_i ha
          simp [h0, ha] at hg
        · split
          · rename_i hw
            split
            · rename_i hp
              rcases hw with hw | hw <;> simp [h0, hw, hp] at hg
            · exact Flies.left h rfl rfl rfl
          · exact h
      · exact h
    · rename_i hr
      rw [if_neg hr] at hg
      rw [if_neg (by rw [hg]; decide)]
      exact h

/-- A REQUEST just built. -/
theorem select_cap_first (h : Ground c) (hr : c.conn_state.awaits 1 = true ∨ c.conn_state.indifferent = true)
    (hg : select_cap_leaves c evt = false) :
    Sends (fusb_state_snk_select_cap.case_1 (build_mesg c DMT_REQUEST true) evt) := by
  have hw : Sends (policy_send_data (build_mesg c DMT_REQUEST true)) := h.send_build hr
  have hb : (policy_send_data (build_mesg c DMT_REQUEST true)).tx_state = .tx_busy := by simp
  unfold fusb_state_snk_select_cap.case_1
  simp only [hb]
  split
  · exact hw
  · exact select_cap_default_sends hw (Or.inr hg)

theorem snk_select_cap_sends (h : Sends chip) (hc : chip.conn_state = .policy_snk_select_cap)
    (hg : gives_up chip evt = false) : Sends (fusb_state_snk_select_cap chip evt) := by
  simp only [gives_up, hc] at hg
  unfold fusb_state_snk_select_cap
  split
  · rename_i h0
    rw [unreported_zero h0, Bool.true_and] at hg
    exact select_cap_first (h.start hc rfl h0) (Or.inl (by rw [hc]; rfl)) hg
  · rename_i h1
    have hr : chip.conn_state.awaits chip.sub_state = true := by rw [hc, h1]; rfl
    unfold fusb_state_snk_select_cap.case_1
    -- as in `send_caps_case_1_sends`
    rcases Sends.send_data h hr with ⟨ht, he⟩ | ⟨ht, hn⟩ | ⟨ht, hn⟩ | ⟨ht, hw⟩
    · rw [he]
      simp only [ht]
      rw [unreported_one h1 (Or.inr ht), Bool.true_and] at hg
      split
      · exact h
      · exact select_cap_default_sends h (Or.inr hg)
    · rw [policy_send_data_of_ne_idle chip (by rw [ht]; decide)]
      simp only [ht]
      have hk : Ground { timer_state_start chip T_SENDER_RESPONSE with sub_state := chip.sub_state + 1 } := hn.keep rfl rfl
      have hs := hk.rest rfl rfl hc (show chip.sub_state + 1 = 2 by rw [h1]) rfl
      split
      · exact hs
      · exact select_cap_default_sends hs (Or.inl hk)
    · rw [policy_send_data_of_ne_idle chip (by rw [ht]; decide)]
      simp only [ht]
      exact hn.move rfl rfl rfl
    · have hb : (policy_send_data chip).tx_state = .tx_busy := by simp [ht]
      rw [unreported_one h1 (Or.inl ht), Bool.true_and] at hg
      simp only [hb]
      split
      · exact hw
      · refine select_cap_default_sends hw (Or.inr ?_)
        rw [policy_send_data_idle chip ht]
        exact hg
  · rename_i h0 h1
    have ha : ConnState.awaits .policy_snk_select_cap chip.sub_state = false := by simpa [ConnState.awaits] using h1
    exact select_cap_default_sends h (Or.inl (h.rested hc rfl ha))

theorem case_evaluate_caps_sends (h : Ground chip) (hg : select_cap_leaves chip evt = false) :
    Sends (case_evaluate_caps chip evt) := by
  obtain ⟨h0, _, _, hx, hr, _, hn, hl, _⟩ := @evaluate_caps_frame chip
  have he : Ground (fusb_state_snk_evaluate_caps chip) := h.keep hl (congrArg Tx.msg_id hx)
  have hs : (fusb_state_snk_evaluate_caps chip).conn_state.awaits 1 = true ∨
      (fusb_state_snk_evaluate_caps chip).conn_state.indifferent = true := by
    unfold fusb_state_snk_evaluate_caps
    dsimp only
    split
    · exact Or.inr rfl
    · exact Or.inl rfl
  unfold case_evaluate_caps fusb_state_snk_select_cap
  rw [h0]
  apply select_cap_first he hs
  rw [select_cap_leaves, show (fusb_state_snk_evaluate_caps chip).rec_head = chip.rec_head from congrArg Rx.rec_head hr, hn]
  exact hg

theorem snk_transition_sink_sends (h : Ground chip) (hc : chip.conn_state = .policy_snk_transition_sink) :
    Sends (fusb_state_snk_transition_sink chip evt) := by
  unfold fusb_state_snk_transition_sink
  repeat' split
  all_goals first | exact h.stay rfl rfl hc fun _ => rfl | exact h.move rfl rfl rfl

theorem snk_transition_default_sends (h : Ground chip) (hc : chip.conn_state = .policy_snk_transition_default) :
    Sends (fusb_state_snk_transition_default chip evt) := by
  have h1 : ∀ c, Ground c → c.conn_state = .policy_snk_transition_default →
      Sends (fusb_state_snk_transition_default.case_1 c evt) := by
    intro c hn hc
    unfold fusb_state_snk_transition_default.case_1
    dsimp only
    repeat' split
    · exact hn.stay rfl rfl hc fun _ => rfl
    · exact hn.move rfl rfl rfl
    · exact hn.stay rfl rfl hc fun _ => rfl
  unfold fusb_state_snk_transition_default
  dsimp only
  split
  · apply h1
    · split
      · exact h.keep rfl rfl
      · exact h.keep rfl rfl
    · split
      · exact hc
      · exact hc
  · exact h1 _ h hc
  · repeat' split
    · exact h.move rfl rfl rfl
    · exact h.move rfl rfl rfl
    · exact h.stay rfl rfl hc fun _ => rfl

theorem snk_soft_reset_done_sends (h : Ground c) : Sends (snk_soft_reset_done c) := h.soft_reset.move rfl rfl rfl

/-! ## Swaps -/

theorem simple_msg_sends {success failed s : ConnState} (h : Sends chip) (hc : chip.conn_state = s)
    (hi : s.indifferent = false) (hr : ∀ n, s.awaits n = (n == 1)) : Sends (fusb_state_send_simple_msg chip cmd false success failed) := by
  unfold fusb_state_send_simple_msg
  dsimp only
  split
  · rename_i h0
    rw [send_then_build_mesg]
    exact (h.start hc hi h0).send_build (Or.inl (by rw [hc, hr]; rfl))
  · rename_i h1
    refine h.send_then (by rw [hc, h1, hr]; rfl) ?_ ?_
    · intro hn
      exact hn.move rfl rfl rfl
    · intro hn
      exact hn.move rfl rfl rfl
  · exact h

theorem prs_evaluate_sends (h : Ground chip) : Sends (fusb_state_prs_evaluate chip) := by
  unfold fusb_state_prs_evaluate
  split
  · exact h.move rfl rfl rfl
  · exact h.move rfl rfl rfl

theorem src_prs_transition_to_off_sends (h : Ground chip) (hc : chip.conn_state = .policy_src_prs_transition_to_off) :
    Sends (fusb_state_src_prs_transition_to_off chip evt) := by
  unfold fusb_state_src_prs_transition_to_off
  dsimp only
  repeat' split
  · exact h.stay rfl rfl hc fun _ => rfl
  · exact h.move rfl rfl rfl
  · exact h.move rfl rfl rfl
  · exact h.stay rfl rfl hc fun _ => rfl
  · exact h.stay rfl rfl hc fun _ => rfl

theorem src_prs_assert_rd_sends (h : Ground chip) : Sends (fusb_state_src_prs_assert_rd chip) := by
  obtain ⟨_, _, ht, _, _, _, _, hl, _⟩ := tcpm_set_cc_pull_mode_kept chip .PULL_DOWN
  exact h.move hl (congrArg Tx.msg_id ht) rfl

theorem snk_prs_assert_rp_sends (h : Ground chip) : Sends (fusb_state_snk_prs_assert_rp chip) := by
  obtain ⟨_, _, ht, _, _, _, _, hl, _⟩ := tcpm_set_cc_pull_mode_kept chip .PULL_UP
  exact h.move hl (congrArg Tx.msg_id ht) rfl

theorem src_prs_source_off_sends (h : Sends chip) (hc : chip.conn_state = .policy_src_prs_source_off) :
    Sends (fusb_state_src_prs_source_off chip evt) := by
  unfold fusb_state_src_prs_source_off fusb_state_src_prs_source_off.case_1
  dsimp only
  split
  · rename_i h0
    rw [send_then_build_mesg]
    exact (h.start hc rfl h0).send_build (Or.inl (by rw [hc]; rfl))
  · rename_i h1
    refine h.send_then (by rw [hc, h1]; rfl) ?_ ?_
    · intro hn
      exact hn.rest rfl rfl hc (show chip.sub_state + 1 = 2 by rw [h1]) rfl
    · intro hn
      exact hn.move rfl rfl rfl
  · rename_i h2
    have hn : Ground chip := h.rested hc rfl (by rw [h2]; rfl)
    repeat' split
    · exact hn.move rfl rfl rfl
    · exact h
    · exact hn.move rfl rfl rfl
    · exact h
  · exact h

theorem snk_prs_transition_to_off_sends (h : Ground chip) (hc : chip.conn_state = .policy_snk_prs_transition_to_off) :
    Sends (fusb_state_snk_prs_transition_to_off chip evt) := by
  have h1 : ∀ c, Ground c → c.conn_state = .policy_snk_prs_transition_to_off →
      Sends (fusb_state_snk_prs_transition_to_off.case_1 c evt) := by
    intro c hn hc
    unfold fusb_state_snk_prs_transition_to_off.case_1
    repeat' split
    all_goals first | exact hn.stay rfl rfl hc fun _ => rfl | exact hn.move rfl rfl rfl
  unfold fusb_state_snk_prs_transition_to_off
  split
  · exact h1 _ (h.keep rfl rfl) hc
  · exact h1 _ h hc
  · exact h.stay rfl rfl hc fun _ => rfl

theorem snk_prs_source_on_sends (h : Sends chip) (hc : chip.conn_state = .policy_snk_prs_source_on) :
    Sends (fusb_state_snk_prs_source_on chip evt) := by
  have h2 : ∀ c, Sends c → c.conn_state = .policy_snk_prs_source_on → c.sub_state = 2 →
      Sends (fusb_state_snk_prs_source_on.case_2 c) := by
    intro c h hc h2
    refine h.send_then (by rw [hc, h2]; rfl) ?_ ?_
    · intro hn
      exact hn.rest rfl rfl hc (show c.sub_state + 1 = 3 by rw [h2]) rfl
    · intro hn
      exact hn.move rfl rfl rfl
  unfold fusb_state_snk_prs_source_on
  dsimp only
  split
  · rename_i h0
    exact (h.start hc rfl h0).rest rfl rfl hc rfl rfl
  · rename_i h1
    have hm : Ground (set_mesg chip CMT_PS_RDY false) := (h.rested hc rfl (by rw [h1]; rfl)).mesg
    have hb : Ground { set_mesg chip CMT_PS_RDY false with tx_state := .tx_idle, sub_state := 2 } := hm.keep rfl rfl
    refine h2 _ (hb.knows fun _ => ?_) hc rfl
    exact .built rfl hb.flight (set_mesg_id chip CMT_PS_RDY false)
  · rename_i hs
    exact h2 _ h hc hs
  · rename_i h3
    split
    · exact (h.rested hc rfl (by rw [h3]; rfl)).move rfl rfl rfl
    · exact h
  · exact h

theorem send_swap_sends {s : ConnState} (h : Sends chip) (hc : chip.conn_state = s) (hi : s.indifferent = false)
    (hr : ∀ n, s.awaits n = (n == 1)) : Sends (fusb_state_send_swap chip evt cmd) := by
  have ha : Ground chip → s.awaits chip.sub_state = false → Sends (fusb_state_send_swap.accepted chip cmd) := by
    intro hn h2
    unfold fusb_state_send_swap.accepted
    dsimp only
    repeat' split
    · exact hn.move rfl rfl rfl
    · exact hn.move rfl rfl rfl
    · exact hn.move rfl rfl rfl
    · exact hn.move rfl rfl rfl
    · exact hn.rest rfl rfl hc rfl h2
  unfold fusb_state_send_swap fusb_state_send_swap.case_1
  dsimp only
  split
  · rename_i h0
    rw [send_then_build_mesg]
    exact (h.start hc hi h0).send_build (Or.inl (by rw [hc, hr]; rfl))
  · rename_i h1
    refine h.send_then (by rw [hc, h1, hr]; rfl) ?_ ?_
    · intro hn
      exact hn.rest rfl rfl hc (show chip.sub_state + 1 = 2 by rw [h1]) (by rw [hr]; rfl)
    · intro hn
      split
      · exact hn.move rfl rfl rfl
      · exact hn.move rfl rfl rfl
  · -- the answer: the swap message has been reported sent
    rename_i h2
    have h2 : s.awaits chip.sub_state = false := by rw [h2, hr]; rfl
    have hn : Ground chip := h.rested hc hi h2
    repeat' split
    · exact ha hn h2
    · exact hn.move rfl rfl rfl
    · exact h
    · exact hn.move rfl rfl rfl
    · exact h
  · exact h

theorem vcs_ufp_evaluate_swap_sends (h : Ground chip) : Sends (fusb_state_vcs_ufp_evaluate_swap chip) := by
  unfold fusb_state_vcs_ufp_evaluate_swap
  split
  · exact h.move rfl rfl rfl
  · exact h.move rfl rfl rfl

theorem vcs_set_vconn_sends (h : Ground chip) (on : Bool) : Sends (fusb_state_vcs_set_vconn chip on) := by
  unfold fusb_state_vcs_set_vconn
  split
  · exact h.move rfl rfl rfl
  · exact h.move rfl rfl rfl

theorem vcs_wait_for_vconn_sends {s : ConnState} (h : Ground chip) (hc : chip.conn_state = s)
    (ha : ∀ n, s.awaits n = false) : Sends (fusb_state_vcs_wait_for_vconn chip evt) := by
  have h1 : ∀ c, Ground c → c.conn_state = s → Sends (fusb_state_vcs_wait_for_vconn.case_1 c evt) := by
    intro c hn hc
    unfold fusb_state_vcs_wait_for_vconn.case_1
    repeat' split
    all_goals first | exact hn.stay rfl rfl hc ha | exact hn.move rfl rfl rfl
  unfold fusb_state_vcs_wait_for_vconn
  split
  · exact h1 _ (h.keep rfl rfl) hc
  · exact h1 _ h hc
  · exact h.stay rfl rfl hc ha

theorem drs_evaluate_sends (h : Ground chip) : Sends (fusb_state_drs_evaluate chip) := by
  unfold fusb_state_drs_evaluate
  split
  · exact h.move rfl rfl rfl
  · exact h.move rfl rfl rfl

theorem drs_role_change_sends (h : Ground chip) : Sends (fusb_state_drs_role_change chip) := h.move rfl rfl rfl

/-! ## The attach phase -/

theorem ground_attaches : Attaches Ground where
  view h he _ := h.keep (congrArg View.log he) (congrArg View.msg_id he)
  polarity _ h := h.keep rfl rfl
  vconn _ h := h.keep rfl rfl
  move h _ := h.keep rfl rfl
  recast _ h _ := h.keep rfl rfl
  forget h := h.keep rfl rfl

theorem ground_resets : Resets Ground where
  init {c} h := by
    obtain ⟨_, _, _, _, _, _, _, hl, _⟩ := tcpm_init_frame c
    exact h.toCounted.pd_reset hl
  flush h := h.keep rfl rfl

theorem set_state_unattached_ground (h : Counted c) : Ground (set_state_unattached c) := by
  refine h.pd_reset ?_
  simp [set_state_unattached, set_state]

/-- The states before a policy send nothing, and come before states that have
not sent yet. -/
theorem attaching_sends (h : Ground chip) (ha : attaching chip.conn_state = true) : Sends (dispatch chip evt) := by
  have hn : Ground (dispatch chip evt) := ground_attaches.dispatch_attaching h ha fun _ => ground_resets
  have hw : ∀ n, (dispatch chip evt).conn_state.awaits n = false := by
    cases @attach_step chip evt ha with
    | attach hs =>
      generalize (dispatch chip evt).conn_state = s at hs
      intro n
      cases s <;> first | rfl | cases hs
    | source hs => rw [hs]; exact fun _ => rfl
    | sink hs => rw [hs]; exact fun _ => rfl
  exact hn.flies (hw _)

/-! ## The switch -/

/-- The handlers of all states but the two ready ones. -/
theorem dispatch_sends (h : Sends chip) (hr : chip.conn_state.ready = false) (hg : gives_up chip evt = false) :
    Sends (dispatch chip evt) := by
  cases ha : attaching chip.conn_state
  · unfold dispatch
    split
    all_goals rename_i hc
    all_goals try (rw [hc] at ha; cases ha)
    all_goals try (rw [hc] at hr; cases hr)
    · exact src_startup_sends (h.rested hc rfl rfl)
    · exact src_discovery_sends (h.rested hc rfl rfl) hc
    · exact case_send_caps_sends h hc hg
    · exact case_negotiate_cap_sends (h.rested hc rfl rfl)
    · exact src_transition_supply_sends h hc
    · exact src_cap_response_sends h hc
    · exact src_transition_default_sends (h.rested hc rfl rfl) hc
    · exact src_get_sink_cap_sends h hc hg
    · exact send_hardreset_sends (h.rested hc rfl rfl) hc fun _ => rfl
    · simp only [gives_up, hc] at hg
      exact send_softreset_sends h hc rfl (fun _ => rfl) hg fun _ => soft_reset_done_sends
    · refine softreset_sends h (by rw [hc]; rfl) ?_ soft_reset_done_sends
      intro n h0
      simpa [hc, ConnState.awaits] using h0
    · exact snk_startup_sends (h.rested hc rfl rfl)
    · exact snk_discovery_sends (h.rested hc rfl rfl)
    · simp only [gives_up, hc] at hg
      exact snk_wait_caps_sends h hg
    · simp only [gives_up, hc] at hg
      exact case_evaluate_caps_sends (h.rested hc rfl rfl) hg
    · exact snk_select_cap_sends h hc hg
    · exact snk_transition_sink_sends (h.rested hc rfl rfl) hc
    · exact snk_transition_default_sends (h.rested hc rfl rfl) hc
    · exact send_hardreset_sends (h.rested hc rfl rfl) hc fun _ => rfl
    · simp only [gives_up, hc] at hg
      exact send_softreset_sends h hc rfl (fun _ => rfl) hg fun _ => snk_soft_reset_done_sends
    · refine softreset_sends h (by rw [hc]; rfl) ?_ snk_soft_reset_done_sends
      intro n h0
      simpa [hc, ConnState.awaits] using h0
    · exact prs_evaluate_sends (h.rested hc rfl rfl)
    · exact prs_evaluate_sends (h.rested hc rfl rfl)
    · exact simple_msg_sends h hc rfl fun _ => rfl
    · exact simple_msg_sends h hc rfl fun _ => rfl
    · exact simple_msg_sends h hc rfl fun _ => rfl
    · exact simple_msg_sends h hc rfl fun _ => rfl
    · exact simple_msg_sends h hc rfl fun _ => rfl
    · exact simple_msg_sends h hc rfl fun _ => rfl
    · exact simple_msg_sends h hc rfl fun _ => rfl
    · exact src_prs_transition_to_off_sends (h.rested hc rfl rfl) hc
    · exact src_prs_assert_rd_sends (h.rested hc rfl rfl)
    · exact src_prs_source_off_sends h hc
    · exact send_swap_sends h hc rfl fun _ => rfl
    · exact send_swap_sends h hc rfl fun _ => rfl
    · exact snk_prs_transition_to_off_sends (h.rested hc rfl rfl) hc
    · exact snk_prs_assert_rp_sends (h.rested hc rfl rfl)
    · exact snk_prs_source_on_sends h hc
    · exact vcs_ufp_evaluate_swap_sends (h.rested hc rfl rfl)
    · exact simple_msg_sends h hc rfl fun _ => rfl
    · exact vcs_wait_for_vconn_sends (h.rested hc rfl rfl) hc fun _ => rfl
    · exact vcs_wait_for_vconn_sends (h.rested hc rfl rfl) hc fun _ => rfl
    · exact vcs_set_vconn_sends (h.rested hc rfl rfl) _
    · exact vcs_set_vconn_sends (h.rested hc rfl rfl) _
    · exact vcs_set_vconn_sends (h.rested hc rfl rfl) _
    · exact vcs_set_vconn_sends (h.rested hc rfl rfl) _
    · exact simple_msg_sends h hc rfl fun _ => rfl
    · exact simple_msg_sends h hc rfl fun _ => rfl
    · exact send_swap_sends h hc rfl fun _ => rfl
    · exact drs_evaluate_sends (h.rested hc rfl rfl)
    · exact drs_evaluate_sends (h.rested hc rfl rfl)
    · exact simple_msg_sends h hc rfl fun _ => rfl
    · exact simple_msg_sends h hc rfl fun _ => rfl
    · exact drs_role_change_sends (h.rested hc rfl rfl)
    · exact drs_role_change_sends (h.rested hc rfl rfl)
    · exact send_swap_sends h hc rfl fun _ => rfl
    · exact send_swap_sends h hc rfl fun _ => rfl
  · -- two states of the phase do not care about a frame in flight
    cases hi : chip.conn_state.indifferent
    · refine attaching_sends (Flies.ground h ?_ hi) ha
      generalize chip.conn_state = s at ha
      cases s <;> first | rfl | cases ha
    · unfold dispatch
      split
      all_goals rename_i hc
      all_goals try (rw [hc] at hi; cases hi)
      all_goals try (rw [hc] at ha; cases ha)
      · exact h
      · have hu := @set_state_unattached_frame chip
        exact (set_state_unattached_ground h.toCounted).stay rfl rfl hu.1 fun _ => rfl

end Fusb302
