import LinuxDriver.Fusb302.Hush
/-!
# Capabilities nobody answers

A source whose frames are never acknowledged offers its capabilities again
after each timeout, and `caps_counter` counts the attempts. What is left to wait
for until it gives up is its patience: every event that it waits for takes one
off, and nothing adds to it.
-/

namespace Fusb302

/-- The header of a frame. -/
def frame_head (data : List Byte) : BitVec 16 :=
  (data.getD 5 0#8).setWidth 16 ||| ((data.getD 6 0#8).setWidth 16 <<< 8)

/-- How many SOURCE_CAPABILITIES frames were written into the transmit FIFO. -/
def advertised (chip : Chip) : Nat :=
  chip.log.countP fun | .fifo data _ => PACKET_IS_DATA_MSG (frame_head data) DMT_SOURCECAPABILITIES | _ => false

/-- A transmission is reported sent. -/
def Act.sent : Act → Bool
  | .work env => bit env.interrupta INTERRUPTA_TXSENT
  | _ => false

/-- The port is found detached. -/
def detached (chip : Chip) : Act → Bool
  | .work env => detaches (alerts chip env).1 (events chip env)
  | _ => false

/-- Nothing is received, no hard reset is signalled by either side, no
transmission succeeds, and the port stays attached. -/
def unheard (chip : Chip) (act : Act) : Prop :=
  act.receives = false ∧ act.hardsent = false ∧ hard_resets (step chip act) = hard_resets chip ∧ act.sent = false ∧
    detached chip act = false

instance (chip : Chip) (act : Act) : Decidable (unheard chip act) := by
  unfold unheard
  infer_instance

/-! ## What the port waits for -/

/-- Its own next turn, the report of its frame, or its timeout. -/
def awaited (chip : Chip) : Act → Bool
  | .work env => decide (chip.conn_state ≠ .disabled) && (chip.work_continue ||
      (decide (chip.conn_state = .policy_src_send_caps) && bit env.interrupta INTERRUPTA_RETRYFAIL) ||
      (decide (chip.conn_state = .policy_src_discovery) && decide (chip.timer_state = 0)))
  | .timer_state => decide (chip.conn_state = .policy_src_discovery ∧ chip.timer_state ≠ 0 ∧ chip.timer_state ≠ T_DISABLED) &&
      !chip.work_continue && chip.timer_state_machine
  | .timer_mux => false

/-- How often it happens in a run. -/
def awaits (chip : Chip) : List Act → Nat
  | [] => 0
  | act :: acts => (awaited chip act).toNat + awaits (step chip act) acts

/-- What is left to wait for: five events for each offer. -/
def patience (chip : Chip) : Nat :=
  match chip.conn_state with
  | .attached_source => 5 * N_CAPS_COUNT
  | .policy_src_startup => 5 * N_CAPS_COUNT - 1
  | .policy_src_send_caps => 5 * (N_CAPS_COUNT - chip.caps_counter) - (if chip.sub_state = 0 then 2 else 3)
  | .policy_src_discovery =>
    if chip.sub_state = 0 then 5 * (N_CAPS_COUNT - chip.caps_counter) - 4
    else 5 * (N_CAPS_COUNT - chip.caps_counter) - (if chip.timer_state = 0 then 1 else 0)
  | .disabled => 0
  | _ => 1

/-! ## Up to the switch -/

/-- What the source's states look at. -/
structure Turn where
  conn_state : ConnState
  sub_state : Nat
  work_continue : Bool
  supply : Supply
  tx_state : TxState
  timer_state : Nat
  timer_state_machine : Bool
  advertised : Nat
  hard_resets : Nat

/-- The part of the port that decides what is offered. -/
def Chip.turn (chip : Chip) : Turn where
  conn_state := chip.conn_state
  sub_state := chip.sub_state
  work_continue := chip.work_continue
  supply := chip.toSupply
  tx_state := chip.tx_state
  timer_state := chip.timer_state
  timer_state_machine := chip.timer_state_machine
  advertised := advertised chip
  hard_resets := hard_resets chip

variable {start : Nat} {chip c c' : Chip} {evt : Evt} {env : Env} {act : Act}

theorem PolicyKept.turn (h : PolicyKept c' c) : c'.turn = c.turn := by
  obtain ⟨hp, ht, hx, _, hs, _, _, hl, _⟩ := h
  unfold Chip.turn advertised hard_resets
  rw [hp, ht, hx, hs, hl]

/-- The alerts of an unheard invocation report at most a failed frame. -/
theorem tcpc_alert_unheard (h : unheard chip (.work env)) :
    (tcpc_alert (observe chip env) env).1.turn =
        { chip.turn with tx_state := if bit env.interrupta INTERRUPTA_RETRYFAIL then .tx_failed else chip.tx_state } ∧
      (bit env.interrupta INTERRUPTA_RETRYFAIL = true → (tcpc_alert (observe chip env) env).2.tx = true) := by
  obtain ⟨hrx, hrst⟩ := Bool.or_eq_false_iff.1 h.1
  have hs : bit env.interrupta INTERRUPTA_TXSENT = false := h.2.2.2.1
  have hh : bit env.interrupta INTERRUPTA_HARDSENT = false := h.2.1
  have hk : (alert_before_txsent chip env).1.turn = chip.turn :=
    (before_txsent_keeps (P := fun c => c.turn = chip.turn) rfl fun _ _ hk _ hc => hk.turn.trans hc).1
  have he : tcpc_alert (observe chip env) env = alert_retryfail env (alert_before_txsent chip env) := by
    unfold tcpc_alert alert_before_txsent alert_txsent alert_gcrcsent alert_hardrst alert_hardsent
    simp only [hs, hrx, hrst, hh]
    rfl
  rw [he]
  generalize alert_before_txsent chip env = a at hk
  unfold alert_retryfail
  split
  · rename_i hr
    exact ⟨by rw [← hk]; rfl, fun _ => rfl⟩
  · rename_i hr
    exact ⟨hk, fun ht => absurd ht hr⟩

theorem mux_alert_turn (chip : Chip) (evt : Evt) : (mux_alert chip evt).1.turn =
    { chip.turn with
      work_continue := false, timer_state := if chip.timer_state = 0 then T_DISABLED else chip.timer_state } := by
  unfold mux_alert
  by_cases hm : chip.timer_mux = 0 <;> by_cases hs : chip.timer_state = 0 <;> simp [hm, hs] <;> rfl

/-- Pending work and an expired timeout are events. -/
theorem mux_alert_evt (chip : Chip) (evt : Evt) :
    (mux_alert chip evt).2.work_continue = (evt.work_continue || chip.work_continue) ∧
      (mux_alert chip evt).2.timer_state = (evt.timer_state || decide (chip.timer_state = 0)) ∧
      (mux_alert chip evt).2.tx = evt.tx := by
  unfold mux_alert
  by_cases hm : chip.timer_mux = 0 <;> by_cases hs : chip.timer_state = 0 <;> simp [hm, hs]

/-- The state machine does not see the delay. -/
theorem detach_turn (h : detaches c evt = false) : (detach c evt).turn = c.turn := by
  unfold detaches at h
  unfold detach
  split
  · rename_i hc
    rw [if_pos hc] at h
    unfold try_detach_detaches at h
    unfold fusb_try_detach
    dsimp only at h ⊢
    split
    · rename_i hu
      rw [if_pos hu] at h
      rw [h]
      exact (tcpm_check_vbus_kept c).turn
    · rename_i hu
      rw [if_neg hu] at h
      split
      · rename_i hd
        rw [if_pos hd] at h
        rw [if_neg (of_decide_eq_false h)]
        exact (tcpm_get_cc_kept c).turn
      · rfl
  · rfl

/-- Unheard, the switch finds the port as the step found it, but for the
outcome of its frame and the timeout that it takes. -/
theorem at_switch_turn (h : unheard chip (.work env)) : (at_switch chip env).turn =
    { chip.turn with
      work_continue := false
      tx_state := if bit env.interrupta INTERRUPTA_RETRYFAIL then .tx_failed else chip.tx_state
      timer_state := if chip.timer_state = 0 then T_DISABLED else chip.timer_state } := by
  have hrx : (events chip env).rx = false := (Delivery.alerts_rx chip env).trans (Bool.or_eq_false_iff.1 h.1).1
  have ht := (tcpc_alert_unheard h).1
  have hts : (tcpc_alert (observe chip env) env).1.timer_state = chip.timer_state := congrArg Turn.timer_state ht
  have hc : (count_sent (receive (detach (alerts chip env).1 (events chip env)) (events chip env)) (events chip env)).turn =
      (detach (alerts chip env).1 (events chip env)).turn := by
    unfold count_sent receive
    rw [hrx, if_neg Bool.false_ne_true]
    split <;> rfl
  refine hc.trans ((detach_turn h.2.2.2.2).trans ((mux_alert_turn _ _).trans ?_))
  rw [ht, hts]

/-- The events that matter to an unheard source. -/
theorem events_unheard (h : unheard chip (.work env)) :
    (events chip env).rx = false ∧ (chip.work_continue = true → (events chip env).any = true) ∧
      (chip.timer_state = 0 → (events chip env).any = true ∧ (events chip env).timer_state = true) ∧
      (bit env.interrupta INTERRUPTA_RETRYFAIL = true → (events chip env).any = true) := by
  obtain ⟨ht, htx⟩ := tcpc_alert_unheard h
  obtain ⟨hw, hs, hx⟩ := mux_alert_evt (tcpc_alert (observe chip env) env).1 (tcpc_alert (observe chip env) env).2
  have hwork : (tcpc_alert (observe chip env) env).1.work_continue = chip.work_continue := congrArg Turn.work_continue ht
  have htime : (tcpc_alert (observe chip env) env).1.timer_state = chip.timer_state := congrArg Turn.timer_state ht
  change (events chip env).work_continue = _ at hw
  change (events chip env).timer_state = _ at hs
  change (events chip env).tx = _ at hx
  refine ⟨(Delivery.alerts_rx chip env).trans (Bool.or_eq_false_iff.1 h.1).1, fun hp => ?_, fun hp => ?_, fun hp => ?_⟩
  · rw [hwork, hp, Bool.or_true] at hw
    simp [Evt.any, hw]
  · rw [htime, hp, decide_eq_true rfl, Bool.or_true] at hs
    exact ⟨by simp [Evt.any, hs], hs⟩
  · rw [htx hp] at hx
    simp [Evt.any, hx]

/-! ## The offers -/

/-- An unheard source, by how far it has come; `begun` says that its first turn was due. -/
inductive Offering (start : Nat) (begun : Prop) (chip : Chip) : Prop
  | attached (hc : chip.conn_state = .attached_source) (ha : advertised chip = start)
    (hw : begun → chip.work_continue = true)
  | startup (hc : chip.conn_state = .policy_src_startup) (ha : advertised chip = start) (hh : chip.hardrst_count = 0)
    (hw : chip.work_continue = true)
  | offer (hc : chip.conn_state = .policy_src_send_caps) (hs : chip.sub_state = 0) (hk : chip.caps_counter < N_CAPS_COUNT)
    (ha : advertised chip ≤ start + chip.caps_counter) (hh : chip.hardrst_count = 0) (hw : chip.work_continue = true)
  | offered (hc : chip.conn_state = .policy_src_send_caps) (hs : chip.sub_state = 1) (ht : chip.tx_state = .tx_busy)
    (hk : chip.caps_counter < N_CAPS_COUNT) (ha : advertised chip ≤ start + chip.caps_counter + 1)
    (hh : chip.hardrst_count = 0) (hw : chip.work_continue = false)
  | failed (hc : chip.conn_state = .policy_src_discovery) (hs : chip.sub_state = 0) (hk : chip.caps_counter < N_CAPS_COUNT)
    (ha : advertised chip ≤ start + chip.caps_counter + 1) (hh : chip.hardrst_count = 0) (hw : chip.work_continue = true)
  | waits (hc : chip.conn_state = .policy_src_discovery) (hs : chip.sub_state = 1) (hk : chip.caps_counter < N_CAPS_COUNT)
    (ha : advertised chip ≤ start + chip.caps_counter) (hh : chip.hardrst_count = 0) (hw : chip.work_continue = false)
    (hm : chip.timer_state = 0 ∨ chip.timer_state ≠ T_DISABLED ∧ chip.timer_state_machine = true)
  | presses (hc : chip.conn_state = .policy_src_send_hardrst) (hs : chip.sub_state = 0)
    (ha : advertised chip ≤ start + N_CAPS_COUNT) (hw : chip.work_continue = true)
  | disabled (hc : chip.conn_state = .disabled) (ha : advertised chip ≤ start + N_CAPS_COUNT)

variable {begun : Prop} {k : Nat}

/-- It offers, and this much of its patience is left. -/
def OffersBy (start : Nat) (begun : Prop) (k : Nat) (chip : Chip) : Prop := Offering start begun chip ∧ patience chip ≤ k

theorem OffersBy.mono {k' : Nat} (h : OffersBy start begun k c) (hk : k ≤ k') : OffersBy start begun k' c :=
  ⟨h.1, Nat.le_trans h.2 hk⟩

theorem patience_attached (hc : c.conn_state = .attached_source) : patience c = 5 * N_CAPS_COUNT := by
  unfold patience
  rw [hc]

theorem patience_startup (hc : c.conn_state = .policy_src_startup) : patience c = 5 * N_CAPS_COUNT - 1 := by
  unfold patience
  rw [hc]

theorem patience_offer (hc : c.conn_state = .policy_src_send_caps) (hs : c.sub_state = 0) :
    patience c = 5 * (N_CAPS_COUNT - c.caps_counter) - 2 := by
  unfold patience
  rw [hc, hs]
  rfl

theorem patience_offered (hc : c.conn_state = .policy_src_send_caps) (hs : c.sub_state = 1) :
    patience c = 5 * (N_CAPS_COUNT - c.caps_counter) - 3 := by
  unfold patience
  rw [hc, hs]
  rfl

theorem patience_failed (hc : c.conn_state = .policy_src_discovery) (hs : c.sub_state = 0) :
    patience c = 5 * (N_CAPS_COUNT - c.caps_counter) - 4 := by
  unfold patience
  rw [hc, hs]
  rfl

theorem patience_waits (hc : c.conn_state = .policy_src_discovery) (hs : c.sub_state = 1) :
    patience c = 5 * (N_CAPS_COUNT - c.caps_counter) - (if c.timer_state = 0 then 1 else 0) := by
  unfold patience
  rw [hc, hs]
  rfl

theorem disabled_offers (h : advertised c ≤ start + N_CAPS_COUNT) : OffersBy start begun 0 (set_state c .disabled) :=
  ⟨.disabled rfl h, Nat.le_refl 0⟩

theorem presses_offers (h : advertised c ≤ start + N_CAPS_COUNT) :
    OffersBy start begun 1 (set_state c .policy_src_send_hardrst) := ⟨.presses rfl rfl h rfl, Nat.le_refl 1⟩

/-- The end of its patience is not its own doing. -/
theorem mux_offers (h : advertised c ≤ start + N_CAPS_COUNT) (hh : c.hardrst_count = 0) :
    OffersBy start begun 1 (if !c.is_pd_support then set_state c .disabled
      else if c.hardrst_count > N_HARDRESET_COUNT then set_state c .error_recovery
      else set_state c .policy_src_send_hardrst) := by
  split
  · exact (disabled_offers h).mono (Nat.zero_le 1)
  · rw [hh, if_neg (Nat.lt_irrefl 0)]
    exact presses_offers h

/-! ## The source's handlers -/

theorem attached_source_offers (ha : advertised c = start) :
    OffersBy start begun (5 * N_CAPS_COUNT - 1) (fusb_state_attached_source c) := by
  have hk : (fusb_state_attached_source c).log = c.log := by simp [fusb_state_attached_source, set_state]
  have hc : (fusb_state_attached_source c).conn_state = .policy_src_startup := by simp [fusb_state_attached_source, set_state]
  refine ⟨.startup hc ?_ (by simp [fusb_state_attached_source, set_state]) (by simp [fusb_state_attached_source, set_state]), ?_⟩
  · rw [advertised, hk]
    exact ha
  · refine Nat.le_of_eq ?_
    rw [patience, hc]

theorem src_startup_offers (ha : advertised c = start) (hh : c.hardrst_count = 0) :
    OffersBy start begun (5 * N_CAPS_COUNT - 2) (fusb_state_src_startup c) := by
  have hk : (fusb_state_src_startup c).log = .soft_reset :: .stage .DISCOVERY_ID :: c.log := by
    simp [fusb_state_src_startup, set_state, fusb_soft_reset_parameter, set_vdm_state, Chip.emit]
  have hc : (fusb_state_src_startup c).conn_state = .policy_src_send_caps := by
    simp [fusb_state_src_startup, set_state]
  have hs : (fusb_state_src_startup c).sub_state = 0 := by simp [fusb_state_src_startup, set_state]
  have h0 : (fusb_state_src_startup c).caps_counter = 0 := by
    simp [fusb_state_src_startup, set_state, fusb_soft_reset_parameter, set_vdm_state, Chip.emit]
  have had : advertised (fusb_state_src_startup c) = start := by
    rw [advertised, hk]
    exact ha
  refine ⟨.offer hc hs ?_ ?_ ?_ ?_, ?_⟩
  · rw [h0]
    decide
  · rw [had]
    exact Nat.le_add_right ..
  · simpa [fusb_state_src_startup, set_state, fusb_soft_reset_parameter, set_vdm_state, Chip.emit] using hh
  · simp [fusb_state_src_startup, set_state]
  · rw [patience_offer hc hs, h0]
    exact Nat.le_refl _

/-- `default:` of `fusb_state_src_send_caps` when nothing is received. -/
theorem send_caps_default_offers (h : OffersBy start begun (k + 1) c) (hrx : evt.rx = false)
    (ha : advertised c ≤ start + N_CAPS_COUNT) (hh : c.hardrst_count = 0) :
    OffersBy start begun (k + 1) (fusb_state_src_send_caps.case_default c evt) := by
  unfold fusb_state_src_send_caps.case_default
  rw [hrx, if_neg Bool.false_ne_true]
  split
  · rw [hh, if_pos (Nat.le_refl 0)]
    exact (presses_offers ha).mono (Nat.le_add_left 1 k)
  · split
    · exact (mux_offers ha hh).mono (Nat.le_add_left 1 k)
    · exact h

/-- The frame is on its way. -/
theorem send_caps_busy_offers (h : OffersBy start begun (k + 1) c) (ht : c.tx_state = .tx_busy) (hrx : evt.rx = false)
    (ha : advertised c ≤ start + N_CAPS_COUNT) (hh : c.hardrst_count = 0) :
    OffersBy start begun (k + 1) (fusb_state_src_send_caps.case_1 c evt) := by
  have hd : policy_send_data c = c := policy_send_data_of_ne_idle c (by rw [ht]; decide)
  unfold fusb_state_src_send_caps.case_1
  rw [hd]
  dsimp only
  rw [ht]
  dsimp only
  split
  · exact h
  · exact send_caps_default_offers h hrx ha hh

theorem advertised_push {data : List Byte} {st : ConnState} {cmd : Nat} {is_DMT : Bool}
    (hl : c'.log = .fifo data st :: .mesg cmd is_DMT :: c.log) : advertised c' ≤ advertised c + 1 := by
  unfold advertised
  rw [hl, List.countP_cons]
  refine Nat.add_le_add_left ?_ _
  change (if PACKET_IS_DATA_MSG (frame_head data) DMT_SOURCECAPABILITIES = true then 1 else 0) ≤ 1
  split
  · exact Nat.le_refl 1
  · exact Nat.zero_le 1

/-- An offer goes out. -/
theorem send_caps_offer (hc : c.conn_state = .policy_src_send_caps) (hs : c.sub_state = 0) (hk : c.caps_counter < N_CAPS_COUNT)
    (ha : advertised c ≤ start + c.caps_counter) (hh : c.hardrst_count = 0) (hw : c.work_continue = false)
    (hrx : evt.rx = false) :
    OffersBy start begun (5 * (N_CAPS_COUNT - c.caps_counter) - 3) (fusb_state_src_send_caps c evt) := by
  -- the frame is written, and the rest runs on as if it had been on its way
  obtain ⟨d, he, hdc, hds, hdt, hdk, hdh, hdw, hpush⟩ : ∃ d, fusb_state_src_send_caps c evt = fusb_state_src_send_caps.case_1 d evt ∧
      d.conn_state = c.conn_state ∧ d.sub_state = 1 ∧ d.tx_state = .tx_busy ∧ d.caps_counter = c.caps_counter ∧
      d.hardrst_count = c.hardrst_count ∧ d.work_continue = c.work_continue ∧ advertised d ≤ advertised c + 1 := by
    refine ⟨policy_send_data (build_mesg c DMT_SOURCECAPABILITIES true), ?_, rfl, rfl, rfl, rfl, rfl, rfl, advertised_push rfl⟩
    unfold fusb_state_src_send_caps
    rw [hs]
    rfl
  have hk' : c.caps_counter < 50 := hk
  have hp : OffersBy start begun (5 * (N_CAPS_COUNT - c.caps_counter) - 4 + 1) d := by
    refine ⟨.offered (hdc.trans hc) hds hdt (hdk ▸ hk) (by rw [hdk]; omega) (hdh.trans hh) (hdw.trans hw), ?_⟩
    rw [patience_offered (hdc.trans hc) hds, hdk]
    omega
  rw [he]
  exact (send_caps_busy_offers hp hdt hrx (by omega) (hdh.trans hh)).mono (by omega)

/-- The outcome of an offer. -/
theorem send_caps_outcome (hc : c.conn_state = .policy_src_send_caps) (hs : c.sub_state = 1)
    (ht : c.tx_state = .tx_busy ∨ c.tx_state = .tx_failed) (hk : c.caps_counter < N_CAPS_COUNT)
    (ha : advertised c ≤ start + c.caps_counter + 1) (hh : c.hardrst_count = 0) (hw : c.work_continue = false)
    (hrx : evt.rx = false) :
    OffersBy start begun (5 * (N_CAPS_COUNT - c.caps_counter) - (if c.tx_state = .tx_failed then 4 else 3))
      (fusb_state_src_send_caps c evt) := by
  have hk' : c.caps_counter < 50 := hk
  have he : fusb_state_src_send_caps c evt = fusb_state_src_send_caps.case_1 c evt := by
    unfold fusb_state_src_send_caps
    rw [hs]
    rfl
  rw [he]
  rcases ht with ht | ht
  · have hp : OffersBy start begun (5 * (N_CAPS_COUNT - c.caps_counter) - 4 + 1) c := by
      refine ⟨.offered hc hs ht hk ha hh hw, ?_⟩
      rw [patience_offered hc hs]
      omega
    rw [if_neg (by rw [ht]; decide)]
    exact (send_caps_busy_offers hp ht hrx (by omega) hh).mono (by omega)
  · have hf : fusb_state_src_send_caps.case_1 c evt = set_state c .policy_src_discovery := by
      unfold fusb_state_src_send_caps.case_1
      rw [policy_send_data_of_ne_idle c (by rw [ht]; decide)]
      dsimp only
      rw [ht]
    rw [if_pos ht, hf]
    refine ⟨.failed rfl rfl hk ha hh rfl, ?_⟩
    rw [patience_failed rfl rfl]
    exact Nat.le_refl _

/-- A failed offer is counted. -/
theorem src_discovery_counts (hc : c.conn_state = .policy_src_discovery) (hs : c.sub_state = 0)
    (hk : c.caps_counter < N_CAPS_COUNT) (ha : advertised c ≤ start + c.caps_counter + 1) (hh : c.hardrst_count = 0)
    (hw : c.work_continue = false) :
    OffersBy start begun (5 * (N_CAPS_COUNT - c.caps_counter) - 5) (fusb_state_src_discovery c evt) := by
  have hk' : c.caps_counter < 50 := hk
  let d : Chip := { c with caps_counter := c.caps_counter + 1 }
  let w : Chip := { timer_state_start d T_TYPEC_SEND_SOURCECAP with sub_state := 1 }
  have he : fusb_state_src_discovery c evt = if c.caps_counter + 1 < N_CAPS_COUNT then w else set_state d .disabled := by
    unfold fusb_state_src_discovery
    rw [hs]
    rfl
  rw [he]
  split
  · rename_i hn
    have ha' : advertised c ≤ start + (c.caps_counter + 1) := ha
    have hp : patience w = 5 * (50 - (c.caps_counter + 1)) - 0 := patience_waits hc rfl
    refine ⟨.waits hc rfl hn ha' hh hw (Or.inr ⟨(by decide : T_TYPEC_SEND_SOURCECAP ≠ T_DISABLED), rfl⟩), ?_⟩
    rw [hp]
    change 5 * (50 - (c.caps_counter + 1)) - 0 ≤ 5 * (50 - c.caps_counter) - 5
    omega
  · have ha' : advertised d ≤ start + 50 := Nat.le_trans ha (Nat.add_le_add_left hk start)
    exact (disabled_offers ha').mono (Nat.zero_le _)

/-- The pause between two offers. -/
theorem src_discovery_waits (hc : c.conn_state = .policy_src_discovery) (hs : c.sub_state = 1)
    (hk : c.caps_counter < N_CAPS_COUNT) (ha : advertised c ≤ start + c.caps_counter) (hh : c.hardrst_count = 0)
    (hw : c.work_continue = false) (hm : evt.timer_state = false → c.timer_state ≠ 0 ∧ c.timer_state ≠ T_DISABLED ∧ c.timer_state_machine = true) :
    OffersBy start begun (5 * (N_CAPS_COUNT - c.caps_counter) - (if evt.timer_state then 2 else 0)) (fusb_state_src_discovery c evt) := by
  have hk' : c.caps_counter < 50 := hk
  have he : fusb_state_src_discovery c evt = if evt.timer_state then set_state c .policy_src_send_caps else
      if evt.timer_mux then
        if !c.is_pd_support then set_state c .disabled
        else if c.hardrst_count > N_HARDRESET_COUNT then set_state c .error_recovery
        else set_state c .policy_src_send_hardrst
      else c := by
    unfold fusb_state_src_discovery
    rw [hs]
    rfl
  rw [he]
  cases hts : evt.timer_state with
  | true =>
    refine ⟨.offer rfl rfl hk ha hh rfl, ?_⟩
    rw [if_pos rfl, if_pos rfl, patience_offer rfl rfl]
    exact Nat.le_refl _
  | false =>
    obtain ⟨h0, hd, ha'⟩ := hm hts
    rw [if_neg Bool.false_ne_true, if_neg Bool.false_ne_true]
    split
    · exact (mux_offers (by omega) hh).mono (by omega)
    · refine ⟨.waits hc hs hk ha hh hw (Or.inr ⟨hd, ha'⟩), ?_⟩
      rw [patience_waits hc hs]
      exact Nat.sub_le_sub_left (Nat.zero_le _) _

/-! ## Steps -/

/-- What an unheard source finds at the switch. -/
structure Unheard (chip : Chip) (env : Env) (c : Chip) : Prop where
  conn_state : c.conn_state = chip.conn_state
  sub_state : c.sub_state = chip.sub_state
  caps_counter : c.caps_counter = chip.caps_counter
  hardrst_count : c.hardrst_count = chip.hardrst_count
  advertised : advertised c = advertised chip
  hard_resets : hard_resets c = hard_resets chip
  work_continue : c.work_continue = false
  tx_state : c.tx_state = if bit env.interrupta INTERRUPTA_RETRYFAIL then .tx_failed else chip.tx_state
  timer_state : c.timer_state = if chip.timer_state = 0 then T_DISABLED else chip.timer_state
  timer_state_machine : c.timer_state_machine = chip.timer_state_machine

theorem at_switch_unheard (h : unheard chip (.work env)) : Unheard chip env (at_switch chip env) := by
  have ht := at_switch_turn h
  have hs : (at_switch chip env).toSupply = chip.toSupply := congrArg Turn.supply ht
  exact {
    conn_state := congrArg Turn.conn_state ht
    sub_state := congrArg Turn.sub_state ht
    caps_counter := congrArg Supply.caps_counter hs
    hardrst_count := congrArg Supply.hardrst_count hs
    advertised := congrArg Turn.advertised ht
    hard_resets := congrArg Turn.hard_resets ht
    work_continue := congrArg Turn.work_continue ht
    tx_state := congrArg Turn.tx_state ht
    timer_state := congrArg Turn.timer_state ht
    timer_state_machine := congrArg Turn.timer_state_machine ht }

/-- The counts that the offers go by are the same. -/
theorem Unheard.counted {d : Nat} (h : Unheard chip env c) (hk : chip.caps_counter < N_CAPS_COUNT)
    (ha : Fusb302.advertised chip ≤ start + chip.caps_counter + d) (hh : chip.hardrst_count = 0) :
    c.caps_counter < N_CAPS_COUNT ∧ Fusb302.advertised c ≤ start + c.caps_counter + d ∧ c.hardrst_count = 0 := by
  rw [h.caps_counter, h.advertised, h.hardrst_count]
  exact ⟨hk, ha, hh⟩

/-- Capabilities that nobody answers are not negotiated. -/
theorem Offering.not_negotiates (h : Offering start begun c) : c.conn_state ≠ .policy_src_negotiate_cap := by
  intro hn
  rcases h with ⟨hc⟩ | ⟨hc⟩ | ⟨hc⟩ | ⟨hc⟩ | ⟨hc⟩ | ⟨hc⟩ | ⟨hc⟩ | ⟨hc⟩ <;> cases hn.symm.trans hc

theorem case_send_caps_offers (h : OffersBy start begun k (fusb_state_src_send_caps c evt)) :
    OffersBy start begun k (case_send_caps c evt) := by
  unfold case_send_caps
  rw [if_pos h.1.not_negotiates]
  exact h

/-- A hard reset that is due goes out. -/
theorem presses_counts (hc : c.conn_state = .policy_src_send_hardrst) (hs : c.sub_state = 0) :
    hard_resets (dispatch c evt) = hard_resets c + 1 := by
  unfold dispatch
  rw [hc]
  refine hard_resets_cons ?_
  unfold fusb_state_src_send_hardreset send_hardreset
  rw [hs]
  rfl

/-- What the port waits for takes from its patience, whatever else happens. -/
def Tires (start : Nat) (begun : Prop) (chip : Chip) (act : Act) : Prop :=
  Offering start begun (step chip act) ∧ patience (step chip act) + (awaited chip act).toNat ≤ patience chip

theorem OffersBy.tires (h : OffersBy start begun k (step chip act)) (hk : k + 1 ≤ patience chip) : Tires start begun chip act :=
  ⟨h.1, Nat.le_trans (Nat.add_le_add h.2 (Bool.toNat_le _)) hk⟩

theorem OffersBy.tires_idle (h : OffersBy start begun (patience chip) (step chip act)) (ha : awaited chip act = false) :
    Tires start begun chip act := ⟨h.1, by rw [ha]; exact h.2⟩

/-- Pending work is done. -/
theorem work_due (h : unheard chip (.work env)) (hw : chip.work_continue = true) :
    step chip (.work env) = dispatch (at_switch chip env) (events chip env) := by
  rw [step_work, if_pos ((events_unheard h).2.1 hw)]

theorem work_attached (h : unheard chip (.work env)) (hc : chip.conn_state = .attached_source)
    (ha : advertised chip = start) (hw : begun → chip.work_continue = true) : Tires start begun chip (.work env) := by
  have hu := at_switch_unheard h
  by_cases hany : (events chip env).any = true
  · have hd : step chip (.work env) = fusb_state_attached_source (at_switch chip env) := by
      rw [step_work, if_pos hany, dispatch, hu.conn_state.trans hc]
    refine OffersBy.tires (k := 5 * N_CAPS_COUNT - 1) ?_ (Nat.le_of_eq (patience_attached hc).symm)
    rw [hd]
    exact attached_source_offers (hu.advertised.trans ha)
  · have hn : chip.work_continue = false := Bool.eq_false_iff.2 fun hw => hany ((events_unheard h).2.1 hw)
    have hl : (awaited chip (.work env)) = false := by
      rw [awaited, hc, hn]
      simp
    refine OffersBy.tires_idle ?_ hl
    rw [step_work, if_neg hany]
    refine ⟨.attached (hu.conn_state.trans hc) (hu.advertised.trans ha) fun hb => ?_, ?_⟩
    · rw [hw hb] at hn
      cases hn
    · refine Nat.le_of_eq ?_
      rw [patience_attached hc, patience_attached (hu.conn_state.trans hc)]

theorem work_startup (h : unheard chip (.work env)) (hc : chip.conn_state = .policy_src_startup)
    (ha : advertised chip = start) (hh : chip.hardrst_count = 0) (hw : chip.work_continue = true) :
    Tires start begun chip (.work env) := by
  have hu := at_switch_unheard h
  have hd : step chip (.work env) = fusb_state_src_startup (at_switch chip env) := by
    rw [work_due h hw, dispatch, hu.conn_state.trans hc]
  refine OffersBy.tires (k := 5 * N_CAPS_COUNT - 2) ?_ (Nat.le_of_eq (patience_startup hc).symm)
  rw [hd]
  exact src_startup_offers (hu.advertised.trans ha) (hu.hardrst_count.trans hh)

theorem work_offer (h : unheard chip (.work env)) (hc : chip.conn_state = .policy_src_send_caps) (hs : chip.sub_state = 0)
    (hk : chip.caps_counter < N_CAPS_COUNT) (ha : advertised chip ≤ start + chip.caps_counter) (hh : chip.hardrst_count = 0)
    (hw : chip.work_continue = true) : Tires start begun chip (.work env) := by
  have hu := at_switch_unheard h
  obtain ⟨hk'', ha', hh'⟩ := hu.counted (d := 0) hk ha hh
  have hd : step chip (.work env) = case_send_caps (at_switch chip env) (events chip env) := by
    rw [work_due h hw, dispatch, hu.conn_state.trans hc]
  have hk' : chip.caps_counter < 50 := hk
  refine OffersBy.tires (k := 5 * (50 - chip.caps_counter) - 3) ?_ ?_
  · rw [hd, ← hu.caps_counter]
    exact case_send_caps_offers (send_caps_offer (hu.conn_state.trans hc) (hu.sub_state.trans hs) hk'' ha' hh' hu.work_continue
      (events_unheard h).1)
  · rw [patience_offer hc hs]
    change _ ≤ 5 * (50 - chip.caps_counter) - 2
    omega

theorem work_offered (h : unheard chip (.work env)) (hc : chip.conn_state = .policy_src_send_caps) (hs : chip.sub_state = 1)
    (ht : chip.tx_state = .tx_busy) (hk : chip.caps_counter < N_CAPS_COUNT)
    (ha : advertised chip ≤ start + chip.caps_counter + 1) (hh : chip.hardrst_count = 0) (hw : chip.work_continue = false) :
    Tires start begun chip (.work env) := by
  have hu := at_switch_unheard h
  have ht' := hu.tx_state
  obtain ⟨hk'', ha', hh'⟩ := hu.counted hk ha hh
  have hk' : chip.caps_counter < 50 := hk
  have hl : awaited chip (.work env) = bit env.interrupta INTERRUPTA_RETRYFAIL := by
    rw [awaited, hc, hw]
    simp
  by_cases hany : (events chip env).any = true
  · have hd : step chip (.work env) = case_send_caps (at_switch chip env) (events chip env) := by
      rw [step_work, if_pos hany, dispatch, hu.conn_state.trans hc]
    have htx : (at_switch chip env).tx_state = .tx_busy ∨ (at_switch chip env).tx_state = .tx_failed := by
      rw [ht', ht]
      split
      · exact Or.inr rfl
      · exact Or.inl rfl
    have ho := case_send_caps_offers (@send_caps_outcome start (at_switch chip env) (events chip env) begun (hu.conn_state.trans hc)
      (hu.sub_state.trans hs) htx hk'' ha' hh' hu.work_continue (events_unheard h).1)
    rw [← hd] at ho
    refine ⟨ho.1, Nat.le_trans (Nat.add_le_add_right ho.2 _) ?_⟩
    rw [patience_offered hc hs, hl, ht', ht, hu.caps_counter]
    change 5 * (50 - chip.caps_counter) - _ + _ ≤ 5 * (50 - chip.caps_counter) - 3
    cases bit env.interrupta INTERRUPTA_RETRYFAIL
    · exact Nat.le_refl _
    · simp only [if_pos, Bool.toNat_true]
      omega
  · have hr : bit env.interrupta INTERRUPTA_RETRYFAIL = false :=
      Bool.eq_false_iff.2 fun hr => hany ((events_unheard h).2.2.2 hr)
    rw [hr] at hl ht'
    refine OffersBy.tires_idle ?_ hl
    rw [step_work, if_neg hany]
    refine ⟨.offered (hu.conn_state.trans hc) (hu.sub_state.trans hs) (ht'.trans ht) hk'' ha' hh' hu.work_continue, Nat.le_of_eq ?_⟩
    rw [patience_offered hc hs, patience_offered (hu.conn_state.trans hc) (hu.sub_state.trans hs), hu.caps_counter]

theorem work_failed (h : unheard chip (.work env)) (hc : chip.conn_state = .policy_src_discovery) (hs : chip.sub_state = 0)
    (hk : chip.caps_counter < N_CAPS_COUNT) (ha : advertised chip ≤ start + chip.caps_counter + 1)
    (hh : chip.hardrst_count = 0) (hw : chip.work_continue = true) : Tires start begun chip (.work env) := by
  have hu := at_switch_unheard h
  obtain ⟨hk'', ha', hh'⟩ := hu.counted hk ha hh
  have hd : step chip (.work env) = fusb_state_src_discovery (at_switch chip env) (events chip env) := by
    rw [work_due h hw, dispatch, hu.conn_state.trans hc]
  have hk' : chip.caps_counter < 50 := hk
  refine OffersBy.tires (k := 5 * (50 - chip.caps_counter) - 5) ?_ ?_
  · rw [hd, ← hu.caps_counter]
    exact src_discovery_counts (hu.conn_state.trans hc) (hu.sub_state.trans hs) hk'' ha' hh' hu.work_continue
  · rw [patience_failed hc hs]
    change _ ≤ 5 * (50 - chip.caps_counter) - 4
    omega

theorem work_waits (h : unheard chip (.work env)) (hc : chip.conn_state = .policy_src_discovery) (hs : chip.sub_state = 1)
    (hk : chip.caps_counter < N_CAPS_COUNT) (ha : advertised chip ≤ start + chip.caps_counter) (hh : chip.hardrst_count = 0)
    (hw : chip.work_continue = false)
    (hm : chip.timer_state = 0 ∨ chip.timer_state ≠ T_DISABLED ∧ chip.timer_state_machine = true) :
    Tires start begun chip (.work env) := by
  have hu := at_switch_unheard h
  obtain ⟨hk'', ha', hh'⟩ := hu.counted (d := 0) hk ha hh
  obtain ⟨_, _, hexp, _⟩ := events_unheard h
  have hk' : chip.caps_counter < 50 := hk
  have hl : awaited chip (.work env) = decide (chip.timer_state = 0) := by
    rw [awaited, hc, hw]
    simp
  -- without an expiry the pause goes on
  have hgo : chip.timer_state ≠ 0 → (at_switch chip env).timer_state ≠ 0 ∧ (at_switch chip env).timer_state ≠ T_DISABLED ∧
      (at_switch chip env).timer_state_machine = true := by
    intro h0
    rw [hu.timer_state, if_neg h0, hu.timer_state_machine]
    exact ⟨h0, hm.resolve_left h0⟩
  by_cases hany : (events chip env).any = true
  · have hd : step chip (.work env) = fusb_state_src_discovery (at_switch chip env) (events chip env) := by
      rw [step_work, if_pos hany, dispatch, hu.conn_state.trans hc]
    have ho := @src_discovery_waits start (at_switch chip env) (events chip env) begun (hu.conn_state.trans hc) (hu.sub_state.trans hs)
      hk'' ha' hh' hu.work_continue fun ht => hgo fun h0 => by
        rw [(hexp h0).2] at ht
        cases ht
    rw [← hd] at ho
    refine ⟨ho.1, Nat.le_trans (Nat.add_le_add_right ho.2 _) ?_⟩
    rw [patience_waits hc hs, hl, hu.caps_counter]
    change 5 * (50 - chip.caps_counter) - _ + _ ≤ 5 * (50 - chip.caps_counter) - _
    by_cases h0 : chip.timer_state = 0
    · rw [(hexp h0).2, if_pos rfl, if_pos h0, decide_eq_true h0, Bool.toNat_true]
      omega
    · rw [if_neg h0, decide_eq_false h0]
      exact Nat.sub_le ..
  · have h0 : chip.timer_state ≠ 0 := fun h0 => hany (hexp h0).1
    refine OffersBy.tires_idle ?_ (hl.trans (decide_eq_false h0))
    rw [step_work, if_neg hany]
    refine ⟨.waits (hu.conn_state.trans hc) (hu.sub_state.trans hs) hk'' ha' hh' hu.work_continue (Or.inr (hgo h0).2), Nat.le_of_eq ?_⟩
    rw [patience_waits hc hs, patience_waits (hu.conn_state.trans hc) (hu.sub_state.trans hs), hu.caps_counter, if_neg h0, if_neg (hgo h0).1]

theorem work_tires (ho : Offering start begun chip) (h : unheard chip (.work env)) : Tires start begun chip (.work env) := by
  cases ho with
  | attached hc ha hw => exact work_attached h hc ha hw
  | startup hc ha hh hw => exact work_startup h hc ha hh hw
  | offer hc hs hk ha hh hw => exact work_offer h hc hs hk ha hh hw
  | offered hc hs ht hk ha hh hw => exact work_offered h hc hs ht hk ha hh hw
  | failed hc hs hk ha hh hw => exact work_failed h hc hs hk ha hh hw
  | waits hc hs hk ha hh hw hm => exact work_waits h hc hs hk ha hh hw hm
  | presses hc hs ha hw =>
    -- the hard reset would be signalled
    have hu := at_switch_unheard h
    have hr := h.2.2.1
    rw [work_due h hw, presses_counts (hu.conn_state.trans hc) (hu.sub_state.trans hs), hu.hard_resets] at hr
    exact absurd hr (Nat.succ_ne_self _)
  | disabled hc ha =>
    have hu := at_switch_unheard h
    have hd : step chip (.work env) = at_switch chip env := by
      rw [step_work, dispatch, hu.conn_state.trans hc]
      exact ite_self _
    have hl : awaited chip (.work env) = false := by
      rw [awaited, hc]
      rfl
    refine OffersBy.tires_idle ?_ hl
    rw [hd]
    refine ⟨.disabled (hu.conn_state.trans hc) (Nat.le_trans (Nat.le_of_eq hu.advertised) ha), Nat.le_of_eq ?_⟩
    rw [patience, patience, hu.conn_state.trans hc, hc]

/-- New timers matter to the pause between two offers only. -/
theorem Offering.timers (h : Offering start begun chip) (t : Timers)
    (ht : chip.conn_state = .policy_src_discovery → chip.sub_state = 1 →
      t.timer_state = 0 ∨ t.timer_state ≠ T_DISABLED ∧ t.timer_state_machine = true) :
    Offering start begun { chip with toTimers := t } := by
  cases h with
  | attached hc ha hw => exact .attached hc ha hw
  | startup hc ha hh hw => exact .startup hc ha hh hw
  | offer hc hs hk ha hh hw => exact .offer hc hs hk ha hh hw
  | offered hc hs ht hk ha hh hw => exact .offered hc hs ht hk ha hh hw
  | failed hc hs hk ha hh hw => exact .failed hc hs hk ha hh hw
  | waits hc hs hk ha hh hw => exact .waits hc hs hk ha hh hw (ht hc hs)
  | presses hc hs ha hw => exact .presses hc hs ha hw
  | disabled hc ha => exact .disabled hc ha

theorem Offering.discovers (h : Offering start begun chip) (hc : chip.conn_state = .policy_src_discovery) :
    chip.sub_state = 0 ∧ chip.work_continue = true ∨
      chip.sub_state = 1 ∧ chip.caps_counter < N_CAPS_COUNT ∧ chip.work_continue = false ∧
        (chip.timer_state = 0 ∨ chip.timer_state ≠ T_DISABLED ∧ chip.timer_state_machine = true) := by
  rcases h with ⟨hd⟩ | ⟨hd⟩ | ⟨hd⟩ | ⟨hd⟩ | ⟨_, hs, _, _, _, hw⟩ | ⟨_, hs, hk, _, _, hw, hm⟩ | ⟨hd⟩ | ⟨hd⟩
  all_goals try cases hd.symm.trans hc
  · exact Or.inl ⟨hs, hw⟩
  · exact Or.inr ⟨hs, hk, hw, hm⟩

theorem Offering.running (h : Offering start begun chip) (hc : chip.conn_state = .policy_src_discovery)
    (hs : chip.sub_state = 1) :
    chip.caps_counter < N_CAPS_COUNT ∧ chip.work_continue = false ∧
      (chip.timer_state = 0 ∨ chip.timer_state ≠ T_DISABLED ∧ chip.timer_state_machine = true) := by
  rcases h.discovers hc with ⟨h0, _⟩ | ⟨_, hr⟩
  · cases h0.symm.trans hs
  · exact hr

/-- New timers wear out the patience only where they end the pause. -/
theorem patience_timers (t : Timers)
    (h : chip.conn_state = .policy_src_discovery → chip.sub_state ≠ 0 → (t.timer_state = 0 ↔ chip.timer_state = 0)) :
    patience { chip with toTimers := t } = patience chip := by
  unfold patience
  dsimp only
  split
  all_goals try rfl
  rename_i hc
  split
  · rfl
  · rename_i hs
    rw [if_congr (h hc hs) rfl rfl]

theorem timer_mux_tires (h : Offering start begun chip) : Tires start begun chip .timer_mux := by
  obtain ⟨t, he, hs, hm⟩ : ∃ t, step chip .timer_mux = { chip with toTimers := t } ∧ t.timer_state = chip.timer_state ∧
      t.timer_state_machine = chip.timer_state_machine := by
    change ∃ t, fusb_timer_handler chip .timer_mux = _ ∧ _
    unfold fusb_timer_handler
    dsimp only
    split
    · exact ⟨_, rfl, rfl, rfl⟩
    · exact ⟨_, rfl, rfl, rfl⟩
  refine OffersBy.tires_idle ?_ rfl
  rw [he]
  refine ⟨h.timers t fun hc hsub => ?_, Nat.le_of_eq (patience_timers t fun _ _ => by rw [hs])⟩
  rw [hs, hm]
  exact (h.running hc hsub).2.2

theorem timer_state_tires (h : Offering start begun chip) : Tires start begun chip .timer_state := by
  by_cases hw : chip.conn_state = .policy_src_discovery ∧ chip.sub_state = 1
  · obtain ⟨hc, hs⟩ := hw
    obtain ⟨hk, hwork, hm⟩ := h.running hc hs
    -- the pause is over, now or before
    obtain ⟨t, he, h0⟩ : ∃ t, step chip .timer_state = { chip with toTimers := t } ∧ t.timer_state = 0 := by
      change ∃ t, fusb_timer_handler chip .timer_state = _ ∧ _
      unfold fusb_timer_handler
      dsimp only
      split
      · refine ⟨_, rfl, if_pos ?_⟩
        rcases hm with hm | hm
        · rw [hm]
          decide
        · exact hm.1
      · rename_i hn
        exact ⟨chip.toTimers, rfl, hm.resolve_right fun hm => hn hm.2⟩
    have hk' : chip.caps_counter < 50 := hk
    have hp : patience (step chip .timer_state) = 5 * (50 - chip.caps_counter) - 1 := by
      rw [he]
      refine (patience_waits (c := { chip with toTimers := t }) hc hs).trans ?_
      rw [show ({ chip with toTimers := t } : Chip).timer_state = 0 from h0]
      rfl
    refine ⟨?_, ?_⟩
    · rw [he]
      exact h.timers t fun _ _ => Or.inl h0
    · rw [hp, patience_waits hc hs]
      change _ ≤ 5 * (50 - chip.caps_counter) - _
      by_cases hz : chip.timer_state = 0
      · have hl : awaited chip .timer_state = false := by
          rw [awaited, hz]
          simp
        rw [hl, if_pos hz]
        exact Nat.le_refl _
      · have hl : (awaited chip .timer_state).toNat ≤ 1 := Bool.toNat_le _
        rw [if_neg hz]
        omega
  · have hl : awaited chip .timer_state = false := by
      by_cases hc : chip.conn_state = .policy_src_discovery
      · rcases h.discovers hc with ⟨_, hwork⟩ | ⟨hs, _⟩
        · rw [awaited, hwork]
          simp
        · exact absurd ⟨hc, hs⟩ hw
      · rw [awaited]
        simp [hc]
    obtain ⟨t, he⟩ : ∃ t, step chip .timer_state = { chip with toTimers := t } := fusb_timer_handler_eq chip .timer_state
    refine OffersBy.tires_idle ?_ hl
    rw [he]
    refine ⟨h.timers t fun hc hs => absurd ⟨hc, hs⟩ hw, Nat.le_of_eq (patience_timers t fun hc hs => ?_)⟩
    rcases h.discovers hc with ⟨h0, _⟩ | ⟨h1, _⟩
    · exact absurd h0 hs
    · exact absurd ⟨hc, h1⟩ hw

/-- A step of the run. -/
theorem step_tires (ho : Offering start begun chip) (h : unheard chip act) : Tires start begun chip act := by
  cases act with
  | work env => exact work_tires ho h
  | timer_state => exact timer_state_tires ho
  | timer_mux => exact timer_mux_tires ho

/-! ## Runs -/

theorem Offering.advertised_le (h : Offering start begun chip) : advertised chip ≤ start + N_CAPS_COUNT := by
  have hN : N_CAPS_COUNT = 50 := rfl
  cases h with
  | attached _ ha => omega
  | startup _ ha => omega
  | offer _ _ _ ha => omega
  | offered _ _ _ _ ha => omega
  | failed _ _ _ ha => omega
  | waits _ _ _ ha => omega
  | presses _ _ ha => exact ha
  | disabled _ ha => exact ha

/-- A port that is out of patience gave up. -/
theorem Offering.exhausted (h : Offering start begun chip) (hp : patience chip = 0) : chip.conn_state = .disabled := by
  have hN : N_CAPS_COUNT = 50 := rfl
  cases h with
  | attached hc =>
    rw [patience_attached hc] at hp
    cases hp
  | startup hc =>
    rw [patience_startup hc] at hp
    cases hp
  | offer hc hs =>
    rw [patience_offer hc hs] at hp
    omega
  | offered hc hs =>
    rw [patience_offered hc hs] at hp
    omega
  | failed hc hs =>
    rw [patience_failed hc hs] at hp
    omega
  | waits hc hs =>
    rw [patience_waits hc hs] at hp
    split at hp <;> omega
  | presses hc =>
    rw [patience, hc] at hp
    cases hp
  | disabled hc => exact hc

/-- A port that goes on waits for something. -/
theorem Offering.expects (h : Offering start begun chip) (hb : begun) (hc : chip.conn_state ≠ .disabled) :
    ∃ act, awaited chip act = true := by
  -- its own next turn
  have hturn : chip.work_continue = true → ∃ act, awaited chip act = true := fun hw =>
    ⟨.work {}, by rw [awaited, hw]; simp [hc]⟩
  cases h with
  | attached _ _ hw => exact hturn (hw hb)
  | startup _ _ _ hw => exact hturn hw
  | offer _ _ _ _ _ hw => exact hturn hw
  | offered hs _ _ _ _ _ hw => exact ⟨.work { interrupta := INTERRUPTA_RETRYFAIL }, by rw [awaited, hs, hw]; rfl⟩
  | failed _ _ _ _ _ hw => exact hturn hw
  | waits hs _ _ _ _ hw hm =>
    by_cases h0 : chip.timer_state = 0
    · exact ⟨.work {}, by rw [awaited, hs, hw, h0]; rfl⟩
    · obtain ⟨hd, hrun⟩ := hm.resolve_left h0
      exact ⟨.timer_state, by rw [awaited, hs, hw, hrun]; simp [h0, hd]⟩
  | presses _ _ _ hw => exact hturn hw
  | disabled hd => exact absurd hd hc

/-- What has been waited for and what is left come to the patience at the start. -/
theorem run_tires (acts : List Act) {chip : Chip} (h : Offering start begun chip) (hq : Runs.Meets step unheard chip acts) :
    patience (Runs.run step chip acts) + awaits chip acts ≤ patience chip := by
  induction acts generalizing chip with
  | nil => exact Nat.le_refl _
  | cons act acts ih =>
    obtain ⟨ho, hp⟩ := step_tires h hq.1
    have hr := ih ho hq.2
    rw [awaits, Runs.run_cons]
    omega

/-- A port that gave up stays so. -/
theorem step_disabled (hc : chip.conn_state = .disabled) (h : unheard chip act) : (step chip act).conn_state = .disabled := by
  cases act with
  | work env =>
    have hc' := (at_switch_unheard h).conn_state.trans hc
    rw [step_work, dispatch, hc', ite_self]
    exact hc'
  | timer_state =>
    obtain ⟨t, he⟩ : ∃ t, step chip .timer_state = { chip with toTimers := t } := fusb_timer_handler_eq chip .timer_state
    rw [he]
    exact hc
  | timer_mux =>
    obtain ⟨t, he⟩ : ∃ t, step chip .timer_mux = { chip with toTimers := t } := fusb_timer_handler_eq chip .timer_mux
    rw [he]
    exact hc

/-! ## A silent partner -/

/-- What an unheard source is in, from its attachment on. -/
theorem run_offers {acts : List Act} (h : chip.conn_state = .attached_source) (hq : Runs.Meets step unheard chip acts) :
    ∀ t ∈ Runs.visited step chip acts, Offering (advertised chip) (chip.work_continue = true) t :=
  hq.visited_inv (fun _ _ ho hu => (step_tires ho hu).1) (.attached h rfl id)

/-- A source that nobody answers offers its capabilities at most `N_CAPS_COUNT`
times, waits for one event after the other, and gives up for as long as it stays
attached. A sink that hears nothing sends a bounded number of hard resets. -/
theorem silent_partner (chip : Chip) (acts : List Act) :
    (chip.conn_state = .attached_source → Runs.Meets step unheard chip acts →
      (∀ t ∈ Runs.visited step chip acts, advertised t ≤ advertised chip + N_CAPS_COUNT ∧
        (t.conn_state = .disabled → (Runs.run step chip acts).conn_state = .disabled) ∧
        (chip.work_continue = true → t.conn_state ≠ .disabled → ∃ act, awaited t act = true)) ∧
      (5 * N_CAPS_COUNT ≤ awaits chip acts → (Runs.run step chip acts).conn_state = .disabled)) ∧
    (chip.conn_state = .attached_sink →
      Runs.Meets step (fun c act => act.receives = false ∧ ¬enters c act .attached_source ∧ ¬enters c act .attached_sink)
        chip acts →
      Reported chip 0 acts → hard_resets (Runs.run step chip acts) ≤ hard_resets chip + 2 * (N_HARDRESET_COUNT + 1)) := by
  refine ⟨fun hc hq => ⟨fun t ht => ?_, fun hn => ?_⟩, fun hc hq hr => run_hushed acts (hushed_of_attached hc) hq hr⟩
  · have ho := run_offers hc hq t ht
    exact ⟨ho.advertised_le, hq.run_of_visited (fun _ _ => step_disabled) ht, ho.expects⟩
  · have ho : Offering (advertised chip) (chip.work_continue = true) chip := .attached hc rfl id
    have hp := run_tires acts ho hq
    rw [patience_attached hc] at hp
    exact (run_offers hc hq _ (Runs.run_mem_visited ..)).exhausted (by omega)

/-- An offer that fails, and the pause after it. -/
def offer_refused : List Act := [idle, retryfail, idle, .timer_state, idle]

/-- From `attached_source` to `disabled`. -/
def silent_source : List Act := idle :: idle :: (List.replicate 50 offer_refused).flatten.take 248

/-- The sink's pull-down is gone. -/
def unplugged : Act := .work { interrupt := INTERRUPT_COMP_CHNG, status0 := fun _ => STATUS0_COMP }

/-- The invocation in which the chip says that the hard reset has been sent. -/
def hardsent : Act := .work { interrupta := INTERRUPTA_HARDSENT, status0 := fun _ => STATUS0_VBUSOK }

/-- From `attached_sink` to the second hard reset, after one whose report finds `retry` clear. -/
def unheard_sink : List Act :=
  attach_sink.drop 8 ++ [.timer_state, idle, idle, retryfail, idle, hardsent, .timer_state, idle, idle, idle, .timer_state, idle,
    idle]

/-- The same, but each hard reset is reported twice, and a third one is sent. -/
def reported_twice : List Act :=
  attach_sink.drop 8 ++ [.timer_state, idle, idle, retryfail, idle, hardsent, .timer_state, idle, hardsent, idle, .timer_state,
    idle, idle, hardsent, .timer_state, idle, hardsent, idle, .timer_state, idle, idle]

theorem silent_partner_runs :
    (Runs.run step (ran {} (attach_source.take 69)) silent_source).conn_state = .disabled ∧
      hard_resets (Runs.run step (ran try_source (attach_sink.take 8)) unheard_sink) = 2 * (N_HARDRESET_COUNT + 1) := by
  have hsource := (silent_partner (ran {} (attach_source.take 69)) silent_source).1 (by decide +kernel) (by decide +kernel)
  have hsink := (silent_partner (ran try_source (attach_sink.take 8)) unheard_sink).2 (by decide +kernel) (by decide +kernel)
    (by decide +kernel)
  exact ⟨hsource.2 (by decide +kernel), Nat.le_antisymm hsink (by decide +kernel)⟩

/-- The comparator changed. -/
def Act.comp_chng : Act → Bool
  | .work env => bit env.interrupt INTERRUPT_COMP_CHNG
  | _ => false

/-- Unplugged, a port that gave up starts looking for a partner. And a hard reset
reported twice is one that is not counted. -/
theorem silent_partner_unplugged :
    ((ran {} (attach_source.take 69)).conn_state = .attached_source ∧
      Runs.Meets step (fun chip act => act.receives = false ∧ act.hardsent = false ∧
        hard_resets (step chip act) = hard_resets chip ∧ act.sent = false)
        (ran {} (attach_source.take 69)) (silent_source ++ [unplugged]) ∧
      (Runs.run step (ran {} (attach_source.take 69)) silent_source).conn_state = .disabled ∧
      (Runs.run step (ran {} (attach_source.take 69)) (silent_source ++ [unplugged])).conn_state = .unattached) ∧
    (ran try_source (attach_sink.take 8)).conn_state = .attached_sink ∧
    Runs.Meets step (fun c act => act.receives = false ∧ ¬enters c act .attached_source ∧ ¬enters c act .attached_sink)
      (ran try_source (attach_sink.take 8)) reported_twice ∧
    hard_resets (ran try_source (attach_sink.take 8)) + 2 * (N_HARDRESET_COUNT + 1) <
      hard_resets (Runs.run step (ran try_source (attach_sink.take 8)) reported_twice) := by
  -- the last step, reached through the steps before it
  have hall : Runs.Meets step (fun c act => (act.receives = false ∧ act.hardsent = false ∧
        hard_resets (step c act) = hard_resets c ∧ act.sent = false) ∧
        (act.comp_chng = true → c.conn_state = .disabled ∧ (step c act).conn_state = .unattached))
      (ran {} (attach_source.take 69)) (silent_source ++ [unplugged]) := by decide +kernel
  have hquiet := hall.imp (I := fun _ => True) (fun _ _ _ _ => trivial) (fun _ _ _ h => h.1) trivial
  obtain ⟨hdisabled, hunattached⟩ := (Runs.Meets.append.1 hall).2.1.2 rfl
  refine ⟨⟨by decide +kernel, hquiet, hdisabled, ?_⟩, by decide +kernel, by decide +kernel, by decide +kernel⟩
  rw [Runs.run_append, Runs.run_cons, Runs.run_nil]
  exact hunattached

end Fusb302
