import LinuxDriver.Fusb302.Debounce
import LinuxDriver.Fusb302.Delivery
import LinuxDriver.Fusb302.Retry
/-!
# Hard resets nobody answers

A sink that hears nothing sends a hard reset and starts over. `hardrst_count`
counts the hard resets that were seen to end, but a HARDSENT that finds `retry`
clear starts the policy over before one is counted. Every second report can do
so, and there is no more than one report for a hard reset.
-/

namespace Fusb302

/-- Something of the partner's is reported: a message, or a hard reset. -/
def Act.receives : Act → Bool
  | .work env => bit env.interruptb INTERRUPTB_GCRCSENT || bit env.interrupta INTERRUPTA_HARDRST
  | _ => false

/-- How often SEND_HARDRESET was written. -/
def hard_resets (chip : Chip) : Nat := chip.log.countP fun | .hardrst => true | _ => false

/-- Each HARDSENT of the run is the report of a hard reset sent before, where
`owed` of them were without a report at its start. -/
def Reported (chip : Chip) (owed : Nat) : List Act → Prop
  | [] => True
  | act :: acts => act.hardsent.toNat ≤ owed ∧
    Reported (step chip act) (owed - act.hardsent.toNat + (hard_resets (step chip act) - hard_resets chip)) acts

instance Reported.dec : (chip : Chip) → (owed : Nat) → (acts : List Act) → Decidable (Reported chip owed acts)
  | _, _, [] => .isTrue trivial
  | chip, owed, act :: acts =>
    have := Reported.dec (step chip act) (owed - act.hardsent.toNat + (hard_resets (step chip act) - hard_resets chip)) acts
    inferInstanceAs (Decidable (_ ∧ _))

/-! ## The states -/

/-- The sink's states before it has heard anything, but for the two that may send. -/
def ConnState.listens : ConnState → Bool
  | .policy_snk_startup | .policy_snk_discovery | .policy_snk_wait_caps | .policy_snk_transition_default => true
  | _ => false

/-- The sink's states before it has heard anything. -/
def ConnState.asks : ConnState → Bool
  | .policy_snk_send_softrst | .policy_snk_send_hardrst => true
  | st => st.listens

/-- The states that may send, or lead to, a hard reset whatever the count. -/
def ConnState.presses : ConnState → Bool
  | .policy_snk_send_softrst | .policy_snk_send_hardrst => true
  | _ => false

/-- The hard reset that may have been sent and is not counted. -/
def uncounted (chip : Chip) : Nat :=
  match chip.conn_state with
  | .policy_snk_send_hardrst => if chip.sub_state = 0 then 0 else 1
  | st => if attaching st then 1 else 0

/-- A sink that has heard nothing has sent `n` hard resets; `u` of them it gave up counting. -/
structure Pleads (start n u : Nat) (chip : Chip) : Prop where
  sent : hard_resets chip = start + n
  state : attaching chip.conn_state = true ∨ chip.conn_state.asks = true
  role : chip.conn_state.asks = true ∨ 0 < n → chip.notify.power_role = .SINK
  counted : n ≤ u + chip.hardrst_count + uncounted chip
  patient : chip.conn_state.presses = true → chip.hardrst_count ≤ N_HARDRESET_COUNT
  busy : chip.conn_state = .policy_snk_send_hardrst → chip.sub_state ≠ 0 → chip.tx_state ≠ .tx_idle

variable {start n u : Nat} {chip c c' : Chip} {evt : Evt} {env : Env} {st : ConnState}

theorem asks_of_listens (h : st.listens = true) : st.asks = true := by
  cases st <;> first | rfl | cases h

theorem asks_of_presses (h : st.presses = true) : st.asks = true := by
  cases st <;> first | rfl | cases h

theorem not_asks_of_attaching (h : attaching st = true) : st.asks = false := by
  cases st <;> first | rfl | cases h

theorem not_presses_of_attaching (h : attaching st = true) : st.presses = false := by
  cases st <;> first | rfl | cases h

theorem not_presses_of_listens (h : st.listens = true) : st.presses = false := by
  cases st <;> first | rfl | cases h

theorem uncounted_le (chip : Chip) : uncounted chip ≤ 1 := by
  unfold uncounted
  repeat' split
  all_goals decide

theorem uncounted_of_attaching (h : attaching c.conn_state = true) : uncounted c = 1 := by
  unfold uncounted
  split
  · rename_i hc
    rw [hc] at h
    cases h
  · exact if_pos h

theorem uncounted_of_listens (h : c.conn_state.listens = true) : uncounted c = 0 := by
  unfold uncounted
  split
  · rename_i hc
    rw [hc] at h
    cases h
  · refine if_neg ?_
    generalize c.conn_state = st at h
    cases st <;> first | exact Bool.false_ne_true | cases h

/-! ## What is kept -/

/-- The counts are kept, and a role of sink. -/
structure Unmoved (c c' : Chip) : Prop where
  count : c'.hardrst_count = c.hardrst_count
  sent : hard_resets c' = hard_resets c
  role : c'.notify.power_role = c.notify.power_role ∨ c'.notify.power_role = .SINK

theorem Unmoved.refl (c : Chip) : Unmoved c c := ⟨rfl, rfl, Or.inl rfl⟩

theorem Unmoved.trans {c'' : Chip} (h : Unmoved c c') (h' : Unmoved c' c'') : Unmoved c c'' := by
  refine ⟨h'.count.trans h.count, h'.sent.trans h.sent, ?_⟩
  rcases h'.role with hr | hr
  · rw [hr]
    exact h.role
  · exact Or.inr hr

theorem unmoved_of_eq (hs : c'.toSupply = c.toSupply) (hl : c'.log = c.log)
    (hr : c'.notify.power_role = c.notify.power_role) : Unmoved c c' :=
  ⟨congrArg Supply.hardrst_count hs, by rw [hard_resets, hl]; rfl, Or.inl hr⟩

theorem Unmoved.kept {c'' : Chip} (h : Unmoved c c') (hs : c''.toSupply = c'.toSupply) (hl : c''.log = c'.log)
    (hr : c''.notify.power_role = c'.notify.power_role) : Unmoved c c'' := h.trans (unmoved_of_eq hs hl hr)

theorem Unmoved.after {c'' : Chip} (h : Unmoved c' c'') (hs : c'.hardrst_count = c.hardrst_count) (hl : c'.log = c.log)
    (hr : c'.notify.power_role = c.notify.power_role) : Unmoved c c'' :=
  Unmoved.trans ⟨hs, by rw [hard_resets, hl]; rfl, Or.inl hr⟩ h

theorem PolicyKept.unmoved (h : PolicyKept c' c) : Unmoved c c' := by
  obtain ⟨_, _, _, _, hs, _, hn, hl, _⟩ := h
  exact ⟨congrArg Supply.hardrst_count hs, by rw [hard_resets, hl]; rfl, Or.inl (by rw [hn])⟩

theorem Unmoved.sink (h : Unmoved c c') (hr : c.notify.power_role = .SINK) : c'.notify.power_role = .SINK := by
  rcases h.role with hr' | hr'
  · rw [hr', hr]
  · exact hr'

theorem set_state_unmoved (chip : Chip) (st : ConnState) : Unmoved chip (set_state chip st) := ⟨rfl, rfl, Or.inl rfl⟩

theorem init_unmoved (chip : Chip) : Unmoved chip (tcpm_init chip) := by
  obtain ⟨_, _, _, _, hs, _, hn, hl, _⟩ := tcpm_init_frame chip
  exact ⟨congrArg Supply.hardrst_count hs, by rw [hard_resets, hl]; rfl, Or.inl (by rw [hn])⟩

theorem unattached_unmoved (chip : Chip) : Unmoved chip (set_state_unattached chip) := by
  have hs : (set_state_unattached chip).toSupply = chip.toSupply := by simp [set_state_unattached, set_state]
  have hl : (set_state_unattached chip).log = .pd_reset :: chip.log := by simp [set_state_unattached, set_state]
  exact ⟨congrArg Supply.hardrst_count hs, by rw [hard_resets, hl]; rfl, Or.inr (@set_state_unattached_frame chip).2.2.1⟩

theorem try_attach_set_unmoved (chip : Chip) (mode : RoleMode) : Unmoved chip (fusb_state_try_attach_set chip mode) := by
  unfold fusb_state_try_attach_set
  dsimp only
  split
  · exact .refl chip
  · have hc := (init_unmoved chip).trans (tcpm_set_cc_kept _ (if mode = .DFP then .DFP else .UFP)).unmoved
    exact hc.kept rfl rfl rfl

theorem start_debounce_unmoved (chip : Chip) : Unmoved chip (start_debounce chip) := by
  have hp := (tcpm_set_polarity_kept chip (cc_state_polarity chip)).unmoved
  have hm := hp.trans (tcpm_get_cc_kept _).unmoved
  exact hm.kept rfl rfl rfl

theorem debounce_unmoved (chip : Chip) : Unmoved chip (debounce chip) := by
  have hm := (tcpm_get_cc_kept chip).unmoved
  unfold debounce
  dsimp only
  split
  · exact hm.kept rfl rfl rfl
  · exact hm.kept rfl rfl rfl

theorem unattached_attaching (chip : Chip) : attaching (set_state_unattached chip).conn_state = true := by
  rw [(@set_state_unattached_frame chip).1]
  rfl

theorem try_attach_set_attaching (h : attaching chip.conn_state = true) (mode : RoleMode) :
    attaching (fusb_state_try_attach_set chip mode).conn_state = true := by
  unfold fusb_state_try_attach_set
  dsimp only
  split
  · exact h
  · simp only [set_state]
    split <;> rfl

/-- The handler stays in the attach phase. -/
structure Idles (c c' : Chip) : Prop extends Unmoved c c' where
  state : attaching c'.conn_state = true

theorem Idles.after {c'' : Chip} (h : Idles c' c'') (hm : Unmoved c c') : Idles c c'' := ⟨hm.trans h.toUnmoved, h.state⟩

theorem unattached_idles (chip : Chip) : Idles chip (set_state_unattached chip) :=
  ⟨unattached_unmoved chip, unattached_attaching chip⟩

theorem try_attach_set_idles (h : attaching chip.conn_state = true) (mode : RoleMode) :
    Idles chip (fusb_state_try_attach_set chip mode) := ⟨try_attach_set_unmoved chip mode, try_attach_set_attaching h mode⟩

theorem start_debounce_idles (h : attaching chip.conn_state = true) : Idles chip (start_debounce chip) :=
  ⟨start_debounce_unmoved chip, by simpa using h⟩

theorem measure_idles (h : attaching chip.conn_state = true) : Idles chip (attach_wait_sink_measure chip) := by
  have hd := debounce_unmoved chip
  unfold attach_wait_sink_measure
  dsimp only
  repeat' split
  · exact ⟨hd.kept rfl rfl rfl, rfl⟩
  · exact (unattached_idles _).after (hd.kept rfl rfl rfl)
  · exact ⟨hd.kept rfl rfl rfl, by simpa [timer_mux_start] using h⟩

theorem attach_wait_sink_idles (h : attaching chip.conn_state = true) : Idles chip (fusb_state_attach_wait_sink chip evt) := by
  have hv := (tcpm_check_vbus_kept chip).unmoved
  unfold fusb_state_attach_wait_sink
  dsimp only
  repeat' split
  · exact (try_attach_set_idles (by simpa using h) _).after (hv.kept rfl rfl rfl)
  · exact ⟨hv.kept rfl rfl rfl, rfl⟩
  · exact (measure_idles (by simpa using h)).after (hv.kept rfl rfl rfl)
  · exact (measure_idles (by simpa using h)).after hv
  · exact ⟨.refl chip, h⟩

theorem attach_wait_source_idles (h : attaching chip.conn_state = true) :
    Idles chip (fusb_state_attach_wait_source chip evt) := by
  have hd := debounce_unmoved chip
  unfold fusb_state_attach_wait_source
  dsimp only
  repeat' split
  · exact (try_attach_set_idles (by simpa using h) _).after hd
  · exact ⟨hd.kept rfl rfl rfl, rfl⟩
  · exact (unattached_idles _).after hd
  · exact ⟨hd.kept rfl rfl rfl, by simpa [timer_mux_start] using h⟩
  · exact ⟨.refl chip, h⟩

theorem try_attach_idles (h : attaching chip.conn_state = true) (mode : RoleMode) :
    Idles chip (fusb_state_try_attach chip evt mode) := by
  unfold fusb_state_try_attach
  dsimp only
  repeat' split
  · exact (start_debounce_idles rfl).after ⟨rfl, rfl, Or.inl rfl⟩
  · exact (start_debounce_idles rfl).after ⟨rfl, rfl, Or.inl rfl⟩
  · exact (start_debounce_idles rfl).after ⟨rfl, rfl, Or.inl rfl⟩
  · exact (start_debounce_idles rfl).after ⟨rfl, rfl, Or.inl rfl⟩
  · exact (try_attach_set_idles (by exact h) _).after (unmoved_of_eq rfl rfl rfl)
  · exact (try_attach_set_idles (by exact h) _).after (unmoved_of_eq rfl rfl rfl)
  · exact ⟨set_state_unmoved .., rfl⟩
  · exact ⟨.refl chip, h⟩

theorem unattached_handler_idles (h : attaching chip.conn_state = true) : Idles chip (fusb_state_unattached chip evt) := by
  unfold fusb_state_unattached
  dsimp only
  repeat' split
  · exact (start_debounce_idles rfl).after ⟨rfl, rfl, Or.inl rfl⟩
  · exact (start_debounce_idles rfl).after ⟨rfl, rfl, Or.inl rfl⟩
  · exact ⟨⟨rfl, rfl, Or.inl rfl⟩, h⟩

/-- A handler of the attach phase idles, unless a policy starts. -/
theorem attach_idles (h : attaching chip.conn_state = true) (hs : chip.conn_state ≠ .attached_source) :
    Idles chip (dispatch chip evt) ∨ chip.conn_state = .attached_sink ∧
      (dispatch chip evt).conn_state = .policy_snk_startup ∧ (dispatch chip evt).notify.power_role = .SINK ∧
        hard_resets (dispatch chip evt) = hard_resets chip := by
  unfold dispatch
  cases hc : chip.conn_state
  all_goals try (rw [hc] at h; cases h)
  · exact Or.inl ⟨.refl chip, by rw [hc]; rfl⟩
  · exact Or.inl (unattached_idles chip)
  · exact Or.inl (unattached_handler_idles (by rw [hc]; rfl))
  · exact Or.inl (attach_wait_sink_idles (by rw [hc]; rfl))
  · exact Or.inl (attach_wait_source_idles (by rw [hc]; rfl))
  · exact absurd hc hs
  · have hv := (tcpm_check_vbus_kept chip).unmoved
    unfold fusb_state_attached_sink
    dsimp only
    repeat' split
    · exact Or.inl ((try_attach_set_idles (by simp [hc, attaching]) _).after (hv.kept rfl rfl rfl))
    · exact Or.inr ⟨rfl, rfl, rfl, hv.sent⟩
    · exact Or.inl ((unattached_idles _).after hv)
    · exact Or.inl ⟨hv.kept rfl rfl rfl, by simp [timer_state_start, hc, attaching]⟩
  · exact Or.inl (try_attach_idles (by rw [hc]; rfl) _)
  · exact Or.inl (try_attach_idles (by rw [hc]; rfl) _)

/-! ## Moving between the states -/

/-- The role of a sink, and the count, go with it. -/
theorem Pleads.unmoved (h : Pleads start n u c) (hm : Unmoved c c')
    (hs : attaching c'.conn_state = true ∨ c'.conn_state.asks = true)
    (hr : c'.conn_state.asks = true → c.conn_state.asks = true) (hu : uncounted c ≤ uncounted c')
    (hp : c'.conn_state.presses = true → c.hardrst_count ≤ N_HARDRESET_COUNT)
    (hb : c'.conn_state = .policy_snk_send_hardrst → c'.sub_state ≠ 0 → c'.tx_state ≠ .tx_idle) : Pleads start n u c' where
  sent := hm.sent.trans h.sent
  state := hs
  role ha := hm.sink (h.role (ha.imp_left hr))
  counted := by
    rw [hm.count]
    exact Nat.le_trans h.counted (Nat.add_le_add_left hu _)
  patient ht := by
    rw [hm.count]
    exact hp ht
  busy := hb

/-- It gives up. -/
theorem Pleads.to_attaching (h : Pleads start n u c) (hm : Unmoved c c') (hs : attaching c'.conn_state = true) :
    Pleads start n u c' := by
  refine h.unmoved hm (Or.inl hs) ?_ ?_ ?_ ?_
  · intro ha
    rw [not_asks_of_attaching hs] at ha
    cases ha
  · rw [uncounted_of_attaching hs]
    exact uncounted_le c
  · intro hp
    rw [not_presses_of_attaching hs] at hp
    cases hp
  · intro hc
    rw [hc] at hs
    cases hs

/-- It goes on listening. -/
theorem Pleads.to_listens (h : Pleads start n u c) (hm : Unmoved c c') (ha : c.conn_state.asks = true)
    (hu : uncounted c = 0) (hs : c'.conn_state.listens = true) : Pleads start n u c' := by
  refine h.unmoved hm (Or.inr (asks_of_listens hs)) (fun _ => ha) ?_ ?_ ?_
  · rw [hu]
    exact Nat.zero_le _
  · intro hp
    rw [not_presses_of_listens hs] at hp
    cases hp
  · intro hc
    rw [hc] at hs
    cases hs

/-- It presses on, while the count allows it. -/
theorem Pleads.to_presses (h : Pleads start n u c) (hm : Unmoved c c') (ha : c.conn_state.asks = true)
    (hu : uncounted c = 0) (hp : c.hardrst_count ≤ N_HARDRESET_COUNT) (hs : c'.conn_state.presses = true)
    (h0 : c'.conn_state = .policy_snk_send_hardrst → c'.sub_state = 0) : Pleads start n u c' := by
  refine h.unmoved hm (Or.inr (asks_of_presses hs)) (fun _ => ha) ?_ (fun _ => hp) fun hc hn => absurd (h0 hc) hn
  rw [hu]
  exact Nat.zero_le _

/-! ## The sink's handlers -/

theorem snk_startup_pleads (h : Pleads start n u chip) (hc : chip.conn_state = .policy_snk_startup) :
    Pleads start n u (fusb_state_snk_startup chip) := by
  have hu := uncounted_of_listens (c := chip) (by rw [hc]; rfl)
  refine h.to_listens ⟨?_, ?_, ?_⟩ (by rw [hc]; rfl) hu ?_
  all_goals simp [fusb_state_snk_startup, set_state, fusb_soft_reset_parameter, Chip.emit, set_vdm_state]
  · simp [hard_resets]
  · rfl

theorem snk_discovery_pleads (h : Pleads start n u chip) (hc : chip.conn_state = .policy_snk_discovery) :
    Pleads start n u (fusb_state_snk_discovery chip) :=
  h.to_listens (unmoved_of_eq rfl rfl rfl) (by rw [hc]; rfl) (uncounted_of_listens (by rw [hc]; rfl)) rfl

theorem give_up_pleads (h : Pleads start n u chip) : Pleads start n u (give_up chip) := by
  unfold give_up
  split
  · exact h.to_attaching (set_state_unmoved ..) rfl
  · exact h.to_attaching (set_state_unmoved ..) rfl

theorem snk_wait_caps_pleads (h : Pleads start n u chip) (hc : chip.conn_state = .policy_snk_wait_caps)
    (hrx : evt.rx = false) : Pleads start n u (fusb_state_snk_wait_caps chip evt) := by
  have ha : chip.conn_state.asks = true := by rw [hc]; rfl
  have hu := uncounted_of_listens (c := chip) (by rw [hc]; rfl)
  unfold fusb_state_snk_wait_caps
  rw [hrx, if_neg Bool.false_ne_true]
  split
  · split
    · rename_i hcount
      split
      · have hm : Unmoved chip (set_state { chip with vbus_begin := false } .policy_snk_send_softrst) := ⟨rfl, rfl, Or.inl rfl⟩
        exact h.to_presses hm ha hu hcount rfl (fun _ => rfl)
      · exact h.to_presses (set_state_unmoved ..) ha hu hcount rfl (fun _ => rfl)
    · exact give_up_pleads h
  · split
    · exact give_up_pleads h
    · exact h

theorem transition_default_pleads (h : Pleads start n u chip) (hc : chip.conn_state = .policy_snk_transition_default) :
    Pleads start n u (fusb_state_snk_transition_default chip evt) := by
  -- from anything in this state to it, or on to the startup
  have ho : ∀ {c c' : Chip}, Pleads start n u c → c.conn_state = .policy_snk_transition_default → c'.toSupply = c.toSupply →
      c'.log = c.log → c'.notify.power_role = c.notify.power_role →
        c'.conn_state = .policy_snk_transition_default ∨ c'.conn_state = .policy_snk_startup → Pleads start n u c' := by
    intro c c' h hc hs hl hr hc'
    refine h.to_listens (unmoved_of_eq hs hl hr) (by rw [hc]; rfl) (uncounted_of_listens (by rw [hc]; rfl)) ?_
    rcases hc' with hc' | hc' <;> rw [hc'] <;> rfl
  have h1 : ∀ {c : Chip}, Pleads start n u c → c.conn_state = .policy_snk_transition_default →
      Pleads start n u (fusb_state_snk_transition_default.case_1 c evt) := by
    intro c h hc
    unfold fusb_state_snk_transition_default.case_1
    dsimp only
    repeat' split
    · exact ho h hc rfl rfl rfl (Or.inl hc)
    · exact ho h hc rfl rfl rfl (Or.inr rfl)
    · exact ho h hc rfl rfl rfl (Or.inl hc)
  unfold fusb_state_snk_transition_default
  split
  · dsimp only
    split
    · exact h1 (ho h hc (by simp [timer_state_start, timer_mux_start]) (by simp [timer_state_start, timer_mux_start])
        (by simp [timer_state_start, timer_mux_start]) (Or.inl (by simpa [timer_state_start, timer_mux_start] using hc)))
        (by simpa [timer_state_start, timer_mux_start] using hc)
    · exact h1 (ho h hc rfl rfl rfl (Or.inl hc)) hc
  · exact h1 h hc
  · dsimp only
    repeat' split
    · exact ho h hc rfl rfl rfl (Or.inr rfl)
    · exact ho h hc rfl rfl rfl (Or.inr rfl)
    · exact ho h hc rfl rfl rfl (Or.inl hc)

theorem send_data_unmoved (chip : Chip) : Unmoved chip (policy_send_data chip) := by
  by_cases ht : chip.tx_state = .tx_idle
  · rw [policy_send_data_idle chip ht]
    exact ⟨rfl, rfl, Or.inl rfl⟩
  · rw [policy_send_data_of_ne_idle chip ht]
    exact .refl chip

theorem uncounted_of_softrst (h : c.conn_state = .policy_snk_send_softrst) : uncounted c = 0 := by
  unfold uncounted
  rw [h]
  rfl

theorem Pleads.softrst (h : Pleads start n u c) (hc : c.conn_state = .policy_snk_send_softrst) (hm : Unmoved c c')
    (hc' : c'.conn_state = .policy_snk_send_softrst) : Pleads start n u c' := by
  refine h.to_presses hm (by rw [hc]; rfl) (uncounted_of_softrst hc) (h.patient (by rw [hc]; rfl)) (by rw [hc']; rfl) ?_
  intro hn
  rw [hc'] at hn
  cases hn

/-- A soft reset is sent, and a hard reset follows. -/
theorem send_softreset_pleads (h : Pleads start n u chip) (hc : chip.conn_state = .policy_snk_send_softrst)
    (hrx : evt.rx = false) (accepted : Chip → Chip) :
    Pleads start n u (send_softreset chip evt accepted .policy_snk_send_hardrst) := by
  have hd : ∀ {c : Chip}, Pleads start n u c → c.conn_state.presses = true → uncounted c = 0 →
      Pleads start n u (send_softreset.case_default c evt accepted .policy_snk_send_hardrst) := by
    intro c h hp hu
    unfold send_softreset.case_default
    rw [hrx, if_neg Bool.false_ne_true]
    split
    · exact h.to_presses (set_state_unmoved ..) (asks_of_presses hp) hu (h.patient hp) rfl (fun _ => rfl)
    · exact h
  have hw : ∀ {c : Chip}, Pleads start n u c → c.conn_state = .policy_snk_send_softrst →
      let c' := send_and_wait c .policy_snk_send_hardrst
      Pleads start n u c' ∧ c'.conn_state.presses = true ∧ uncounted c' = 0 := by
    intro c h hc
    have ho : ∀ {c' : Chip}, Unmoved c c' → c'.conn_state = .policy_snk_send_softrst →
        Pleads start n u c' ∧ c'.conn_state.presses = true ∧ uncounted c' = 0 := fun hm hc' =>
      ⟨h.softrst hc hm hc', by rw [hc']; rfl, uncounted_of_softrst hc'⟩
    unfold send_and_wait
    dsimp only
    rcases send_then_cases c (fun chip => { timer_state_start chip T_SENDER_RESPONSE with sub_state := chip.sub_state + 1 })
      (fun chip => set_state chip .policy_snk_send_hardrst) with ⟨_, he⟩ | ⟨_, he⟩ | ⟨_, _, he⟩ <;> rw [he]
    · exact ho (unmoved_of_eq rfl rfl rfl) hc
    · refine ⟨?_, rfl, rfl⟩
      exact h.to_presses (set_state_unmoved ..) (by rw [hc]; rfl) (uncounted_of_softrst hc) (h.patient (by rw [hc]; rfl)) rfl
        fun _ => rfl
    · exact ho (send_data_unmoved c) (by simpa using hc)
  have h1 : ∀ {c : Chip}, Pleads start n u c → c.conn_state = .policy_snk_send_softrst →
      Pleads start n u (send_softreset.case_1 c evt accepted .policy_snk_send_hardrst) := by
    intro c h hc
    obtain ⟨hs, hp, hu⟩ := hw h hc
    unfold send_softreset.case_1
    dsimp only
    split
    · exact hs
    · exact hd hs hp hu
  unfold send_softreset
  split
  · exact h1 (h.softrst hc ⟨rfl, rfl, Or.inl rfl⟩ hc) hc
  · exact h1 h hc
  · exact hd h (by rw [hc]; rfl) (uncounted_of_softrst hc)

/-- What an invocation does: at most one hard reset is sent, and only while the count allows it. -/
def Asked (start n u : Nat) (chip : Chip) : Prop :=
  Pleads start n u chip ∨
    Pleads start (n + 1) u chip ∧ chip.conn_state = .policy_snk_send_hardrst ∧ n ≤ u + N_HARDRESET_COUNT

theorem hard_resets_cons (h : c'.log = .hardrst :: c.log) : hard_resets c' = hard_resets c + 1 := by
  rw [hard_resets, h]
  exact List.countP_cons_of_pos rfl

theorem uncounted_sent (hc : c.conn_state = .policy_snk_send_hardrst) (hs : c.sub_state ≠ 0) : uncounted c = 1 := by
  unfold uncounted
  rw [hc]
  exact if_neg hs

/-- The hard reset goes out. -/
theorem Pleads.sends (h : Pleads start n u c) (hc : c.conn_state = .policy_snk_send_hardrst) (h0 : c.sub_state = 0)
    (hc' : c'.conn_state = .policy_snk_send_hardrst) (hs : c'.sub_state ≠ 0) (ht : c'.tx_state ≠ .tx_idle)
    (hl : c'.log = .hardrst :: c.log) (hp : c'.hardrst_count = c.hardrst_count)
    (hr : c'.notify.power_role = c.notify.power_role) : Asked start n u c' := by
  have hu : uncounted c = 0 := by
    unfold uncounted
    rw [hc]
    exact if_pos h0
  have hn := h.counted
  have hcount := h.patient (by rw [hc]; rfl)
  refine Or.inr ⟨?_, hc', by omega⟩
  refine ⟨?_, Or.inr (by rw [hc']; rfl), fun _ => ?_, ?_, fun _ => by rwa [hp], fun _ _ => ht⟩
  · rw [hard_resets_cons hl, h.sent, Nat.add_assoc]
  · rw [hr]
    exact h.role (Or.inl (by rw [hc]; rfl))
  · rw [uncounted_sent hc' hs, hp]
    omega

/-- It ends, and is counted. -/
theorem Pleads.ends (h : Pleads start n u c) (hc : c.conn_state = .policy_snk_send_hardrst) (hs : c.sub_state ≠ 0) :
    Pleads start n u (set_state { c with hardrst_count := c.hardrst_count + 1 } .policy_snk_transition_default) where
  sent := h.sent
  state := Or.inr rfl
  role _ := h.role (Or.inl (by rw [hc]; rfl))
  counted := by
    have hn := h.counted
    rw [uncounted_sent hc hs] at hn
    exact Nat.le_trans hn (Nat.le_of_eq (Nat.add_assoc ..))
  patient hp := by cases hp
  busy hn := by cases hn

/-- Once it is out, its end is reported, or it fails. -/
theorem policy_send_hardrst_busy (h : chip.tx_state ≠ .tx_idle) :
    policy_send_hardrst chip evt = chip ∨ policy_send_hardrst chip evt = { chip with tx_state := .tx_success } := by
  unfold policy_send_hardrst
  split
  · rename_i ht
    exact absurd ht h
  · split
    · exact Or.inr rfl
    · exact Or.inl rfl

/-- Whatever the transmitter says of the hard reset. -/
theorem Pleads.reported (h : Pleads start n u chip) (hc : chip.conn_state = .policy_snk_send_hardrst) (hs : chip.sub_state ≠ 0) :
    Pleads start n u (match chip.tx_state with
      | .tx_success => set_state { chip with hardrst_count := chip.hardrst_count + 1 } .policy_snk_transition_default
      | .tx_failed => set_state chip .error_recovery
      | _ => chip) := by
  split
  · exact h.ends hc hs
  · exact h.to_attaching (set_state_unmoved ..) rfl
  · exact h

theorem send_hardreset_asked (h : Pleads start n u chip) (hc : chip.conn_state = .policy_snk_send_hardrst) :
    Asked start n u (fusb_state_snk_send_hardreset chip evt) := by
  unfold fusb_state_snk_send_hardreset send_hardreset
  split
  · rename_i h0
    exact h.sends hc h0 hc (Nat.succ_ne_zero 0) (fun hb : TxState.tx_busy = .tx_idle => by cases hb) rfl rfl rfl
  · rename_i h0
    refine Or.inl ?_
    unfold send_hardreset.case_default
    rcases @policy_send_hardrst_busy chip evt (h.busy hc h0) with he | he <;> rw [he]
    · exact h.reported hc h0
    · have hsent : Pleads start n u { chip with tx_state := .tx_success } := by
        refine ⟨h.sent, h.state, h.role, h.counted, h.patient, ?_⟩
        intro _ _ ht
        cases ht
      exact hsent.reported hc h0

/-! ## The switch -/

/-- Nothing received, and not in `attached_source`. -/
theorem dispatch_asked (h : Pleads start n u chip) (hrx : evt.rx = false) (hs : chip.conn_state ≠ .attached_source)
    (h0 : chip.conn_state = .attached_sink → n = 0) : Asked start n u (dispatch chip evt) := by
  rcases h.state with ha | ha
  · refine Or.inl ?_
    rcases @attach_idles chip evt ha hs with hi | ⟨hc, hc', hr, hl⟩
    · exact h.to_attaching hi.toUnmoved hi.state
    · obtain rfl := h0 hc
      refine ⟨hl.trans h.sent, Or.inr (by rw [hc']; rfl), fun _ => hr, Nat.zero_le _, ?_, ?_⟩
      · intro hp
        rw [hc'] at hp
        cases hp
      · intro hn
        rw [hc'] at hn
        cases hn
  · unfold dispatch
    cases hc : chip.conn_state
    all_goals try (rw [hc] at ha; cases ha)
    · exact Or.inl (snk_startup_pleads h hc)
    · exact Or.inl (snk_discovery_pleads h hc)
    · exact Or.inl (snk_wait_caps_pleads h hc hrx)
    · exact Or.inl (send_softreset_pleads h hc hrx _)
    · exact send_hardreset_asked h hc
    · exact Or.inl (transition_default_pleads h hc)

/-! ## Up to the switch -/

/-- A change that the state machine does not see. -/
theorem Pleads.same (h : Pleads start n u c) (hm : Unmoved c c') (hc : c'.conn_state = c.conn_state)
    (hs : c'.sub_state = c.sub_state) (ht : c'.tx_state = .tx_idle → c.tx_state = .tx_idle) : Pleads start n u c' := by
  have hu : uncounted c' = uncounted c := by
    unfold uncounted
    rw [hc, hs]
  refine h.unmoved hm (by rw [hc]; exact h.state) (by rw [hc]; exact id) (Nat.le_of_eq hu.symm) ?_ ?_
  · rw [hc]
    exact h.patient
  · rw [hc, hs]
    exact fun hb h0 hi => h.busy hb h0 (ht hi)

/-- What is known at the switch; `reported` says that a hard reset is reported in this invocation. -/
structure Poised (start n u : Nat) (reported : Bool) (c : Chip) : Prop extends Pleads start n u c where
  fresh : c.conn_state = .attached_sink → n = 0
  sink : c.conn_state ≠ .attached_source
  excused : reported = true → n ≤ u + c.hardrst_count ∧ c.notify.power_role = .SINK

variable {reported : Bool}

theorem Poised.same (h : Poised start n u reported c) (hm : Unmoved c c') (hc : c'.conn_state = c.conn_state)
    (hs : c'.sub_state = c.sub_state) (ht : c'.tx_state = .tx_idle → c.tx_state = .tx_idle) :
    Poised start n u reported c' where
  toPleads := h.toPleads.same hm hc hs ht
  fresh := by
    rw [hc]
    exact h.fresh
  sink := by
    rw [hc]
    exact h.sink
  excused hr := by
    rw [hm.count]
    exact ⟨(h.excused hr).1, hm.sink (h.excused hr).2⟩

theorem Poised.unattached (h : Poised start n u reported c) : Poised start n u reported (set_state_unattached c) := by
  have hm := unattached_unmoved c
  have hc := (@set_state_unattached_frame c).1
  refine ⟨h.to_attaching hm (unattached_attaching c), ?_, ?_, fun hr => ?_⟩
  · rw [hc]
    exact fun h => by cases h
  · rw [hc]
    exact fun h => by cases h
  · rw [hm.count]
    exact ⟨(h.excused hr).1, hm.sink (h.excused hr).2⟩

/-- The policy starts over, and the hard reset that was sent last is not counted. -/
theorem Poised.hard_reset (h : Poised start n u reported c) (hr : reported = true) :
    Poised start n u reported (pd_execute_hard_reset (fusb302_pd_reset c)) := by
  obtain ⟨hn, hs⟩ := h.excused hr
  have he : pd_execute_hard_reset (fusb302_pd_reset c) =
      set_state (set_vdm_state { fusb302_pd_reset c with msg_id := 0 } .DISCOVERY_ID) .policy_snk_transition_default :=
    if_neg (by rw [show (set_vdm_state { fusb302_pd_reset c with msg_id := 0 } .DISCOVERY_ID).notify.power_role = .SINK from hs]; decide)
  rw [he]
  exact {
    sent := h.sent
    state := Or.inr rfl
    role := fun _ => hs
    counted := hn
    patient := fun hp => by cases hp
    busy := fun hb => by cases hb
    fresh := fun hf => by cases hf
    sink := fun hf => by cases hf
    excused := fun _ => ⟨hn, hs⟩ }

theorem get_message_unmoved (chip : Chip) : Unmoved chip (tcpm_get_message chip) := by
  obtain ⟨_, hr, _, _, _, hs, _⟩ := tcpm_get_message_frame chip
  refine ⟨congrArg Supply.hardrst_count hs, ?_, Or.inl hr⟩
  rcases get_message_log chip chip.fifo with hl | ⟨m, hl⟩
  · unfold hard_resets tcpm_get_message
    rw [hl]
  · unfold hard_resets tcpm_get_message
    rw [hl]
    rfl

theorem poised_passes (hrx : bit env.interruptb INTERRUPTB_GCRCSENT = false) :
    Passes chip env (Poised start n u (hard_reset_reported chip env)) where
  observe _ h := h.same ⟨rfl, rfl, Or.inl rfl⟩ rfl rfl id
  phy c c' hk _ h := by
    have hm := hk.unmoved
    obtain ⟨hp, _, ht, _⟩ := hk
    exact h.same hm (congrArg Policy.conn_state hp) (congrArg Policy.sub_state hp) fun hi => by rwa [← ht]
  sent _ h := h.same ⟨rfl, rfl, Or.inl rfl⟩ rfl rfl fun hi => by cases hi
  retryfail _ h := h.same ⟨rfl, rfl, Or.inl rfl⟩ rfl rfl fun hi => by cases hi
  hard_reset hr _ h := h.hard_reset hr
  hardsent _ h := h.same ⟨rfl, rfl, Or.inl rfl⟩ rfl rfl fun hi => by cases hi
  expire _ _ h := h.same ⟨rfl, rfl, Or.inl rfl⟩ rfl rfl id
  collect _ _ _ h := h.same ⟨rfl, rfl, Or.inl rfl⟩ rfl rfl id
  unattached _ h := h.unattached
  message c h := by
    obtain ⟨_, _, hp, _, ht, _⟩ := tcpm_get_message_frame c
    exact h.same (get_message_unmoved c) (congrArg Policy.conn_state hp) (congrArg Policy.sub_state hp) fun hi => by rwa [← ht]
  softrst hs := by
    rw [soft_reset_received, events, Delivery.alerts_rx, hrx] at hs
    cases hs
  count _ h := h.same ⟨rfl, rfl, Or.inl rfl⟩ rfl rfl id

/-! ## Steps and runs -/

/-- The HARDSENT reports after which no hard reset was counted: every second one. -/
def excuses (n owed : Nat) (retry : Bool) : Nat := (n - owed + retry.toNat) / 2

/-- In a run that started as an attached sink and has heard nothing, `n` hard resets were sent, and `owed` of them are
still to be reported. -/
structure Hushed (start n owed : Nat) (chip : Chip) : Prop extends Pleads start n (excuses n owed chip.retry) chip where
  owed : owed ≤ n
  bound : n ≤ 2 * (N_HARDRESET_COUNT + 1)
  fresh : chip.conn_state = .attached_sink → n = 0
  sink : chip.conn_state ≠ .attached_source

variable {owed : Nat} {act : Act}

/-- A report that finds `retry` clear is an excuse more, another one is none. -/
theorem excuses_report (chip : Chip) (act : Act) (h : act.hardsent.toNat ≤ owed) (ho : owed ≤ n) :
    excuses n (owed - act.hardsent.toNat) (chip.retry != act.hardsent) =
      excuses n owed chip.retry + (act.hardsent && !chip.retry).toNat := by
  unfold excuses
  cases hb : act.hardsent <;> cases chip.retry <;> simp [hb] at h ⊢ <;> omega

theorem excuses_add (n owed d : Nat) (retry : Bool) : excuses (n + d) (owed + d) retry = excuses n owed retry := by
  unfold excuses
  rw [Nat.add_sub_add_right]

theorem work_poised (h : Hushed start n owed chip) (hq : (Act.work env).receives = false) (ho : env.hardsent.toNat ≤ owed) :
    Poised start n (excuses n (owed - env.hardsent.toNat) (chip.retry != env.hardsent)) (hard_reset_reported chip env) chip := by
  have hx := excuses_report chip (.work env) ho h.owed
  have hrep : hard_reset_reported chip env = (env.hardsent && !chip.retry) := by
    rw [hard_reset_reported, (Bool.or_eq_false_iff.1 hq).2]
    rfl
  change excuses n (owed - env.hardsent.toNat) (chip.retry != env.hardsent) =
    excuses n owed chip.retry + (env.hardsent && !chip.retry).toNat at hx
  have hn := h.counted
  have hu := uncounted_le chip
  rw [hx, hrep]
  refine ⟨⟨h.sent, h.state, h.role, by omega, h.patient, h.busy⟩, h.fresh, h.sink, ?_⟩
  intro hr
  have hs : env.hardsent = true := (Bool.and_eq_true_iff.1 hr).1
  rw [hs] at ho
  have hpos : 0 < n := Nat.lt_of_lt_of_le ho h.owed
  rw [hr, Bool.toNat_true]
  exact ⟨by omega, h.role (Or.inr hpos)⟩

theorem step_asked (h : Hushed start n owed chip) (hq : act.receives = false) (ho : act.hardsent.toNat ≤ owed) :
    Asked start n (excuses n (owed - act.hardsent.toNat) (step chip act).retry) (step chip act) := by
  rw [step_retry]
  have ht : Pleads start n (excuses n (owed - 0) (chip.retry != false)) (fusb_timer_handler chip act) := by
    obtain ⟨t, he⟩ := fusb_timer_handler_eq chip act
    rw [he, Bool.bne_false]
    exact h.toPleads.same ⟨rfl, rfl, Or.inl rfl⟩ rfl rfl id
  cases act with
  | timer_state => exact Or.inl ht
  | timer_mux => exact Or.inl ht
  | work env =>
    have hp := work_poised h hq ho
    have hrx : bit env.interruptb INTERRUPTB_GCRCSENT = false := (Bool.or_eq_false_iff.1 hq).1
    have ha := at_switch_keeps (poised_passes hrx) hp
    rw [step_work]
    split
    · exact dispatch_asked ha.toPleads ((Delivery.alerts_rx chip env).trans hrx) ha.sink ha.fresh
    · exact Or.inl ha.toPleads

/-- A step of the run. -/
theorem step_hushed (h : Hushed start n owed chip) (hq : act.receives = false)
    (he : ¬enters chip act .attached_source ∧ ¬enters chip act .attached_sink) (ho : act.hardsent.toNat ≤ owed) :
    let d := hard_resets (step chip act) - hard_resets chip
    Hushed start (n + d) (owed - act.hardsent.toNat + d) (step chip act) := by
  intro d
  have hsource : (step chip act).conn_state ≠ .attached_source := fun hc => he.1 ⟨h.sink, hc⟩
  have hsink : (step chip act).conn_state = .attached_sink → n = 0 := by
    intro hc
    refine h.fresh (not_not.1 fun hne => ?_)
    exact he.2 ⟨hne, hc⟩
  rcases step_asked h hq ho with hp | ⟨hp, hc, hn⟩
  · have hd : d = 0 := by
      have hs := hp.sent
      have h0 := h.sent
      omega
    rw [hd]
    exact ⟨hp, Nat.le_trans (Nat.sub_le ..) h.owed, h.bound, hsink, hsource⟩
  · have hd : d = 1 := by
      have hs := hp.sent
      have h0 := h.sent
      omega
    have hw := h.owed
    have hr : (step chip act).retry.toNat ≤ 1 := Bool.toNat_le _
    rw [hd]
    refine ⟨by rwa [excuses_add], by omega, ?_, ?_, hsource⟩
    · unfold excuses at hn
      omega
    · rw [hc]
      exact fun hc => by cases hc

/-- However the reports and the timers fall, a sink that hears nothing sends no
more hard resets than this before it attaches again. -/
theorem run_hushed (acts : List Act) {n owed : Nat} {chip : Chip} (h : Hushed start n owed chip)
    (hq : Runs.Meets step (fun c act => act.receives = false ∧ ¬enters c act .attached_source ∧ ¬enters c act .attached_sink)
      chip acts) (hr : Reported chip owed acts) :
    hard_resets (Runs.run step chip acts) ≤ start + 2 * (N_HARDRESET_COUNT + 1) := by
  induction acts generalizing n owed chip with
  | nil =>
    have hs := h.sent
    have hb := h.bound
    rw [Runs.run_nil]
    omega
  | cons act acts ih => exact ih (step_hushed h hq.1.1 hq.1.2 hr.1) hq.2 hr.2

/-- An attached sink has sent none. -/
theorem hushed_of_attached (h : chip.conn_state = .attached_sink) : Hushed (hard_resets chip) 0 0 chip where
  sent := rfl
  state := Or.inl (by rw [h]; rfl)
  role ha := by
    rw [h] at ha
    rcases ha with ha | ha <;> cases ha
  counted := Nat.zero_le _
  patient hp := by
    rw [h] at hp
    cases hp
  busy hc := by
    rw [h] at hc
    cases hc
  owed := Nat.le_refl 0
  bound := Nat.zero_le _
  fresh _ := rfl
  sink := by
    rw [h]
    exact fun hc => by cases hc

end Fusb302
