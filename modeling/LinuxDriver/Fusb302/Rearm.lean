import LinuxDriver.Fusb302.Expiry
import LinuxDriver.Fusb302.Modes
/-!
# What the handlers do to the timers

Every handler of the state machine starts and disables timers and does nothing
else to them.
-/

namespace Fusb302.Expiry

/-! ## Starting and disabling -/

/-- A timer is started, or its field is set to off. -/
inductive TimerOp
  | start (t : HrTimer) (d : Duration)
  | disable (t : HrTimer)

/-- The timer it concerns. -/
def TimerOp.timer : TimerOp → HrTimer
  | .start t _ | .disable t => t

/-- One operation on the two timers. -/
def rearm (x : Timers) : TimerOp → Timers
  | .start .timer_state_machine d => { x with timer_state := d.ms, timer_state_machine := true }
  | .start .timer_mux_machine d => { x with timer_mux := d.ms, timer_mux_machine := true }
  | .disable .timer_state_machine => { x with timer_state := T_DISABLED }
  | .disable .timer_mux_machine => { x with timer_mux := T_DISABLED }

/-- Starting and disabling leads from `x` to `y`. -/
def Rearmed (x y : Timers) : Prop := ∃ ops, y = Runs.run rearm x ops

variable {x y z : Timers} {ms : Nat}

namespace Rearmed

theorem refl (x : Timers) : Rearmed x x := ⟨[], rfl⟩

theorem op (h : Rearmed x y) (o : TimerOp) : Rearmed x (rearm y o) := by
  obtain ⟨ops, rfl⟩ := h
  exact ⟨ops ++ [o], by rw [Runs.run_append]; rfl⟩

theorem state (h : Rearmed x y) (hd : 0 < ms ∧ ms < T_DISABLED) :
    Rearmed x { y with timer_state := ms, timer_state_machine := true } := h.op (.start .timer_state_machine ⟨ms, hd.1, hd.2⟩)

theorem mux (h : Rearmed x y) (hd : 0 < ms ∧ ms < T_DISABLED) :
    Rearmed x { y with timer_mux := ms, timer_mux_machine := true } := h.op (.start .timer_mux_machine ⟨ms, hd.1, hd.2⟩)

theorem no_state (h : Rearmed x y) : Rearmed x { y with timer_state := T_DISABLED } := h.op (.disable .timer_state_machine)

theorem no_mux (h : Rearmed x y) : Rearmed x { y with timer_mux := T_DISABLED } := h.op (.disable .timer_mux_machine)

theorem kept (h : Rearmed x y) (he : z = y) : Rearmed x z := he ▸ h

end Rearmed

variable {chip : Chip} {evt : Evt}

theorem rearmed_timed (x : Timers) : Timed fun y _ => Rearmed x y where
  state h hd := h.state hd
  mux h hd := h.mux hd
  no_state h := h.no_state
  no_mux h := h.no_mux

/-! ## The ready states -/

theorem store_svids_timers (c : Chip) (k : Nat) : (store_svids c k).toTimers = c.toTimers := by
  induction k generalizing c with
  | zero => rfl
  | succ k ih =>
    unfold store_svids
    dsimp only
    repeat' split
    · rfl
    · rfl
    · exact ih _

theorem process_vdm_msg_timers (c : Chip) : (process_vdm_msg c).toTimers = c.toTimers := by
  have hack : ∀ (c : Chip) (cmd : Nat), (process_vdm_ack c cmd).toTimers = c.toTimers := by
    intro c cmd
    unfold process_vdm_ack store_mode
    dsimp only
    repeat' split
    all_goals first | rfl | exact store_svids_timers ..
  unfold process_vdm_msg
  dsimp only
  repeat' split
  all_goals first | rfl | exact hack ..

theorem ready_rx_rearmed (h : Rearmed x chip.toTimers) : Rearmed x (ready_rx chip evt).toTimers := by
  unfold ready_rx
  repeat' split
  · exact (h.kept (process_vdm_msg_timers chip)).no_state
  · exact h.kept (by simp)
  · exact h
  · exact h

theorem src_ready_rearmed (h : Rearmed x chip.toTimers) : Rearmed x (fusb_state_src_ready chip evt).toTimers := by
  have hr : Rearmed x (ready_rx chip evt).toTimers := ready_rx_rearmed h
  unfold fusb_state_src_ready
  dsimp only
  repeat' split
  · exact hr
  · exact auto_vdm_machine_timed (rearmed_timed x) hr
  · exact hr

theorem snk_ready_rearmed (h : Rearmed x chip.toTimers) : Rearmed x (fusb_state_snk_ready chip evt).toTimers := by
  have hr : Rearmed x (ready_rx chip evt).toTimers := ready_rx_rearmed h
  have hs : ∀ {c : Chip}, Rearmed x c.toTimers →
      Rearmed x (platform_fusb_notify (fusb_state_swap_msg_process c evt)).toTimers := fun hc => hc.kept (by simp)
  unfold fusb_state_snk_ready
  dsimp only
  split
  · exact hs (auto_vdm_machine_timed (rearmed_timed x) hr)
  · exact hs hr

/-! ## The attach phase -/

theorem set_state_unattached_rearmed (h : Rearmed x chip.toTimers) : Rearmed x (set_state_unattached chip).toTimers :=
  h.kept (by simp [set_state_unattached, set_state])

theorem try_attach_set_rearmed (h : Rearmed x chip.toTimers) (mode : RoleMode) :
    Rearmed x (fusb_state_try_attach_set chip mode).toTimers := by
  unfold fusb_state_try_attach_set
  dsimp only
  split
  · exact h
  · have hi : Rearmed x (tcpm_set_cc (tcpm_init chip) (if mode = .DFP then .DFP else .UFP)).toTimers := h.kept (by simp)
    exact hi.mux (by decide)

theorem start_debounce_rearmed (h : Rearmed x chip.toTimers) : Rearmed x (start_debounce chip).toTimers := by
  have hm : Rearmed x (tcpm_get_cc (tcpm_set_polarity chip (cc_state_polarity chip))).chip.toTimers := h.kept (by simp)
  exact hm.mux (by decide)

theorem debounce_timers (c : Chip) : (debounce c).toTimers = c.toTimers := by
  unfold debounce
  dsimp only
  split <;> simp

theorem unattached_rearmed (h : Rearmed x chip.toTimers) : Rearmed x (fusb_state_unattached chip evt).toTimers := by
  unfold fusb_state_unattached
  dsimp only
  split
  · apply start_debounce_rearmed
    split
    all_goals exact h
  · exact h

theorem attach_wait_sink_measure_rearmed (h : Rearmed x chip.toTimers) :
    Rearmed x (attach_wait_sink_measure chip).toTimers := by
  have hd : Rearmed x (debounce chip).toTimers := h.kept (debounce_timers chip)
  unfold attach_wait_sink_measure
  dsimp only
  repeat' split
  · exact hd.no_mux.mux (by decide)
  · exact set_state_unattached_rearmed hd.no_mux
  · exact hd.mux (by decide)

theorem attach_wait_sink_rearmed (h : Rearmed x chip.toTimers) : Rearmed x (fusb_state_attach_wait_sink chip evt).toTimers := by
  unfold fusb_state_attach_wait_sink
  dsimp only
  repeat' split
  · exact try_attach_set_rearmed h.no_mux _
  · exact h.no_mux.mux (by decide)
  · exact attach_wait_sink_measure_rearmed h.no_mux
  · exact attach_wait_sink_measure_rearmed h
  · exact h

theorem attach_wait_source_rearmed (h : Rearmed x chip.toTimers) :
    Rearmed x (fusb_state_attach_wait_source chip evt).toTimers := by
  have hd : Rearmed x (debounce chip).toTimers := h.kept (debounce_timers chip)
  unfold fusb_state_attach_wait_source
  dsimp only
  repeat' split
  · exact try_attach_set_rearmed hd _
  · exact hd
  · exact set_state_unattached_rearmed hd
  · exact hd.mux (by decide)
  · exact h

theorem attached_sink_rearmed (h : Rearmed x chip.toTimers) : Rearmed x (fusb_state_attached_sink chip evt).toTimers := by
  unfold fusb_state_attached_sink
  dsimp only
  repeat' split
  · exact try_attach_set_rearmed h.no_mux.no_state _
  · exact h.no_mux.no_state
  · exact set_state_unattached_rearmed h
  · exact h.state (by decide)

theorem try_attach_rearmed (h : Rearmed x chip.toTimers) (mode : RoleMode) :
    Rearmed x (fusb_state_try_attach chip evt mode).toTimers := by
  unfold fusb_state_try_attach
  dsimp only
  split
  · apply start_debounce_rearmed
    split
    all_goals exact h
  · repeat' split
    · apply try_attach_set_rearmed
      exact h
    · apply try_attach_set_rearmed
      exact h
    · exact h
    · exact h

theorem try_detach_rearmed (h : Rearmed x chip.toTimers) : Rearmed x (fusb_try_detach chip).toTimers := by
  rcases @fusb_try_detach_cases chip with ⟨c, hk, _, he | he⟩ | he <;> rw [he]
  · exact h.kept hk.2.1
  · exact set_state_unattached_rearmed (h.kept hk.2.1)
  · exact h

/-! ## The switch -/

theorem attaching_rearmed (h : Rearmed x chip.toTimers) (ha : attaching chip.conn_state = true) :
    Rearmed x (dispatch chip evt).toTimers := by
  unfold dispatch
  split
  all_goals rename_i hc
  all_goals try (rw [hc] at ha; cases ha)
  · exact h
  · exact set_state_unattached_rearmed h
  · exact unattached_rearmed h
  · exact attach_wait_sink_rearmed h
  · exact attach_wait_source_rearmed h
  · exact h.kept (by simp [fusb_state_attached_source, set_state])
  · exact attached_sink_rearmed h
  · exact try_attach_rearmed h _
  · exact try_attach_rearmed h _

theorem dispatch_rearmed (h : Rearmed x chip.toTimers) : Rearmed x (dispatch chip evt).toTimers := by
  cases ha : attaching chip.conn_state with
  | true => exact attaching_rearmed h ha
  | false =>
    by_cases hsrc : chip.conn_state = .policy_src_ready
    · simp only [dispatch, hsrc]
      exact src_ready_rearmed h
    · by_cases hsnk : chip.conn_state = .policy_snk_ready
      · simp only [dispatch, hsnk]
        exact snk_ready_rearmed h
      · exact dispatch_timed (rearmed_timed x) h ha ⟨hsrc, hsnk⟩

/-! ## The parts of an invocation -/

/-- What the tests of `tcpc_alert` keep: they report no timeout. -/
def Alerted (x : Timers) (a : Chip × Evt) : Prop :=
  Rearmed x a.1.toTimers ∧ a.2.timer_mux = false ∧ a.2.timer_state = false

theorem hard_reset_timers (c : Chip) : (pd_execute_hard_reset (fusb302_pd_reset c)).toTimers = c.toTimers := by
  unfold pd_execute_hard_reset
  dsimp only
  split <;> rfl

theorem tcpc_alert_alerted (h : Rearmed x chip.toTimers) (env : Env) : Alerted x (tcpc_alert chip env) := by
  have comp : ∀ a, Alerted x a → Alerted x (alert_comp_chng env a) := by
    intro a ha
    unfold alert_comp_chng
    split
    all_goals exact ha
  have vbusok : ∀ a, Alerted x a → Alerted x (alert_vbusok env a) := by
    intro a ha
    unfold alert_vbusok
    split
    all_goals exact ha
  have togdone : ∀ a, Alerted x a → Alerted x (alert_togdone env a) := by
    intro a ha
    unfold alert_togdone
    split
    all_goals exact ha
  have txsent : ∀ a, Alerted x a → Alerted x (alert_txsent env a) := by
    intro a ha
    unfold alert_txsent
    split
    all_goals exact ha
  have gcrcsent : ∀ a, Alerted x a → Alerted x (alert_gcrcsent env a) := by
    intro a ha
    unfold alert_gcrcsent
    split
    all_goals exact ha
  have hardrst : ∀ a, Alerted x a → Alerted x (alert_hardrst env a) := by
    intro a ha
    unfold alert_hardrst
    split
    · exact ⟨ha.1.kept (hard_reset_timers _), ha.2⟩
    · exact ha
  have retryfail : ∀ a, Alerted x a → Alerted x (alert_retryfail env a) := by
    intro a ha
    unfold alert_retryfail
    split
    all_goals exact ha
  have hardsent : ∀ a, Alerted x a → Alerted x (alert_hardsent env a) := by
    intro a ha
    unfold alert_hardsent
    repeat' split
    · exact ⟨ha.1.kept (hard_reset_timers _), ha.2⟩
    · exact ⟨ha.1.no_state, ha.2⟩
    · exact ha
  have h0 : Alerted x (chip, {}) := ⟨h, rfl, rfl⟩
  exact hardsent _ (retryfail _ (hardrst _ (gcrcsent _ (txsent _ (togdone _ (vbusok _ (comp _ h0)))))))

theorem before_switch_rearmed (h : Rearmed x chip.toTimers) : Rearmed x (before_switch chip evt).toTimers := by
  have hd : Rearmed x (detach chip evt).toTimers := by
    unfold detach
    split
    · exact try_detach_rearmed h
    · exact h
  have hr : Rearmed x (receive (detach chip evt) evt).toTimers := by
    have hm : Rearmed x (tcpm_get_message (detach chip evt)).toTimers :=
      hd.kept (tcpm_get_message_frame (detach chip evt)).2.2.2.1
    unfold receive
    dsimp only
    repeat' split
    all_goals first | exact hd | exact hm
  unfold before_switch count_sent
  split
  · exact hr
  · exact hr

end Fusb302.Expiry
