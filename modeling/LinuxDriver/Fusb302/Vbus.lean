import LinuxDriver.Fusb302.Frames
/-!
# VBUS

A port in a state of the sink's policy drives no VBUS, and a source that is
ready drives it, as long as three things do not happen. A port that drives
VBUS while its role is still that of a sink, as it does in the last part of a
power role swap, must not be sent back to the sink's policy; a board with both
VBUS GPIOs must not get ready, because the second overrules the first; and a
request must not be refused while VBUS is off under a contract.
-/

namespace Fusb302

variable {chip : Chip} {evt : Evt}

/-! ## The invariant -/

/-- The states in which VBUS must be off. -/
def vbus_off : ConnState → Bool
  | .unattached | .attach_wait_sink | .attach_wait_source | .attach_try_src | .attach_try_snk | .attached_sink
  | .policy_snk_startup | .policy_snk_discovery | .policy_snk_wait_caps | .policy_snk_evaluate_caps
  | .policy_snk_select_cap | .policy_snk_transition_sink | .policy_snk_ready | .policy_snk_send_softrst
  | .policy_snk_softrst | .policy_snk_send_hardrst | .policy_snk_transition_default | .policy_snk_prs_evaluate
  | .policy_snk_prs_accept | .policy_snk_prs_transition_to_off | .policy_snk_prs_assert_rp | .policy_snk_prs_reject
  | .policy_snk_prs_send_swap => true
  | _ => false

/-- VBUS is off where it must be, and on at a source that is ready. -/
structure VbusRight (chip : Chip) : Prop where
  off : vbus_off chip.conn_state = true → chip.gpio_vbus_5v ≠ some true
  on : chip.conn_state = .policy_src_ready → chip.gpio_vbus_5v ≠ some false

instance : Decidable (VbusRight chip) :=
  decidable_of_iff ((vbus_off chip.conn_state = true → chip.gpio_vbus_5v ≠ some true) ∧
      (chip.conn_state = .policy_src_ready → chip.gpio_vbus_5v ≠ some false))
    ⟨fun h => ⟨h.1, h.2⟩, fun h => ⟨h.off, h.on⟩⟩

/-- What a state asks of VBUS and of the role. -/
inductive Zone
  /-- Not attached: VBUS is off. -/
  | attach
  /-- The sink's policy and the first half of both swaps: VBUS is off and the role is SINK. -/
  | sink
  /-- VBUS is being turned on, and the role is still SINK. -/
  | source_on
  /-- A source with a contract: VBUS is on. -/
  | ready
  /-- A swap that either role may be in: VBUS is on at a source. -/
  | swap
  /-- Nothing is asked. -/
  | free
  /-- No run gets here. -/
  | unused
  deriving DecidableEq

/-- The zone of a state. -/
def zone_of : ConnState → Zone
  | .unattached | .attach_wait_sink | .attach_wait_source | .attach_try_src | .attach_try_snk | .attached_sink => .attach
  | .policy_snk_startup | .policy_snk_discovery | .policy_snk_wait_caps | .policy_snk_evaluate_caps
  | .policy_snk_select_cap | .policy_snk_transition_sink | .policy_snk_ready | .policy_snk_send_softrst
  | .policy_snk_softrst | .policy_snk_send_hardrst | .policy_snk_transition_default
  | .policy_snk_prs_transition_to_off | .policy_snk_prs_assert_rp | .policy_src_prs_assert_rd
  | .policy_src_prs_source_off => .sink
  | .policy_snk_prs_source_on => .source_on
  | .policy_src_ready | .policy_src_get_sink_caps => .ready
  | .policy_src_prs_evaluate | .policy_src_prs_accept | .policy_src_prs_reject
  | .policy_vcs_dfp_wait_for_ufp_vconn | .policy_vcs_dfp_turn_off_vconn | .policy_vcs_dfp_turn_on_vconn
  | .policy_vcs_dfp_send_ps_rdy | .policy_vcs_ufp_evaluate_swap | .policy_vcs_ufp_reject | .policy_vcs_ufp_accept
  | .policy_vcs_ufp_wait_for_dfp_vconn | .policy_vcs_ufp_turn_off_vconn | .policy_vcs_ufp_turn_on_vconn
  | .policy_vcs_ufp_send_ps_rdy | .policy_drs_ufp_evaluate | .policy_drs_ufp_accept | .policy_drs_ufp_reject
  | .policy_drs_ufp_change | .policy_drs_dfp_evaluate | .policy_drs_dfp_accept | .policy_drs_dfp_reject
  | .policy_drs_dfp_change => .swap
  | .policy_snk_prs_evaluate | .policy_snk_prs_accept | .policy_snk_prs_reject | .policy_snk_prs_send_swap
  | .policy_src_prs_send_swap | .policy_vcs_dfp_send_swap | .policy_drs_ufp_send_swap | .policy_drs_dfp_send_swap => .unused
  | _ => .free

/-- What is true of VBUS and the power role in a zone. -/
def Zone.holds (role : PowerRole) (vbus : Option Bool) : Zone → Prop
  | .attach => vbus ≠ some true
  | .sink => vbus ≠ some true ∧ role = .SINK
  | .source_on => role = .SINK
  | .ready => vbus ≠ some false
  | .swap => role = .SOURCE → vbus ≠ some false
  | .free => True
  | .unused => False

/-- The port is in a state that its role and its VBUS allow. -/
structure VbusAt (chip : Chip) : Prop where
  zone : (zone_of chip.conn_state).holds chip.notify.power_role chip.gpio_vbus_5v
  supply : chip.conn_state = .policy_src_transition_supply → 3 ≤ chip.sub_state →
    chip.gpio_vbus_5v = vbus_level chip true false

theorem VbusAt.right (h : VbusAt chip) : VbusRight chip := by
  have hz := h.zone
  refine ⟨?_, ?_⟩
  · intro ho
    cases hc : chip.conn_state <;> rw [hc] at ho hz <;> first
      | exact hz
      | exact hz.1
      | exact hz.elim
      | exact absurd ho (by decide)
  · intro hc
    rw [hc] at hz
    exact hz

/-- The role is SINK and VBUS is on. -/
def Burning (chip : Chip) : Prop := chip.notify.power_role = .SINK ∧ chip.gpio_vbus_5v = some true

instance : Decidable (Burning chip) := by unfold Burning; infer_instance

/-! ## Ways to keep it -/

variable {chip' : Chip}

/-- A change that keeps the state, the role and VBUS. -/
theorem VbusAt.stay (h : VbusAt chip) (hc : chip'.conn_state = chip.conn_state)
    (hr : chip'.notify.power_role = chip.notify.power_role) (hv : chip'.gpio_vbus_5v = chip.gpio_vbus_5v)
    (ho : chip'.gpio_vbus_other = chip.gpio_vbus_other)
    (hs : 3 ≤ chip'.sub_state → chip'.sub_state = chip.sub_state) : VbusAt chip' := by
  refine ⟨?_, ?_⟩
  · rw [hc, hr, hv]
    exact h.zone
  · intro hc' hs'
    rw [hv, h.supply (hc.symm.trans hc') (hs hs' ▸ hs')]
    simp [vbus_level, hv, ho]

/-- Outside the transition of the supply `sub_state` does not matter. -/
theorem vbus_of_zone (hn : chip.conn_state ≠ .policy_src_transition_supply)
    (hz : (zone_of chip.conn_state).holds chip.notify.power_role chip.gpio_vbus_5v) : VbusAt chip :=
  ⟨hz, fun hc => absurd hc hn⟩

theorem vbus_set_state {s : ConnState} (h : (zone_of s).holds chip.notify.power_role chip.gpio_vbus_5v) :
    VbusAt (set_state chip s) := ⟨h, fun _ hs => absurd hs (Nat.not_succ_le_zero 2)⟩

theorem vbus_send_then {success failed : Chip → Chip} (h : VbusAt chip) (hs : chip.tx_state = .tx_success → VbusAt (success chip))
    (hf : chip.tx_state = .tx_failed → VbusAt (failed chip)) : VbusAt (send_then chip success failed) := by
  rcases send_then_cases chip success failed with ⟨ht, he⟩ | ⟨ht, he⟩ | ⟨_, _, he⟩ <;> rw [he]
  · exact hs ht
  · exact hf ht
  · exact h.stay (by simp) (by simp) (by simp) (by simp) (by simp)

theorem VbusAt.build (h : VbusAt chip) (cmd : Nat) (is_DMT : Bool) : VbusAt (policy_send_data (build_mesg chip cmd is_DMT)) := by
  refine ⟨by simpa using h.zone, ?_⟩
  intro _ hs
  simp at hs

/-- The frame of a simple message has an outcome. -/
def reported (chip : Chip) : Bool :=
  chip.sub_state == 1 && (chip.tx_state == .tx_success || chip.tx_state == .tx_failed)

theorem vbus_simple_msg {cmd : Nat} {is_DMT : Bool} {success failed : ConnState} (h : VbusAt chip)
    (hs : reported chip = true → (zone_of success).holds chip.notify.power_role chip.gpio_vbus_5v)
    (hf : reported chip = true → (zone_of failed).holds chip.notify.power_role chip.gpio_vbus_5v) :
    VbusAt (fusb_state_send_simple_msg chip cmd is_DMT success failed) := by
  unfold fusb_state_send_simple_msg
  dsimp only
  split
  · rw [send_then_build_mesg]
    exact h.build cmd is_DMT
  · rename_i h1
    refine vbus_send_then h ?_ ?_
    · intro ht
      exact vbus_set_state (hs (by simp [reported, h1, ht]))
    · intro ht
      exact vbus_set_state (hf (by simp [reported, h1, ht]))
  · exact h

/-- A swap ends in the policy its role names, unless that leaves a sink with VBUS on. -/
theorem by_power_role_zone {src snk : ConnState} (hz : Zone.swap.holds chip.notify.power_role chip.gpio_vbus_5v)
    (hb : ¬Burning chip) (hs : ∀ r v, Zone.ready.holds r v → (zone_of src).holds r v) (hk : zone_of snk = .sink) :
    (zone_of (by_power_role chip src snk)).holds chip.notify.power_role chip.gpio_vbus_5v := by
  unfold by_power_role
  split
  · rename_i hr
    exact hs _ _ (hz hr)
  · rename_i hr
    have hr : chip.notify.power_role = .SINK := by
      cases h : chip.notify.power_role
      · rfl
      · exact absurd h hr
    rw [hk]
    exact ⟨fun hv => hb ⟨hr, hv⟩, hr⟩

/-! ## What goes wrong -/

/-- The handler leaves for the policy that the role names. -/
def by_role (chip : Chip) (evt : Evt) : Bool :=
  match chip.conn_state with
  | .policy_snk_prs_source_on => chip.sub_state == 2 && chip.tx_state == .tx_failed
  | .policy_src_prs_accept | .policy_src_prs_reject | .policy_vcs_ufp_reject | .policy_drs_dfp_reject
  | .policy_drs_ufp_reject | .policy_vcs_dfp_send_ps_rdy | .policy_vcs_ufp_send_ps_rdy => reported chip
  | .policy_vcs_ufp_accept => chip.sub_state == 1 && chip.tx_state == .tx_failed
  | .policy_vcs_dfp_wait_for_ufp_vconn | .policy_vcs_ufp_wait_for_dfp_vconn => !evt.rx && evt.timer_state
  | .policy_vcs_dfp_turn_off_vconn | .policy_vcs_ufp_turn_off_vconn | .policy_drs_dfp_change | .policy_drs_ufp_change => true
  | _ => false

/-- The supply is reported ready on a board with both VBUS GPIOs: the last
write to `gpio_vbus_5v` was that of the other supply's level. -/
def overruled (chip : Chip) : Prop :=
  chip.conn_state = .policy_src_transition_supply ∧ 3 ≤ chip.sub_state ∧ chip.tx_state = .tx_success ∧
    chip.gpio_vbus_5v.isSome = true ∧ chip.gpio_vbus_other.isSome = true

/-- A request is refused under a contract while VBUS is off. -/
def refused_unpowered (chip : Chip) : Prop :=
  chip.conn_state = .policy_src_cap_response ∧ chip.sub_state ≠ 0 ∧ chip.tx_state = .tx_success ∧
    chip.notify.is_pd_connected = true ∧ chip.gpio_vbus_5v = some false

/-- The handler takes VBUS where it must not be. -/
def slips (chip : Chip) (evt : Evt) : Prop :=
  (Burning chip ∧ by_role chip evt = true) ∨ overruled chip ∨ refused_unpowered chip

instance : Decidable (slips chip evt) := by
  unfold slips overruled refused_unpowered
  infer_instance

/-! ## The handlers -/

variable {s : ConnState}

/-- The zone of a known state. -/
theorem VbusAt.at (h : VbusAt chip) (hc : chip.conn_state = s) :
    (zone_of s).holds chip.notify.power_role chip.gpio_vbus_5v := hc ▸ h.zone

theorem not_burning (hx : ¬slips chip evt) (hb : by_role chip evt = true) : ¬Burning chip := fun h => hx (Or.inl ⟨h, hb⟩)

/-- The states without a demand. -/
theorem vbus_free (h : zone_of s = .free) : VbusAt (set_state chip s) := vbus_set_state (by rw [h]; trivial)

theorem set_state_unattached_vbus : VbusAt (set_state_unattached chip) := by
  obtain ⟨hc, _, _, _, hv⟩ := @set_state_unattached_frame chip
  refine vbus_of_zone (by rw [hc]; decide) ?_
  rw [hc, hv]
  cases h5 : chip.gpio_vbus_5v <;> simp [zone_of, Zone.holds, vbus_level, h5]

theorem attach_vbus (h : VbusAt chip) (ha : attaching chip.conn_state = true) : VbusAt (dispatch chip evt) := by
  have hz : zone_of chip.conn_state = .attach → VbusAt (dispatch chip evt) := by
    intro hza
    have hv : chip.gpio_vbus_5v ≠ some true := by
      have hz := h.zone
      rw [hza] at hz
      exact hz
    cases @attach_step _ evt ha with
    | attach hs _ hv' =>
      have hoff : (dispatch chip evt).gpio_vbus_5v ≠ some true := by
        rcases hv' with he | he <;> rw [he]
        · exact hv
        · cases h5 : chip.gpio_vbus_5v <;> simp [vbus_level, h5]
      generalize dispatch chip evt = c at hs hoff
      refine vbus_of_zone ?_ ?_
      · intro hc
        rw [hc] at hs
        cases hs
      · cases hc : c.conn_state <;> rw [hc] at hs <;> first | exact hoff | trivial
    | source hs _ => exact vbus_of_zone (by rw [hs]; decide) (by rw [hs]; trivial)
    | sink hs hr hv' => exact vbus_of_zone (by rw [hs]; decide) (by rw [hs, hr, hv']; exact ⟨hv, rfl⟩)
  -- three states of the phase are outside the zone
  cases hc : chip.conn_state <;> rw [hc] at ha <;> try first
    | exact hz (by rw [hc]; rfl)
    | exact absurd ha (by decide)
  all_goals unfold dispatch
  all_goals simp only [hc]
  · exact h
  · exact set_state_unattached_vbus
  · exact vbus_of_zone (by simp [fusb_state_attached_source, set_state]) (by simp [fusb_state_attached_source, set_state, zone_of, Zone.holds])

/-- A message starts no swap, or one that the ready states may start. -/
theorem swap_msg_process_vbus (h : VbusAt chip) (hz : Zone.swap.holds chip.notify.power_role chip.gpio_vbus_5v) :
    VbusAt (fusb_state_swap_msg_process chip evt) := by
  have same : VbusAt (set_state chip chip.conn_state) := vbus_set_state h.zone
  unfold fusb_state_swap_msg_process
  repeat' split
  all_goals first
    | exact h
    | exact same
    | exact vbus_set_state hz

theorem ready_rx_vbus (h : VbusAt chip) (hz : Zone.swap.holds chip.notify.power_role chip.gpio_vbus_5v) :
    VbusAt (ready_rx chip evt) := by
  unfold ready_rx
  repeat' split
  · exact h.stay (by simp) (by simp) (by simp) (by simp) (by simp)
  · exact swap_msg_process_vbus h hz
  · exact h
  · exact h

theorem src_ready_vbus (h : VbusAt chip) (hc : chip.conn_state = .policy_src_ready) :
    VbusAt (fusb_state_src_ready chip evt) := by
  have hz : chip.gpio_vbus_5v ≠ some false := h.at hc
  have hr : VbusAt (ready_rx chip evt) := ready_rx_vbus h fun _ => hz
  unfold fusb_state_src_ready
  dsimp only
  split
  · refine vbus_set_state ?_
    simpa [zone_of, Zone.holds] using hz
  · split
    · exact hr.stay (by simp) (by simp) (by simp) (by simp) (by simp)
    · exact hr

theorem snk_ready_vbus (h : VbusAt chip) (hc : chip.conn_state = .policy_snk_ready) :
    VbusAt (fusb_state_snk_ready chip evt) := by
  have hr : chip.notify.power_role = .SINK := (h.at hc).2
  -- a sink may start any swap
  have swap : ∀ {c : Chip}, c.notify.power_role = chip.notify.power_role →
      Zone.swap.holds c.notify.power_role c.gpio_vbus_5v := by
    intro c he hs
    rw [he, hr] at hs
    cases hs
  have hm : VbusAt (if VDM_IS_ACTIVE (ready_rx chip evt) then auto_vdm_machine (ready_rx chip evt) evt
      else ready_rx chip evt) := by
    have hx : VbusAt (ready_rx chip evt) := ready_rx_vbus h (swap rfl)
    split
    · exact hx.stay (by simp) (by simp) (by simp) (by simp) (by simp)
    · exact hx
  unfold fusb_state_snk_ready
  dsimp only
  refine (@swap_msg_process_vbus _ evt hm (swap ?_)).stay (by simp) (by simp) (by simp) (by simp) (by simp)
  split <;> simp

/-! ## Handlers that stay within a zone -/

/-- May a handler of the zone move to `s`? -/
def Zone.allows (z : Zone) (s : ConnState) : Bool :=
  s != .policy_src_transition_supply && (zone_of s == z || zone_of s == .free)

/-- The port is in a state of the zone, or in one without a demand, and the zone's demand is met. -/
structure Within (z : Zone) (chip : Chip) : Prop where
  state : z.allows chip.conn_state = true
  holds : z.holds chip.notify.power_role chip.gpio_vbus_5v

variable {z : Zone}

theorem Within.vbus (h : Within z chip) : VbusAt chip := by
  have hs := h.state
  simp only [Zone.allows, Bool.and_eq_true, bne_iff_ne, Bool.or_eq_true, beq_iff_eq] at hs
  refine vbus_of_zone hs.1 ?_
  rcases hs.2 with hz | hz <;> rw [hz]
  · exact h.holds
  · trivial

theorem VbusAt.within (h : VbusAt chip) (hc : chip.conn_state = s) (hs : (zone_of s).allows s = true) :
    Within (zone_of s) chip := ⟨by rwa [hc], h.at hc⟩

theorem Within.move (h : Within z chip) (hs : z.allows s = true) : Within z (set_state chip s) := ⟨hs, h.holds⟩

theorem Within.stay (h : Within z chip) (hc : chip'.conn_state = chip.conn_state)
    (hr : chip'.notify.power_role = chip.notify.power_role) (hv : chip'.gpio_vbus_5v = chip.gpio_vbus_5v) :
    Within z chip' := by
  refine ⟨?_, ?_⟩
  · rw [hc]
    exact h.state
  · rw [hr, hv]
    exact h.holds

theorem Within.send (h : Within z chip) : Within z (policy_send_data chip) := h.stay (by simp) (by simp) (by simp)

theorem Within.build (h : Within z chip) (cmd : Nat) (is_DMT : Bool) : Within z (build_mesg chip cmd is_DMT) :=
  h.stay (by simp) (by simp) (by simp)

theorem within_send_then {success failed : Chip → Chip} (h : Within z chip) (hs : Within z (success chip))
    (hf : Within z (failed chip)) : Within z (send_then chip success failed) := by
  rcases send_then_cases chip success failed with ⟨_, he⟩ | ⟨_, he⟩ | ⟨_, _, he⟩ <;> rw [he]
  · exact hs
  · exact hf
  · exact h.send

theorem within_send_and_wait {failed : ConnState} (h : Within z chip) (hf : z.allows failed = true) :
    Within z (send_and_wait chip failed) := within_send_then h (h.stay rfl rfl rfl) (h.move hf)

theorem Within.ite {c d : Chip} {p : Prop} [Decidable p] (hc : Within z c) (hd : Within z d) :
    Within z (if p then c else d) := by
  split
  · exact hc
  · exact hd

/-! ### The source -/

theorem src_discovery_within (h : Within .free chip) : Within .free (fusb_state_src_discovery chip evt) := by
  unfold fusb_state_src_discovery
  dsimp only
  repeat' split
  all_goals first
    | exact h
    | exact h.stay rfl rfl rfl
    | exact ⟨rfl, trivial⟩

theorem send_caps_default_within (h : Within .free chip) : Within .free (fusb_state_src_send_caps.case_default chip evt) := by
  unfold fusb_state_src_send_caps.case_default
  repeat' split
  all_goals first
    | exact h
    | exact ⟨rfl, trivial⟩

theorem send_caps_case_1_within (h : Within .free chip) : Within .free (fusb_state_src_send_caps.case_1 chip evt) := by
  have hp : Within .free (policy_send_data chip) := h.send
  unfold fusb_state_src_send_caps.case_1
  dsimp only
  split
  · exact ⟨rfl, trivial⟩
  · exact .ite (hp.stay rfl rfl rfl) (send_caps_default_within (hp.stay rfl rfl rfl))
  · exact .ite hp (send_caps_default_within hp)

theorem send_caps_within (h : Within .free chip) : Within .free (fusb_state_src_send_caps chip evt) := by
  unfold fusb_state_src_send_caps
  split
  · exact send_caps_case_1_within (h.build _ _)
  · exact send_caps_case_1_within h
  · exact send_caps_default_within h

theorem negotiate_cap_vbus : VbusAt (case_negotiate_cap chip evt) := by
  have h : VbusAt (fusb_state_src_negotiate_cap chip) ∧ (fusb_state_src_negotiate_cap chip).sub_state = 0 := by
    unfold fusb_state_src_negotiate_cap
    dsimp only
    split
    · exact ⟨vbus_free rfl, rfl⟩
    · exact ⟨vbus_free rfl, rfl⟩
  unfold case_negotiate_cap fusb_state_src_transition_supply
  simp only [h.2, fusb_state_src_transition_supply.case_1]
  rw [send_then_build_mesg]
  exact h.1.build _ _

theorem case_send_caps_vbus (h : Within .free chip) : VbusAt (case_send_caps chip evt) := by
  unfold case_send_caps
  dsimp only
  split
  · exact (send_caps_within h).vbus
  · exact negotiate_cap_vbus

theorem transition_supply_vbus (h : VbusAt chip) (hc : chip.conn_state = .policy_src_transition_supply)
    (hx : ¬overruled chip) : VbusAt (fusb_state_src_transition_supply chip evt) := by
  unfold fusb_state_src_transition_supply
  split
  · unfold fusb_state_src_transition_supply.case_1
    rw [send_then_build_mesg]
    exact h.build _ _
  · rename_i h1
    refine vbus_send_then h ?_ fun _ => vbus_free rfl
    intro _
    exact h.stay rfl rfl rfl rfl fun hs => absurd hs (by simp [h1])
  · split
    · refine ⟨by simp [hc, zone_of, Zone.holds], fun _ _ => ?_⟩
      cases h5 : chip.gpio_vbus_5v <;> simp [vbus_level, h5]
    · exact h
  · rename_i h0 h1 h2
    refine vbus_send_then h ?_ fun _ => vbus_free rfl
    intro ht
    have h3 : 3 ≤ chip.sub_state := by
      have hn : chip.sub_state ≠ 0 ∧ chip.sub_state ≠ 1 ∧ chip.sub_state ≠ 2 := ⟨h0, h1, h2⟩
      omega
    refine vbus_set_state ?_
    -- the level is that of `gpio_vbus_5v` unless the other GPIO overrules it
    intro hv
    refine hx ⟨hc, h3, ht, ?_, ?_⟩
    · rw [hv]
      rfl
    · rw [h.supply hc h3] at hv
      cases h5 : chip.gpio_vbus_5v <;> cases ho : chip.gpio_vbus_other <;> simp_all [vbus_level]

theorem cap_response_vbus (h : VbusAt chip) (hc : chip.conn_state = .policy_src_cap_response)
    (hx : ¬refused_unpowered chip) : VbusAt (fusb_state_src_cap_response chip) := by
  unfold fusb_state_src_cap_response
  split
  · unfold fusb_state_src_cap_response.case_default
    rw [send_then_build_mesg]
    exact h.build _ _
  · rename_i h0
    refine vbus_send_then h ?_ fun _ => vbus_free rfl
    intro ht
    split
    · rename_i hp
      exact vbus_set_state fun hv => hx ⟨hc, h0, ht, hp, hv⟩
    · exact vbus_free rfl

theorem src_transition_default_within (h : Within .free chip) :
    Within .free (fusb_state_src_transition_default chip evt) := by
  unfold fusb_state_src_transition_default
  split
  · exact ⟨by simpa [timer_state_start] using h.state, trivial⟩
  · split
    · exact ⟨rfl, trivial⟩
    · exact h

theorem get_sink_cap_default_within (h : Within .ready chip) :
    Within .ready (fusb_state_src_get_sink_cap.case_default chip evt) := by
  unfold fusb_state_src_get_sink_cap.case_default
  repeat' split
  all_goals first
    | exact h
    | exact ⟨rfl, h.holds⟩

theorem get_sink_cap_within (h : Within .ready chip) : Within .ready (fusb_state_src_get_sink_cap chip evt) := by
  have hw : ∀ {c}, Within .ready c → Within .ready (fusb_state_src_get_sink_cap.case_1 c evt) := by
    intro c hc
    have hs : Within .ready (send_and_wait c .policy_src_send_softrst) := within_send_and_wait hc rfl
    exact .ite hs (get_sink_cap_default_within hs)
  unfold fusb_state_src_get_sink_cap
  split
  · exact hw (h.build _ _)
  · exact hw h
  · exact get_sink_cap_default_within h

/-! ### Resets -/

theorem send_hardreset_within {next : ConnState} (h : Within z chip) (hn : z.allows next = true)
    (he : z.allows .error_recovery = true) : Within z (send_hardreset chip evt next) := by
  have hw : ∀ {c}, Within z c → Within z (send_hardreset.case_default c evt next) := by
    intro c hc
    have hp : Within z (policy_send_hardrst c evt) := hc.stay (by simp) (by simp) (by simp)
    unfold send_hardreset.case_default
    dsimp only
    split
    · exact ⟨hn, hp.holds⟩
    · exact hp.move he
    · exact hp
  unfold send_hardreset
  split
  · exact hw (h.stay rfl rfl rfl)
  · exact hw h

theorem softreset_within {success : Chip → Chip} {failed : ConnState} (h : Within z chip)
    (hs : Within z (success chip)) (hf : z.allows failed = true) : Within z (softreset chip success failed) := by
  unfold softreset
  split
  · rw [send_then_build_mesg]
    exact (h.build _ _).send
  · exact within_send_then h hs (h.move hf)

theorem send_softreset_within {accepted : Chip → Chip} {failed : ConnState} (h : Within z chip)
    (ha : ∀ c, Within z c → Within z (accepted c)) (hf : z.allows failed = true) :
    Within z (send_softreset chip evt accepted failed) := by
  have hd : ∀ {c}, Within z c → Within z (send_softreset.case_default c evt accepted failed) := by
    intro c hc
    unfold send_softreset.case_default
    repeat' split
    · exact ha c hc
    · exact hc
    · exact hc.move hf
    · exact hc
  have hw : ∀ {c}, Within z c → Within z (send_softreset.case_1 c evt accepted failed) := by
    intro c hc
    have hs : Within z (send_and_wait c failed) := within_send_and_wait hc hf
    exact .ite hs (hd hs)
  unfold send_softreset
  split
  · exact hw (h.build _ _)
  · exact hw h
  · exact hd h

/-! ### The sink -/

theorem give_up_within (h : Within .sink chip) : Within .sink (give_up chip) := .ite (h.move rfl) (h.move rfl)

theorem snk_wait_caps_within (h : Within .sink chip) : Within .sink (fusb_state_snk_wait_caps chip evt) := by
  unfold fusb_state_snk_wait_caps
  repeat' split
  all_goals first
    | exact h
    | exact ⟨rfl, h.holds⟩
    | exact give_up_within h

theorem snk_soft_reset_done_within (h : Within .sink chip) : Within .sink (snk_soft_reset_done chip) := ⟨rfl, h.holds⟩

theorem set_pos_power_vbus : (fusb_state_snk_evaluate_caps chip).notify = chip.notify ∧
    (fusb_state_snk_evaluate_caps chip).gpio_vbus_5v = chip.gpio_vbus_5v ∧
      Zone.sink.allows (fusb_state_snk_evaluate_caps chip).conn_state = true := by
  unfold fusb_state_snk_evaluate_caps
  dsimp only
  split <;> simp [set_state, Zone.allows, zone_of]

theorem select_cap_default_within (h : Within .sink chip) : Within .sink (fusb_state_snk_select_cap.case_default chip evt) := by
  unfold fusb_state_snk_select_cap.case_default
  repeat' split
  all_goals first
    | exact h
    | exact ⟨rfl, h.holds⟩

theorem select_cap_within (h : Within .sink chip) : Within .sink (fusb_state_snk_select_cap chip evt) := by
  have hw : ∀ {c}, Within .sink c → Within .sink (fusb_state_snk_select_cap.case_1 c evt) := by
    intro c hc
    have hp : Within .sink (policy_send_data c) := hc.send
    unfold fusb_state_snk_select_cap.case_1
    dsimp only
    split
    · exact hp.move rfl
    · exact .ite (hp.stay rfl rfl rfl) (select_cap_default_within (hp.stay rfl rfl rfl))
    · exact .ite hp (select_cap_default_within hp)
  unfold fusb_state_snk_select_cap
  split
  · exact hw (h.build _ _)
  · exact hw h
  · exact select_cap_default_within h

theorem evaluate_caps_within (h : Within .sink chip) : Within .sink (case_evaluate_caps chip evt) := by
  obtain ⟨hr, hv, hs⟩ := @set_pos_power_vbus chip
  refine select_cap_within ⟨hs, ?_⟩
  rw [hr, hv]
  exact h.holds

theorem transition_sink_within (h : Within .sink chip) : Within .sink (fusb_state_snk_transition_sink chip evt) := by
  unfold fusb_state_snk_transition_sink
  repeat' split
  all_goals first
    | exact h
    | exact ⟨rfl, h.holds⟩

theorem transition_default_case_1_within (h : Within .sink chip) :
    Within .sink (fusb_state_snk_transition_default.case_1 chip evt) := by
  have hv : Within .sink (tcpm_check_vbus chip).1 := h.stay (by simp) (by simp) (by simp)
  exact .ite (hv.stay rfl rfl rfl) (.ite (hv.move rfl) hv)

theorem snk_transition_default_within (h : Within .sink chip) :
    Within .sink (fusb_state_snk_transition_default chip evt) := by
  unfold fusb_state_snk_transition_default
  split
  · refine transition_default_case_1_within ?_
    dsimp only
    split
    · exact h.stay (by simp [timer_state_start, timer_mux_start]) (by simp [timer_state_start, timer_mux_start])
        (by simp [timer_state_start, timer_mux_start])
    · exact h.stay rfl rfl rfl
  · exact transition_default_case_1_within h
  · have hv : Within .sink (tcpm_check_vbus chip).1 := h.stay (by simp) (by simp) (by simp)
    exact .ite ⟨rfl, hv.holds⟩ (.ite (hv.move rfl) hv)

/-! ### Power role swap -/

theorem prs_evaluate_within (h : Within .swap chip) : Within .swap (fusb_state_prs_evaluate chip) :=
  .ite (h.move rfl) (h.move rfl)

theorem prs_reject_vbus (h : VbusAt chip) (hz : Zone.swap.holds chip.notify.power_role chip.gpio_vbus_5v)
    (hb : reported chip = true → ¬Burning chip) : VbusAt (fusb_state_prs_reject chip) :=
  vbus_simple_msg h (fun hr => by_power_role_zone hz (hb hr) (fun _ _ h => h) rfl)
    fun hr => by_power_role_zone hz (hb hr) (fun _ _ _ => trivial) rfl

theorem prs_accept_vbus (h : VbusAt chip) (hz : Zone.swap.holds chip.notify.power_role chip.gpio_vbus_5v)
    (hb : reported chip = true → ¬Burning chip) : VbusAt (fusb_state_prs_accept chip) :=
  vbus_simple_msg h (fun hr => by_power_role_zone hz (hb hr) (fun _ _ _ => trivial) rfl)
    fun hr => by_power_role_zone hz (hb hr) (fun _ _ _ => trivial) rfl

theorem src_prs_transition_to_off_vbus (h : VbusAt chip) (hc : chip.conn_state = .policy_src_prs_transition_to_off) :
    VbusAt (fusb_state_src_prs_transition_to_off chip evt) := by
  unfold fusb_state_src_prs_transition_to_off
  split
  · exact vbus_of_zone (by simp [timer_state_start, hc]) (by simp [timer_state_start, hc, zone_of, Zone.holds])
  · split
    · dsimp only
      have hoff : ∀ {c : Chip}, c.gpio_vbus_5v = vbus_level chip false false → c.gpio_vbus_5v ≠ some true := by
        intro c he
        rw [he]
        cases h5 : chip.gpio_vbus_5v <;> simp [vbus_level, h5]
      split
      · exact vbus_set_state ⟨hoff (by simp), by simp⟩
      · exact vbus_set_state ⟨hoff (by simp), by simp⟩
    · exact h
  · exact h

theorem src_prs_failed_vbus : VbusAt (src_prs_failed chip) := vbus_free rfl

theorem src_prs_source_off_vbus (h : VbusAt chip) (hc : chip.conn_state = .policy_src_prs_source_off) :
    VbusAt (fusb_state_src_prs_source_off chip evt) := by
  have hw : Within .sink chip := h.within hc rfl
  unfold fusb_state_src_prs_source_off
  split
  · unfold fusb_state_src_prs_source_off.case_1
    rw [send_then_build_mesg]
    exact h.build _ _
  · exact vbus_send_then h (fun _ => Within.vbus (hw.stay rfl rfl rfl)) fun _ => src_prs_failed_vbus
  · repeat' split
    · refine vbus_set_state ?_
      simpa [zone_of] using hw.holds
    · exact h
    · exact src_prs_failed_vbus
    · exact h
  · exact h

theorem snk_prs_failed_vbus (hv : chip.gpio_vbus_5v ≠ some true) : VbusAt (snk_prs_failed chip) :=
  vbus_set_state ⟨by simpa using hv, by simp⟩

theorem snk_prs_transition_to_off_vbus (h : VbusAt chip) (hc : chip.conn_state = .policy_snk_prs_transition_to_off) :
    VbusAt (fusb_state_snk_prs_transition_to_off chip evt) := by
  have case_1 : ∀ {c}, Within .sink c → VbusAt (fusb_state_snk_prs_transition_to_off.case_1 c evt) := by
    intro c hw
    unfold fusb_state_snk_prs_transition_to_off.case_1
    repeat' split
    · exact vbus_set_state hw.holds
    · exact vbus_set_state hw.holds.2
    · exact hw.vbus
    · exact snk_prs_failed_vbus hw.holds.1
    · exact hw.vbus
  have hw : Within .sink chip := h.within hc rfl
  unfold fusb_state_snk_prs_transition_to_off
  split
  · exact case_1 (hw.stay rfl rfl rfl)
  · exact case_1 hw
  · exact h

theorem snk_prs_source_on_vbus (h : VbusAt chip) (hc : chip.conn_state = .policy_snk_prs_source_on)
    (hb : chip.sub_state = 2 → chip.tx_state = .tx_failed → ¬Burning chip) :
    VbusAt (fusb_state_snk_prs_source_on chip evt) := by
  have hw : Within .source_on chip := h.within hc rfl
  have hr : chip.notify.power_role = .SINK := hw.holds
  unfold fusb_state_snk_prs_source_on
  split
  · exact vbus_of_zone (by simp [hc]) (by simpa [hc, zone_of, Zone.holds] using hr)
  · unfold fusb_state_snk_prs_source_on.case_2
    rcases send_then_cases { set_mesg chip CMT_PS_RDY false with tx_state := .tx_idle, sub_state := 2 } _ _ with
      ⟨ht, _⟩ | ⟨ht, _⟩ | ⟨_, _, he⟩
    · cases ht
    · cases ht
    · rw [he]
      exact vbus_of_zone (by simp [hc]) (by simpa [hc, zone_of, Zone.holds] using hr)
  · rename_i h2
    refine vbus_send_then h (fun _ => Within.vbus (hw.stay rfl rfl rfl)) ?_
    intro ht
    exact snk_prs_failed_vbus fun hv => hb h2 ht ⟨hr, hv⟩
  · repeat' split
    · exact vbus_free rfl
    · exact h
  · exact h

/-! ### VCONN and data role swap -/

theorem vcs_ufp_evaluate_swap_within (h : Within .swap chip) : Within .swap (fusb_state_vcs_ufp_evaluate_swap chip) :=
  .ite (h.move rfl) (h.move rfl)

theorem vcs_ufp_accept_vbus (h : VbusAt chip) (hz : Zone.swap.holds chip.notify.power_role chip.gpio_vbus_5v)
    (hb : (chip.sub_state == 1 && chip.tx_state == .tx_failed) = true → ¬Burning chip) :
    VbusAt (fusb_state_vcs_ufp_accept chip) := by
  unfold fusb_state_vcs_ufp_accept fusb_state_send_simple_msg
  dsimp only
  split
  · rw [send_then_build_mesg]
    exact h.build _ _
  · rename_i h1
    refine vbus_send_then h ?_ ?_
    · intro _
      split <;> exact vbus_set_state hz
    · intro ht
      exact vbus_set_state (by_power_role_zone hz (hb (by simp [h1, ht])) (fun _ _ _ => trivial) rfl)
  · exact h

theorem vcs_set_vconn_vbus {on : Bool} (hz : Zone.swap.holds chip.notify.power_role chip.gpio_vbus_5v)
    (hb : on = false → ¬Burning chip) : VbusAt (fusb_state_vcs_set_vconn chip on) := by
  cases on
  · have h := @by_power_role_zone _ .policy_src_ready .policy_snk_ready hz (hb rfl) (fun _ _ h => h) rfl
    refine vbus_set_state ?_
    simpa [by_power_role] using h
  · have hz' : Zone.swap.holds (tcpm_set_vconn chip true).notify.power_role (tcpm_set_vconn chip true).gpio_vbus_5v := by
      simpa using hz
    refine vbus_set_state ?_
    unfold by_data_role
    split <;> exact hz'

theorem vcs_send_ps_rdy_vbus (h : VbusAt chip) (hz : Zone.swap.holds chip.notify.power_role chip.gpio_vbus_5v)
    (hb : reported chip = true → ¬Burning chip) : VbusAt (fusb_state_vcs_send_ps_rdy chip) :=
  vbus_simple_msg h (fun hr => by_power_role_zone hz (hb hr) (fun _ _ h => h) rfl)
    fun hr => by_power_role_zone hz (hb hr) (fun _ _ _ => trivial) rfl

theorem vcs_wait_for_vconn_vbus (h : Within .swap chip) (hb : (!evt.rx && evt.timer_state) = true → ¬Burning chip) :
    VbusAt (fusb_state_vcs_wait_for_vconn chip evt) := by
  have case_1 : ∀ {c : Chip}, Within .swap c → ((!evt.rx && evt.timer_state) = true → ¬Burning c) →
      VbusAt (fusb_state_vcs_wait_for_vconn.case_1 c evt) := by
    intro c hw hb
    unfold fusb_state_vcs_wait_for_vconn.case_1
    split
    · split
      · refine vbus_set_state ?_
        unfold by_data_role
        split <;> exact hw.holds
      · exact hw.vbus
    · split
      · rename_i hr ht
        exact vbus_set_state (by_power_role_zone hw.holds (hb (by simp [hr, ht])) (fun _ _ _ => trivial) rfl)
      · exact hw.vbus
  unfold fusb_state_vcs_wait_for_vconn
  split
  · exact case_1 (h.stay rfl rfl rfl) hb
  · exact case_1 h hb
  · exact h.vbus

theorem drs_evaluate_within (h : Within .swap chip) : Within .swap (fusb_state_drs_evaluate chip) := by
  unfold fusb_state_drs_evaluate by_data_role
  repeat' split
  all_goals exact h.move rfl

theorem drs_send_accept_vbus (h : VbusAt chip) (hz : Zone.swap.holds chip.notify.power_role chip.gpio_vbus_5v) :
    VbusAt (fusb_state_drs_send_accept chip) := by
  refine vbus_simple_msg h (fun _ => ?_) fun _ => trivial
  unfold by_power_role
  split <;> exact hz

theorem drs_role_change_vbus (hz : Zone.swap.holds chip.notify.power_role chip.gpio_vbus_5v) (hb : ¬Burning chip) :
    VbusAt (fusb_state_drs_role_change chip) := by
  have h := @by_power_role_zone _ .policy_src_ready .policy_snk_ready hz hb (fun _ _ h => h) rfl
  refine vbus_set_state ?_
  simpa [by_power_role] using h

/-! ## One step -/

theorem dispatch_vbus (h : VbusAt chip) (hx : ¬slips chip evt) : VbusAt (dispatch chip evt) := by
  have hb : by_role chip evt = true → ¬Burning chip := not_burning hx
  have hov : ¬overruled chip := fun ho => hx (Or.inr (Or.inl ho))
  have hre : ¬refused_unpowered chip := fun ho => hx (Or.inr (Or.inr ho))
  cases ha : attaching chip.conn_state
  · unfold dispatch
    split
    all_goals rename_i hc
    all_goals try (rw [hc] at ha; cases ha)
    -- the states of a swap of our own are never entered
    all_goals try (exact False.elim (h.at hc))
    all_goals unfold by_role at hb
    all_goals simp only [hc] at hb
    · exact vbus_of_zone (by simp [fusb_state_src_startup, set_state]) (by simp [fusb_state_src_startup, set_state, zone_of, Zone.holds])
    · exact (src_discovery_within (h.within hc rfl)).vbus
    · exact case_send_caps_vbus (h.within hc rfl)
    · exact negotiate_cap_vbus
    · exact transition_supply_vbus h hc hov
    · exact cap_response_vbus h hc hre
    · exact (src_transition_default_within (h.within hc rfl)).vbus
    · exact src_ready_vbus h hc
    · exact (get_sink_cap_within (h.within hc rfl)).vbus
    · exact (send_hardreset_within (z := .free) (h.within hc rfl) rfl rfl).vbus
    · exact (send_softreset_within (z := .free) (h.within hc rfl) (fun _ _ => ⟨rfl, trivial⟩) rfl).vbus
    · exact (softreset_within (z := .free) (h.within hc rfl) ⟨rfl, trivial⟩ rfl).vbus
    · exact Within.vbus (z := .sink) ⟨by simp [fusb_state_snk_startup, set_state, Zone.allows, zone_of],
        by simpa [fusb_state_snk_startup, set_state, fusb_soft_reset_parameter, set_vdm_state, Chip.emit, zone_of] using h.at hc⟩
    · exact Within.vbus (z := .sink) ⟨rfl, h.at hc⟩
    · exact (snk_wait_caps_within (h.within hc rfl)).vbus
    · exact (evaluate_caps_within (h.within hc rfl)).vbus
    · exact (select_cap_within (h.within hc rfl)).vbus
    · exact (transition_sink_within (h.within hc rfl)).vbus
    · exact (snk_transition_default_within (h.within hc rfl)).vbus
    · exact snk_ready_vbus h hc
    · exact (send_hardreset_within (z := .sink) (h.within hc rfl) rfl rfl).vbus
    · exact (send_softreset_within (z := .sink) (h.within hc rfl) (fun _ => snk_soft_reset_done_within) rfl).vbus
    · exact (softreset_within (z := .sink) (h.within hc rfl) (snk_soft_reset_done_within (h.within hc rfl)) rfl).vbus
    · exact (prs_evaluate_within (h.within hc rfl)).vbus
    · exact prs_accept_vbus h (h.at hc) hb
    · exact prs_reject_vbus h (h.at hc) hb
    · exact prs_reject_vbus h (h.at hc) hb
    · exact prs_reject_vbus h (h.at hc) hb
    · exact prs_reject_vbus h (h.at hc) hb
    · exact src_prs_transition_to_off_vbus h hc
    · refine vbus_set_state ?_
      simpa [zone_of] using h.at hc
    · exact src_prs_source_off_vbus h hc
    · exact snk_prs_transition_to_off_vbus h hc
    · refine vbus_set_state ?_
      simpa [zone_of, Zone.holds] using (h.at hc).2
    · exact snk_prs_source_on_vbus h hc fun h2 ht => hb (by simp [h2, ht])
    · exact (vcs_ufp_evaluate_swap_within (h.within hc rfl)).vbus
    · exact vcs_ufp_accept_vbus h (h.at hc) hb
    · exact vcs_wait_for_vconn_vbus (h.within hc rfl) hb
    · exact vcs_wait_for_vconn_vbus (h.within hc rfl) hb
    · exact vcs_set_vconn_vbus (h.at hc) fun _ => hb trivial
    · exact vcs_set_vconn_vbus (h.at hc) fun _ => hb trivial
    · exact vcs_set_vconn_vbus (h.at hc) fun hn => by cases hn
    · exact vcs_set_vconn_vbus (h.at hc) fun hn => by cases hn
    · exact vcs_send_ps_rdy_vbus h (h.at hc) hb
    · exact vcs_send_ps_rdy_vbus h (h.at hc) hb
    · exact (drs_evaluate_within (h.within hc rfl)).vbus
    · exact (drs_evaluate_within (h.within hc rfl)).vbus
    · exact drs_send_accept_vbus h (h.at hc)
    · exact drs_send_accept_vbus h (h.at hc)
    · exact drs_role_change_vbus (h.at hc) (hb trivial)
    · exact drs_role_change_vbus (h.at hc) (hb trivial)
  · exact attach_vbus h ha

/-- A change before the switch that touches neither the role nor VBUS. -/
theorem burning_iff (hr : chip'.notify.power_role = chip.notify.power_role) (hv : chip'.gpio_vbus_5v = chip.gpio_vbus_5v) :
    Burning chip' ↔ Burning chip := by
  unfold Burning
  rw [hr, hv]

theorem message_vbus (h : VbusAt chip) : VbusAt (tcpm_get_message chip) := by
  obtain ⟨_, hr, hp, _, _, _, _, _, _, hv, ho, _⟩ := tcpm_get_message_frame chip
  exact h.stay (congrArg Policy.conn_state hp) hr hv ho fun _ => congrArg Policy.sub_state hp

/-! ## Runs -/

/-- A reset, which sends the port to the policy its role names. -/
def resets (chip : Chip) (env : Env) : Bool := hard_reset_reported chip env || soft_reset_received chip env

/-- The port is where it may be, or this invocation resets it while it drives VBUS as a sink. -/
def VbusOrReset (chip : Chip) (env : Env) (c : Chip) : Prop := VbusAt c ∨ (Burning c ∧ resets chip env = true)

theorem reset_vbus {env : Env} {c : Chip} {src snk : ConnState} (hs : zone_of src = .free) (hk : zone_of snk = .sink)
    (hr : resets chip env = true) :
    VbusOrReset chip env (if c.notify.power_role = .SOURCE then set_state c src else set_state c snk) := by
  split
  · exact Or.inl (vbus_free hs)
  · rename_i hn
    have hn : c.notify.power_role = .SINK := by
      cases h : c.notify.power_role
      · rfl
      · exact absurd h hn
    by_cases hv : c.gpio_vbus_5v = some true
    · exact Or.inr ⟨⟨hn, hv⟩, hr⟩
    · refine Or.inl (vbus_set_state ?_)
      rw [hk]
      exact ⟨hv, hn⟩

theorem vbus_survives (env : Env) : Survives chip env (VbusOrReset chip env) where
  observe _ h := h.imp (fun h => h.stay rfl rfl rfl rfl fun _ => rfl) id
  phy c c' hk h := by
    obtain ⟨hp, _, _, _, _, _, hn, _, hv, ho, _⟩ := hk
    refine h.imp (fun h => ?_) (And.imp_left (burning_iff (by rw [hn]) hv).2)
    exact h.stay (congrArg Policy.conn_state hp) (by rw [hn]) hv ho fun _ => congrArg Policy.sub_state hp
  sent _ h := h.imp (fun h => h.stay rfl rfl rfl rfl fun _ => rfl) id
  retryfail _ h := h.imp (fun h => h.stay rfl rfl rfl rfl fun _ => rfl) id
  hard_reset hh c _ := @reset_vbus _ _ (set_vdm_state { fusb302_pd_reset c with msg_id := 0 } .DISCOVERY_ID) _ _ rfl rfl
    (by rw [resets, hh, Bool.true_or])
  hardsent _ h := h.imp (fun h => h.stay rfl rfl rfl rfl fun _ => rfl) id
  expire _ _ h := h.imp (fun h => h.stay rfl rfl rfl rfl fun _ => rfl) id
  collect _ _ _ h := h.imp (fun h => h.stay rfl rfl rfl rfl fun _ => rfl) id
  unattached _ _ := Or.inl set_state_unattached_vbus
  message c h := by
    obtain ⟨_, hr, _, _, _, _, _, _, _, hv, _⟩ := tcpm_get_message_frame c
    exact h.imp message_vbus (And.imp_left (burning_iff hr hv).2)
  softrst hs c _ := by
    have h := @reset_vbus chip env c .policy_src_softrst .policy_snk_softrst
      rfl rfl (by rw [resets, hs, Bool.or_true])
    split at h <;> rename_i hr
    · rwa [if_pos hr]
    · rwa [if_neg hr]
  count _ h := h.imp (fun h => h.stay rfl rfl rfl rfl fun _ => rfl) id

/-- The step sends a port that drives VBUS as a sink to the sink's policy, gets
a source ready that its board does not let drive VBUS, or refuses a request
while VBUS is off. -/
def misdrives (chip : Chip) : Act → Prop
  | .work env =>
    (Burning (at_switch chip env) ∧ resets chip env = true) ∨ slips (at_switch chip env) (events chip env)
  | _ => False

instance (act : Act) : Decidable (misdrives chip act) :=
  match act with
  | .work _ => inferInstanceAs (Decidable (_ ∨ _))
  | .timer_state | .timer_mux => inferInstanceAs (Decidable False)

theorem step_vbus (h : VbusAt chip) {act : Act} (hx : ¬misdrives chip act) : VbusAt (step chip act) := by
  have timer : VbusAt (fusb_timer_handler chip act) := by
    obtain ⟨t, he⟩ := fusb_timer_handler_eq chip act
    rw [he]
    exact h.stay rfl rfl rfl rfl fun _ => rfl
  cases act with
  | work env =>
    rcases at_switch_keeps (vbus_survives env).passes (Or.inl h) with ha | hb
    · rw [step_work]
      split
      · exact dispatch_vbus ha fun hs => hx (Or.inr hs)
      · exact ha
    · exact absurd (Or.inl hb) hx
  | timer_state => exact timer
  | timer_mux => exact timer

theorem probe_vbus (board : Board) : VbusAt (fusb30x_probe board) := by
  refine vbus_of_zone (by simp [fusb30x_probe]) ?_
  simp [fusb30x_probe, zone_of, Zone.holds, kzalloc, optional_gpio, vbus_level]

/-- In a run none of whose steps misdrives VBUS, whichever GPIOs the board has,
VBUS is off in every state of the sink and on at every source that is ready. -/
theorem vbus_right (board : Board) (acts : List Act)
    (h : Runs.Meets step (fun chip act => ¬misdrives chip act) (fusb30x_probe board) acts) :
    ∀ chip ∈ Runs.visited step (fusb30x_probe board) acts, VbusRight chip := by
  intro chip hc
  exact (h.visited_inv (I := VbusAt) (fun _ _ h hx => step_vbus h hx) (probe_vbus board) chip hc).right

/-- A source on a board with one VBUS GPIO. -/
theorem ready_source_drives_vbus : VbusRight (ran {} (attach_source ++ contract ++ [txsent])) :=
  vbus_right _ _ (by decide +kernel) _ (Runs.run_mem_visited ..)

/-- The same source on a board with both GPIOs gets ready with VBUS off. -/
theorem other_gpio_overrules :
    ¬∀ chip ∈ Runs.visited step (fusb30x_probe { vbus_other := true }) (attach_source ++ contract ++ [txsent]),
      VbusRight chip := by
  intro h
  refine absurd (h _ (Runs.step_mem_visited ..)) ?_
  decide +kernel

/-- A sink whose PS_RDY fails at the end of a swap goes back with VBUS on. -/
example :
    ¬∀ chip ∈ Runs.visited step (fusb30x_probe try_source) (attach_sink ++ swap_to_source ++ [retryfail]),
      VbusRight chip := by
  intro h
  refine absurd (h _ (Runs.step_mem_visited ..)) ?_
  decide +kernel

end Fusb302
