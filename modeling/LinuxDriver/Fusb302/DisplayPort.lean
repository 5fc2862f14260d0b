import LinuxDriver.Fusb302.Dialogue
/-!
# DisplayPort partners

ENTER_MODE, DP_STATUS_UPDATE and DP_CONFIG are built for DisplayPort whatever
the partner reported and whichever answer was kept. They go to a DisplayPort
partner, with its own mode, as long as no discovery ends without one.
-/

namespace Fusb302

variable {chip c c' : Chip} {evt : Evt} {cmd : Nat}

/-! ## The property -/

/-- The partner reported DisplayPort, and the mode kept is the one it gave for it. -/
structure DisplayPort (chip : Chip) : Prop where
  reported : reports chip.log = true
  mode : ∃ m, mode_of chip.log = some m ∧ m.svid = DP_SVID ∧ chip.notify.dp_caps = m.load 1 ∧
    chip.notify.pin_assignment_support = PD_DP_PIN_CAPS (m.load 1)

/-- The object of the DP_CONFIG that is built here. -/
def config_object (chip : Chip) : BitVec 32 := (set_vdm_mesg chip VDM_DP_CONFIG VDM_TYPE_INIT 0).send_load 1

/-- DisplayPort is entered with a DisplayPort partner only, and configured with pins. -/
structure Partnered (chip : Chip) (act : Act) : Prop where
  partner : ∀ cmd ∈ [VDM_ENTER_MODE, VDM_DP_STATUS_UPDATE, VDM_DP_CONFIG], builds_vdm cmd chip act →
    ∃ env, act = .work env ∧ DisplayPort (at_machine chip env)
  pins : builds_vdm VDM_DP_CONFIG chip act → ∃ env, act = .work env ∧ config_object (at_machine chip env) >>> 8 ≠ 0#32

/-! ## The ready states -/

theorem ready_rx_dialogue (h : Dialogue chip.mode chip) (hh : Heard chip) (hc : chip.conn_state.guarded = false)
    (hx : vdm_in_hand chip evt = true → ¬diverting_msg chip) :
    Dialogue (ready_rx chip evt).mode (ready_rx chip evt) := by
  cases hv : vdm_in_hand chip evt with
  | true =>
    obtain ⟨hrx, hp⟩ := Bool.and_eq_true_iff.1 hv
    have hcnt : PD_HEADER_CNT chip.rec_head ≠ 0 := bne_iff_ne.1 (Bool.and_eq_true_iff.1 hp).1
    unfold ready_rx
    rw [if_pos hrx, if_pos hp]
    exact (process_vdm_msg_dialogue h hh hcnt (hx hv)).quiet (.refl _) rfl
  | false =>
    have hm : (ready_rx chip evt).mode = chip.mode := by
      unfold ready_rx
      split
      · rename_i hrx
        split
        · rename_i hp
          rw [vdm_in_hand, hrx, hp] at hv
          cases hv
        · split
          · exact swap_msg_process_mode
          · rfl
      · rfl
    rw [hm]
    refine (dialogue_ordinary chip.mode).serves.ready_rx h hc fun hv' => ?_
    exact absurd (hv.symm.trans hv') Bool.false_ne_true

/-- The discovery ends, with no DisplayPort reported or the mode kept not given for it. -/
def astray (chip : Chip) : Prop :=
  VDM_IS_ACTIVE chip = true ∧ all_queried chip ∧ for_display_port chip.log = false

theorem not_astray (hx : ¬astray chip) (ha : VDM_IS_ACTIVE chip = true) (hq : all_queried chip) :
    for_display_port chip.log = true := eq_true_of_ne_false fun hf => hx ⟨ha, hq, hf⟩

/-- The machine then goes on to ENTER_MODE all the same. -/
theorem astray_enters (h : astray chip) :
    (auto_vdm_machine chip evt).vdm_state = .ENTER_MODE ∧ for_display_port (auto_vdm_machine chip evt).log = false := by
  obtain ⟨-, ⟨hs, hq⟩, hf⟩ := h
  unfold auto_vdm_machine AUTO_VDM_HANDLE vdm_send_discoverymodes
  simp only [hs, hq, ne_eq, not_true_eq_false, if_false]
  exact ⟨rfl, hf⟩

theorem src_ready_dialogue (h : Dialogue (ready_rx chip evt).mode (ready_rx chip evt)) (hx : ¬astray (ready_rx chip evt)) :
    Dialogue (fusb_state_src_ready chip evt).mode (fusb_state_src_ready chip evt) := by
  have hm : (fusb_state_src_ready chip evt).mode = (ready_rx chip evt).mode := by
    unfold fusb_state_src_ready
    dsimp only
    split
    · rfl
    · split
      · exact auto_vdm_machine_mode
      · rfl
  rw [hm]
  exact (dialogue_ordinary _).serves.src_ready_of h fun ha => auto_vdm_machine_dialogue h (active_dfp ha) (not_astray hx ha)

theorem snk_ready_dialogue (hc : chip.conn_state.guarded = false)
    (h : Dialogue (ready_rx chip evt).mode (ready_rx chip evt)) (hx : ¬astray (ready_rx chip evt)) :
    Dialogue (fusb_state_snk_ready chip evt).mode (fusb_state_snk_ready chip evt) := by
  have hm : (fusb_state_snk_ready chip evt).mode = (ready_rx chip evt).mode := by
    unfold fusb_state_snk_ready
    dsimp only
    refine swap_msg_process_mode.trans ?_
    split
    · exact auto_vdm_machine_mode
    · rfl
  rw [hm]
  exact (dialogue_ordinary _).serves.snk_ready_of hc h fun ha =>
    auto_vdm_machine_dialogue h (active_dfp ha) (not_astray hx ha)

/-! ## One step -/

/-- The message registers are right, and so is the dialogue unless it is about to start again. -/
structure Attends (chip : Chip) : Prop where
  heard : Heard chip
  dialogue : resetting chip.conn_state = true ∨ Dialogue chip.mode chip

/-- A state in which vendor messages are dealt with. -/
def ready (chip : Chip) : Prop := chip.conn_state = .policy_src_ready ∨ chip.conn_state = .policy_snk_ready

theorem dispatch_attends (h : Attends chip)
    (hx : ready chip → (vdm_in_hand chip evt = true → ¬diverting_msg chip) ∧ ¬astray (ready_rx chip evt)) :
    Attends (dispatch chip evt) := by
  refine ⟨dispatch_heard h.heard, ?_⟩
  cases hr : resetting chip.conn_state with
  | true => exact (resetting_step hr).imp_right JustReset.dialogue
  | false =>
    have hd : Dialogue chip.mode chip := h.dialogue.resolve_left (by rw [hr]; exact Bool.false_ne_true)
    refine Or.inr ?_
    by_cases hc : ready chip
    · have hg : chip.conn_state.guarded = false := by
        rcases hc with hc | hc <;> rw [hc] <;> rfl
      have hrx := ready_rx_dialogue hd h.heard hg (hx hc).1
      unfold dispatch
      have hs := hc
      rcases hc with hc | hc <;> rw [hc]
      · exact src_ready_dialogue hrx (hx hs).2
      · exact snk_ready_dialogue hg hrx (hx hs).2
    · rw [dispatch_mode hr (not_or.1 hc)]
      exact (dialogue_ordinary chip.mode).serves.switch hd {
        offer := fun _ _ _ => negotiate_cap_dialogue
        negotiate := fun _ => negotiate_cap_dialogue hd
        evaluate := fun _ => build_request_dialogue (evaluate_caps_dialogue hd)
        select := fun _ _ => build_request_dialogue hd
        vdm := fun hc' _ => absurd hc' hc
        auto := fun hc' _ _ => absurd hc' hc }

theorem Attends.stay (h : Attends c) (hh : Heard c') (hl : Trace.Added Entry.apart c.log c'.log)
    (hp : c'.conn_state = c.conn_state) (hv : c'.toVdm = c.toVdm) (hn : c'.notify = c.notify) : Attends c' := by
  refine ⟨hh, ?_⟩
  rw [hp, mode_of_notify hn]
  exact h.dialogue.imp_right fun hd => hd.quiet hl hv

theorem attends_survives (env : Env) : Survives chip env Attends where
  observe _ h := h.stay (h.heard.quiet (.refl _) rfl) (.refl _) rfl rfl rfl
  phy c c' hk h := by
    obtain ⟨hp, _, _, hr, _, hv, hn, hl, _⟩ := hk
    exact h.stay (h.heard.quiet (.of_eq hl) hr) (.of_eq hl) (by rw [hp]) hv hn
  sent _ h := h.stay (h.heard.quiet (.cons (e := Entry.sent) rfl (.refl _)) rfl) (.cons (e := Entry.sent) trivial (.refl _))
    rfl rfl rfl
  retryfail _ h := h.stay (h.heard.quiet (.cons (e := Entry.retryfail) rfl (.refl _)) rfl)
    (.cons (e := Entry.retryfail) trivial (.refl _)) rfl rfl rfl
  hard_reset _ c h := by
    refine ⟨hard_reset_heard (heard_ordinary.pd_reset h.heard), Or.inl ?_⟩
    unfold pd_execute_hard_reset
    dsimp only
    split <;> rfl
  hardsent _ h := h.stay (h.heard.quiet (.refl _) rfl) (.refl _) rfl rfl rfl
  expire _ _ h := h.stay (h.heard.quiet (.refl _) rfl) (.refl _) rfl rfl rfl
  collect _ _ _ h := h.stay (h.heard.quiet (.refl _) rfl) (.refl _) rfl rfl rfl
  unattached _ h := by
    refine ⟨heard_ordinary.serves.unattached heard_ordinary.serves.toResets h.heard, Or.inl ?_⟩
    rw [set_state_unattached_frame.1]
    rfl
  message c h := by
    obtain ⟨_, _, hp, _, _, _, hv, _, hn, _⟩ := tcpm_get_message_frame c
    refine h.stay (get_message_heard h.heard _) ?_ (by rw [hp]) hv hn
    rcases get_message_log c c.fifo with hl | ⟨m, hl⟩
    · exact .of_eq hl
    · rw [tcpm_get_message, hl]
      exact .cons (e := Entry.recv m) trivial (.refl _)
  softrst _ c h := by
    refine ⟨heard_ordinary.serves.either h.heard rfl rfl, Or.inl ?_⟩
    simp only [set_state]
    split <;> rfl
  count _ h := h.stay (h.heard.quiet (.refl _) rfl) (.refl _) rfl rfl rfl

/-! ## The pins of DP_CONFIG -/

/-- The pins of the mode that fit the partner's preference and the signalling. -/
def usable_pins (caps status : BitVec 32) : BitVec 32 :=
  let pins := if PD_VDO_DPSTS_MF_PREF status = 0#32 then PD_DP_PIN_CAPS caps &&& ~~~MODE_DP_PIN_MF_MASK else PD_DP_PIN_CAPS caps
  if PD_DP_SIGNAL_GEN2 caps ≠ 0#32 then pins &&& ~~~MODE_DP_PIN_DP_MASK else pins &&& ~~~MODE_DP_PIN_BR2_MASK

theorem and_toNat_le (x y : BitVec 32) : (x &&& y).toNat ≤ x.toNat := by
  rw [BitVec.toNat_and]
  exact Nat.and_le_left

theorem usable_pins_lt (caps status : BitVec 32) : (usable_pins caps status).toNat < 64 := by
  have hp : (PD_DP_PIN_CAPS caps).toNat < 64 := by
    unfold PD_DP_PIN_CAPS
    split
    all_goals
      rw [BitVec.toNat_and]
      exact Nat.lt_succ_of_le Nat.and_le_right
  have hm : ∀ {x : BitVec 32} (y : BitVec 32), x.toNat < 64 → (x &&& y).toNat < 64 := fun y hx =>
    Nat.lt_of_le_of_lt (and_toNat_le _ y) hx
  unfold usable_pins
  dsimp only
  repeat' split
  · exact hm _ (hm _ hp)
  · exact hm _ hp
  · exact hm _ (hm _ hp)
  · exact hm _ hp

/-- Of any pins one is chosen, and it stands in the object's second byte. -/
theorem chosen_pin : ∀ n < 64, n ≠ 0 →
    let pins := if BitVec.ofNat 32 n &&& 0x0c#32 ≠ 0#32 then BitVec.ofNat 32 n &&& ~~~0x30#32 else BitVec.ofNat 32 n
    (((if pins = 0#32 then 0#32 else 1#32 <<< Nat.log2 pins.toNat) <<< 8 ||| (1#32 <<< 2) ||| 2#32) >>> 8) ≠ 0#32 := by
  decide +kernel

theorem config_pins (h : usable_pins chip.notify.dp_caps chip.notify.dp_status ≠ 0#32) :
    config_object chip >>> 8 ≠ 0#32 := by
  have hn : (usable_pins chip.notify.dp_caps chip.notify.dp_status).toNat ≠ 0 := fun h0 => h (BitVec.eq_of_toNat_eq h0)
  have hc := chosen_pin _ (usable_pins_lt chip.notify.dp_caps chip.notify.dp_status) hn
  rw [BitVec.ofNat_toNat, BitVec.setWidth_eq] at hc
  exact hc

/-! ## Runs -/

/-- DP_CONFIG is built here without a pin to choose. -/
def pinless (chip : Chip) : Prop :=
  VDM_IS_ACTIVE chip = true ∧ due VDM_DP_CONFIG chip ∧ usable_pins chip.notify.dp_caps chip.notify.dp_status = 0#32

/-- A ready state ends a discovery without a DisplayPort partner, replaces the
mode kept by another SVID's, or configures DisplayPort without pins. -/
def diverted (chip : Chip) : Act → Prop
  | .work env => ready (at_switch chip env) ∧
      ((vdm_in_hand (at_switch chip env) (events chip env) = true ∧ diverting_msg (at_switch chip env)) ∨
        ((events chip env).any = true ∧ (astray (at_machine chip env) ∨ pinless (at_machine chip env))))
  | _ => False

instance (act : Act) : Decidable (diverted chip act) :=
  match act with
  | .work _ => by
    unfold diverted ready diverting_msg diverts astray all_queried pinless due late
    infer_instance
  | .timer_state | .timer_mux => inferInstanceAs (Decidable False)

theorem at_switch_attends (env : Env) (h : Attends chip) : Attends (at_switch chip env) :=
  at_switch_keeps (attends_survives env).passes h

theorem step_attends (h : Attends chip) {act : Act} (hx : ¬diverted chip act) : Attends (step chip act) := by
  refine step_keeps (fun env => (attends_survives env).passes) h ?_
  rintro env rfl hany ha
  refine dispatch_attends ha fun hc => ⟨fun hv hd => ?_, fun hs => ?_⟩
  · exact hx ⟨hc, Or.inl ⟨hv, hd⟩⟩
  · exact hx ⟨hc, Or.inr ⟨hany, Or.inl hs⟩⟩

/-- A stage written for DisplayPort is reached with a DisplayPort partner. -/
theorem Dialogue.display_port (h : Dialogue chip.mode chip) (hs : Fusb302.late chip) : DisplayPort chip := by
  obtain ⟨hr, hm⟩ := Bool.and_eq_true_iff.1 (h.late hs)
  obtain ⟨m, hm, hsvid⟩ := (Option.any_eq_true ..).1 hm
  have hk := h.held (Or.inr hs) m hm
  exact ⟨hr, m, hm, beq_iff_eq.1 hsvid, congrArg Prod.fst hk, congrArg Prod.snd hk⟩

/-- The command that is due names the stage. -/
theorem late_of_due (h : due cmd chip) (hc : cmd ∈ [VDM_ENTER_MODE, VDM_DP_STATUS_UPDATE, VDM_DP_CONFIG]) : late chip := by
  obtain ⟨hs, h0, -⟩ := h
  unfold late
  simp only [List.mem_cons, List.not_mem_nil, or_false] at hc
  cases hv : chip.vdm_state <;> rw [hv] at hs
  case ENTER_MODE => exact Or.inl rfl
  case UPDATE_STATUS => exact Or.inr (Or.inl rfl)
  case DP_CONFIG => exact Or.inr (Or.inr ⟨rfl, h0⟩)
  all_goals rcases hc with rfl | rfl | rfl <;> cases hs

theorem partnered_step (h : Attends chip) {act : Act} (hx : ¬diverted chip act) : Partnered chip act where
  partner := by
    intro cmd hc hb
    obtain ⟨env, rfl, hd, _, hr, _⟩ := due_of_builds hb
    refine ⟨env, rfl, ?_⟩
    have ha := at_switch_attends env h
    have hg : (at_switch chip env).conn_state.guarded = false ∧ resetting (at_switch chip env).conn_state = false := by
      rcases hr with hr | hr <;> rw [hr] <;> exact ⟨rfl, rfl⟩
    have hda := ha.dialogue.resolve_left (by rw [hg.2]; exact Bool.false_ne_true)
    have hm : Dialogue (at_machine chip env).mode (at_machine chip env) :=
      ready_rx_dialogue hda ha.heard hg.1 fun hv hdv => hx ⟨hr, Or.inl ⟨hv, hdv⟩⟩
    exact hm.display_port (late_of_due hd hc)
  pins hb := by
    obtain ⟨env, rfl, hd, hact, hr, hany⟩ := due_of_builds hb
    refine ⟨env, rfl, config_pins fun h0 => ?_⟩
    exact hx ⟨hr, Or.inr ⟨hany, Or.inr ⟨hact, hd, h0⟩⟩⟩

theorem probe_attends (board : Board) : Attends (fusb30x_probe board) := by
  refine ⟨⟨?_, ?_⟩, Or.inl (by simp [fusb30x_probe, resetting, attaching])⟩
  · intro hn
    refine absurd ?_ hn
    simp [fusb30x_probe, kzalloc, PD_HEADER_CNT]
  · rw [probe_log]
    intro m hm
    cases hm

/-- In a run in which no discovery ends without a DisplayPort partner, its mode
is not replaced afterwards and every DP_CONFIG finds pins, only a DisplayPort
partner is asked to enter it. -/
theorem displayport_partner (board : Board) (acts : List Act)
    (h : Runs.Meets step (fun chip act => ¬diverted chip act) (fusb30x_probe board) acts) :
    Runs.Meets step Partnered (fusb30x_probe board) acts :=
  h.imp (fun _ _ hs hx => step_attends hs hx) (fun _ _ hs hx => partnered_step hs hx) (probe_attends board)

/-- The answers of a partner to the whole dialogue, up to DP_CONFIG on the wire. -/
def enter_displayport : List Act :=
  [acked_svids [0xff010000#32], idle, txsent, received (data DMT_VENDERDEFINED [0xff018043#32, 0x00000c05#32]), idle, idle,
    txsent, received (data DMT_VENDERDEFINED [0xff018044#32]), idle, txsent,
    received (data DMT_VENDERDEFINED [0xff018150#32, 0x0000009a#32]), idle]

theorem displayport_partner_entered :
    Runs.Meets step Partnered (fusb30x_probe {}) (ask_svids ++ enter_displayport) :=
  displayport_partner _ _ (by decide +kernel)

-- a partner without DisplayPort that refuses to give modes diverts nothing
example : Runs.Meets step (fun chip act => ¬diverted chip act) (fusb30x_probe {})
    (ask_svids ++ [acked_svids [0x80870000#32], idle, txsent, received (data DMT_VENDERDEFINED [0x80878083#32]), idle, idle]) := by
  decide +kernel

/-- How many messages with this command were built. -/
def built (cmd : Nat) (l : List Entry) : Nat := l.countP fun
  | .vdm c => c == cmd
  | _ => false

/-- The log only grows: no stage has command 0. -/
theorem log_grows (chip : Chip) (act : Act) : ∃ new, (step chip act).log = new ++ chip.log := by
  have h : Unbuilt 0 chip.log (step chip act) := by
    refine step_unbuilt fun env _ hb => ?_
    obtain ⟨hs, -⟩ := hb.1
    cases hv : (at_machine chip env).vdm_state <;> rw [hv] at hs <;> cases hs
  obtain ⟨new, hl, _⟩ := h
  exact ⟨new, hl⟩

theorem builds_of_built {act : Act} (h : built cmd chip.log < built cmd (step chip act).log) : builds_vdm cmd chip act := by
  obtain ⟨new, hl⟩ := log_grows chip act
  refine ⟨new, hl, ?_⟩
  unfold built at h
  rw [hl, List.countP_append] at h
  obtain ⟨e, he, hc⟩ := List.countP_pos_iff.1 (Nat.pos_of_lt_add_left h)
  cases e with
  | vdm c =>
    obtain rfl : c = cmd := beq_iff_eq.1 hc
    exact he
  | _ => cases hc

/-- The answers of a partner that reports Thunderbolt only, and a mode of it that looks like one with pins. -/
def thunderbolt : List Act :=
  [acked_svids [0x80870000#32], idle, txsent, received (data DMT_VENDERDEFINED [0x80878043#32, 0x00000c05#32]), idle]

/-- DisplayPort is entered with a partner that did not report it. -/
theorem thunderbolt_enters_displayport :
    ¬Runs.Meets step Partnered (fusb30x_probe {}) (ask_svids ++ thunderbolt ++ [idle]) := by
  intro hm
  have hb : builds_vdm VDM_ENTER_MODE (ran {} (ask_svids ++ thunderbolt)) idle := builds_of_built (by decide +kernel)
  obtain ⟨env, he, hd⟩ := (meets_last hm).partner _ (by decide) hb
  cases he
  have hr := hd.reported
  revert hr
  decide +kernel

end Fusb302
