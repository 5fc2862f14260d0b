import LinuxDriver.Fusb302.Ordinary
/-!
# Special handlers

What the six handlers that are not ordinary have in common: they leave the
wires alone, and what they log is of the driver's own making. A predicate that
survives this, and what an ordinary handler does, survives the whole switch.
-/

namespace Fusb302

variable {P : Chip → Prop} {chip c c' : Chip} {evt : Evt} {cmd mode : Nat} {acks : Chip → Bool} {begin : Chip → Chip}
  {finish : Chip → Chip × VdmRet} {w : Wires}

/-! ## The wires -/

theorem negotiate_cap_wires (chip : Chip) : (fusb_state_src_negotiate_cap chip).wires = chip.wires := by
  unfold fusb_state_src_negotiate_cap
  dsimp only
  split <;> rfl

theorem set_pos_power_from_wires (max_vol max_cur : Int) (i : Nat) :
    (set_pos_power_from chip max_vol max_cur i).wires = chip.wires := by
  induction i with
  | zero => rfl
  | succ i ih =>
    unfold set_pos_power_from
    split
    · rfl
    · exact ih

theorem evaluate_caps_wires (chip : Chip) : (fusb_state_snk_evaluate_caps chip).wires = chip.wires := by
  have hp : ∀ c : Chip, (fusb302_set_pos_power_by_charge_ic c).wires = c.wires := by
    intro c
    unfold fusb302_set_pos_power_by_charge_ic
    split
    · rfl
    · dsimp only
      split
      · exact set_pos_power_from_wires ..
      · rfl
  unfold fusb_state_snk_evaluate_caps
  dsimp only
  split
  · exact hp _
  · exact hp _

theorem store_svids_wires (k : Nat) (chip : Chip) : (store_svids chip k).wires = chip.wires := by
  induction k generalizing chip with
  | zero => rfl
  | succ k ih =>
    unfold store_svids
    dsimp only
    split
    · rfl
    · split
      · rfl
      · exact ih _

theorem process_vdm_msg_wires (chip : Chip) : (process_vdm_msg chip).wires = chip.wires := by
  have hm : ∀ c : Chip, (store_mode c).wires = c.wires := by
    intro c
    unfold store_mode
    dsimp only
    repeat' split
    all_goals rfl
  have ha : ∀ c : Chip, ∀ cmd, (process_vdm_ack c cmd).wires = c.wires := by
    intro c cmd
    unfold process_vdm_ack
    repeat' split
    all_goals first | rfl | exact store_svids_wires 6 c | exact hm c
  unfold process_vdm_msg
  dsimp only
  split
  · rfl
  · split
    · split
      · rfl
      · rfl
    · split
      · exact ha _ _
      · split
        · rfl
        · rfl

theorem set_vdm_mesg_wires (chip : Chip) (cmd type mode : Nat) :
    (set_vdm_mesg chip cmd type mode).wires = chip.wires := by
  obtain ⟨cnt, load, pin, he⟩ := set_vdm_mesg_builds chip cmd type mode
  rw [he]
  rfl

theorem policy_send_data_wires (chip : Chip) : (policy_send_data chip).wires = chip.wires := by
  unfold policy_send_data
  split <;> rfl

theorem wires_waits (w : Wires) : Waits (fun c => c.wires = w) fun r => r.1.wires = w where
  send {c} h := (policy_send_data_wires c).trans h
  sent h := h
  failed h := h
  timeout h := h
  waiting h := h

/-- A stage whose start and end leave the wires alone. -/
theorem vdm_send_wires (h : chip.wires = w) (hb : ∀ c : Chip, (begin c).wires = c.wires)
    (hf : ∀ c : Chip, (finish c).1.wires = c.wires) : (vdm_send cmd mode begin acks finish chip evt).1.wires = w := by
  refine (wires_waits w).vdm_send (fun _ => ?_) (fun _ => h) fun c hc _ => (hf _).trans hc
  rw [policy_send_data_wires]
  exact (hb _).trans ((set_vdm_mesg_wires ..).trans h)

theorem auto_vdm_machine_wires (chip : Chip) (evt : Evt) : (auto_vdm_machine chip evt).wires = chip.wires := by
  have handle : ∀ func, (func chip evt).1.wires = chip.wires → (AUTO_VDM_HANDLE func chip evt).wires = chip.wires := by
    intro func hf
    unfold AUTO_VDM_HANDLE
    dsimp only
    split
    all_goals exact hf
  unfold auto_vdm_machine
  split
  · exact handle _ (vdm_send_wires rfl (fun _ => rfl) fun _ => rfl)
  · exact handle _ (vdm_send_wires rfl (fun _ => rfl) fun _ => rfl)
  · refine handle _ ?_
    unfold vdm_send_discoverymodes
    split
    · exact vdm_send_wires rfl (fun _ => rfl) fun _ => rfl
    · rfl
  · exact handle _ (vdm_send_wires rfl (fun _ => rfl) fun _ => rfl)
  · exact handle _ (vdm_send_wires rfl (fun _ => rfl) fun _ => rfl)
  · exact handle _ (vdm_send_wires rfl (fun _ => rfl) fun _ => rfl)
  · rfl
  · rfl

theorem get_message_wires (chip : Chip) (fifo : List PdMsg) : (get_message chip fifo).wires = chip.wires := by
  induction fifo generalizing chip with
  | nil => rfl
  | cons m fifo ih =>
    unfold get_message
    split
    · exact ih _
    · rfl

theorem hard_reset_wires (chip : Chip) : (pd_execute_hard_reset chip).wires = chip.wires := by
  unfold pd_execute_hard_reset
  dsimp only
  split <;> rfl

/-! ## The log -/

/-- Nothing received, and no reset of the chip. -/
def Entry.own : Entry → Prop
  | .recv _ | .pd_reset => False
  | _ => True

theorem Entry.own_of_talk {e : Entry} (h : e.talk) : e.own := by
  cases e <;> trivial

theorem negotiate_cap_log (chip : Chip) : Trace.Added Entry.own chip.log (fusb_state_src_negotiate_cap chip).log := by
  unfold fusb_state_src_negotiate_cap
  dsimp only
  split
  all_goals exact .cons trivial (.refl _)

/-! ## The switch -/

/-- `P` also survives any entries of the driver's own making, with the wires left alone. -/
theorem Works.dispatch_own (k : Works P) (h : P chip) (r : discards chip evt = true → Resets P)
    (own : ∀ {c c'}, P c → Trace.Added Entry.own c.log c'.log → c'.wires = c.wires → P c') :
    P (dispatch chip evt) := by
  have negotiate : ∀ {c}, P c → P (fusb_state_src_negotiate_cap c) := fun hc =>
    own hc (negotiate_cap_log _) (negotiate_cap_wires _)
  have build : ∀ {c}, P c → P (build_mesg c DMT_REQUEST true) := fun hc =>
    own hc (.cons trivial (.cons trivial (.refl _))) rfl
  have evaluate : P (fusb_state_snk_evaluate_caps chip) := by
    obtain ⟨_, _, _, _, _, _, _, hl, _⟩ := @evaluate_caps_frame chip
    exact own h (.of_eq hl) (evaluate_caps_wires chip)
  exact k.switch h r {
    offer := fun _ _ _ => negotiate
    negotiate := fun _ => negotiate h
    evaluate := fun _ => build evaluate
    select := fun _ _ => build h
    vdm := fun _ _ => own h ((process_vdm_msg_talks chip).mono fun _ => Entry.own_of_talk) (process_vdm_msg_wires chip)
    auto := fun _ hr _ => own hr ((auto_vdm_machine_talks _ evt).mono fun _ => Entry.own_of_talk)
      (auto_vdm_machine_wires _ evt) }

end Fusb302
