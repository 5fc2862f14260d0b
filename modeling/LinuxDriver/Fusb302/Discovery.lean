import LinuxDriver.Fusb302.Sending
/-!
# The discovery's frames

The ready states send too, when they run the discovery. Its stage tells whether
a command is in flight; the port may leave a ready state only when none is.
-/

namespace Fusb302

variable {chip c c' : Chip} {evt : Evt} {cmd mode : Nat} {acks : Chip → Bool} {begin : Chip → Chip}
  {finish : Chip → Chip × VdmRet}

/-! ## The discovery machine -/

/-- What a stage returns: done or refused with nothing in flight, or still at work. -/
def Spoken (r : Chip × VdmRet) : Prop :=
  match r.2 with
  | .zero => Ground r.1 ∧ r.1.vdm_send_state ≠ 1
  | .EINPROGRESS => Flies (vdm_waits r.1) r.1
  | _ => Ground r.1

theorem not_waits (h : c.vdm_send_state ≠ 1) : vdm_waits c = false := by
  unfold vdm_waits
  rw [beq_false_of_ne h, Bool.false_and]

theorem silent_stage (h : c.vdm_state.sends = false) : vdm_waits c = false := by
  unfold vdm_waits
  rw [h, Bool.and_false]

theorem vdm_default_spoken (h : Ground c) (h1 : c.vdm_send_state ≠ 1)
    (hf : ∀ c, Ground c → c.vdm_send_state = 0 → Spoken (finish c)) :
    Spoken (vdm_send.case_default acks finish c evt) := by
  unfold vdm_send.case_default
  split
  · exact hf _ (h.keep rfl rfl) rfl
  · split
    · exact h.add (.cons trivial (.refl _)) rfl
    · exact h.flies (not_waits h1)

theorem vdm_case_1_spoken (h : Flies (vdm_waits c) c) (hw : vdm_waits c = true)
    (hf : ∀ c, Ground c → c.vdm_send_state = 0 → Spoken (finish c)) : Spoken (vdm_send.case_1 acks finish c evt) := by
  unfold vdm_send.case_1
  rcases h.cases hw with ⟨ht, he⟩ | ⟨ht, hn⟩ | ⟨ht, hn⟩ | ⟨ht, hs⟩
  · rw [he]
    simp only [ht]
    exact h
  · rw [policy_send_data_of_ne_idle c (by rw [ht]; decide)]
    simp only [ht]
    exact vdm_default_spoken (hn.keep rfl rfl) (show 2 ≠ 1 by decide) hf
  · rw [policy_send_data_of_ne_idle c (by rw [ht]; decide)]
    simp only [ht]
    exact hn.add (.cons trivial (.refl _)) rfl
  · have hb : (policy_send_data c).tx_state = .tx_busy := by simp [ht]
    simp only [hb]
    have hk : vdm_waits (policy_send_data c) = vdm_waits c := by
      rw [policy_send_data_idle c ht]
      rfl
    change Flies (vdm_waits (policy_send_data c)) (policy_send_data c)
    rwa [hk]

/-- The stages differ in what they clear and how they end. -/
theorem vdm_send_spoken (h : Flies (vdm_waits chip) chip) (hi : chip.conn_state.indifferent = false)
    (hs : chip.vdm_state.sends = true)
    (hb : ∀ c : Chip, (begin c).log = c.log ∧ (begin c).msg_id = c.msg_id ∧ (begin c).send_head = c.send_head ∧
      (begin c).vdm_state = c.vdm_state)
    (hf : ∀ c, Ground c → c.vdm_send_state = 0 → Spoken (finish c)) :
    Spoken (vdm_send cmd mode begin acks finish chip evt) := by
  unfold vdm_send
  split
  · -- the command is built and handed over in one turn
    rename_i h0
    obtain ⟨hl, hm, hh, hv⟩ := hb (set_vdm_mesg chip cmd VDM_TYPE_INIT mode)
    obtain ⟨_, hv', _, _⟩ := set_vdm_mesg_frame chip cmd VDM_TYPE_INIT mode
    obtain ⟨_, _, _, _, _, _, _, _, _, _, _, _, hm'⟩ := @set_vdm_mesg_kept chip cmd VDM_TYPE_INIT mode
    have hg : Ground (begin (set_vdm_mesg chip cmd VDM_TYPE_INIT mode)) := by
      have hn : Ground chip := h.ground (not_waits (by rw [h0]; decide)) hi
      refine hn.add ?_ (hm.trans hm')
      rw [hl, set_vdm_mesg_log]
      exact .cons trivial (.refl _)
    have hw : vdm_waits { begin (set_vdm_mesg chip cmd VDM_TYPE_INIT mode) with tx_state := .tx_idle, vdm_send_state := 1 } =
        true := by
      unfold vdm_waits
      dsimp only
      rw [hv, show (set_vdm_mesg chip cmd VDM_TYPE_INIT mode).vdm_state = chip.vdm_state from congrArg Vdm.vdm_state hv', hs]
      rfl
    have hk : Ground { begin (set_vdm_mesg chip cmd VDM_TYPE_INIT mode) with tx_state := .tx_idle, vdm_send_state := 1 } :=
      hg.keep rfl rfl
    refine vdm_case_1_spoken (hk.knows fun _ => .built rfl hk.flight ?_) hw hf
    dsimp only
    rw [hh, hm, hm']
    exact set_vdm_mesg_id chip cmd VDM_TYPE_INIT mode
  · rename_i h1
    refine vdm_case_1_spoken h ?_ hf
    rw [vdm_waits, h1, hs]
    rfl
  · -- its report is in, and the answer is awaited
    rename_i h1
    exact vdm_default_spoken (h.ground (not_waits h1) hi) h1 hf

theorem auto_handle_flies {func : Chip → Evt → Chip × VdmRet} (h : Spoken (func chip evt)) :
    Flies (vdm_waits (AUTO_VDM_HANDLE func chip evt)) (AUTO_VDM_HANDLE func chip evt) := by
  unfold Spoken at h
  unfold AUTO_VDM_HANDLE
  dsimp only
  split
  · rename_i hr
    rw [hr] at h
    obtain ⟨hn, h0⟩ := h
    refine Ground.flies (hn.add ?_ rfl) (not_waits h0)
    exact .cons trivial (.refl _)
  · rename_i hr
    rw [hr] at h
    exact h
  · rename_i hz hp
    have hn : Ground (func chip evt).1 := by
      cases hr : (func chip evt).2 with
      | zero => exact absurd hr hz
      | EINPROGRESS => exact absurd hr hp
      | EPIPE => rwa [hr] at h
      | ETIMEDOUT => rwa [hr] at h
    refine Ground.flies (hn.add ?_ rfl) (silent_stage rfl)
    exact .cons trivial (.refl _)

theorem auto_vdm_machine_flies (h : Flies (vdm_waits chip) chip) (hi : chip.conn_state.indifferent = false) :
    Flies (vdm_waits (auto_vdm_machine chip evt)) (auto_vdm_machine chip evt) := by
  have hz : ∀ c, Ground c → c.vdm_send_state = 0 → Spoken (c, .zero) := by
    intro c hn h0
    exact ⟨hn, by rw [h0]; decide⟩
  have hval : ∀ c, Ground c → c.vdm_send_state = 0 → Spoken ({ c with val_tmp := 0#8 }, .zero) := by
    intro c hn h0
    exact hz _ (hn.keep rfl rfl) h0
  unfold auto_vdm_machine
  split
  all_goals rename_i hs
  · exact auto_handle_flies (vdm_send_spoken h hi (by rw [hs]; rfl) (fun _ => ⟨rfl, rfl, rfl, rfl⟩) hz)
  · exact auto_handle_flies (vdm_send_spoken h hi (by rw [hs]; rfl) (fun _ => ⟨rfl, rfl, rfl, rfl⟩) hz)
  · by_cases hq : (chip.val_tmp >>> 1).toNat = chip.vdm_svid_num
    · -- nothing is left to ask for: the stage is over even if it still waits
      have hd : vdm_send_discoverymodes chip evt = ({ chip with val_tmp := 0#8 }, .zero) := by
        rw [vdm_send_discoverymodes, if_neg (not_not.2 hq)]
      have hk : AUTO_VDM_HANDLE vdm_send_discoverymodes chip evt =
          { set_vdm_state { chip with val_tmp := 0#8 } .ENTER_MODE with work_continue := true } := by
        rw [AUTO_VDM_HANDLE, hd]
        dsimp only
        rw [hs]
        rfl
      have hw : vdm_waits { set_vdm_state { chip with val_tmp := 0#8 } .ENTER_MODE with work_continue := true } =
          vdm_waits chip := by
        unfold vdm_waits
        rw [hs]
        rfl
      rw [hk, hw]
      exact h.keep (.cons trivial (.refl _)) rfl rfl rfl rfl
    · have hd : Spoken (vdm_send_discoverymodes chip evt) := by
        rw [vdm_send_discoverymodes, if_pos hq]
        refine vdm_send_spoken h hi (by rw [hs]; rfl) (fun _ => ⟨rfl, rfl, rfl, rfl⟩) ?_
        intro c hn h0
        refine Ground.flies (hn.add ?_ rfl) (not_waits (show c.vdm_send_state ≠ 1 by rw [h0]; decide))
        exact .cons trivial (.refl _)
      exact auto_handle_flies hd
  · exact auto_handle_flies (vdm_send_spoken h hi (by rw [hs]; rfl) (fun _ => ⟨rfl, rfl, rfl, rfl⟩) hval)
  · exact auto_handle_flies (vdm_send_spoken h hi (by rw [hs]; rfl) (fun _ => ⟨rfl, rfl, rfl, rfl⟩) hval)
  · exact auto_handle_flies (vdm_send_spoken h hi (by rw [hs]; rfl) (fun _ => ⟨rfl, rfl, rfl, rfl⟩) hval)
  · have hn : Ground chip := h.ground (silent_stage (by rw [hs]; rfl)) hi
    refine Ground.flies (hn.add ?_ rfl) (silent_stage rfl)
    exact .cons trivial (.refl _)
  · exact h

/-- What a stage returns that does not wait for its command any more. -/
def Over (r : Chip × VdmRet) : Prop := r.1.vdm_send_state ≠ 1 ∨ (r.2 ≠ .zero ∧ r.2 ≠ .EINPROGRESS)

theorem vdm_send_over (h0 : chip.vdm_send_state ≠ 0)
    (h1 : chip.vdm_send_state = 1 → chip.tx_state ≠ .tx_idle ∧ chip.tx_state ≠ .tx_busy)
    (hf : ∀ c : Chip, c.vdm_send_state = 0 → Over (finish c)) : Over (vdm_send cmd mode begin acks finish chip evt) := by
  have hd : ∀ c : Chip, c.vdm_send_state ≠ 1 → Over (vdm_send.case_default acks finish c evt) := by
    intro c hc
    unfold vdm_send.case_default
    split
    · exact hf _ rfl
    · split
      · exact Or.inl hc
      · exact Or.inl hc
  unfold vdm_send
  split
  · rename_i hs
    exact absurd hs h0
  · rename_i hs
    obtain ⟨hi, hb⟩ := h1 hs
    unfold vdm_send.case_1
    rw [policy_send_data_of_ne_idle chip hi]
    dsimp only
    split
    · exact hd _ (show 2 ≠ 1 by decide)
    · exact Or.inr ⟨by rintro ⟨⟩, by rintro ⟨⟩⟩
    · rename_i hs hf
      cases ht : chip.tx_state with
      | tx_idle => exact absurd ht hi
      | tx_busy => exact absurd ht hb
      | tx_success => exact absurd ht hs
      | tx_failed => exact absurd ht hf
  · rename_i hs
    exact hd _ hs

theorem auto_handle_over {func : Chip → Evt → Chip × VdmRet} (h : Over (func chip evt)) :
    vdm_waits (AUTO_VDM_HANDLE func chip evt) = false := by
  unfold AUTO_VDM_HANDLE
  dsimp only
  split
  · rename_i hr
    rcases h with h | ⟨hz, _⟩
    · exact not_waits h
    · exact absurd hr hz
  · rename_i hr
    rcases h with h | ⟨_, hp⟩
    · exact not_waits h
    · exact absurd hr hp
  · exact silent_stage rfl

/-- The discovery does not wait at the end of a turn it does not spend waiting. -/
theorem auto_vdm_machine_over (hw : vdm_will_wait chip = false) (ha : VDM_IS_ACTIVE chip = true) :
    vdm_waits (auto_vdm_machine chip evt) = false := by
  have h1 : ∀ c : Chip, c.vdm_send_state = 0 → Over (c, .zero) := by
    intro c h0
    exact Or.inl (by rw [h0]; decide)
  unfold vdm_will_wait at hw
  rw [ha, Bool.true_and] at hw
  -- a stage that sends, and has something to ask for, has asked and heard of it
  have asked : chip.vdm_state.sends = true → queries_done chip = false →
      chip.vdm_send_state ≠ 0 ∧ (chip.vdm_send_state = 1 → chip.tx_state ≠ .tx_idle ∧ chip.tx_state ≠ .tx_busy) := by
    intro hs hq
    rw [hs, hq, Bool.true_and, if_neg (by decide), Bool.or_eq_false_iff] at hw
    obtain ⟨h0, hf⟩ := hw
    refine ⟨by simpa using h0, ?_⟩
    intro h1
    rw [vdm_flying, vdm_waits, h1, hs] at hf
    simpa using hf
  have idle : ∀ {s}, chip.vdm_state = s → s ≠ .DISCOVERY_MODES → queries_done chip = false := by
    intro s hs hm
    rw [queries_done, hs, beq_false_of_ne hm, Bool.false_and]
  unfold auto_vdm_machine
  split
  all_goals rename_i hs
  · obtain ⟨h0, ht⟩ := asked (by rw [hs]; rfl) (idle hs (by decide))
    exact auto_handle_over (vdm_send_over h0 ht h1)
  · obtain ⟨h0, ht⟩ := asked (by rw [hs]; rfl) (idle hs (by decide))
    exact auto_handle_over (vdm_send_over h0 ht h1)
  · -- DISCOVERY_MODES: with every SVID queried the stage ends without sending
    cases hq : queries_done chip
    · obtain ⟨h0, ht⟩ := asked (by rw [hs]; rfl) hq
      apply auto_handle_over
      unfold vdm_send_discoverymodes
      split
      · refine vdm_send_over h0 ht fun c hc => Or.inl ?_
        exact (show c.vdm_send_state ≠ 1 by rw [hc]; decide)
      · rename_i hn
        rw [queries_done, hs, not_not.1 hn, beq_self_eq_true] at hq
        simp at hq
    · rw [hs, hq, if_pos rfl] at hw
      simp only [VdmState.sends, Bool.true_and, beq_eq_false_iff_ne] at hw
      apply auto_handle_over
      unfold vdm_send_discoverymodes
      split
      · rename_i hn
        rw [queries_done, Bool.and_eq_true] at hq
        exact absurd (of_decide_eq_true hq.2) hn
      · exact Or.inl hw
  · obtain ⟨h0, ht⟩ := asked (by rw [hs]; rfl) (idle hs (by decide))
    exact auto_handle_over (vdm_send_over h0 ht fun c hc => h1 _ hc)
  · obtain ⟨h0, ht⟩ := asked (by rw [hs]; rfl) (idle hs (by decide))
    exact auto_handle_over (vdm_send_over h0 ht fun c hc => h1 _ hc)
  · obtain ⟨h0, ht⟩ := asked (by rw [hs]; rfl) (idle hs (by decide))
    exact auto_handle_over (vdm_send_over h0 ht fun c hc => h1 _ hc)
  · exact silent_stage rfl
  · apply silent_stage
    generalize chip.vdm_state = s at *
    cases s <;> first | rfl | contradiction

/-! ## The ready states -/

theorem store_svids_tx (c : Chip) (k : Nat) : (store_svids c k).toTx = c.toTx := by
  induction k generalizing c with
  | zero => rfl
  | succ k ih =>
    unfold store_svids
    dsimp only
    repeat' split
    · rfl
    · rfl
    · exact ih _

theorem store_mode_tx (c : Chip) : (store_mode c).toTx = c.toTx := by
  unfold store_mode
  dsimp only
  repeat' split
  all_goals rfl

/-- An acknowledgement is stored; the stage goes on when its own function sees it. -/
theorem process_vdm_ack_tx (c : Chip) (cmd : Nat) :
    (process_vdm_ack c cmd).toTx = c.toTx ∧ (process_vdm_ack c cmd).vdm_send_state = c.vdm_send_state ∧
      (process_vdm_ack c cmd).vdm_state = c.vdm_state := by
  obtain ⟨_, _, hv, hw, _, _, _⟩ := store_svids_frame c 6
  obtain ⟨hk, _⟩ := store_mode_frame c
  unfold process_vdm_ack
  repeat' split
  · exact ⟨rfl, rfl, rfl⟩
  · exact ⟨store_svids_tx c 6, hw, hv⟩
  · exact ⟨store_mode_tx c, congrArg Vdm.vdm_send_state hk, congrArg Vdm.vdm_state hk⟩
  · exact ⟨rfl, rfl, rfl⟩
  · exact ⟨rfl, rfl, rfl⟩
  · exact ⟨rfl, rfl, rfl⟩
  · exact ⟨rfl, rfl, rfl⟩

/-- A received vendor-defined message leaves the transmitter alone; only a refusal changes the stage. -/
theorem process_vdm_msg_tx (chip : Chip) :
    (process_vdm_msg chip).toTx = chip.toTx ∧ (process_vdm_msg chip).vdm_send_state = chip.vdm_send_state ∧
      ((process_vdm_msg chip).vdm_state = chip.vdm_state ∨
        (GET_VDMHEAD_STRUCT_TYPE (chip.rec_obj 0) ≠ 0 ∧ GET_VDMHEAD_CMD_TYPE (chip.rec_obj 0) = VDM_TYPE_NACK ∧
          (process_vdm_msg chip).vdm_state = .ERR)) := by
  unfold process_vdm_msg
  dsimp only
  split
  · exact ⟨rfl, rfl, Or.inl rfl⟩
  · rename_i h0
    repeat' split
    · exact ⟨rfl, rfl, Or.inl rfl⟩
    · exact ⟨rfl, rfl, Or.inl rfl⟩
    · obtain ⟨ht, hw, hv⟩ :=
        process_vdm_ack_tx (chip.emit (.ack (GET_VDMHEAD_CMD (chip.rec_obj 0)))) (GET_VDMHEAD_CMD (chip.rec_obj 0))
      exact ⟨ht, hw, Or.inl hv⟩
    · rename_i hn
      exact ⟨rfl, rfl, Or.inr ⟨h0, hn, rfl⟩⟩
    · exact ⟨rfl, rfl, Or.inl rfl⟩

/-- What the first test of a ready state leaves: the discovery where it was,
or nothing in flight and the discovery not active. -/
inductive Tested (c c' : Chip) : Prop
  | active (hs : c'.conn_state = c.conn_state) (hf : Flies (vdm_waits c') c')
      (hw : vdm_waits c' = true → vdm_waits c = true)
  | quiet (ha : VDM_IS_ACTIVE c' = false) (hw : vdm_waits c' = false) (hn : Ground c')
      (hs : c'.sub_state = 0 ∨ c'.conn_state = c.conn_state)

theorem active_of_waits (hd : c.notify.data_role = .DFP) (hw : vdm_waits c = true) : VDM_IS_ACTIVE c = true := by
  obtain ⟨_, hs⟩ := Bool.and_eq_true_iff.1 hw
  unfold VDM_IS_ACTIVE
  rw [hd]
  cases hv : c.vdm_state <;> first | rfl | (rw [hv] at hs; cases hs)

/-- A swap message moves the port, or starts its state anew. -/
theorem swap_msg_process_sub (chip : Chip) (evt : Evt) :
    (fusb_state_swap_msg_process chip evt).sub_state = 0 ∨ fusb_state_swap_msg_process chip evt = chip := by
  unfold fusb_state_swap_msg_process
  repeat' split
  all_goals first | exact Or.inl rfl | exact Or.inr rfl

theorem swap_msg_process_ground (h : Ground c) : Ground (fusb_state_swap_msg_process c evt) := by
  obtain ⟨p, he⟩ := swap_msg_process_policy c evt
  rw [he]
  exact h.keep rfl rfl

theorem ready_rx_tested (h : Flies (vdm_waits chip) chip) (hi : chip.conn_state.indifferent = false)
    (hd : vdm_waits chip = true → chip.notify.data_role = .DFP) (hg : (vdm_flying chip && vdm_refused chip evt) = false) :
    Tested chip (ready_rx chip evt) := by
  unfold ready_rx
  split
  · rename_i hrx
    split
    · rename_i hp
      obtain ⟨ht, hw, hv⟩ := process_vdm_msg_tx chip
      obtain ⟨hc, _, _, _, _, _, _, _, _, _, _, _, _⟩ := @process_vdm_msg_kept chip
      have hl : Trace.Added Entry.unrelated chip.log (process_vdm_msg chip).log :=
        (process_vdm_msg_replies chip).mono fun e he => by cases e <;> trivial
      rcases hv with hv | ⟨h0, hn, hv⟩
      · have hk : vdm_waits { process_vdm_msg chip with work_continue := true, timer_state := T_DISABLED } =
            vdm_waits chip := by
          unfold vdm_waits
          dsimp only
          rw [hw, hv]
        refine .active hc ?_ fun hs => hk ▸ hs
        rw [hk]
        exact h.keep hl hc (congrArg Tx.tx_state ht) (congrArg Tx.send_head ht) (congrArg Tx.msg_id ht)
      · -- refused: the stage is given up, with its frame reported
        have hr : vdm_refused chip evt = true := by simp [vdm_refused, vdm_in_hand, hrx, hp, h0, hn]
        rw [hr, Bool.and_true] at hg
        have hk : vdm_waits { process_vdm_msg chip with work_continue := true, timer_state := T_DISABLED } = false :=
          silent_stage (by rw [hv]; rfl)
        have hf : Ground chip := by
          cases hs : vdm_waits chip
          · exact h.ground hs hi
          · rw [vdm_flying, hs, Bool.true_and, Bool.or_eq_false_iff] at hg
            rcases h.cases hs with ⟨hb, _⟩ | ⟨_, hf⟩ | ⟨_, hf⟩ | ⟨hb, _⟩
            · rw [hb] at hg
              cases hg.2
            · exact hf
            · exact hf
            · rw [hb] at hg
              cases hg.1
        refine .active hc ?_ fun hs => absurd hs (by rw [hk]; decide)
        rw [hk]
        refine Ground.flies (hf.add hl ?_) rfl
        exact congrArg Tx.msg_id ht
    · split
      · -- a swap message is only looked at while the discovery rests
        rename_i ha
        have ha : VDM_IS_ACTIVE chip = false := by simpa using ha
        have hw : vdm_waits chip = false := by
          refine eq_false_of_ne_true fun hw => ?_
          rw [active_of_waits (hd hw) hw] at ha
          cases ha
        obtain ⟨_, _, _, _, hv, _, _, hk⟩ := @swap_msg_process_frame chip evt
        refine .quiet ?_ ?_ (swap_msg_process_ground (h.ground hw hi)) ?_
        · unfold VDM_IS_ACTIVE at ha ⊢
          rwa [hk, hv]
        · unfold vdm_waits at hw ⊢
          rwa [hv]
        · rcases swap_msg_process_sub chip evt with hs | hs
          · exact Or.inl hs
          · exact Or.inr (by rw [hs])
      · exact .active rfl h id
  · exact .active rfl h id

/-! ## The port -/

/-- A discovery that waits for its command is heard of by the ready state that
runs it, or the port is on the way to a reset. -/
def Attended (chip : Chip) : Prop :=
  vdm_waits chip = true → (vdm_reads chip = true ∧ (chip.conn_state = .policy_src_ready → chip.partner_cap 0 ≠ 0#32)) ∨
    resetting chip.conn_state = true

/-- A request is on its way and the port waits for its answer. -/
structure Aloft (chip : Chip) : Prop where
  flies : Flies (reads chip) chip
  attended : Attended chip

theorem vdm_reads_congr (hc : c'.conn_state = c.conn_state) (hv : c'.toVdm = c.toVdm)
    (hd : c'.notify.data_role = c.notify.data_role) : vdm_reads c' = vdm_reads c ∧ vdm_waits c' = vdm_waits c := by
  have hw : vdm_waits c' = vdm_waits c := by
    unfold vdm_waits
    rw [hv]
  refine ⟨?_, hw⟩
  unfold vdm_reads
  rw [hc, hd, hw]

theorem reads_congr (hc : c'.conn_state = c.conn_state) (hs : c'.sub_state = c.sub_state) (hv : c'.toVdm = c.toVdm)
    (hd : c'.notify.data_role = c.notify.data_role) : reads c' = reads c := by
  unfold reads
  rw [(vdm_reads_congr hc hv hd).1, hc, hs]

theorem Attended.keep (h : Attended c) (hc : c'.conn_state = c.conn_state) (hp : c'.partner_cap = c.partner_cap)
    (hv : c'.toVdm = c.toVdm) (hd : c'.notify.data_role = c.notify.data_role) : Attended c' := by
  obtain ⟨hr, hw⟩ := vdm_reads_congr hc hv hd
  unfold Attended
  rw [hr, hw, hc, hp]
  exact h

theorem ready_awaits {s : ConnState} (h : s.ready = true) (n : Nat) :
    s.awaits n = false ∧ s.indifferent = false ∧ resetting s = false := by
  cases s <;> first | exact ⟨rfl, rfl, rfl⟩ | cases h

theorem ready_reads (hr : c.conn_state.ready = true) (hv : vdm_waits c = true → vdm_reads c = true) :
    reads c = vdm_waits c := by
  unfold reads
  rw [(ready_awaits hr c.sub_state).1, Bool.false_or]
  cases hk : vdm_waits c
  · rw [vdm_reads, hk, Bool.and_false]
  · exact hv hk

/-- In a ready state the frame in flight is the discovery's. -/
theorem Aloft.waits (h : Aloft c) (hr : c.conn_state.ready = true) :
    Flies (vdm_waits c) c ∧ (vdm_waits c = true →
      c.notify.data_role = .DFP ∧ (c.conn_state = .policy_src_ready → c.partner_cap 0 ≠ 0#32)) := by
  obtain ⟨_, _, hs⟩ := ready_awaits hr c.sub_state
  have hw : vdm_waits c = true →
      vdm_reads c = true ∧ (c.conn_state = .policy_src_ready → c.partner_cap 0 ≠ 0#32) := by
    intro hw
    rcases h.attended hw with hv | hv
    · exact hv
    · rw [hs] at hv
      cases hv
  have he := ready_reads hr fun hk => (hw hk).1
  refine ⟨he ▸ h.flies, ?_⟩
  intro hk
  obtain ⟨hv, hp⟩ := hw hk
  refine ⟨?_, hp⟩
  simp only [vdm_reads, Bool.and_eq_true, beq_iff_eq] at hv
  exact hv.1.2

theorem aloft_ready (hr : c.conn_state.ready = true) (hf : Flies (vdm_waits c) c)
    (hd : vdm_waits c = true → c.notify.data_role = .DFP ∧ (c.conn_state = .policy_src_ready → c.partner_cap 0 ≠ 0#32)) :
    Aloft c := by
  have hv : vdm_waits c = true → vdm_reads c = true := by
    intro hw
    simp [vdm_reads, hr, (hd hw).1, hw]
  refine ⟨?_, fun hw => Or.inl ⟨hv hw, (hd hw).2⟩⟩
  rwa [ready_reads hr hv]

theorem aloft_quiet (h : Sends c) (hw : vdm_waits c = false) : Aloft c := by
  have hr : reads c = c.conn_state.awaits c.sub_state := by
    rw [reads, vdm_reads, hw, Bool.and_false, Bool.or_false]
  refine ⟨?_, fun hk => absurd hk (by rw [hw]; decide)⟩
  rwa [hr]

theorem src_ready_aloft (h : Aloft chip) (hc : chip.conn_state = .policy_src_ready) (hg : gives_up chip evt = false) :
    Aloft (fusb_state_src_ready chip evt) := by
  obtain ⟨hf, hd⟩ := h.waits (by rw [hc]; rfl)
  simp only [gives_up, hc] at hg
  obtain ⟨_, hp, _, _, hk, _, _⟩ := @ready_rx_frame chip evt
  have hp : (ready_rx chip evt).partner_cap = chip.partner_cap := congrArg Supply.partner_cap hp
  have ht := ready_rx_tested hf (by rw [hc]; rfl) (fun hw => (hd hw).1) hg
  unfold fusb_state_src_ready
  generalize ready_rx chip evt = d at hk hp ht
  dsimp only
  split
  · -- no capabilities were asked for yet, so the discovery has not begun
    rename_i h0
    have hw : vdm_waits d = false ∧ Ground d := by
      cases ht with
      | active hs hf hw =>
        have hw : vdm_waits d = false := by
          refine eq_false_of_ne_true fun hv => ?_
          rw [hp] at h0
          exact (hd (hw hv)).2 hc h0
        exact ⟨hw, hf.ground hw (by rw [hs, hc]; rfl)⟩
      | quiet _ hw hn _ => exact ⟨hw, hn⟩
    exact aloft_quiet (hw.2.move rfl rfl rfl) hw.1
  · rename_i h0
    split
    · rename_i ha
      cases ht with
      | active hs hf hw =>
        obtain ⟨hs', _, _, hp', _, _, hk', _⟩ := @auto_vdm_machine_kept d evt
        refine aloft_ready (by rw [hs', hs, hc]; rfl) (auto_vdm_machine_flies hf (by rw [hs, hc]; rfl)) fun _ => ?_
        refine ⟨?_, fun _ => ?_⟩
        · rw [hk']
          exact of_decide_eq_true (Bool.and_eq_true_iff.1 ha).1
        · rw [show (auto_vdm_machine d evt).partner_cap = d.partner_cap from congrArg Supply.partner_cap hp']
          exact h0
      | quiet hn => rw [hn] at ha; cases ha
    · cases ht with
      | active hs hf hw =>
        refine aloft_ready (by rw [hs, hc]; rfl) hf fun hv => ⟨?_, fun _ => h0⟩
        rw [hk]
        exact (hd (hw hv)).1
      | quiet _ hw hn hs =>
        refine aloft_quiet (hn.flies ?_) hw
        rcases hs with hs | hs
        · rw [hs]
          exact awaits_zero _
        · rw [hs, hc]
          rfl

/-- A swap message that finds the discovery active is left to the second test. -/
theorem ready_rx_swap (hs : swap_leaves chip evt = true) (ha : VDM_IS_ACTIVE (ready_rx chip evt) = true) :
    ready_rx chip evt = chip := by
  obtain ⟨hr, hp⟩ := Bool.and_eq_true_iff.1 hs
  have hv : PACKET_IS_DATA_MSG chip.rec_head DMT_VENDERDEFINED = false := by
    rcases Bool.or_eq_true_iff.1 hp with hp | hp
    · exact not_data_of_control hp
    · exact not_data_of_control hp
  unfold ready_rx at ha ⊢
  rw [if_pos hr, if_neg (by rw [hv]; decide)] at ha ⊢
  split
  · rename_i hn
    obtain ⟨_, _, _, _, hk, _, _, hd⟩ := @swap_msg_process_frame chip evt
    rw [if_pos hn] at ha
    have he : VDM_IS_ACTIVE (fusb_state_swap_msg_process chip evt) = VDM_IS_ACTIVE chip := by
      unfold VDM_IS_ACTIVE
      rw [hd, hk]
    rw [he] at ha
    rw [ha] at hn
    cases hn
  · rfl

/-- The second test, after the discovery's turn. -/
theorem swap_msg_process_aloft (hr : c.conn_state = .policy_snk_ready) (hf : Flies (vdm_waits c) c)
    (hd : vdm_waits c = true → c.notify.data_role = .DFP) (hg : vdm_waits c = true → swap_leaves c evt = false) :
    Aloft (fusb_state_swap_msg_process c evt) := by
  obtain ⟨_, _, _, _, hv, _, _, hk⟩ := @swap_msg_process_frame c evt
  have hw : vdm_waits (fusb_state_swap_msg_process c evt) = vdm_waits c := by
    unfold vdm_waits
    rw [hv]
  have stays : ∀ {d : Chip}, d.conn_state = .policy_snk_ready → Flies (vdm_waits d) d →
      (vdm_waits d = true → d.notify.data_role = .DFP) → Aloft d := by
    intro d hr hf hd
    refine aloft_ready (by rw [hr]; rfl) hf fun hw => ⟨hd hw, fun hs => ?_⟩
    rw [hr] at hs
    cases hs
  rcases swap_msg_process_sub c evt with h0 | h0
  · cases hs : vdm_waits c
    · rw [hs] at hw
      have hn : Ground c := hf.ground hs (by rw [hr]; rfl)
      refine aloft_quiet (Ground.flies (swap_msg_process_ground hn) ?_) hw
      rw [h0]
      exact awaits_zero _
    · -- only VCONN_SWAP is left, and a DFP stays where it is
      have hl := hg hs
      unfold fusb_state_swap_msg_process
      unfold swap_leaves at hl
      split
      · rename_i hrx
        rw [hrx, Bool.true_and, Bool.or_eq_false_iff] at hl
        rw [if_neg (by rw [hl.1]; decide)]
        split
        · rw [if_pos (hd hs)]
          refine stays hr ?_ hd
          exact Flies.keep hf (.refl _) rfl rfl rfl rfl
        · rw [if_neg (by rw [hl.2]; decide)]
          exact stays hr hf hd
      · exact stays hr hf hd
  · rw [h0]
    exact stays hr hf hd

theorem notify_aloft (h : Aloft c) : Aloft (platform_fusb_notify c) := by
  obtain ⟨hp, _, hx, _, hs, hv, _, hh, _, hd, _⟩ := @platform_fusb_notify_frame c
  have hr := reads_congr (congrArg Policy.conn_state hp) (congrArg Policy.sub_state hp) hv hd
  refine ⟨?_, h.attended.keep (congrArg Policy.conn_state hp) (congrArg Supply.partner_cap hs) hv hd⟩
  rw [hr]
  exact h.flies.keep (.of_eq (congrArg Hw.log hh)) (congrArg Policy.conn_state hp) (congrArg Tx.tx_state hx)
    (congrArg Tx.send_head hx) (congrArg Tx.msg_id hx)

theorem snk_ready_aloft (h : Aloft chip) (hc : chip.conn_state = .policy_snk_ready) (hg : gives_up chip evt = false) :
    Aloft (fusb_state_snk_ready chip evt) := by
  obtain ⟨hf, hd⟩ := h.waits (by rw [hc]; rfl)
  simp only [gives_up, hc, Bool.or_eq_false_iff] at hg
  obtain ⟨hx, _, _, _, hk, _, _⟩ := @ready_rx_frame chip evt
  have ht := ready_rx_tested hf (by rw [hc]; rfl) (fun hw => (hd hw).1) hg.1
  have hsw := @ready_rx_swap chip evt
  unfold fusb_state_snk_ready
  apply notify_aloft
  generalize ready_rx chip evt = d at hx hk ht hsw
  split
  · rename_i ha
    cases ht with
    | active hs hf hw =>
      obtain ⟨hs', _, hx', _, _, _, hk', _⟩ := @auto_vdm_machine_kept d evt
      refine swap_msg_process_aloft (by rw [hs', hs, hc]) (auto_vdm_machine_flies hf (by rw [hs, hc]; rfl)) ?_ ?_
      · intro _
        rw [hk']
        exact of_decide_eq_true (Bool.and_eq_true_iff.1 ha).1
      · -- a swap message that would leave is given up with its frame, or came when the discovery was over
        intro hw'
        refine eq_false_of_ne_true fun hl => ?_
        have hh : (auto_vdm_machine d evt).rec_head = chip.rec_head := congrArg Rx.rec_head (hx'.trans hx)
        rw [swap_leaves, hh] at hl
        have he := hsw hl ha
        rw [he] at ha hw'
        have hn := hg.2
        rw [show swap_leaves chip evt = true from hl, Bool.and_true] at hn
        rw [auto_vdm_machine_over hn ha] at hw'
        cases hw'
    | quiet hn => rw [hn] at ha; cases ha
  · rename_i ha
    cases ht with
    | active hs hf hw =>
      have hn : vdm_waits d = false := by
        refine eq_false_of_ne_true fun hv => ha ?_
        exact active_of_waits (by rw [hk]; exact (hd (hw hv)).1) hv
      refine swap_msg_process_aloft (by rw [hs, hc]) hf ?_ ?_
      · intro hv
        rw [hn] at hv
        cases hv
      · intro hv
        rw [hn] at hv
        cases hv
    | quiet _ hw hn hs =>
      obtain ⟨_, _, _, _, hv, _, _, _⟩ := @swap_msg_process_frame d evt
      refine aloft_quiet (Ground.flies (swap_msg_process_ground hn) ?_) ?_
      · rcases swap_msg_process_sub d evt with h0 | h0
        · rw [h0]
          exact awaits_zero _
        · rw [h0]
          rcases hs with hs | hs
          · rw [hs]
            exact awaits_zero _
          · rw [hs, hc]
            rfl
      · unfold vdm_waits at hw ⊢
        rwa [hv]

/-! ## The switch -/

/-- Only the ready states let the discovery begin to wait. -/
theorem silent_ordinary : Ordinary fun c => vdm_waits c = false where
  view {c d} h he := by
    have hv : d.toVdm = c.toVdm := congrArg View.vdm he
    unfold vdm_waits at h ⊢
    rwa [hv]
  move h _ := h
  recast _ h _ := h
  pd_reset h := h
  forget h := h
  sub _ h _ := h
  log h _ := h
  soft_reset _ := rfl
  renumber _ h := h

theorem dispatch_silent (h : vdm_waits chip = false) (hr : chip.conn_state.ready = false) :
    vdm_waits (dispatch chip evt) = false := by
  have negotiate : ∀ {c}, vdm_waits c = false → vdm_waits (fusb_state_src_negotiate_cap c) = false := by
    intro c hc
    unfold fusb_state_src_negotiate_cap
    dsimp only
    split
    · exact hc
    · exact hc
  have he : vdm_waits (fusb_state_snk_evaluate_caps chip) = false := by
    obtain ⟨_, _, _, _, _, hv, _⟩ := @evaluate_caps_frame chip
    unfold vdm_waits at h ⊢
    rwa [hv]
  have never : ¬(chip.conn_state = .policy_src_ready ∨ chip.conn_state = .policy_snk_ready) := by
    rintro (hc | hc)
    all_goals rw [hc] at hr; cases hr
  exact silent_ordinary.serves.switch h {
    offer := fun _ _ _ => negotiate
    negotiate := fun _ => negotiate h
    evaluate := fun _ => he
    select := fun _ _ => h
    vdm := fun hc => absurd hc never
    auto := fun hc => absurd hc never }

theorem Sends.aloft (h : Sends c) (hw : vdm_waits c = true → resetting c.conn_state = true) : Aloft c := by
  refine ⟨?_, fun hk => Or.inr (hw hk)⟩
  cases hk : vdm_waits c
  · exact (aloft_quiet h hk).flies
  · have hr : reads c = c.conn_state.awaits c.sub_state := by
      have hn : c.conn_state.ready = false := by
        have hw := hw hk
        generalize c.conn_state = s at hw
        cases s <;> first | rfl | cases hw
      rw [reads, vdm_reads, hn, Bool.false_and, Bool.false_and, Bool.or_false]
    rwa [hr]

/-- A handler keeps the port aloft unless it gives up its frame. -/
theorem dispatch_aloft (h : Aloft chip) (hg : gives_up chip evt = false) : Aloft (dispatch chip evt) := by
  cases hr : chip.conn_state.ready
  · have hv : vdm_reads chip = false := by rw [vdm_reads, hr, Bool.false_and, Bool.false_and]
    have hs : Sends chip := by
      have hf := h.flies
      rwa [reads, hv, Bool.or_false] at hf
    refine Sends.aloft (dispatch_sends hs hr hg) ?_
    -- a discovery that still waits is on its way to a reset
    cases ht : resetting chip.conn_state
    · have hw : vdm_waits chip = false := by
        refine eq_false_of_ne_true fun hw => ?_
        rcases h.attended hw with ⟨hk, _⟩ | hk
        · rw [hv] at hk
          cases hk
        · rw [ht] at hk
          cases hk
      rw [dispatch_silent hw hr]
      rintro ⟨⟩
    · rcases @resetting_step chip evt ht with hk | hk
      · exact fun _ => hk
      · rw [not_waits (by rw [hk.idle]; decide)]
        rintro ⟨⟩
  · unfold dispatch
    split
    all_goals rename_i hc
    all_goals try (rw [hc] at hr; cases hr)
    · exact src_ready_aloft h hc hg
    · exact snk_ready_aloft h hc hg

end Fusb302
