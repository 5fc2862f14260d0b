import LinuxDriver.Fusb302.Frames
/-!
# Ordinary handlers

Most handlers only move between states, start timers, build and send control
messages and drive the board. A predicate that survives these effects survives
the handlers. Six states are not ordinary: the two that take up a REQUEST, the
two that may build one, and the two ready states, which run the VDM machine.
-/

namespace Fusb302

/-! ## The effects -/

/-- The policy position, the received message, the message count, the data role, the VDM fields and the log. -/
structure View where
  conn_state : ConnState
  sub_state : Nat
  val_tmp : BitVec 8
  rx : Rx
  msg_id : Nat
  data_role : DataRole
  vdm : Vdm
  is_enter_mode : Bool
  log : List Entry

/-- The view of a chip. -/
def Chip.view (chip : Chip) : View :=
  ⟨chip.conn_state, chip.sub_state, chip.val_tmp, chip.toRx, chip.msg_id, chip.notify.data_role, chip.toVdm,
    chip.notify.is_enter_mode, chip.log⟩

/-- States that no ordinary handler enters. -/
def ConnState.guarded : ConnState → Bool
  | .policy_src_negotiate_cap | .policy_src_transition_supply | .policy_snk_select_cap => true
  | _ => false

/-- Entries that ordinary handlers log. -/
def Entry.ordinary : Entry → Bool
  | .mesg cmd is_DMT => !(is_DMT && cmd == DMT_REQUEST)
  | .fifo .. | .sent | .retryfail | .hardrst | .pd_reset => true
  | _ => false

/-- `P` survives every effect of a handler of the attach phase. -/
structure Mild (P : Chip → Prop) : Prop where
  view : ∀ {c d}, P c → d.view = c.view → P d
  move : ∀ {c s}, P c → s.guarded = false → P (set_state c s)
  recast : ∀ {c s} r, P c → s.guarded = false → P (set_state { c with notify.data_role := r } s)
  pd_reset : ∀ {c}, P c → P (fusb302_pd_reset c)
  forget : ∀ {c}, P c → P { c with notify := {} }

/-- `P` survives every effect of an ordinary handler. -/
structure Ordinary (P : Chip → Prop) : Prop extends Mild P where
  sub : ∀ {c} n, P c → 1 ≤ n → P { c with sub_state := n }
  log : ∀ {c e}, P c → e.ordinary = true → P (c.emit e)
  soft_reset : ∀ {c}, P c → P (fusb_soft_reset_parameter c)
  renumber : ∀ {c} n, P c → P { c with msg_id := n }
  pd_reset h := log h rfl

/-- The message in hand is a vendor-defined one, which the ready states process. -/
def vdm_in_hand (chip : Chip) (evt : Evt) : Bool := evt.rx && PACKET_IS_DATA_MSG chip.rec_head DMT_VENDERDEFINED

/-- Entries that ordinary handlers log, a reset of the chip apart. -/
def Entry.handled : Entry → Bool
  | .pd_reset => false
  | e => e.ordinary

/-- `P`, which may also read the wires, survives every effect of a handler of
the attach phase but its resets of the chip. -/
structure Attaches (P : Chip → Prop) : Prop where
  view : ∀ {c d}, P c → d.view = c.view → d.wires = c.wires → P d
  polarity : ∀ {c} polarity, P c → P (tcpm_set_polarity c polarity)
  vconn : ∀ {c} enable, P c → P (tcpm_set_vconn c enable)
  move : ∀ {c s}, P c → s.guarded = false → P (set_state c s)
  recast : ∀ {c s} r, P c → s.guarded = false → P (set_state { c with notify.data_role := r } s)
  forget : ∀ {c}, P c → P { c with notify := {} }

/-- `P` survives every effect of an ordinary handler but its resets of the chip. -/
structure Works (P : Chip → Prop) : Prop extends Attaches P where
  sub : ∀ {c} n, P c → 1 ≤ n → P { c with sub_state := n }
  log : ∀ {c e}, P c → e.handled = true → P (c.emit e)
  soft_reset : ∀ {c}, P c → P (fusb_soft_reset_parameter c)
  renumber : ∀ {c} n, P c → P { c with msg_id := n }

/-- `P` survives what drops the receive FIFO. -/
structure Resets (P : Chip → Prop) : Prop where
  init : ∀ {c}, P c → P (tcpm_init c)
  flush : ∀ {c}, P c → P (tcpm_set_rx_enable c true)

/-- `Ordinary`, for a `P` that may also read the wires. -/
structure Serves (P : Chip → Prop) : Prop extends Works P, Resets P where
  pd_reset : ∀ {c}, P c → P (fusb302_pd_reset c)

/-- The states whose handlers are not ordinary. -/
def Ordinary.special : ConnState → Bool
  | .policy_src_send_caps | .policy_src_negotiate_cap | .policy_snk_evaluate_caps | .policy_snk_select_cap
  | .policy_src_ready | .policy_snk_ready => true
  | _ => false

/-- What is left to show of the special states' handlers. -/
structure Specials (P : Chip → Prop) (chip : Chip) (evt : Evt) : Prop where
  offer : chip.conn_state = .policy_src_send_caps →
    ∀ c, fusb_state_src_send_caps chip evt = set_state c .policy_src_negotiate_cap → P c → P (fusb_state_src_negotiate_cap c)
  negotiate : chip.conn_state = .policy_src_negotiate_cap → P (fusb_state_src_negotiate_cap chip)
  evaluate : chip.conn_state = .policy_snk_evaluate_caps →
    P (build_mesg (fusb_state_snk_evaluate_caps chip) DMT_REQUEST true)
  select : chip.conn_state = .policy_snk_select_cap → chip.sub_state = 0 → P (build_mesg chip DMT_REQUEST true)
  vdm : chip.conn_state = .policy_src_ready ∨ chip.conn_state = .policy_snk_ready →
    vdm_in_hand chip evt = true → P (process_vdm_msg chip)
  auto : chip.conn_state = .policy_src_ready ∨ chip.conn_state = .policy_snk_ready →
    P (ready_rx chip evt) → VDM_IS_ACTIVE (ready_rx chip evt) = true → P (auto_vdm_machine (ready_rx chip evt) evt)

variable {P : Chip → Prop} {chip : Chip} {evt : Evt} {env : Env}

theorem PolicyKept.view {c c' : Chip} (hk : PolicyKept c' c) : c'.view = c.view := by
  obtain ⟨hp, _, ht, hr, _, hv, hn, hl, _⟩ := hk
  rw [Chip.view, Chip.view, hp, ht, hr, hv, hn, hl]

theorem Entry.ordinary_of_handled {e : Entry} (h : e.handled = true) : e.ordinary = true := by
  cases e <;> first | exact h | rfl

theorem Ordinary.serves (k : Ordinary P) : Serves P where
  view h he _ := k.view h he
  polarity _ h := k.view h (tcpm_set_polarity_kept ..).view
  vconn _ h := k.view h (tcpm_set_vconn_kept ..).view
  move := k.move
  recast := k.recast
  forget := k.forget
  sub := k.sub
  log h he := k.log h (Entry.ordinary_of_handled he)
  soft_reset := k.soft_reset
  renumber := k.renumber
  init h := k.view (k.pd_reset h) (by simp [Chip.view, fusb302_pd_reset, Chip.emit])
  flush h := k.view h (tcpm_set_rx_enable_kept ..).view
  pd_reset := k.pd_reset

/-! ## Resets of the chip -/

/-- `attach_wait_sink_measure` gives up. -/
def measure_discards (chip : Chip) : Bool :=
  let chip := debounce chip
  if chip.debounce_cnt > N_DEBOUNCE_CNT then
    if (chip.cc1 = .RP ∧ chip.cc2 = .OPEN) ∨ (chip.cc2 = .RP ∧ chip.cc1 = .OPEN) then false else true
  else false

/-- `attach_wait_sink` resets the chip: a role to try, or nothing attached. -/
def attach_wait_sink_discards (chip : Chip) (evt : Evt) : Bool :=
  if evt.timer_mux then
    let v := tcpm_check_vbus chip
    if v.2 then
      let chip : Chip := { v.1 with timer_mux := T_DISABLED }
      if chip.role = .DRP ∧ chip.try_role = .DFP ∧ chip.try_role_complete = false then true
      else if chip.try_role_complete then false
      else measure_discards chip
    else measure_discards v.1
  else false

/-- `attach_wait_source` resets the chip. -/
def attach_wait_source_discards (chip : Chip) (evt : Evt) : Bool :=
  if evt.timer_mux then
    let chip := debounce chip
    if chip.debounce_cnt > N_DEBOUNCE_CNT then
      if (chip.cc1 = .OPEN ∨ chip.cc2 = .OPEN) ∧ (chip.cc1 = .RD ∨ chip.cc2 = .RD) then
        if chip.role = .DRP ∧ chip.try_role = .UFP ∧ chip.try_role_complete = false then true else false
      else true
    else false
  else false

/-- `attached_sink` resets the chip. -/
def attached_sink_discards (chip : Chip) (evt : Evt) : Bool :=
  let v := tcpm_check_vbus chip
  if v.2 then
    let chip := v.1
    if chip.try_role_complete = false ∧ chip.try_role = .DFP ∧ chip.role = .DRP then true else false
  else evt.timer_mux

/-- A try that timed out resets the chip once. -/
def try_attach_discards (chip : Chip) (evt : Evt) : Bool :=
  if evt.cc && chip.cc_state != 0#8 then false
  else if evt.timer_mux then !chip.try_role_complete
  else false

/-- The handler drops the receive FIFO: it resets the chip or enables the receiver. -/
def discards (chip : Chip) (evt : Evt) : Bool :=
  match chip.conn_state with
  | .error_recovery | .policy_src_startup | .policy_snk_startup => true
  | .attach_wait_sink => attach_wait_sink_discards chip evt
  | .attach_wait_source => attach_wait_source_discards chip evt
  | .attached_sink => attached_sink_discards chip evt
  | .attach_try_src | .attach_try_snk => try_attach_discards chip evt
  | .policy_src_prs_source_off => chip.sub_state == 2 && evt.rx && PACKET_IS_CONTROL_MSG chip.rec_head CMT_PS_RDY
  | _ => false

/-- `fusb_try_detach` finds the port detached. -/
def try_detach_detaches (chip : Chip) : Bool :=
  if bit chip.cc_state CC_STATE_TOGSS_IS_UFP ∧ chip.conn_state ≠ .policy_snk_transition_default ∧
      chip.conn_state ≠ .policy_src_prs_source_off ∧ chip.conn_state ≠ .policy_snk_prs_send_swap ∧
      chip.conn_state ≠ .policy_snk_prs_assert_rp ∧ chip.conn_state ≠ .policy_snk_prs_source_on ∧
      chip.conn_state ≠ .policy_snk_prs_transition_to_off then !(tcpm_check_vbus chip).2
  else if chip.conn_state ≠ .policy_src_transition_default ∧ chip.conn_state ≠ .policy_src_prs_source_off ∧
      chip.conn_state ≠ .policy_snk_prs_source_on then
    let m := tcpm_get_cc chip
    decide ((if bit chip.cc_state CC_STATE_TOGSS_CC2 then m.cc2 else m.cc1) = .OPEN)
  else false

/-- The part before the switch finds the partner gone. -/
def detaches (chip : Chip) (evt : Evt) : Bool :=
  if chip.notify.is_cc_connected && (evt.cc || evt.delay_cc) then try_detach_detaches chip else false

namespace Attaches

theorem phy (k : Attaches P) {chip' : Chip} (h : P chip) (hk : PolicyKept chip' chip) (hw : chip'.wires = chip.wires) :
    P chip' := k.view h hk.view hw

theorem vbus (k : Attaches P) (h : P chip) (vbus_5v vbus_other : Bool) :
    P (platform_set_vbus_lvl_enable chip vbus_5v vbus_other) :=
  k.view h (by simp [Chip.view]) rfl

theorem notify (k : Attaches P) (h : P chip) : P (platform_fusb_notify chip) :=
  k.view h (by simp [Chip.view]) rfl

theorem unattached (k : Attaches P) (r : Resets P) (h : P chip) : P (set_state_unattached chip) := by
  unfold set_state_unattached
  have hi := k.phy (r.init h) (tcpm_set_rx_enable_kept _ false) (rx_disable_wires _)
  have hs := k.move (s := .unattached) hi rfl
  have hc := k.phy hs (tcpm_set_cc_kept _ (set_state (tcpm_set_rx_enable (tcpm_init chip) false) .unattached).role)
    (tcpm_set_cc_wires ..)
  have hn := k.notify (k.forget hc)
  exact k.view hn (by simp [Chip.view]) rfl

/-- Moving by one of the two roles. -/
theorem either (k : Attaches P) (h : P chip) {c : Prop} [Decidable c] {s t : ConnState} (hs : s.guarded = false)
    (ht : t.guarded = false) : P (set_state chip (if c then s else t)) := by
  split
  · exact k.move h hs
  · exact k.move h ht

/-! ## Attachment -/

theorem try_attach_set (k : Attaches P) (r : Resets P) (h : P chip) (mode : RoleMode) : P (fusb_state_try_attach_set chip mode) := by
  unfold fusb_state_try_attach_set
  dsimp only
  split
  · exact h
  · have hc := k.phy (r.init h) (tcpm_set_cc_kept _ (if mode = .DFP then .DFP else .UFP)) (tcpm_set_cc_wires ..)
    refine k.either ?_ rfl rfl
    exact k.view hc rfl rfl

theorem start_debounce (k : Attaches P) (h : P chip) : P (start_debounce chip) := by
  unfold Fusb302.start_debounce
  have hp := k.polarity (cc_state_polarity chip) h
  have hm := k.phy hp (tcpm_get_cc_kept _) (tcpm_get_cc_wires _)
  exact k.view hm rfl rfl

theorem debounce (k : Attaches P) (h : P chip) : P (debounce chip) := by
  have hm := k.phy h (tcpm_get_cc_kept chip) (tcpm_get_cc_wires chip)
  unfold Fusb302.debounce
  dsimp only
  split
  · exact k.view hm rfl rfl
  · exact k.view hm rfl rfl

theorem state_unattached (k : Attaches P) (h : P chip) : P (fusb_state_unattached chip evt) := by
  have h0 : P { chip with notify.is_cc_connected := false, is_pd_support := false } := k.view h rfl rfl
  unfold fusb_state_unattached
  dsimp only
  split
  · apply k.start_debounce
    split
    · exact k.view (k.phy (k.move (s := .attach_wait_sink) h0 rfl) (tcpm_check_vbus_kept _) rfl) rfl rfl
    · exact k.view (k.phy (k.move (s := .attach_wait_source) h0 rfl) (tcpm_check_vbus_kept _) rfl) rfl rfl
  · exact h0

theorem attach_wait_sink_measure (k : Attaches P) (h : P chip) (r : measure_discards chip = true → Resets P) :
    P (attach_wait_sink_measure chip) := by
  have hd := k.debounce h
  unfold measure_discards at r
  unfold Fusb302.attach_wait_sink_measure
  dsimp only at r ⊢
  split
  · rename_i hn
    split
    · exact k.move (k.view hd rfl rfl) rfl
    · rename_i hl
      rw [if_pos hn, if_neg hl] at r
      exact k.unattached (r rfl) (k.view hd rfl rfl)
  · exact k.view hd rfl rfl

theorem attach_wait_sink (k : Attaches P) (h : P chip) (r : attach_wait_sink_discards chip evt = true → Resets P) :
    P (fusb_state_attach_wait_sink chip evt) := by
  have hv := k.phy h (tcpm_check_vbus_kept chip) rfl
  unfold attach_wait_sink_discards at r
  unfold fusb_state_attach_wait_sink
  dsimp only at r ⊢
  split
  · rename_i ht
    rw [if_pos ht] at r
    split
    · rename_i hb
      rw [if_pos hb] at r
      split
      · rename_i hy
        rw [if_pos hy] at r
        refine k.try_attach_set (r rfl) ?_ _
        exact k.view hv rfl rfl
      · rename_i hy
        rw [if_neg hy] at r
        split
        · exact k.move (k.view hv rfl rfl) rfl
        · rename_i hd
          rw [if_neg hd] at r
          exact k.attach_wait_sink_measure (k.view hv rfl rfl) r
    · rename_i hb
      rw [if_neg hb] at r
      exact k.attach_wait_sink_measure hv r
  · exact h

theorem attach_wait_source (k : Attaches P) (h : P chip) (r : attach_wait_source_discards chip evt = true → Resets P) :
    P (fusb_state_attach_wait_source chip evt) := by
  have hd := k.debounce h
  unfold attach_wait_source_discards at r
  unfold fusb_state_attach_wait_source
  dsimp only at r ⊢
  split
  · rename_i ht
    rw [if_pos ht] at r
    split
    · rename_i hn
      rw [if_pos hn] at r
      split
      · rename_i hl
        rw [if_pos hl] at r
        split
        · rename_i hy
          rw [if_pos hy] at r
          exact k.try_attach_set (r rfl) hd _
        · exact k.move hd rfl
      · rename_i hl
        rw [if_neg hl] at r
        exact k.unattached (r rfl) hd
    · exact k.view hd rfl rfl
  · exact h

theorem attached_source (k : Attaches P) (h : P chip) : P (fusb_state_attached_source chip) := by
  unfold fusb_state_attached_source
  have hv := k.polarity (cc_state_polarity (platform_set_vbus_lvl_enable chip true false)) (k.vbus h true false)
  have hc := k.vconn true hv
  refine k.phy ?_ (regmap_update_bits_kept ..) (update_wires _ _ rfl)
  exact k.view (k.recast (s := .policy_src_startup) .DFP hc rfl) rfl rfl

theorem attached_sink (k : Attaches P) (h : P chip) (r : attached_sink_discards chip evt = true → Resets P) :
    P (fusb_state_attached_sink chip evt) := by
  have hv := k.phy h (tcpm_check_vbus_kept chip) rfl
  unfold attached_sink_discards at r
  unfold fusb_state_attached_sink
  dsimp only at r ⊢
  split
  · rename_i hb
    rw [if_pos hb] at r
    split
    · rename_i hy
      rw [if_pos hy] at r
      refine k.try_attach_set (r rfl) ?_ _
      exact k.view hv rfl rfl
    · exact k.view (k.recast (s := .policy_snk_startup) .UFP hv rfl) rfl rfl
  · rename_i hb
    rw [if_neg hb] at r
    split
    · rename_i ht
      exact k.unattached (r ht) hv
    · exact k.view hv rfl rfl

theorem try_attach (k : Attaches P) (h : P chip) (r : try_attach_discards chip evt = true → Resets P) (mode : RoleMode) :
    P (fusb_state_try_attach chip evt mode) := by
  have h0 : P { chip with try_role_complete := true } := k.view h rfl rfl
  unfold try_attach_discards at r
  unfold fusb_state_try_attach
  dsimp only at r ⊢
  split
  · apply k.start_debounce
    split
    · exact k.either h0 rfl rfl
    · exact k.either h0 rfl rfl
  · rename_i hc
    rw [if_neg hc] at r
    split
    · rename_i ht
      rw [if_pos ht] at r
      split
      · rename_i hy
        exact k.try_attach_set (r hy) h0 _
      · exact k.move h rfl
    · exact h

/-- The handlers of the attach phase. -/
theorem dispatch_attaching (k : Attaches P) (h : P chip) (hc : attaching chip.conn_state = true)
    (r : discards chip evt = true → Resets P) : P (dispatch chip evt) := by
  have never : ∀ {s}, chip.conn_state = s → attaching s = false → P (Fusb302.dispatch chip evt) := by
    intro s hs ht
    rw [hs, ht] at hc
    cases hc
  cases hs : chip.conn_state <;> first
    | exact never hs rfl
    | unfold Fusb302.dispatch
      unfold discards at r
      simp only [hs] at r ⊢
  · exact h
  · exact k.unattached (r trivial) h
  · exact k.state_unattached h
  · exact k.attach_wait_sink h r
  · exact k.attach_wait_source h r
  · exact k.attached_source h
  · exact k.attached_sink h r
  · exact k.try_attach h r _
  · exact k.try_attach h r _

end Attaches

namespace Works

/-! ## Sending -/

theorem mesg (k : Works P) (h : P chip) {cmd : Nat} {is_DMT : Bool} (hr : (is_DMT && cmd == DMT_REQUEST) = false) :
    P (set_mesg chip cmd is_DMT) := by
  have ho : (Entry.mesg cmd is_DMT).handled = true := by
    change (!(is_DMT && cmd == DMT_REQUEST)) = true
    rw [hr, Bool.not_false]
  have hl : P (chip.emit (.mesg cmd is_DMT)) := k.log h ho
  exact k.view hl (by simp [Chip.view, Chip.emit, set_mesg_log _ hr]) rfl

theorem build (k : Works P) (h : P chip) {cmd : Nat} {is_DMT : Bool} (hr : (is_DMT && cmd == DMT_REQUEST) = false) :
    P (build_mesg chip cmd is_DMT) := k.view (k.sub 1 (k.mesg h hr) (Nat.le_refl 1)) rfl rfl

theorem send (k : Works P) (h : P chip) : P (policy_send_data chip) := by
  unfold policy_send_data
  split
  · have hl : P (chip.emit (.fifo (senddata chip) chip.conn_state)) := k.log h rfl
    exact k.view hl rfl rfl
  · exact h

theorem send_then (k : Works P) {success failed : Chip → Chip} (h : P chip) (hs : P (success chip))
    (hf : P (failed chip)) : P (send_then chip success failed) := by
  rcases send_then_cases chip success failed with ⟨_, he⟩ | ⟨_, he⟩ | ⟨_, _, he⟩ <;> rw [he]
  · exact hs
  · exact hf
  · exact k.send h

/-! ## Source -/

theorem src_startup (k : Works P) (r : Resets P) (h : P chip) : P (fusb_state_src_startup chip) := by
  unfold fusb_state_src_startup
  have hs : P (fusb_soft_reset_parameter { chip with notify.is_pd_connected := false }) := k.soft_reset (k.view h rfl rfl)
  have hm := k.phy (k.view (d := { fusb_soft_reset_parameter { chip with notify.is_pd_connected := false } with
    partner_cap := fun _ => 0#32 }) hs rfl rfl) (tcpm_set_msg_header_kept _) (tcpm_set_msg_header_wires _)
  exact k.notify (k.move (r.flush (k.polarity _ hm)) rfl)

theorem src_discovery (k : Works P) (h : P chip) : P (fusb_state_src_discovery chip evt) := by
  unfold fusb_state_src_discovery
  dsimp only
  split
  · split
    · exact k.view (k.sub 1 h (Nat.le_refl 1)) rfl rfl
    · exact k.move (k.view h rfl rfl) rfl
  · repeat' split
    all_goals first | exact h | exact k.move h rfl

/-- Sending capabilities is ordinary up to the state entered for a REQUEST. -/
theorem src_send_caps (k : Works P) (h : P chip) (hs : chip.conn_state ≠ .policy_src_negotiate_cap) :
    let chip' := fusb_state_src_send_caps chip evt
    (P chip' ∧ chip'.conn_state ≠ .policy_src_negotiate_cap) ∨
      ∃ c, P c ∧ chip' = set_state c .policy_src_negotiate_cap := by
  have hd : ∀ {c}, P c → c.conn_state ≠ .policy_src_negotiate_cap →
      let c' := fusb_state_src_send_caps.case_default c evt
      (P c' ∧ c'.conn_state ≠ .policy_src_negotiate_cap) ∨ ∃ d, P d ∧ c' = set_state d .policy_src_negotiate_cap := by
    intro c hc hn
    unfold fusb_state_src_send_caps.case_default
    dsimp only
    split
    · split
      · exact Or.inr ⟨c, hc, rfl⟩
      · exact Or.inl ⟨k.move hc rfl, nofun⟩
    · refine Or.inl ?_
      repeat' split
      all_goals first | exact ⟨hc, hn⟩ | exact ⟨k.move hc rfl, nofun⟩
  have h1 : ∀ {c}, P c → c.conn_state ≠ .policy_src_negotiate_cap →
      let c' := fusb_state_src_send_caps.case_1 c evt
      (P c' ∧ c'.conn_state ≠ .policy_src_negotiate_cap) ∨ ∃ d, P d ∧ c' = set_state d .policy_src_negotiate_cap := by
    intro c hc hn
    have ht : (policy_send_data c).conn_state ≠ .policy_src_negotiate_cap := by simpa using hn
    have hs : P { timer_state_start { policy_send_data c with hardrst_count := 0, caps_counter := 0 } T_SENDER_RESPONSE
        with timer_mux := T_DISABLED, sub_state := (policy_send_data c).sub_state + 1, is_pd_support := true } :=
      k.view (k.sub ((policy_send_data c).sub_state + 1) (k.send hc) (Nat.le_add_left 1 _)) rfl rfl
    unfold fusb_state_src_send_caps.case_1
    dsimp only
    split
    · exact Or.inl ⟨k.move (k.send hc) rfl, nofun⟩
    · split
      · exact Or.inl ⟨hs, ht⟩
      · exact hd hs ht
    · split
      · exact Or.inl ⟨k.send hc, ht⟩
      · exact hd (k.send hc) ht
  unfold fusb_state_src_send_caps
  split
  · exact h1 (k.build h rfl) (by simpa using hs)
  · exact h1 h hs
  · exact hd h hs

theorem src_transition_supply (k : Works P) (h : P chip) : P (fusb_state_src_transition_supply chip evt) := by
  unfold fusb_state_src_transition_supply fusb_state_src_transition_supply.case_1
  split
  · rw [send_then_build_mesg]
    exact k.send (k.build h rfl)
  · exact k.send_then h (k.view (k.sub (chip.sub_state + 1) h (Nat.le_add_left 1 _)) rfl rfl) (k.move h rfl)
  · split
    · have hv := k.vbus (k.view (d := { chip with notify.is_pd_connected := true }) h rfl rfl) true false
      have hm : P (set_mesg _ CMT_PS_RDY false) := k.mesg hv rfl
      exact k.view (k.sub 3 hm (by decide)) rfl rfl
    · exact h
  · exact k.send_then h (k.move h rfl) (k.move h rfl)

theorem src_cap_response (k : Works P) (h : P chip) : P (fusb_state_src_cap_response chip) := by
  unfold fusb_state_src_cap_response fusb_state_src_cap_response.case_default
  split
  · rw [send_then_build_mesg]
    exact k.send (k.build h rfl)
  · refine k.send_then h ?_ (k.move h rfl)
    split
    · exact k.move h rfl
    · exact k.move h rfl

theorem src_transition_default (k : Works P) (h : P chip) : P (fusb_state_src_transition_default chip evt) := by
  unfold fusb_state_src_transition_default
  split
  · have hv := k.vbus (k.view (d := { chip with notify.is_pd_connected := false }) h rfl rfl) false false
    exact k.view (k.sub 1 (k.phy hv (regmap_update_bits_kept ..) (update_switches1_wires _ (by decide))) (Nat.le_refl 1)) rfl rfl
  · split
    · exact k.move (k.view (k.vbus h true false) rfl rfl) rfl
    · exact h

theorem send_and_wait (k : Works P) (h : P chip) {failed : ConnState} (hf : failed.guarded = false) :
    P (send_and_wait chip failed) :=
  k.send_then h (k.view (k.sub (chip.sub_state + 1) h (Nat.le_add_left 1 _)) rfl rfl) (k.move h hf)

theorem src_get_sink_cap (k : Works P) (h : P chip) : P (fusb_state_src_get_sink_cap chip evt) := by
  have hd : ∀ {c}, P c → P (fusb_state_src_get_sink_cap.case_default c evt) := by
    intro c hc
    unfold fusb_state_src_get_sink_cap.case_default
    repeat' split
    all_goals first | exact hc | exact k.move (k.view hc rfl rfl) rfl
  have h1 : ∀ {c}, P c → P (fusb_state_src_get_sink_cap.case_1 c evt) := by
    intro c hc
    have hw : P (Fusb302.send_and_wait c .policy_src_send_softrst) := k.send_and_wait hc rfl
    unfold fusb_state_src_get_sink_cap.case_1
    dsimp only
    split
    · exact hw
    · exact hd hw
  unfold fusb_state_src_get_sink_cap
  split
  · exact h1 (k.build h rfl)
  · exact h1 h
  · exact hd h

theorem send_hardreset (k : Works P) (h : P chip) {next : ConnState} (hn : next.guarded = false) :
    P (send_hardreset chip evt next) := by
  have hs : ∀ {c}, P c → P (policy_send_hardrst c evt) := by
    intro c hc
    unfold policy_send_hardrst
    split
    · exact k.view (k.log (e := .hardrst) hc rfl) rfl rfl
    · split
      · exact k.view hc rfl rfl
      · exact hc
  have hd : ∀ {c}, P c → P (send_hardreset.case_default c evt next) := by
    intro c hc
    unfold send_hardreset.case_default
    dsimp only
    split
    · exact k.move (k.view (hs hc) rfl rfl) hn
    · exact k.move (hs hc) rfl
    · exact hs hc
  unfold Fusb302.send_hardreset
  split
  · exact hd (k.view (k.sub 1 h (Nat.le_refl 1)) rfl rfl)
  · exact hd h

theorem softreset (k : Works P) (h : P chip) {success : Chip → Chip} {failed : ConnState} (hs : P (success chip))
    (hf : failed.guarded = false) : P (softreset chip success failed) := by
  unfold Fusb302.softreset
  split
  · rw [send_then_build_mesg]
    exact k.send (k.build h rfl)
  · exact k.send_then h hs (k.move h hf)

theorem send_softreset (k : Works P) (h : P chip) {accepted : Chip → Chip} {failed : ConnState}
    (ha : ∀ {c}, P c → P (accepted c)) (hf : failed.guarded = false) :
    P (send_softreset chip evt accepted failed) := by
  have hd : ∀ {c}, P c → P (send_softreset.case_default c evt accepted failed) := by
    intro c hc
    unfold send_softreset.case_default
    repeat' split
    all_goals first | exact ha hc | exact hc | exact k.move hc hf
  have h1 : ∀ {c}, P c → P (send_softreset.case_1 c evt accepted failed) := by
    intro c hc
    have hw := k.send_and_wait hc hf
    unfold send_softreset.case_1
    dsimp only
    split
    · exact hw
    · exact hd hw
  unfold Fusb302.send_softreset
  split
  · exact h1 (k.build h rfl)
  · exact h1 h
  · exact hd h

/-! ## Sink -/

theorem snk_startup (k : Works P) (r : Resets P) (h : P chip) : P (fusb_state_snk_startup chip) := by
  unfold fusb_state_snk_startup
  have hs : P (fusb_soft_reset_parameter { chip with notify.is_pd_connected := false }) := k.soft_reset (k.view h rfl rfl)
  have hm := k.phy (k.view (d := { fusb_soft_reset_parameter { chip with notify.is_pd_connected := false } with
    partner_cap := fun _ => 0#32 }) hs rfl rfl) (tcpm_set_msg_header_kept _) (tcpm_set_msg_header_wires _)
  exact k.notify (k.move (r.flush (k.polarity _ hm)) rfl)

theorem snk_discovery (k : Works P) (h : P chip) : P (fusb_state_snk_discovery chip) :=
  k.view (k.move (s := .policy_snk_wait_caps) h rfl) rfl rfl

theorem snk_wait_caps (k : Works P) (h : P chip) : P (fusb_state_snk_wait_caps chip evt) := by
  unfold fusb_state_snk_wait_caps give_up
  repeat' split
  all_goals first | exact h | exact k.move (k.view h rfl rfl) rfl

theorem snk_transition_sink (k : Works P) (h : P chip) : P (fusb_state_snk_transition_sink chip evt) := by
  unfold fusb_state_snk_transition_sink
  repeat' split
  all_goals first | exact h | exact k.move (k.view h rfl rfl) rfl

theorem snk_transition_default (k : Works P) (h : P chip) : P (fusb_state_snk_transition_default chip evt) := by
  have h1 : ∀ {c}, P c → P (fusb_state_snk_transition_default.case_1 c evt) := by
    intro c hc
    have hv := k.phy hc (tcpm_check_vbus_kept c) rfl
    unfold fusb_state_snk_transition_default.case_1
    dsimp only
    repeat' split
    · exact k.view (k.sub _ hv (Nat.le_add_left 1 (tcpm_check_vbus c).1.sub_state)) rfl rfl
    · exact k.move hv rfl
    · exact hv
  unfold fusb_state_snk_transition_default
  dsimp only
  split
  · apply h1
    split
    · exact k.view (k.sub 1 (k.phy (k.view (d := timer_state_start (timer_mux_start { chip with
        notify.is_pd_connected := false } T_NO_RESPONSE) (T_PS_HARD_RESET_MAX + T_SAFE_0V)) h rfl rfl)
        (tcpm_set_msg_header_kept _) (tcpm_set_msg_header_wires _)) (Nat.le_refl 1)) rfl rfl
    · exact k.view (k.sub 1 h (Nat.le_refl 1)) rfl rfl
  · exact h1 h
  · have hv := k.phy h (tcpm_check_vbus_kept chip) rfl
    split
    · exact k.move (k.view hv rfl rfl) rfl
    · split
      · exact k.move hv rfl
      · exact hv

theorem snk_soft_reset_done (k : Works P) (h : P chip) : P (snk_soft_reset_done chip) :=
  k.move (k.view (k.soft_reset h) rfl rfl) rfl

/-! ## Swaps -/

theorem simple_msg (k : Works P) (h : P chip) {cmd : Nat} {success failed : ConnState}
    (hs : success.guarded = false) (hf : failed.guarded = false) :
    P (fusb_state_send_simple_msg chip cmd false success failed) := by
  unfold fusb_state_send_simple_msg
  dsimp only
  split
  · rw [send_then_build_mesg]
    exact k.send (k.build h rfl)
  · exact k.send_then h (k.move h hs) (k.move h hf)
  · exact h

theorem swap_msg_process (k : Works P) (h : P chip) (hc : chip.conn_state.guarded = false) :
    P (fusb_state_swap_msg_process chip evt) := by
  unfold fusb_state_swap_msg_process
  repeat' split
  all_goals first | exact h | exact k.move h hc | exact k.move h rfl

theorem prs_evaluate (k : Works P) (h : P chip) : P (fusb_state_prs_evaluate chip) := by
  unfold fusb_state_prs_evaluate
  split
  · exact k.move h rfl
  · exact k.move h rfl

theorem by_power_role_guarded {src snk : ConnState} (hs : src.guarded = false) (hk : snk.guarded = false) :
    (by_power_role chip src snk).guarded = false := by
  unfold by_power_role
  split
  · exact hs
  · exact hk

theorem by_data_role_guarded {dfp ufp : ConnState} (hd : dfp.guarded = false) (hu : ufp.guarded = false) :
    (by_data_role chip dfp ufp).guarded = false := by
  unfold by_data_role
  split
  · exact hd
  · exact hu

theorem src_prs_transition_to_off (k : Works P) (h : P chip) :
    P (fusb_state_src_prs_transition_to_off chip evt) := by
  unfold fusb_state_src_prs_transition_to_off
  dsimp only
  split
  · exact k.view (k.sub 1 h (Nat.le_refl 1)) rfl rfl
  · split
    · have hv : P { platform_set_vbus_lvl_enable chip false false with notify.power_role := .SINK } :=
        k.view (k.vbus h false false) rfl rfl
      have hm := k.phy hv (tcpm_set_msg_header_kept _) (tcpm_set_msg_header_wires _)
      split
      · exact k.move hm rfl
      · exact k.move hm rfl
    · exact h
  · exact h

theorem src_prs_assert_rd (k : Works P) (h : P chip) : P (fusb_state_src_prs_assert_rd chip) :=
  k.move (k.phy h (tcpm_set_cc_pull_mode_kept ..) (tcpm_set_cc_pull_mode_wires ..)) rfl

theorem src_prs_failed (k : Works P) (h : P chip) : P (src_prs_failed chip) := by
  have hr : P { chip with notify.power_role := .SOURCE } := k.view h rfl rfl
  exact k.move (k.phy hr (tcpm_set_msg_header_kept _) (tcpm_set_msg_header_wires _)) rfl

theorem src_prs_source_off (k : Works P) (h : P chip)
    (r : chip.sub_state = 2 → evt.rx = true → PACKET_IS_CONTROL_MSG chip.rec_head CMT_PS_RDY = true → Resets P) :
    P (fusb_state_src_prs_source_off chip evt) := by
  unfold fusb_state_src_prs_source_off fusb_state_src_prs_source_off.case_1
  dsimp only
  split
  · rw [send_then_build_mesg]
    exact k.send (k.build h rfl)
  · refine k.send_then h ?_ (k.src_prs_failed h)
    exact k.view (k.sub (chip.sub_state + 1) h (Nat.le_add_left 1 _)) rfl rfl
  · rename_i h2
    split
    · rename_i hrx
      split
      · rename_i hp
        refine k.move ((r h2 hrx hp).flush ?_) rfl
        refine k.polarity _ ?_
        exact k.view h rfl rfl
      · exact h
    · split
      · exact k.src_prs_failed h
      · exact h
  · exact h

theorem snk_prs_failed (k : Works P) (h : P chip) : P (snk_prs_failed chip) := by
  have hr : P { chip with notify.power_role := .SINK } := k.view h rfl rfl
  exact k.move (k.phy hr (tcpm_set_msg_header_kept _) (tcpm_set_msg_header_wires _)) rfl

theorem snk_prs_transition_to_off (k : Works P) (h : P chip) :
    P (fusb_state_snk_prs_transition_to_off chip evt) := by
  have h1 : ∀ {c}, P c → P (fusb_state_snk_prs_transition_to_off.case_1 c evt) := by
    intro c hc
    unfold fusb_state_snk_prs_transition_to_off.case_1
    repeat' split
    all_goals first | exact hc | exact k.move hc rfl | exact k.snk_prs_failed hc
  unfold fusb_state_snk_prs_transition_to_off
  split
  · refine h1 ?_
    exact k.view (k.sub 1 h (Nat.le_refl 1)) rfl rfl
  · exact h1 h
  · exact h

theorem snk_prs_assert_rp (k : Works P) (h : P chip) : P (fusb_state_snk_prs_assert_rp chip) :=
  k.move (k.phy h (tcpm_set_cc_pull_mode_kept ..) (tcpm_set_cc_pull_mode_wires ..)) rfl

theorem snk_prs_source_on (k : Works P) (h : P chip) : P (fusb_state_snk_prs_source_on chip evt) := by
  have h2 : ∀ {c}, P c → P (fusb_state_snk_prs_source_on.case_2 c) := by
    intro c hc
    refine k.send_then hc ?_ (k.snk_prs_failed hc)
    exact k.view (k.sub (c.sub_state + 1) hc (Nat.le_add_left 1 _)) rfl rfl
  unfold fusb_state_snk_prs_source_on
  dsimp only
  split
  · exact k.view (k.sub 1 (k.vbus h true false) (Nat.le_refl 1)) rfl rfl
  · refine h2 ?_
    have hm : P (set_mesg chip CMT_PS_RDY false) := k.mesg h rfl
    exact k.view (k.sub 2 hm (by decide)) rfl rfl
  · exact h2 h
  · split
    · refine k.move ?_ rfl
      refine k.phy ?_ (regmap_update_bits_kept ..) (update_wires _ _ rfl)
      exact k.view h rfl rfl
    · exact h
  · exact h

theorem send_swap (k : Works P) (h : P chip) {cmd : Nat} : P (fusb_state_send_swap chip evt cmd) := by
  have h0 : P { chip with timer_state := T_DISABLED } := k.view h rfl rfl
  have h1 : ∀ {c}, P c → P (fusb_state_send_swap.case_1 c cmd) := by
    intro c hc
    refine k.send_then hc (k.view (k.sub (c.sub_state + 1) hc (Nat.le_add_left 1 _)) rfl rfl) ?_
    split
    · exact k.move hc rfl
    · exact k.move hc (by_power_role_guarded rfl rfl)
  have ha : P (fusb_state_send_swap.accepted chip cmd) := by
    unfold fusb_state_send_swap.accepted
    dsimp only
    split
    · exact k.either h0 rfl rfl
    · split
      · refine k.phy ?_ (tcpm_set_msg_header_kept _) (tcpm_set_msg_header_wires _)
        refine k.view (k.move (s := by_power_role { chip with timer_state := T_DISABLED }
          .policy_src_prs_transition_to_off .policy_snk_prs_transition_to_off) h0 ?_) rfl rfl
        exact by_power_role_guarded rfl rfl
      · split
        · exact k.move h0 (by_data_role_guarded rfl rfl)
        · exact h0
  unfold fusb_state_send_swap
  dsimp only
  split
  · exact h1 (k.build h rfl)
  · exact h1 h
  · repeat' split
    · exact ha
    · exact k.move h0 (by_power_role_guarded rfl rfl)
    · exact h
    · exact k.move h (by_power_role_guarded rfl rfl)
    · exact h
  · exact h

theorem vcs_ufp_evaluate_swap (k : Works P) (h : P chip) : P (fusb_state_vcs_ufp_evaluate_swap chip) := by
  unfold fusb_state_vcs_ufp_evaluate_swap
  split
  · exact k.move h rfl
  · exact k.move h rfl

theorem vcs_ufp_accept (k : Works P) (h : P chip) : P (fusb_state_vcs_ufp_accept chip) := by
  refine k.simple_msg h ?_ (by_power_role_guarded rfl rfl)
  split <;> rfl

theorem vcs_set_vconn (k : Works P) (h : P chip) (on : Bool) : P (fusb_state_vcs_set_vconn chip on) := by
  unfold fusb_state_vcs_set_vconn
  split
  · exact k.move (k.vconn true h) (by_data_role_guarded rfl rfl)
  · exact k.move (k.vconn false h) (by_power_role_guarded rfl rfl)

theorem vcs_wait_for_vconn (k : Works P) (h : P chip) : P (fusb_state_vcs_wait_for_vconn chip evt) := by
  have h1 : ∀ {c}, P c → P (fusb_state_vcs_wait_for_vconn.case_1 c evt) := by
    intro c hc
    unfold fusb_state_vcs_wait_for_vconn.case_1
    repeat' split
    · exact k.move hc (by_data_role_guarded rfl rfl)
    · exact hc
    · exact k.move hc (by_power_role_guarded rfl rfl)
    · exact hc
  unfold fusb_state_vcs_wait_for_vconn
  split
  · refine h1 ?_
    exact k.view (k.sub 1 h (Nat.le_refl 1)) rfl rfl
  · exact h1 h
  · exact h

theorem drs_evaluate (k : Works P) (h : P chip) : P (fusb_state_drs_evaluate chip) := by
  unfold fusb_state_drs_evaluate
  split
  · exact k.move h (by_data_role_guarded rfl rfl)
  · exact k.move h (by_data_role_guarded rfl rfl)

theorem drs_role_change (k : Works P) (h : P chip) : P (fusb_state_drs_role_change chip) := by
  unfold fusb_state_drs_role_change
  have hg : (by_power_role chip .policy_src_ready .policy_snk_ready).guarded = false := by_power_role_guarded rfl rfl
  refine k.view (k.recast (if chip.notify.data_role = .DFP then .UFP else .DFP) h hg) ?_ ?_
  · simp [Chip.view, set_state, by_power_role]
  · have hw : ∀ c s, (set_state (tcpm_set_msg_header c) s).wires = c.wires := fun c _ => tcpm_set_msg_header_wires c
    exact (hw _ _).trans rfl

/-! ## The special handlers

Each is ordinary up to the effect named by its extra hypotheses. -/

/-- The invocation takes up a REQUEST. -/
theorem case_negotiate_cap (k : Works P) (hn : P (fusb_state_src_negotiate_cap chip)) :
    P (case_negotiate_cap chip evt) := k.src_transition_supply hn

theorem case_send_caps (k : Works P) (h : P chip) (hs : chip.conn_state = .policy_src_send_caps)
    (hn : ∀ c, fusb_state_src_send_caps chip evt = set_state c .policy_src_negotiate_cap → P c →
      P (fusb_state_src_negotiate_cap c)) :
    P (case_send_caps chip evt) := by
  unfold Fusb302.case_send_caps
  dsimp only
  have hne : chip.conn_state ≠ .policy_src_negotiate_cap := by
    rw [hs]
    decide
  rcases @src_send_caps P chip evt k h hne with ⟨hp, hc⟩ | ⟨c, hp, he⟩
  · rw [if_pos hc]
    exact hp
  · rw [he, if_neg (fun hc => hc rfl)]
    -- deciding on the REQUEST overwrites the state entered for it
    have hr : fusb_state_src_negotiate_cap (set_state c .policy_src_negotiate_cap) = fusb_state_src_negotiate_cap c := rfl
    refine k.case_negotiate_cap ?_
    rw [hr]
    exact hn c he hp

theorem snk_select_cap_default (k : Works P) (h : P chip) :
    P (fusb_state_snk_select_cap.case_default chip evt) := by
  unfold fusb_state_snk_select_cap.case_default
  repeat' split
  · exact k.view (k.move (s := .policy_snk_transition_sink) h rfl) rfl rfl
  · exact k.move h rfl
  · exact k.view (k.move (s := .policy_snk_wait_caps) h rfl) rfl rfl
  · exact h
  · exact h
  · exact k.move h rfl
  · exact h

theorem snk_select_cap_case_1 (k : Works P) (h : P chip) : P (fusb_state_snk_select_cap.case_1 chip evt) := by
  have hs : P { timer_state_start (policy_send_data chip) T_SENDER_RESPONSE with
      sub_state := (policy_send_data chip).sub_state + 1 } :=
    k.view (k.sub ((policy_send_data chip).sub_state + 1) (k.send h) (Nat.le_add_left 1 _)) rfl rfl
  unfold fusb_state_snk_select_cap.case_1
  dsimp only
  split
  · exact k.move (k.send h) rfl
  · split
    · exact hs
    · exact k.snk_select_cap_default hs
  · split
    · exact k.send h
    · exact k.snk_select_cap_default (k.send h)

/-- `policy_snk_select_cap`, when a REQUEST is not built or `P` survives it. -/
theorem snk_select_cap (k : Works P) (h : chip.sub_state ≠ 0 → P chip)
    (hb : chip.sub_state = 0 → P (build_mesg chip DMT_REQUEST true)) : P (fusb_state_snk_select_cap chip evt) := by
  unfold fusb_state_snk_select_cap
  split
  · rename_i h0
    exact k.snk_select_cap_case_1 (hb h0)
  · rename_i h1
    exact k.snk_select_cap_case_1 (h (by rw [h1]; decide))
  · rename_i h0 _
    exact k.snk_select_cap_default (h h0)

theorem ready_rx (k : Works P) (h : P chip) (hc : chip.conn_state.guarded = false)
    (hv : vdm_in_hand chip evt = true → P (process_vdm_msg chip)) : P (ready_rx chip evt) := by
  unfold Fusb302.ready_rx
  split
  · rename_i hrx
    split
    · rename_i hp
      exact k.view (hv (by rw [vdm_in_hand, hrx, hp, Bool.true_and])) rfl rfl
    · split
      · exact k.swap_msg_process h hc
      · exact h
  · exact h

/-- What `policy_src_ready` does once the message is processed. -/
theorem src_ready_of (k : Works P) (hr : P (Fusb302.ready_rx chip evt))
    (ha : VDM_IS_ACTIVE (Fusb302.ready_rx chip evt) = true → P (auto_vdm_machine (Fusb302.ready_rx chip evt) evt)) :
    P (fusb_state_src_ready chip evt) := by
  unfold fusb_state_src_ready
  dsimp only
  split
  · exact k.move hr rfl
  · split
    · rename_i hactive
      exact ha hactive
    · exact hr

theorem src_ready (k : Works P) (h : P chip) (hc : chip.conn_state.guarded = false)
    (hv : vdm_in_hand chip evt = true → P (process_vdm_msg chip))
    (ha : P (Fusb302.ready_rx chip evt) → VDM_IS_ACTIVE (Fusb302.ready_rx chip evt) = true →
      P (auto_vdm_machine (Fusb302.ready_rx chip evt) evt)) :
    P (fusb_state_src_ready chip evt) := by
  have hr : P (Fusb302.ready_rx chip evt) := k.ready_rx h hc hv
  exact k.src_ready_of hr (ha hr)

/-- Neither half of the ready states enters a guarded state. -/
theorem ready_not_guarded (hc : chip.conn_state.guarded = false) :
    (if VDM_IS_ACTIVE (Fusb302.ready_rx chip evt) then auto_vdm_machine (Fusb302.ready_rx chip evt) evt
      else Fusb302.ready_rx chip evt).conn_state.guarded = false := by
  have hs : ∀ c : Chip, c.conn_state.guarded = false →
      (fusb_state_swap_msg_process c evt).conn_state.guarded = false := by
    intro c hc
    unfold fusb_state_swap_msg_process
    repeat' split
    all_goals first | exact hc | rfl
  have hr : (Fusb302.ready_rx chip evt).conn_state.guarded = false := by
    unfold Fusb302.ready_rx
    repeat' split
    · simpa using hc
    · exact hs _ hc
    · exact hc
    · exact hc
  split
  · simpa using hr
  · exact hr

/-- What `policy_snk_ready` does once the message is processed. -/
theorem snk_ready_of (k : Works P) (hc : chip.conn_state.guarded = false) (hr : P (Fusb302.ready_rx chip evt))
    (ha : VDM_IS_ACTIVE (Fusb302.ready_rx chip evt) = true → P (auto_vdm_machine (Fusb302.ready_rx chip evt) evt)) :
    P (fusb_state_snk_ready chip evt) := by
  unfold fusb_state_snk_ready
  refine k.notify (k.swap_msg_process ?_ (ready_not_guarded hc))
  split
  · rename_i hactive
    exact ha hactive
  · exact hr

theorem snk_ready (k : Works P) (h : P chip) (hc : chip.conn_state.guarded = false)
    (hv : vdm_in_hand chip evt = true → P (process_vdm_msg chip))
    (ha : P (Fusb302.ready_rx chip evt) → VDM_IS_ACTIVE (Fusb302.ready_rx chip evt) = true →
      P (auto_vdm_machine (Fusb302.ready_rx chip evt) evt)) :
    P (fusb_state_snk_ready chip evt) := by
  have hr : P (Fusb302.ready_rx chip evt) := k.ready_rx h hc hv
  exact k.snk_ready_of hc hr (ha hr)

/-! ## The whole invocation -/

theorem dispatch_of (k : Works P) (h : P chip) (hc : Ordinary.special chip.conn_state = false)
    (r : discards chip evt = true → Resets P) : P (dispatch chip evt) := by
  -- closes the six special cases of the switch
  have never : ∀ {s}, chip.conn_state = s → Ordinary.special s = true → P (Fusb302.dispatch chip evt) := by
    intro s hs ht
    rw [hs, ht] at hc
    cases hc
  cases ha : attaching chip.conn_state
  case true => exact k.dispatch_attaching h ha r
  unfold Fusb302.dispatch at never ⊢
  split
  all_goals rename_i hs
  all_goals try (rw [hs] at ha; cases ha)
  · exact k.src_startup (r (by rw [discards, hs])) h
  · exact k.src_discovery h
  · simpa [hs] using never hs rfl
  · simpa [hs] using never hs rfl
  · exact k.src_transition_supply h
  · exact k.src_cap_response h
  · exact k.src_transition_default h
  · simpa [hs] using never hs rfl
  · exact k.src_get_sink_cap h
  · exact k.send_hardreset h rfl
  · exact k.send_softreset h (fun hc => k.move (k.soft_reset hc) rfl) rfl
  · exact k.softreset h (k.move (k.soft_reset h) rfl) rfl
  · exact k.snk_startup (r (by rw [discards, hs])) h
  · exact k.snk_discovery h
  · exact k.snk_wait_caps h
  · simpa [hs] using never hs rfl
  · simpa [hs] using never hs rfl
  · exact k.snk_transition_sink h
  · exact k.snk_transition_default h
  · simpa [hs] using never hs rfl
  · exact k.send_hardreset h rfl
  · exact k.send_softreset h k.snk_soft_reset_done rfl
  · exact k.softreset h (k.snk_soft_reset_done h) rfl
  · exact k.prs_evaluate h
  · exact k.prs_evaluate h
  · exact k.simple_msg h (by_power_role_guarded rfl rfl) (by_power_role_guarded rfl rfl)
  · exact k.simple_msg h (by_power_role_guarded rfl rfl) (by_power_role_guarded rfl rfl)
  · exact k.simple_msg h (by_power_role_guarded rfl rfl) (by_power_role_guarded rfl rfl)
  · exact k.simple_msg h (by_power_role_guarded rfl rfl) (by_power_role_guarded rfl rfl)
  · exact k.simple_msg h (by_power_role_guarded rfl rfl) (by_power_role_guarded rfl rfl)
  · exact k.simple_msg h (by_power_role_guarded rfl rfl) (by_power_role_guarded rfl rfl)
  · exact k.simple_msg h (by_power_role_guarded rfl rfl) (by_power_role_guarded rfl rfl)
  · exact k.src_prs_transition_to_off h
  · exact k.src_prs_assert_rd h
  · refine k.src_prs_source_off h fun h2 hrx hp => r ?_
    rw [discards, hs, h2, hrx, hp]
    rfl
  · exact k.send_swap h
  · exact k.send_swap h
  · exact k.snk_prs_transition_to_off h
  · exact k.snk_prs_assert_rp h
  · exact k.snk_prs_source_on h
  · exact k.vcs_ufp_evaluate_swap h
  · exact k.vcs_ufp_accept h
  · exact k.vcs_wait_for_vconn h
  · exact k.vcs_wait_for_vconn h
  · exact k.vcs_set_vconn h _
  · exact k.vcs_set_vconn h _
  · exact k.vcs_set_vconn h _
  · exact k.vcs_set_vconn h _
  · exact k.simple_msg h (by_power_role_guarded rfl rfl) (by_power_role_guarded rfl rfl)
  · exact k.simple_msg h (by_power_role_guarded rfl rfl) (by_power_role_guarded rfl rfl)
  · exact k.send_swap h
  · exact k.drs_evaluate h
  · exact k.drs_evaluate h
  · exact k.simple_msg h (by_power_role_guarded rfl rfl) rfl
  · exact k.simple_msg h (by_power_role_guarded rfl rfl) rfl
  · exact k.drs_role_change h
  · exact k.drs_role_change h
  · exact k.send_swap h
  · exact k.send_swap h

/-- Every state is ordinary or one of the special six. -/
theorem switch (k : Works P) (h : P chip) (r : discards chip evt = true → Resets P) (s : Specials P chip evt) :
    P (Fusb302.dispatch chip evt) := by
  cases hs : Ordinary.special chip.conn_state
  · exact k.dispatch_of h hs r
  · unfold Fusb302.dispatch
    split
    all_goals rename_i hc
    all_goals try (rw [hc] at hs; cases hs)
    · exact k.case_send_caps h hc (s.offer hc)
    · exact k.case_negotiate_cap (s.negotiate hc)
    · exact k.src_ready h (by rw [hc]; rfl) (s.vdm (Or.inl hc)) (s.auto (Or.inl hc))
    · exact k.snk_select_cap (fun h0 => absurd evaluate_caps_frame.1 h0) fun _ => s.evaluate hc
    · exact k.snk_select_cap (fun _ => h) (s.select hc)
    · exact k.snk_ready h (by rw [hc]; rfl) (s.vdm (Or.inr hc)) (s.auto (Or.inr hc))

/-- The part before the switch, up to the fetched message. -/
theorem collects (k : Works P) {chip : Chip} {env : Env}
    (hh : hard_reset_reported chip env = true → ∀ c, P c → P (pd_execute_hard_reset (fusb302_pd_reset c))) :
    Collects chip env P where
  observe _ h := k.view h rfl rfl
  phy _ _ hk hw h := k.phy h hk hw
  sent _ h := k.view (k.log (e := .sent) h rfl) rfl rfl
  retryfail _ h := k.view (k.log (e := .retryfail) h rfl) rfl rfl
  hard_reset := hh
  hardsent _ h := k.view h rfl rfl
  expire _ _ h := k.view h rfl rfl
  collect _ _ _ h := k.view h rfl rfl

theorem detach (k : Works P) (h : P chip) (r : detaches chip evt = true → Resets P) : P (detach chip evt) := by
  unfold detaches at r
  unfold Fusb302.detach
  split
  · rename_i hc
    rw [if_pos hc] at r
    unfold try_detach_detaches at r
    unfold fusb_try_detach
    dsimp only at r ⊢
    split
    · rename_i hu
      rw [if_pos hu] at r
      have hv := k.phy h (tcpm_check_vbus_kept chip) rfl
      split
      · rename_i hb
        exact k.unattached (r hb) hv
      · exact hv
    · rename_i hu
      rw [if_neg hu] at r
      split
      · rename_i hd
        rw [if_pos hd] at r
        have hm := k.phy h (tcpm_get_cc_kept chip) (tcpm_get_cc_wires chip)
        generalize (if bit chip.cc_state CC_STATE_TOGSS_CC2 then (tcpm_get_cc chip).cc2 else (tcpm_get_cc chip).cc1) = cc1 at r ⊢
        split
        · rename_i ho
          exact k.unattached (r (decide_eq_true ho)) hm
        · exact hm
      · exact k.view h rfl rfl
  · exact h

end Works

namespace Serves

theorem dispatch (k : Serves P) (h : P chip) (hc : Ordinary.special chip.conn_state = false) : P (dispatch chip evt) :=
  k.dispatch_of h hc fun _ => k.toResets

theorem switch (k : Serves P) (h : P chip) (s : Specials P chip evt) : P (Fusb302.dispatch chip evt) :=
  k.toWorks.switch h (fun _ => k.toResets) s

/-- With the message in hand and a hard reset accounted for, the part before
the switch is made of the same effects. -/
theorem passes_of (k : Serves P) (hm : ∀ {c}, P c → P (tcpm_get_message c))
    (hh : ∀ {c}, P c → P (pd_execute_hard_reset c)) {chip : Chip} (env : Env) : Passes chip env P where
  toCollects := k.collects fun _ _ h => hh (k.pd_reset h)
  unattached _ h := k.unattached k.toResets h
  message _ h := hm h
  softrst _ _ h := k.either h rfl rfl
  count _ h := k.renumber _ h

theorem passes (k : Serves P) (hm : ∀ {c}, P c → P (tcpm_get_message c))
    (hd : ∀ {c}, P c → P (set_vdm_state c .DISCOVERY_ID)) {chip : Chip} (env : Env) : Passes chip env P := by
  refine k.passes_of hm ?_ env
  intro c h
  have hr : P (set_vdm_state { c with msg_id := 0 } .DISCOVERY_ID) := hd (k.renumber 0 h)
  unfold pd_execute_hard_reset
  dsimp only
  split
  · exact k.move hr rfl
  · exact k.move hr rfl

end Serves

/-! ## The discovery machine -/

/-- `W` holds while a stage waits for its command, and `R` of what the stage returns then. -/
structure Waits (W : Chip → Prop) (R : Chip × VdmRet → Prop) : Prop where
  send : ∀ {c}, W c → W (policy_send_data c)
  sent : ∀ {c}, W c → W (timer_state_start { c with vdm_send_state := 2 } T_SENDER_RESPONSE)
  failed : ∀ {c}, W c → R (set_vdm_state c .ERR, .EPIPE)
  timeout : ∀ {c}, W c → R ({ set_vdm_state c .ERR with work_continue := true }, .ETIMEDOUT)
  waiting : ∀ {c}, W c → R (c, .EINPROGRESS)

namespace Waits

variable {W : Chip → Prop} {R : Chip × VdmRet → Prop} {acks : Chip → Bool} {begin : Chip → Chip}
  {finish : Chip → Chip × VdmRet}

theorem case_default (k : Waits W R) (h : W chip)
    (done : ∀ c, W c → acks c = true → R (finish { c with vdm_send_state := 0 })) :
    R (vdm_send.case_default acks finish chip evt) := by
  unfold vdm_send.case_default
  split
  · rename_i ha
    exact done chip h ha
  · split
    · exact k.timeout h
    · exact k.waiting h

theorem case_1 (k : Waits W R) (h : W (policy_send_data chip))
    (done : ∀ c, W c → acks c = true → R (finish { c with vdm_send_state := 0 })) :
    R (vdm_send.case_1 acks finish chip evt) := by
  unfold vdm_send.case_1
  dsimp only
  split
  · exact k.case_default (k.sent h) done
  · exact k.failed h
  · exact k.waiting h

/-- A stage that waits once its command is built returns what follows the acknowledgement, an error, or waits on. -/
theorem vdm_send (k : Waits W R) {cmd mode : Nat}
    (hb : chip.vdm_send_state = 0 → W (policy_send_data
      { begin (set_vdm_mesg chip cmd VDM_TYPE_INIT mode) with tx_state := .tx_idle, vdm_send_state := 1 }))
    (hw : chip.vdm_send_state ≠ 0 → W chip)
    (done : ∀ c, W c → acks c = true → R (finish { c with vdm_send_state := 0 })) :
    R (Fusb302.vdm_send cmd mode begin acks finish chip evt) := by
  unfold Fusb302.vdm_send
  split
  · rename_i h0
    exact k.case_1 (hb h0) done
  · rename_i h1
    exact k.case_1 (k.send (hw (by rw [h1]; decide))) done
  · rename_i h0 _
    exact k.case_default (hw h0) done

end Waits

end Fusb302
