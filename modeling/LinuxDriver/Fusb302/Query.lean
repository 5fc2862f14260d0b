import LinuxDriver.Fusb302.Debounce
/-!
# The partner's sink capabilities

A ready source asks for the capabilities of its partner while it has none. The
first object says whether it has any, and an answer that is no list of
capabilities, or no answer at all, is marked there. A list is copied as it came.
-/

namespace Fusb302

/-- The step runs the handler of this state. -/
def handles (chip : Chip) (st : ConnState) : Act → Bool
  | .work env => (events chip env).any && decide ((at_switch chip env).conn_state = st)
  | _ => false

/-- The query is done: its state is left for `policy_src_ready`. -/
def completes_query (chip : Chip) (act : Act) : Prop :=
  handles chip .policy_src_get_sink_caps act = true ∧ (step chip act).conn_state = .policy_src_ready

/-- `fusb_state_src_startup` or `fusb_state_snk_startup` runs. -/
def starts_up (chip : Chip) (act : Act) : Prop :=
  handles chip .policy_src_startup act = true ∨ handles chip .policy_snk_startup act = true

instance (chip : Chip) (act : Act) : Decidable (completes_query chip act) := inferInstanceAs (Decidable (_ ∧ _))

instance (chip : Chip) (act : Act) : Decidable (starts_up chip act) := inferInstanceAs (Decidable (_ ∨ _))

/-- Every query that is done leaves a first object, and after it no other is
begun or done before a policy starts again; `asked` says that one was done since the last start. -/
def QueriedOnce (asked : Bool) (chip : Chip) : List Act → Prop
  | [] => True
  | act :: acts =>
    (completes_query chip act → asked = false ∧ (step chip act).partner_cap 0 ≠ 0#32) ∧
    (enters chip act .policy_src_get_sink_caps → asked = false) ∧
    QueriedOnce (!decide (starts_up chip act) && (asked || decide (completes_query chip act))) (step chip act) acts

instance QueriedOnce.dec : (asked : Bool) → (chip : Chip) → (acts : List Act) → Decidable (QueriedOnce asked chip acts)
  | _, _, [] => .isTrue trivial
  | asked, chip, act :: acts =>
    have := QueriedOnce.dec (!decide (starts_up chip act) && (asked || decide (completes_query chip act))) (step chip act) acts
    inferInstanceAs (Decidable (_ ∧ _ ∧ _))

/-- The message in hand is a list of sink capabilities whose first object is zero. -/
def blank (chip : Chip) (evt : Evt) : Prop :=
  evt.rx = true ∧ PACKET_IS_DATA_MSG chip.rec_head DMT_SINKCAPABILITIES = true ∧ chip.rec_load 0 = 0#32

/-- The query is answered by such a list. -/
def answered_blank (chip : Chip) : Act → Prop
  | .work env => (at_switch chip env).conn_state = .policy_src_get_sink_caps ∧ blank (at_switch chip env) (events chip env)
  | _ => False

variable {chip c c' : Chip} {evt : Evt} {env : Env} {act : Act} {asked : Bool}

/-! ## The query's handler -/

/-- How the handler ends: an answer or the timeout ends the query, and the first
object is zero exactly when the answer's is. -/
inductive QueryStep (chip : Chip) (evt : Evt) (chip' : Chip) : Prop
  | done (hc : chip'.conn_state = .policy_src_ready) (hp : chip'.partner_cap 0 = 0#32 ↔ blank chip evt)
  | waits (hc : chip'.conn_state = .policy_src_get_sink_caps ∨ chip'.conn_state = .policy_src_send_softrst)
      (hp : chip'.partner_cap = chip.partner_cap) (hr : evt.rx = false)

theorem blank_of_rx (h : c.toRx = chip.toRx) : blank c evt ↔ blank chip evt := by
  unfold blank
  rw [h]

/-- The first part of the handler only sends. -/
theorem QueryStep.after (h : QueryStep c evt c') (hr : c.toRx = chip.toRx) (hp : c.partner_cap = chip.partner_cap) :
    QueryStep chip evt c' := by
  cases h with
  | done hc hq => exact .done hc (hq.trans (blank_of_rx hr))
  | waits hc hq hx => exact .waits hc (hq.trans hp) hx

theorem header_cnt_pos {head : BitVec 16} {type : Nat} (h : PACKET_IS_DATA_MSG head type = true) : 0 < PD_HEADER_CNT head := by
  unfold PACKET_IS_DATA_MSG at h
  have hn : PD_HEADER_CNT head ≠ 0 := by simpa using (Bool.and_eq_true_iff.1 h).1
  exact Nat.pos_of_ne_zero hn

theorem get_sink_cap_default_query
    (h : chip.conn_state = .policy_src_get_sink_caps ∨ chip.conn_state = .policy_src_send_softrst) :
    QueryStep chip evt (fusb_state_src_get_sink_cap.case_default chip evt) := by
  have hm : (0xffffffff#32 : BitVec 32) ≠ 0#32 := by decide
  unfold fusb_state_src_get_sink_cap.case_default
  split
  · rename_i hr
    split
    · rename_i hd
      refine .done rfl ?_
      have hp : (if 0 < PD_HEADER_CNT chip.rec_head then chip.rec_load 0 else chip.partner_cap 0) = chip.rec_load 0 :=
        if_pos (header_cnt_pos hd)
      change (if 0 < PD_HEADER_CNT chip.rec_head then chip.rec_load 0 else chip.partner_cap 0) = 0#32 ↔ _
      rw [hp]
      exact ⟨fun h0 => ⟨hr, hd, h0⟩, fun hb => hb.2.2⟩
    · rename_i hd
      exact .done rfl ⟨fun h0 => absurd h0 hm, fun hb => absurd hb.2.1 hd⟩
  · rename_i hr
    split
    · exact .done rfl ⟨fun h0 => absurd h0 hm, fun hb => absurd hb.1 hr⟩
    · exact .waits h rfl (Bool.eq_false_iff.2 hr)

theorem get_sink_cap_case_1_query (h : chip.conn_state = .policy_src_get_sink_caps) :
    QueryStep chip evt (fusb_state_src_get_sink_cap.case_1 chip evt) := by
  obtain ⟨hc, hr, hp⟩ : ((send_and_wait chip .policy_src_send_softrst).conn_state = .policy_src_get_sink_caps ∨
        (send_and_wait chip .policy_src_send_softrst).conn_state = .policy_src_send_softrst) ∧
      (send_and_wait chip .policy_src_send_softrst).toRx = chip.toRx ∧
      (send_and_wait chip .policy_src_send_softrst).partner_cap = chip.partner_cap := by
    unfold send_and_wait
    rcases send_then_cases chip _ _ with ⟨_, he⟩ | ⟨_, he⟩ | ⟨_, _, he⟩ <;> rw [he]
    · exact ⟨Or.inl h, rfl, rfl⟩
    · exact ⟨Or.inr rfl, rfl, rfl⟩
    · obtain ⟨hpol, _, hrx, hs, _⟩ := @policy_send_data_frame chip
      exact ⟨Or.inl ((congrArg Policy.conn_state hpol).trans h), hrx, congrArg Supply.partner_cap hs⟩
  unfold fusb_state_src_get_sink_cap.case_1
  dsimp only
  split
  · rename_i hf
    refine .waits hc hp ?_
    simp only [Evt.flag_event, Bool.not_eq_eq_eq_not, Bool.not_true, Bool.or_eq_false_iff] at hf
    exact hf.1.1
  · exact (get_sink_cap_default_query hc).after hr hp

theorem get_sink_cap_query (h : chip.conn_state = .policy_src_get_sink_caps) :
    QueryStep chip evt (fusb_state_src_get_sink_cap chip evt) := by
  unfold fusb_state_src_get_sink_cap
  split
  · have hb : (build_mesg chip CMT_GETSINKCAP false).conn_state = .policy_src_get_sink_caps := h
    exact (get_sink_cap_case_1_query hb).after rfl rfl
  · exact get_sink_cap_case_1_query h
  · exact get_sink_cap_default_query (Or.inl h)

/-! ## The other handlers -/

/-- Every state but the query. -/
def away : Scope where
  holds s := s ≠ .policy_src_get_sink_caps
  opens {s} h hs := by rw [hs] at h; cases h

/-- No handler begins the query but a ready source's without capabilities. -/
theorem dispatch_away (ha : c.conn_state ≠ .policy_src_get_sink_caps) (hp : c.partner_cap 0 ≠ 0#32) :
    (dispatch c evt).conn_state ≠ .policy_src_get_sink_caps := by
  cases hs : attaching c.conn_state
  · have hseek : c.conn_state.seeking = false := by
      generalize c.conn_state = s at hs
      cases s <;> first | rfl | cases hs
    have he : c.conn_state ≠ .error_recovery := by
      intro he
      rw [he] at hs
      cases hs
    cases hw : c.conn_state.writes_caps
    · exact (dispatch_stands_in (b := away) ⟨rfl, ha⟩ hseek he hw fun _ h0 => absurd h0 hp).state
    · unfold dispatch
      split
      all_goals rename_i hc
      all_goals try (rw [hc] at hw; cases hw)
      · rw [show (fusb_state_src_startup c).conn_state = .policy_src_send_caps from rfl]
        decide
      · exact absurd hc ha
      · rw [show (fusb_state_snk_startup c).conn_state = .policy_snk_discovery from rfl]
        decide
  · intro hq
    cases @attach_step c evt hs with
    | attach hst =>
      rw [hq] at hst
      cases hst
    | source hst => cases hst.symm.trans hq
    | sink hst => cases hst.symm.trans hq

/-- No handler writes the partner's capabilities but these three. -/
theorem dispatch_partner_cap (hw : c.conn_state.writes_caps = false) : (dispatch c evt).partner_cap = c.partner_cap := by
  cases hs : c.conn_state.seeking
  · by_cases he : c.conn_state = .error_recovery
    · unfold dispatch
      rw [he]
      exact congrArg Prod.snd (set_state_unattached_capabilities c)
    · exact congrArg Standing.partner_cap (dispatch_stands ⟨rfl, hs⟩ he hw).standing
  · exact congrArg Prod.snd (seeking_capabilities hs)

/-! ## Up to the switch -/

theorem at_switch_partner_cap (chip : Chip) (env : Env) : (at_switch chip env).partner_cap = chip.partner_cap :=
  at_switch_keeps (P := fun c => c.partner_cap = chip.partner_cap)
    (capabilities_survive (congrArg Prod.snd) _ chip env).passes rfl

/-- Nothing before the switch begins the query. -/
theorem away_survives (chip : Chip) (env : Env) : Survives chip env fun c => c.conn_state ≠ .policy_src_get_sink_caps where
  observe _ h := h
  phy _ _ hk h := by rwa [congrArg Policy.conn_state hk.1]
  sent _ h := h
  retryfail _ h := h
  hard_reset _ c _ := by
    unfold pd_execute_hard_reset
    dsimp only
    split
    · exact fun h => by cases h
    · exact fun h => by cases h
  hardsent _ h := h
  expire _ _ h := h
  collect _ _ _ h := h
  unattached c _ := by
    rw [(@set_state_unattached_frame c).1]
    decide
  message c h := by rwa [congrArg Policy.conn_state (tcpm_get_message_frame c).2.2.1]
  softrst _ c _ := by
    change (if c.notify.power_role = .SOURCE then ConnState.policy_src_softrst else .policy_snk_softrst) ≠ _
    split
    · decide
    · decide
  count _ h := h

theorem at_switch_away (h : chip.conn_state ≠ .policy_src_get_sink_caps) :
    (at_switch chip env).conn_state ≠ .policy_src_get_sink_caps := at_switch_keeps (away_survives chip env).passes h

/-! ## Steps and runs -/

theorem timer_away (h : chip.conn_state ≠ .policy_src_get_sink_caps) (act : Act) :
    (fusb_timer_handler chip act).conn_state ≠ .policy_src_get_sink_caps ∧
      (fusb_timer_handler chip act).partner_cap = chip.partner_cap := by
  obtain ⟨t, he⟩ := fusb_timer_handler_eq chip act
  rw [he]
  exact ⟨h, rfl⟩

/-- A port that has capabilities of its partner does not ask for them. -/
theorem step_away (h : chip.conn_state ≠ .policy_src_get_sink_caps) (hp : chip.partner_cap 0 ≠ 0#32) :
    (step chip act).conn_state ≠ .policy_src_get_sink_caps := by
  cases act with
  | work env =>
    have ha : (at_switch chip env).conn_state ≠ .policy_src_get_sink_caps := at_switch_away h
    rw [step_work]
    split
    · exact dispatch_away ha (by rwa [at_switch_partner_cap])
    · exact ha
  | timer_state => exact (timer_away h .timer_state).1
  | timer_mux => exact (timer_away h .timer_mux).1

/-- It keeps them until a policy starts. -/
theorem step_partner_cap (h : chip.conn_state ≠ .policy_src_get_sink_caps) (hs : ¬starts_up chip act) :
    (step chip act).partner_cap = chip.partner_cap := by
  cases act with
  | work env =>
    have ha : (at_switch chip env).conn_state ≠ .policy_src_get_sink_caps := at_switch_away h
    rw [step_work]
    split
    · rename_i hany
      rw [dispatch_partner_cap, at_switch_partner_cap]
      have hsrc : (at_switch chip env).conn_state ≠ .policy_src_startup := fun hc => hs (Or.inl (by simp [handles, hany, hc]))
      have hsnk : (at_switch chip env).conn_state ≠ .policy_snk_startup := fun hc => hs (Or.inr (by simp [handles, hany, hc]))
      generalize (at_switch chip env).conn_state = s at ha hsrc hsnk
      cases s <;> first | rfl | exact absurd rfl ha | exact absurd rfl hsrc | exact absurd rfl hsnk
    · exact at_switch_partner_cap chip env
  | timer_state => exact (timer_away h .timer_state).2
  | timer_mux => exact (timer_away h .timer_mux).2

theorem query_step (h : handles chip .policy_src_get_sink_caps (.work env) = true) :
    QueryStep (at_switch chip env) (events chip env) (step chip (.work env)) := by
  obtain ⟨hany, hc⟩ := Bool.and_eq_true_iff.1 h
  have hc := of_decide_eq_true hc
  rw [step_work, if_pos hany, dispatch, hc]
  exact get_sink_cap_query hc

theorem handles_away (h : chip.conn_state ≠ .policy_src_get_sink_caps) : ¬completes_query chip act := by
  rintro ⟨hh, _⟩
  cases act with
  | work env => exact at_switch_away h (of_decide_eq_true (Bool.and_eq_true_iff.1 hh).2)
  | timer_state => cases hh
  | timer_mux => cases hh

/-- A query that is done leaves a first object, unless it is answered by a list that begins with zero. -/
theorem completes_answered (h : completes_query chip act) : (step chip act).partner_cap 0 = 0#32 ↔ answered_blank chip act := by
  obtain ⟨hh, hready⟩ := h
  cases act with
  | work env =>
    have hc := of_decide_eq_true (Bool.and_eq_true_iff.1 hh).2
    cases query_step hh with
    | done _ hp => exact hp.trans ⟨fun hb => ⟨hc, hb⟩, fun hb => hb.2⟩
    | waits hw _ _ =>
      rw [hready] at hw
      rcases hw with hw | hw <;> cases hw
  | timer_state => cases hh
  | timer_mux => cases hh

/-- Such a list ends the query. -/
theorem answered_completes (h : answered_blank chip act) : completes_query chip act := by
  cases act with
  | work env =>
    obtain ⟨hc, hb⟩ := h
    have hh : handles chip .policy_src_get_sink_caps (.work env) = true := by simp [handles, hc, Evt.any, hb.1]
    refine ⟨hh, ?_⟩
    cases query_step hh with
    | done hready => exact hready
    | waits _ _ hr => cases hb.1.symm.trans hr
  | timer_state => cases h
  | timer_mux => cases h

/-- Once a query is done, the port knows its partner's capabilities. -/
def Knows (asked : Bool) (chip : Chip) : Prop :=
  asked = true → chip.conn_state ≠ .policy_src_get_sink_caps ∧ chip.partner_cap 0 ≠ 0#32

theorem step_knows (h : Knows asked chip) (hn : ¬answered_blank chip act) :
    Knows (!decide (starts_up chip act) && (asked || decide (completes_query chip act))) (step chip act) := by
  intro ha
  simp only [Bool.and_eq_true, Bool.not_eq_eq_eq_not, Bool.not_true, decide_eq_false_iff_not, Bool.or_eq_true,
    decide_eq_true_eq] at ha
  obtain ⟨hs, ha | hc⟩ := ha
  · obtain ⟨hst, hp⟩ := h ha
    exact ⟨step_away hst hp, by rwa [step_partner_cap hst hs]⟩
  · refine ⟨?_, fun h0 => hn ((completes_answered hc).1 h0)⟩
    rw [hc.2]
    decide

/-- So it is in a whole run, from where the port knows as much as was asked. -/
theorem queried_once_of_knows (acts : List Act) {asked : Bool} {chip : Chip} (h : Knows asked chip) :
    QueriedOnce asked chip acts ↔ Runs.Meets step (fun c act => ¬answered_blank c act) chip acts := by
  induction acts generalizing asked chip with
  | nil => exact Iff.rfl
  | cons act acts ih =>
    constructor
    · rintro ⟨hdone, _, hrest⟩
      have hn : ¬answered_blank chip act := by
        intro hb
        have hc := answered_completes hb
        exact (hdone hc).2 ((completes_answered hc).2 hb)
      exact ⟨hn, (ih (step_knows h hn)).1 hrest⟩
    · rintro ⟨hn, hrest⟩
      refine ⟨fun hc => ⟨?_, fun h0 => hn ((completes_answered hc).1 h0)⟩, fun he => ?_, (ih (step_knows h hn)).2 hrest⟩
      · exact Bool.eq_false_iff.2 fun ha => handles_away (h ha).1 hc
      · exact Bool.eq_false_iff.2 fun ha => step_away (h ha).1 (h ha).2 he.2

/-- In a run, each query leaves a first object and is the last one before the
policy starts again, exactly when no list of sink capabilities begins with zero. -/
theorem queried_once_iff (chip : Chip) (acts : List Act) :
    QueriedOnce false chip acts ↔ Runs.Meets step (fun c act => ¬answered_blank c act) chip acts :=
  queried_once_of_knows acts fun ha => by cases ha

/-- A list of one object, which is zero. -/
def blank_answer : Act := received (data DMT_SINKCAPABILITIES [0#32])

/-- From a contract to the query's answer. -/
def ask : List Act := [txsent, idle, idle, txsent, blank_answer]

/-- A list that begins with zero is asked for again. -/
theorem queried_twice :
    ¬QueriedOnce false (fusb30x_probe {}) (attach_source ++ contract ++ ask ++ ask.tail) ∧
      completes_query (ran {} (attach_source ++ contract ++ ask.dropLast)) blank_answer ∧
      (ran {} (attach_source ++ contract ++ ask)).partner_cap 0 = 0#32 ∧
      completes_query (ran {} (attach_source ++ contract ++ ask ++ ask.tail.dropLast)) blank_answer ∧
      Runs.Meets step (fun c act => ¬starts_up c act) (ran {} (attach_source ++ contract)) (ask ++ ask.tail) := by
  refine ⟨?_, ?_, ?_, ?_, ?_⟩
  all_goals decide +kernel

end Fusb302
