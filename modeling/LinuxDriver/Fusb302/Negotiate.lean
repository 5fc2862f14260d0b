import LinuxDriver.Fusb302.Ordinary
import LinuxDriver.Fusb302.Roles
/-!
# The source's answer to a REQUEST

`fusb_state_src_negotiate_cap` decides on a REQUEST, but the dispatcher runs on
into the next case, which builds ACCEPT whatever was decided, and the other
states of a source drop a REQUEST. A watch beside the port notes every REQUEST
received in the source role. All of them are answered correctly in a run that
receives none for a position not offered.
-/

namespace Fusb302

variable {chip : Chip} {evt : Evt} {env : Env} {act : Act}

/-! ## What a correct answer is -/

/-- Is this the position of one of `n` offered objects? -/
def offered (pos n : Nat) : Prop := 1 ≤ pos ∧ pos ≤ n

/-- A message was built. -/
def Entry.built : Entry → Bool
  | .mesg .. | .vdm _ => true
  | _ => false

/-- The first message built among the entries. -/
def nextBuilt (newer : List Entry) : Option Entry := newer.reverse.find? Entry.built

/-- The position and the number of offers of a REQUEST looked at. -/
def Entry.request : Entry → Option (Nat × Nat)
  | .asked pos n => some (pos, n)
  | _ => none

/-- The last REQUEST looked at. -/
def lastAsked (log : List Entry) : Option (Nat × Nat) := log.findSome? Entry.request

/-- The port is a source by its power role or by its policy state. -/
def as_source (chip : Chip) : Prop := chip.notify.power_role = .SOURCE ∨ policyRole chip.conn_state = some .SOURCE

instance : Decidable (as_source chip) := by unfold as_source; infer_instance

/-- The switch sees a REQUEST just received in the source role. -/
def request_received (chip : Chip) (evt : Evt) : Prop :=
  evt.rx = true ∧ PACKET_IS_DATA_MSG chip.rec_head DMT_REQUEST = true ∧ as_source chip

instance : Decidable (request_received chip evt) := by unfold request_received; infer_instance

/-- A REQUEST received in the source role: the position it asks for, the number
of objects offered then, and the log up to its arrival. -/
structure Asking where
  pos : Nat
  n_caps_used : Nat
  older : List Entry

/-- The position was among those sent. -/
def Asking.offered (r : Asking) : Prop := Fusb302.offered r.pos r.n_caps_used

/-- The REQUEST in hand. -/
def asking (chip : Chip) : Asking := ⟨request_pos chip, chip.n_caps_used, chip.log⟩

instance (r : Asking) : Decidable r.offered := by unfold Asking.offered Fusb302.offered; infer_instance

/-- The port, and every REQUEST it received in the source role. -/
structure Watch where
  chip : Chip
  requests : List Asking

/-- The REQUEST received in this step. -/
def newly_asked (chip : Chip) : Act → List Asking
  | .work env => if request_received (at_switch chip env) (events chip env) then [asking (at_switch chip env)] else []
  | _ => []

/-- A step of the port, watched. -/
def watch (w : Watch) (act : Act) : Watch := ⟨step w.chip act, newly_asked w.chip act ++ w.requests⟩

/-- After a REQUEST for a position not offered the next message built is
REJECT, and the ACCEPT/PS_RDY sequence serves a REQUEST received in the source
role, for an offered position. -/
structure RequestsAnswered (w : Watch) : Prop where
  reject : ∀ r ∈ w.requests, ¬r.offered →
    ∃ newer, w.chip.log = newer ++ r.older ∧ ∀ e, nextBuilt newer = some e → e = .mesg CMT_REJECT false
  supply : w.chip.conn_state = .policy_src_transition_supply →
    ∃ r ∈ w.requests, r.offered ∧ lastAsked w.chip.log = some (r.pos, r.n_caps_used)

/-- The message fetched, as the handlers see it. -/
theorem get_message_in_hand {fifo : List PdMsg} {m : PdMsg} (h : (get_message chip fifo).log = .recv m :: chip.log) :
    (get_message chip fifo).rec_head = m.head ∧ (0 < PD_HEADER_CNT m.head → (get_message chip fifo).rec_load 0 = m.load 0) := by
  induction fifo generalizing chip with
  | nil => exact absurd (congrArg List.length h) (by simp [get_message])
  | cons m' fifo ih =>
    unfold get_message at h ⊢
    split at h
    · rename_i hg
      rw [if_pos hg]
      exact ih h
    · rename_i hg
      rw [if_neg hg]
      cases h
      exact ⟨rfl, fun hc => if_pos hc⟩

/-- The message in hand at the switch is the one fetched. -/
theorem at_switch_fetched (hrx : (events chip env).rx = true) :
    let fetched := tcpm_get_message (detach (alerts chip env).1 (events chip env))
    (at_switch chip env).toRx = fetched.toRx ∧ (at_switch chip env).log = fetched.log := by
  unfold at_switch before_switch receive count_sent
  rw [if_pos hrx]
  dsimp only
  repeat' split
  all_goals exact ⟨rfl, rfl⟩

theorem cnt_of_data {head : BitVec 16} {type : Nat} (h : PACKET_IS_DATA_MSG head type = true) : 0 < PD_HEADER_CNT head := by
  simp only [PACKET_IS_DATA_MSG, Bool.and_eq_true, bne_iff_ne, ne_eq] at h
  exact Nat.pos_of_ne_zero h.1

/-- Every REQUEST fetched in the source role is noted with the position of its first object. -/
theorem newly_asked_of_recv {m : PdMsg} (hrx : (events chip env).rx = true)
    (hm : (at_switch chip env).log = .recv m :: (detach (alerts chip env).1 (events chip env)).log)
    (hq : PACKET_IS_DATA_MSG m.head DMT_REQUEST = true) (hs : as_source (at_switch chip env)) :
    newly_asked chip (.work env) =
      [⟨((m.load 0 >>> 28) &&& 7#32).toNat, (at_switch chip env).n_caps_used, (at_switch chip env).log⟩] := by
  obtain ⟨hr, hl⟩ := at_switch_fetched hrx
  obtain ⟨hh, h0⟩ := get_message_in_hand (hl.symm.trans hm)
  have hhead : (at_switch chip env).rec_head = m.head := (congrArg Rx.rec_head hr).trans hh
  have hload : (at_switch chip env).rec_load 0 = m.load 0 := (congrFun (congrArg Rx.rec_load hr) 0).trans (h0 (cnt_of_data hq))
  have hpos : request_pos (at_switch chip env) = ((m.load 0 >>> 28) &&& 7#32).toNat := by
    rw [← hload]
    rfl
  unfold newly_asked asking
  dsimp only
  rw [if_pos ⟨hrx, by rwa [hhead], hs⟩, hpos]

/-! ## The invariant -/

/-- REJECT was the next message built. -/
def Rejected (r : Asking) (log : List Entry) : Prop :=
  ∃ newer, log = newer ++ r.older ∧ nextBuilt newer = some (.mesg CMT_REJECT false)

theorem Rejected.add {r : Asking} {log log' : List Entry} {p : Entry → Prop} (h : Rejected r log) (hl : Trace.Added p log log') :
    Rejected r log' := by
  obtain ⟨newer, rfl, hb⟩ := h
  obtain ⟨l, rfl, _⟩ := hl
  refine ⟨l ++ newer, (List.append_assoc ..).symm, ?_⟩
  rw [nextBuilt, List.reverse_append, List.find?_append, show newer.reverse.find? Entry.built = _ from hb]
  rfl

/-- Every REQUEST received was for an offered position or answered by REJECT,
and the ACCEPT/PS_RDY sequence is entered for one of the former. -/
structure OnlyOffered (rs : List Asking) (chip : Chip) : Prop where
  rests : chip.conn_state ≠ .policy_src_negotiate_cap
  each : ∀ r ∈ rs, r.offered ∨ Rejected r chip.log
  supply : chip.conn_state = .policy_src_transition_supply →
    ∃ r ∈ rs, r.offered ∧ lastAsked chip.log = some (r.pos, r.n_caps_used)

variable {rs : List Asking}

theorem OnlyOffered.answered (h : OnlyOffered rs chip) : RequestsAnswered ⟨chip, rs⟩ := by
  refine ⟨?_, h.supply⟩
  intro r hr hn
  obtain ⟨newer, hl, hb⟩ := (h.each r hr).resolve_left hn
  exact ⟨newer, hl, fun e he => Option.some.inj (he.symm.trans hb)⟩

/-- Entries other than `asked` on top change nothing. -/
theorem OnlyOffered.add {chip' : Chip} (h : OnlyOffered rs chip)
    (hl : Trace.Added (fun e => Entry.request e = none) chip.log chip'.log)
    (hc : chip'.conn_state = chip.conn_state ∨
      chip'.conn_state ≠ .policy_src_negotiate_cap ∧ chip'.conn_state ≠ .policy_src_transition_supply) :
    OnlyOffered rs chip' := by
  refine ⟨?_, ?_, ?_⟩
  · intro hn
    exact hc.elim (fun he => h.rests (he.symm.trans hn)) fun he => he.1 hn
  · intro r hr
    exact (h.each r hr).imp_right fun hj => hj.add hl
  · intro hs
    rw [lastAsked, hl.findSome?_eq fun _ he => he]
    exact hc.elim (fun he => h.supply (he.symm.trans hs)) fun he => absurd hs he.2

theorem not_served {s : ConnState} (h : s.guarded = false) :
    s ≠ .policy_src_negotiate_cap ∧ s ≠ .policy_src_transition_supply := by
  constructor <;> (rintro rfl; cases h)

theorem onlyOffered_ordinary : Ordinary (OnlyOffered rs) where
  view {c c'} h hv := h.add (.of_eq (congrArg View.log hv)) (Or.inl (congrArg View.conn_state hv))
  move h hg := h.add (.of_eq rfl) (Or.inr (not_served hg))
  recast _ h hg := h.add (.of_eq rfl) (Or.inr (not_served hg))
  sub _ h _ := h.add (.of_eq rfl) (Or.inl rfl)
  log {c e} h ho := by
    refine h.add (.cons ?_ (.of_eq rfl)) (Or.inl rfl)
    cases e <;> first | rfl | cases ho
  soft_reset h := h.add (.cons rfl (.cons rfl (.of_eq rfl))) (Or.inl rfl)
  renumber _ h := h.add (.of_eq rfl) (Or.inl rfl)
  forget h := h.add (.of_eq rfl) (Or.inl rfl)

theorem OnlyOffered.receive (h : OnlyOffered rs chip) : OnlyOffered rs (tcpm_get_message chip) := by
  refine h.add ?_ (Or.inl (tcpm_get_message_frame chip).1)
  rcases get_message_log chip chip.fifo with hl | ⟨m, hl⟩
  · exact .of_eq hl
  · rw [tcpm_get_message, hl]
    exact .cons rfl (.refl _)

theorem OnlyOffered.talk {chip' : Chip} (h : OnlyOffered rs chip) (ht : Talks chip' chip)
    (hc : chip'.conn_state = chip.conn_state) : OnlyOffered rs chip' := by
  refine h.add (ht.mono ?_) (Or.inl hc)
  intro e he
  cases e <;> first | rfl | cases he

/-! ## Taking up a REQUEST -/

/-- `policy_src_send_caps` takes up a REQUEST: one arrives and SOURCE_CAPABILITIES did not fail. -/
def takes_up (chip : Chip) (evt : Evt) : Prop :=
  chip.conn_state = .policy_src_send_caps ∧ ¬(chip.sub_state = 1 ∧ chip.tx_state = .tx_failed) ∧
    evt.rx = true ∧ PACKET_IS_DATA_MSG chip.rec_head DMT_REQUEST = true

instance : Decidable (takes_up chip evt) := by unfold takes_up; infer_instance

theorem takes_up_received (h : takes_up chip evt) : request_received chip evt :=
  ⟨h.2.2.1, h.2.2.2, Or.inr (by rw [h.1]; rfl)⟩

theorem flag_event_of_rx (h : evt.rx = true) : evt.flag_event = true := by simp [Evt.flag_event, h]

theorem send_caps_default_takes_up (hc : chip.conn_state ≠ .policy_src_negotiate_cap) :
    (fusb_state_src_send_caps.case_default chip evt).conn_state = .policy_src_negotiate_cap ↔
      evt.rx = true ∧ PACKET_IS_DATA_MSG chip.rec_head DMT_REQUEST = true := by
  unfold fusb_state_src_send_caps.case_default
  repeat' split
  all_goals simp_all [set_state]

theorem send_caps_case_1_takes_up (hc : chip.conn_state ≠ .policy_src_negotiate_cap) :
    (fusb_state_src_send_caps.case_1 chip evt).conn_state = .policy_src_negotiate_cap ↔
      chip.tx_state ≠ .tx_failed ∧ evt.rx = true ∧ PACKET_IS_DATA_MSG chip.rec_head DMT_REQUEST = true := by
  unfold fusb_state_src_send_caps.case_1
  dsimp only
  split
  · rename_i hf
    have : chip.tx_state = .tx_failed := by
      rw [policy_send_data_tx_state] at hf
      split at hf
      · cases hf
      · exact hf
    simp [set_state, this]
  · rename_i hs
    have hn : chip.tx_state ≠ .tx_failed := by
      rintro he
      simp [he] at hs
    split
    · rename_i hf
      have hr : ¬evt.rx = true := fun hr => by simp [flag_event_of_rx hr] at hf
      simp [timer_state_start, hc, hr]
    · rw [send_caps_default_takes_up (by simpa [timer_state_start] using hc)]
      simp [timer_state_start, hn]
  · rename_i hf _
    have hn : chip.tx_state ≠ .tx_failed := by
      rintro he
      exact hf (by simp [he])
    split
    · rename_i hf
      have hr : ¬evt.rx = true := fun hr => by simp [flag_event_of_rx hr] at hf
      simp [hc, hr]
    · rw [send_caps_default_takes_up (by simpa using hc)]
      simp [hn]

theorem send_caps_takes_up (hc : chip.conn_state = .policy_src_send_caps) :
    (fusb_state_src_send_caps chip evt).conn_state = .policy_src_negotiate_cap ↔ takes_up chip evt := by
  have hn : chip.conn_state ≠ .policy_src_negotiate_cap := by simp [hc]
  have hl : takes_up chip evt ↔ ¬(chip.sub_state = 1 ∧ chip.tx_state = .tx_failed) ∧ evt.rx = true ∧
      PACKET_IS_DATA_MSG chip.rec_head DMT_REQUEST = true := by simp [takes_up, hc]
  rw [hl]
  unfold fusb_state_src_send_caps
  split
  · rename_i h0
    rw [send_caps_case_1_takes_up (by simpa using hn)]
    simp [h0]
  · rename_i h1
    rw [send_caps_case_1_takes_up hn]
    simp [h1]
  · rename_i h1
    have h1 : chip.sub_state ≠ 1 := h1
    rw [send_caps_default_takes_up hn]
    simp [h1]

/-- Sending capabilities leaves the REQUEST and the offers alone. -/
theorem src_send_caps_request :
    (fusb_state_src_send_caps chip evt).toRx = chip.toRx ∧
      (fusb_state_src_send_caps chip evt).n_caps_used = chip.n_caps_used := by
  have hd : ∀ c : Chip, (fusb_state_src_send_caps.case_default c evt).toRx = c.toRx ∧
      (fusb_state_src_send_caps.case_default c evt).n_caps_used = c.n_caps_used := by
    intro c
    unfold fusb_state_src_send_caps.case_default
    repeat' split
    all_goals exact ⟨rfl, rfl⟩
  have h1 : ∀ c : Chip, (fusb_state_src_send_caps.case_1 c evt).toRx = c.toRx ∧
      (fusb_state_src_send_caps.case_1 c evt).n_caps_used = c.n_caps_used := by
    intro c
    unfold fusb_state_src_send_caps.case_1
    dsimp only
    repeat' split
    all_goals simp [hd, timer_state_start, set_state]
  unfold fusb_state_src_send_caps
  split
  · simp [h1]
  · exact h1 chip
  · exact hd chip

/-- The decision is overtaken by the next case: ACCEPT is built for every REQUEST. -/
theorem case_negotiate_cap_log :
    ∃ data state, (case_negotiate_cap chip evt).log =
      .fifo data state :: .mesg CMT_ACCEPT false :: .asked (request_pos chip) chip.n_caps_used :: chip.log := by
  have h0 : (fusb_state_src_negotiate_cap chip).sub_state = 0 ∧
      (fusb_state_src_negotiate_cap chip).log = .asked (request_pos chip) chip.n_caps_used :: chip.log := by
    unfold fusb_state_src_negotiate_cap
    dsimp only
    split
    · exact ⟨rfl, rfl⟩
    · exact ⟨rfl, rfl⟩
  unfold case_negotiate_cap fusb_state_src_transition_supply fusb_state_src_transition_supply.case_1
  rw [h0.1]
  dsimp only
  rw [send_then_build_mesg, policy_send_data_idle _ rfl]
  refine ⟨_, _, congrArg (List.cons _) ?_⟩
  exact (set_mesg_log _ rfl).trans (congrArg (List.cons _) h0.2)

/-! ## One step -/

/-- A REQUEST noted as offered may be taken up. -/
def Noted (rs : List Asking) (chip : Chip) : Prop :=
  ∃ r ∈ rs, r.offered ∧ r.pos = request_pos chip ∧ r.n_caps_used = chip.n_caps_used

theorem negotiate_onlyOffered (h : OnlyOffered rs chip) (ho : Noted rs chip) :
    OnlyOffered rs (fusb_state_src_negotiate_cap chip) := by
  obtain ⟨r, hr, hro, hp, hn⟩ := ho
  have hlast : lastAsked (chip.emit (.asked (request_pos chip) chip.n_caps_used)).log = some (r.pos, r.n_caps_used) := by
    rw [hp, hn]
    rfl
  have heach : ∀ r ∈ rs, r.offered ∨ Rejected r (chip.emit (.asked (request_pos chip) chip.n_caps_used)).log := by
    intro r hr
    exact (h.each r hr).imp_right fun hj => hj.add (p := fun _ => True) (.cons trivial (.refl _))
  unfold fusb_state_src_negotiate_cap
  dsimp only
  split
  · exact ⟨nofun, heach, nofun⟩
  · exact ⟨nofun, heach, fun _ => ⟨r, hr, hro, hlast⟩⟩

theorem evaluate_onlyOffered (h : OnlyOffered rs chip) : OnlyOffered rs (fusb_state_snk_evaluate_caps chip) := by
  unfold fusb_state_snk_evaluate_caps
  dsimp only
  split
  · exact h.add (.of_eq (by simp [set_state])) (Or.inr (by simp [set_state]))
  · exact h.add (.of_eq (by simp [set_state])) (Or.inr (by simp [set_state]))

theorem dispatch_onlyOffered (h : OnlyOffered rs chip) (hx : takes_up chip evt → Noted rs chip) :
    OnlyOffered rs (dispatch chip evt) := by
  have build : ∀ {c}, OnlyOffered rs c → OnlyOffered rs (build_mesg c DMT_REQUEST true) := by
    intro c hc
    refine hc.add ?_ (Or.inl rfl)
    exact .cons rfl (.cons rfl (.refl _))
  have offer : ∀ c, chip.conn_state = .policy_src_send_caps →
      fusb_state_src_send_caps chip evt = set_state c .policy_src_negotiate_cap → Noted rs c := by
    intro c hc he
    obtain ⟨r, hr, ho, hp, hn⟩ := hx ((send_caps_takes_up hc).1 (by rw [he]; rfl))
    obtain ⟨hrx, hcaps⟩ := @src_send_caps_request chip evt
    rw [he] at hrx hcaps
    have hload : c.rec_load = chip.rec_load := congrArg Rx.rec_load hrx
    refine ⟨r, hr, ho, hp.trans ?_, hn.trans hcaps.symm⟩
    unfold request_pos Chip.rec_obj
    rw [hload]
  exact onlyOffered_ordinary.serves.switch h {
    offer := fun hc c he h' => negotiate_onlyOffered h' (offer c hc he)
    negotiate := fun hc => absurd hc h.rests
    evaluate := fun _ => build (evaluate_onlyOffered h)
    select := fun _ _ => build h
    vdm := fun _ _ => h.talk (process_vdm_msg_talks chip) (by simp)
    auto := fun _ hr _ => hr.talk (auto_vdm_machine_talks _ evt) (by simp) }

/-- The port is about to build REJECT, as it does for a swap. -/
def about_to_reject (chip : Chip) : Bool :=
  chip.sub_state == 0 &&
    match chip.conn_state with
    | .policy_src_cap_response | .policy_src_prs_reject | .policy_snk_prs_reject | .policy_vcs_ufp_reject
    | .policy_drs_dfp_reject | .policy_drs_ufp_reject => true
    | _ => false

theorem dispatch_rejects (h : about_to_reject chip = true) :
    ∃ data state, (dispatch chip evt).log = .fifo data state :: .mesg CMT_REJECT false :: chip.log := by
  obtain ⟨h0, hs⟩ := Bool.and_eq_true_iff.1 h
  have h0 : chip.sub_state = 0 := beq_iff_eq.1 h0
  have build : ∃ data state, (policy_send_data (build_mesg chip CMT_REJECT false)).log =
      .fifo data state :: .mesg CMT_REJECT false :: chip.log := by
    rw [policy_send_data_idle _ rfl]
    exact ⟨_, _, congrArg (List.cons _) (set_mesg_log _ rfl)⟩
  have swap : ∀ {s t : ConnState}, ∃ data state, (fusb_state_send_simple_msg chip CMT_REJECT false s t).log =
      .fifo data state :: .mesg CMT_REJECT false :: chip.log := by
    intro s t
    unfold fusb_state_send_simple_msg
    rw [h0]
    dsimp only
    rw [send_then_build_mesg]
    exact build
  unfold dispatch
  cases hc : chip.conn_state <;> rw [hc] at hs <;> try cases hs
  · unfold fusb_state_src_cap_response fusb_state_src_cap_response.case_default
    rw [h0]
    dsimp only
    rw [send_then_build_mesg]
    exact build
  all_goals exact swap

/-! ## Runs -/

/-- The step receives, in the source role, a REQUEST for a position that was
not offered, and is not about to build REJECT. -/
def receives_unoffered (chip : Chip) : Act → Prop
  | .work env =>
    request_received (at_switch chip env) (events chip env) ∧ ¬(asking (at_switch chip env)).offered ∧
      about_to_reject (at_switch chip env) = false
  | _ => False

instance : Decidable (receives_unoffered chip act) :=
  match act with
  | .work _ => inferInstanceAs (Decidable (_ ∧ _))
  | .timer_state | .timer_mux => inferInstanceAs (Decidable False)

theorem any_of_rx (h : evt.rx = true) : evt.any = true := by simp [Evt.any, h]

/-- A REQUEST that is offered can be noted, and one for which REJECT was built. -/
theorem OnlyOffered.note {r : Asking} (h : OnlyOffered rs chip) (ho : r.offered ∨ Rejected r chip.log) :
    OnlyOffered (r :: rs) chip := by
  refine ⟨h.rests, ?_, ?_⟩
  · intro r' hr
    rcases List.mem_cons.1 hr with rfl | hr
    · exact ho
    · exact h.each r' hr
  · intro hs
    obtain ⟨r', hr, hro⟩ := h.supply hs
    exact ⟨r', List.mem_cons_of_mem _ hr, hro⟩

theorem onlyOffered_passes (env : Env) : Passes chip env (OnlyOffered rs) :=
  onlyOffered_ordinary.serves.passes OnlyOffered.receive (fun h => h.add (.cons rfl (.of_eq rfl)) (Or.inl rfl)) env

theorem watch_onlyOffered {w : Watch} (h : OnlyOffered w.requests w.chip) (hx : ¬receives_unoffered w.chip act) :
    OnlyOffered (watch w act).requests (watch w act).chip := by
  have timer : (∀ env, act ≠ .work env) → OnlyOffered w.requests (step w.chip act) := by
    intro ha
    exact step_keeps onlyOffered_passes h fun env he => absurd he (ha env)
  cases act with
  | timer_state => exact timer nofun
  | timer_mux => exact timer nofun
  | work env =>
    have ha : OnlyOffered w.requests (at_switch w.chip env) := at_switch_keeps (onlyOffered_passes env) h
    unfold watch newly_asked
    dsimp only
    rw [step_work]
    by_cases hr : request_received (at_switch w.chip env) (events w.chip env)
    · rw [if_pos hr, if_pos (any_of_rx hr.1)]
      by_cases ho : (asking (at_switch w.chip env)).offered
      · exact dispatch_onlyOffered (ha.note (Or.inl ho)) fun _ => ⟨_, List.mem_cons_self, ho, rfl, rfl⟩
      · -- not offered: the REJECT of a swap is what is built next
        have hj : about_to_reject (at_switch w.chip env) = true := by
          refine eq_true_of_ne_false fun hj => ?_
          exact hx ⟨hr, ho, hj⟩
        obtain ⟨data, state, hl⟩ := @dispatch_rejects _ (events w.chip env) hj
        have hrej : Rejected (asking (at_switch w.chip env)) (dispatch (at_switch w.chip env) (events w.chip env)).log :=
          ⟨[.fifo data state, .mesg CMT_REJECT false], hl, rfl⟩
        refine (dispatch_onlyOffered ha fun ht => ?_).note (Or.inr hrej)
        rw [about_to_reject, ht.1, Bool.and_false] at hj
        cases hj
    · rw [if_neg hr]
      split
      · exact dispatch_onlyOffered ha fun ht => absurd (takes_up_received ht) hr
      · exact ha

theorem probe_onlyOffered (board : Board) : OnlyOffered [] (fusb30x_probe board) := by
  refine ⟨?_, nofun, ?_⟩
  · simp [fusb30x_probe]
  · intro hc
    simp [fusb30x_probe] at hc

/-- In a run that receives no REQUEST for a position not offered, but where
REJECT is about to be built, every REQUEST is answered as the offers require. -/
theorem requests_answered (board : Board) (acts : List Act)
    (h : Runs.Meets step (fun chip act => ¬receives_unoffered chip act) (fusb30x_probe board) acts) :
    ∀ w ∈ Runs.visited watch ⟨fusb30x_probe board, []⟩ acts, RequestsAnswered w := by
  have hw : Runs.Meets watch (fun w act => ¬receives_unoffered w.chip act) ⟨fusb30x_probe board, []⟩ acts :=
    (Runs.meets_map (D := fun chip act => ¬receives_unoffered chip act) (fun w act => (rfl : (watch w act).chip = _))
      _ acts).2 h
  intro w hm
  exact (hw.visited_inv (I := fun w => OnlyOffered w.requests w.chip) (fun _ _ h hx => watch_onlyOffered h hx)
    (probe_onlyOffered board) w hm).answered

theorem contract_requests_answered :
    RequestsAnswered (Runs.run watch ⟨fusb30x_probe {}, []⟩ (attach_source ++ contract)) :=
  requests_answered _ _ (by decide +kernel) _ (Runs.run_mem_visited ..)

/-! ## What goes wrong -/

/-- A REJECT was built. -/
def Entry.rejects : Entry → Bool
  | .mesg cmd is_DMT => cmd == CMT_REJECT && !is_DMT
  | _ => false

/-- The first message built since `older` is not REJECT. -/
def answers_otherwise (log older : List Entry) : Bool :=
  match nextBuilt (log.take (log.length - older.length)) with
  | some e => !e.rejects
  | none => false

theorem not_answered {w : Watch} {r : Asking} (hr : r ∈ w.requests) (ho : ¬r.offered)
    (hw : answers_otherwise w.chip.log r.older = true) : ¬RequestsAnswered w := by
  intro h
  obtain ⟨newer, hl, ha⟩ := h.reject r hr ho
  rw [answers_otherwise, hl, List.length_append, Nat.add_sub_cancel, List.take_left] at hw
  cases hb : nextBuilt newer with
  | none =>
    rw [hb] at hw
    cases hw
  | some e =>
    rw [hb, ha e hb] at hw
    cases hw

/-- Sending capabilities builds no REJECT. -/
theorem src_send_caps_added : Trace.Added (fun e => e.rejects = false) chip.log (fusb_state_src_send_caps chip evt).log := by
  have hd : ∀ c : Chip, (fusb_state_src_send_caps.case_default c evt).log = c.log := by
    intro c
    unfold fusb_state_src_send_caps.case_default
    repeat' split
    all_goals rfl
  have hs : ∀ c : Chip, Trace.Added (fun e => e.rejects = false) c.log (policy_send_data c).log := by
    intro c
    unfold policy_send_data
    split
    · exact .cons rfl (.refl _)
    · exact .refl _
  have h1 : ∀ c : Chip, Trace.Added (fun e => e.rejects = false) c.log (fusb_state_src_send_caps.case_1 c evt).log := by
    intro c
    unfold fusb_state_src_send_caps.case_1
    dsimp only
    repeat' split
    all_goals first
      | exact hs c
      | rw [hd]
        exact hs c
  unfold fusb_state_src_send_caps
  split
  · have hb : (build_mesg chip DMT_SOURCECAPABILITIES true).log = .mesg DMT_SOURCECAPABILITIES true :: chip.log :=
      set_mesg_log _ rfl
    exact Trace.Added.trans (hb ▸ .cons rfl (.refl _)) (h1 _)
  · exact h1 chip
  · exact .of_eq (hd chip)

/-- A REQUEST taken up gets ACCEPT, or SOURCE_CAPABILITIES before it. -/
theorem takes_up_answers (hx : takes_up chip evt) : answers_otherwise (dispatch chip evt).log chip.log = true := by
  obtain ⟨data, state, hl⟩ := @case_negotiate_cap_log (fusb_state_src_send_caps chip evt) evt
  obtain ⟨mid, hm, hn⟩ := @src_send_caps_added chip evt
  have hc : (fusb_state_src_send_caps chip evt).conn_state = .policy_src_negotiate_cap := (send_caps_takes_up hx.1).2 hx
  have hd : (dispatch chip evt).log = (case_negotiate_cap (fusb_state_src_send_caps chip evt) evt).log := by
    simp [dispatch, hx.1, case_send_caps, hc]
  rw [hd, hl, hm, answers_otherwise]
  simp only [← List.cons_append, List.length_append, Nat.add_sub_cancel, List.take_left]
  rw [nextBuilt]
  simp only [List.reverse_cons, List.find?_append]
  cases hb : mid.reverse.find? Entry.built with
  | none => rfl
  | some e =>
    have he : e ∈ mid := List.mem_reverse.1 (List.mem_of_find?_eq_some hb)
    simp [hn e he]

/-- A REQUEST taken up that was not offered is not answered by REJECT. -/
theorem takes_up_unanswered {w : Watch} (ht : takes_up (at_switch w.chip env) (events w.chip env))
    (ho : ¬(asking (at_switch w.chip env)).offered) : ¬RequestsAnswered (watch w (.work env)) := by
  have hr := takes_up_received ht
  refine not_answered (r := asking (at_switch w.chip env)) ?_ ho ?_
  · unfold watch newly_asked
    dsimp only
    rw [if_pos hr]
    exact List.mem_cons_self
  · unfold watch
    dsimp only
    rw [step_work, if_pos (any_of_rx hr.1)]
    exact takes_up_answers ht

/-- A REQUEST for the fifth of one offered object is accepted. -/
theorem fifth_of_one_accepted :
    ¬∀ w ∈ Runs.visited watch ⟨fusb30x_probe {}, []⟩
      (attach_source ++ [txsent] ++ [received (data DMT_REQUEST [0x50000000#32])]), RequestsAnswered w := by
  intro h
  refine takes_up_unanswered ?_ ?_ (h _ (Runs.step_mem_visited ..)) <;> decide +kernel

/-- Once there is a contract the same REQUEST is dropped, and GET_SINK_CAP is built next. -/
theorem fifth_of_one_dropped :
    ¬∀ w ∈ Runs.visited watch ⟨fusb30x_probe {}, []⟩
      (attach_source ++ contract ++ [txsent, received (data DMT_REQUEST [0x50000000#32]), idle]), RequestsAnswered w := by
  intro h
  have hu : ∃ r ∈ (Runs.run watch ⟨fusb30x_probe {}, []⟩ (attach_source ++ contract ++
      [txsent, received (data DMT_REQUEST [0x50000000#32]), idle])).requests, ¬r.offered ∧
        answers_otherwise (Runs.run watch ⟨fusb30x_probe {}, []⟩ (attach_source ++ contract ++
          [txsent, received (data DMT_REQUEST [0x50000000#32]), idle])).chip.log r.older = true := by
    decide +kernel
  obtain ⟨r, hr, ho, hw⟩ := hu
  exact not_answered hr ho hw (h _ (Runs.run_mem_visited ..))

end Fusb302
