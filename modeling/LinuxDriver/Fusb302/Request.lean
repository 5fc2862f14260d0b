import LinuxDriver.Fusb302.Negotiate
/-!
# The sink's REQUEST

The sink looks for an acceptable object among those it was offered and asks for
it. Two things go wrong in the invocation that looks: another message may have
overwritten the offer, and when nothing is acceptable the dispatcher runs on
into the next case, which builds a REQUEST for position 0.
-/

namespace Fusb302

variable {chip : Chip} {evt : Evt}

/-! ## What is acceptable -/

/-- An object of at most 5 V, or one within the limits the charger reports. -/
def acceptable (charge_dev : Option (Option Int × Option Int)) (pdo : BitVec 32) : Bool :=
  is_5v pdo ||
    match charge_dev with
    | none => false
    | some dev =>
      decide ((charge_limits dev).1 > 0 ∧ (charge_limits dev).2 > 0) &&
        (fits (charge_limits dev).1 (charge_limits dev).2 pdo).isSome

/-- A SOURCE_CAPABILITIES message received. -/
def Entry.caps : Entry → Option PdMsg
  | .recv m => if PACKET_IS_DATA_MSG m.head DMT_SOURCECAPABILITIES then some m else none
  | _ => none

/-- The last SOURCE_CAPABILITIES message received. -/
def lastCaps (log : List Entry) : Option PdMsg := log.findSome? Entry.caps

/-- `pos` is the position and `pdo` the object of an acceptable offer of the message. -/
def OffersAt (m : PdMsg) (charge_dev : Option (Option Int × Option Int)) (pos : Nat) (pdo : BitVec 32) : Prop :=
  ∃ i : Fin 7, pos = i + 1 ∧ i < PD_HEADER_CNT m.head ∧ pdo = m.load i ∧ acceptable charge_dev pdo = true

/-- A REQUEST asks for an acceptable object of the last SOURCE_CAPABILITIES message. -/
def FitsOffer : Entry → List Entry → Prop
  | .requested pos pdo charge_dev, older => ∃ m, lastCaps older = some m ∧ OffersAt m charge_dev pos pdo
  | _, _ => True

/-- Every REQUEST built asks for an acceptable object of the offer. -/
structure RequestsOffered (chip : Chip) : Prop where
  each : Trace.Each FitsOffer chip.log

/-! ## The choice -/

theorem rec_obj_fin (i : Fin 7) : chip.rec_obj (i.val : Nat) = chip.rec_load i := by
  unfold Chip.rec_obj
  rw [dif_pos (by omega)]
  simp

theorem pos_power_5v_spec (n : Nat) :
    (pos_power_5v chip n = 0 ∧ ∀ i < n, is_5v (chip.rec_obj i) = false) ∨
      ∃ i < n, pos_power_5v chip n = i + 1 ∧ is_5v (chip.rec_obj i) = true := by
  induction n with
  | zero => exact Or.inl ⟨rfl, by simp⟩
  | succ n ih =>
    unfold pos_power_5v
    split
    · rename_i h
      exact Or.inr ⟨n, Nat.lt_succ_self n, rfl, h⟩
    · rename_i h
      rcases ih with ⟨h0, hn⟩ | ⟨i, hi, hp, h5⟩
      · refine Or.inl ⟨h0, ?_⟩
        intro i hi
        rcases Nat.lt_succ_iff_lt_or_eq.1 hi with hi | rfl
        · exact hn i hi
        · simpa using h
      · exact Or.inr ⟨i, Nat.lt_succ_of_lt hi, hp, h5⟩

theorem set_pos_power_from_spec (max_vol max_cur : Int) (n : Nat) :
    ((set_pos_power_from chip max_vol max_cur n).pos_power = chip.pos_power ∧
        ∀ i < n, (fits max_vol max_cur (chip.rec_obj i)).isSome = false) ∨
      ∃ i < n, (set_pos_power_from chip max_vol max_cur n).pos_power = i + 1 ∧
        (fits max_vol max_cur (chip.rec_obj i)).isSome = true := by
  induction n with
  | zero => exact Or.inl ⟨rfl, by simp⟩
  | succ n ih =>
    unfold set_pos_power_from
    split
    · rename_i h
      exact Or.inr ⟨n, Nat.lt_succ_self n, rfl, by rw [h]; rfl⟩
    · rename_i h
      rcases ih with ⟨h0, hn⟩ | ⟨i, hi, hp, hf⟩
      · refine Or.inl ⟨h0, ?_⟩
        intro i hi
        rcases Nat.lt_succ_iff_lt_or_eq.1 hi with hi | rfl
        · exact hn i hi
        · rw [h]
          rfl
      · exact Or.inr ⟨i, Nat.lt_succ_of_lt hi, hp, hf⟩

/-- What the charger's limits make of a choice. -/
theorem by_charge_ic_spec {n : Nat} (hn : n = PD_HEADER_CNT chip.rec_head)
    (h5 : (chip.pos_power = 0 ∧ ∀ i < n, is_5v (chip.rec_obj i) = false) ∨
      ∃ i < n, chip.pos_power = i + 1 ∧ is_5v (chip.rec_obj i) = true) :
    let pos := (fusb302_set_pos_power_by_charge_ic chip).pos_power
    (pos = 0 ∧ ∀ i < n, acceptable chip.charge_dev (chip.rec_obj i) = false) ∨
      ∃ i < n, pos = i + 1 ∧ acceptable chip.charge_dev (chip.rec_obj i) = true := by
  -- the charger's limits have nothing to add to the 5 V object
  have keep : (∀ i < n, acceptable chip.charge_dev (chip.rec_obj i) = is_5v (chip.rec_obj i)) →
      (chip.pos_power = 0 ∧ ∀ i < n, acceptable chip.charge_dev (chip.rec_obj i) = false) ∨
        ∃ i < n, chip.pos_power = i + 1 ∧ acceptable chip.charge_dev (chip.rec_obj i) = true := by
    intro he
    rcases h5 with ⟨h0, hn⟩ | ⟨i, hi, hp, ht⟩
    · exact Or.inl ⟨h0, fun i hi => (he i hi).trans (hn i hi)⟩
    · exact Or.inr ⟨i, hi, hp, (he i hi).trans ht⟩
  unfold fusb302_set_pos_power_by_charge_ic
  dsimp only
  split
  · rename_i hd
    refine keep fun i _ => ?_
    simp [acceptable, hd]
  · rename_i dev hd
    split
    · rename_i hl
      unfold fusb_set_pos_power
      rw [← hn]
      rcases set_pos_power_from_spec (charge_limits dev).1 (charge_limits dev).2 n with ⟨hp, hf⟩ | ⟨i, hi, hp, hf⟩
      · rw [hp]
        refine keep fun i hi => ?_
        simp [acceptable, hd, hf i hi]
      · refine Or.inr ⟨i, hi, hp, ?_⟩
        simp [acceptable, hd, hl, hf]
    · rename_i hl
      refine keep fun i _ => ?_
      simp only [acceptable, hd, decide_eq_false hl, Bool.false_and, Bool.or_false]

/-- The sink goes on with the position of an acceptable object, and waits for
another offer when none is. -/
theorem evaluate_caps_spec :
    let chip' := fusb_state_snk_evaluate_caps chip
    (chip'.conn_state = .policy_snk_wait_caps ∧ chip'.pos_power = 0 ∧
        ∀ i < PD_HEADER_CNT chip.rec_head, acceptable chip.charge_dev (chip.rec_obj i) = false) ∨
      (chip'.conn_state = .policy_snk_select_cap ∧
        ∃ i < PD_HEADER_CNT chip.rec_head, chip'.pos_power = i + 1 ∧
          acceptable chip.charge_dev (chip.rec_obj i) = true) := by
  have h := @by_charge_ic_spec { chip with
    hardrst_count := 0, pos_power := pos_power_5v { chip with hardrst_count := 0 } (PD_HEADER_CNT chip.rec_head) } _
    rfl (@pos_power_5v_spec { chip with hardrst_count := 0 } _)
  unfold fusb_state_snk_evaluate_caps
  dsimp only at h ⊢
  rcases h with ⟨h0, hn⟩ | ⟨i, hi, hp, ha⟩
  · rw [if_pos (Or.inl h0)]
    exact Or.inl ⟨rfl, rfl, hn⟩
  · have h7 := cnt_le_seven chip.rec_head
    rw [if_neg (by omega)]
    exact Or.inr ⟨rfl, i, hi, hp, ha⟩

/-! ## The invariant -/

/-- A SOURCE_CAPABILITIES message in hand is the last one received. -/
def OfferInHand (chip : Chip) : Prop :=
  PACKET_IS_DATA_MSG chip.rec_head DMT_SOURCECAPABILITIES = true →
    ∃ m, lastCaps chip.log = some m ∧ m.head = chip.rec_head ∧
      ∀ i : Fin 7, i < PD_HEADER_CNT m.head → chip.rec_load i = m.load i

/-- The requests so far are offered, the offer in hand is the last one, and a
port that selects has built its REQUEST. -/
structure Selects (chip : Chip) : Prop where
  offered : RequestsOffered chip
  hand : OfferInHand chip
  built : chip.conn_state = .policy_snk_select_cap → chip.sub_state ≠ 0

/-- Entries without a bearing on requests and offers. -/
def Entry.aside : Entry → Prop
  | .recv _ | .requested .. => False
  | _ => True

theorem Selects.add {chip' : Chip} (h : Selects chip) (hl : Trace.Added Entry.aside chip.log chip'.log)
    (hr : chip'.toRx = chip.toRx) (hc : chip'.conn_state = .policy_snk_select_cap → chip'.sub_state ≠ 0) :
    Selects chip' := by
  refine ⟨⟨hl.each ?_ h.offered.each⟩, ?_, hc⟩
  · intro e l he
    cases e <;> trivial
  · unfold OfferInHand lastCaps
    rw [hr, hl.findSome?_eq (f := Entry.caps) fun e he => by cases e <;> first | rfl | cases he]
    exact h.hand

theorem selects_ordinary : Ordinary Selects where
  view {c c'} h hv := by
    have hl : c'.log = c.log := congrArg View.log hv
    have hc : c'.conn_state = c.conn_state := congrArg View.conn_state hv
    have hs : c'.sub_state = c.sub_state := congrArg View.sub_state hv
    exact h.add (.of_eq hl) (congrArg View.rx hv) (by rw [hc, hs]; exact h.built)
  move {c s} h hg := by
    refine h.add (.of_eq rfl) rfl fun hs => ?_
    have hs : s = .policy_snk_select_cap := hs
    rw [hs] at hg
    cases hg
  recast {c s} r h hg := by
    refine h.add (.of_eq rfl) rfl fun hs => ?_
    have hs : s = .policy_snk_select_cap := hs
    rw [hs] at hg
    cases hg
  sub n h hn := h.add (.of_eq rfl) rfl fun _ => Nat.ne_of_gt hn
  log {c e} h ho := by
    refine h.add (.cons ?_ (.of_eq rfl)) rfl h.built
    cases e <;> trivial
  soft_reset h := h.add (.cons trivial (.cons trivial (.of_eq rfl))) rfl h.built
  renumber _ h := h.add (.of_eq rfl) rfl h.built
  forget h := h.add (.of_eq rfl) rfl h.built

theorem Selects.get_message (h : Selects chip) (fifo : List PdMsg) : Selects (get_message chip fifo) := by
  induction fifo generalizing chip with
  | nil => exact h
  | cons m fifo ih =>
    unfold Fusb302.get_message
    split
    · rename_i hg
      refine ih ⟨⟨h.offered.each⟩, ?_, h.built⟩
      intro hd
      rw [not_data_of_control hg] at hd
      cases hd
    · refine ⟨⟨trivial, h.offered.each⟩, ?_, h.built⟩
      intro hd
      refine ⟨m, ?_, rfl, ?_⟩
      · simp [lastCaps, Entry.caps, show PACKET_IS_DATA_MSG m.head DMT_SOURCECAPABILITIES = true from hd]
      · intro i hi
        simp [hi]

theorem Selects.talk {chip' : Chip} (h : Selects chip) (ht : Talks chip' chip) (hk : VdmKept chip' chip) :
    Selects chip' := by
  refine h.add (ht.mono ?_) hk.2.2.1 (by rw [hk.1, hk.2.1]; exact h.built)
  intro e he
  cases e <;> trivial

/-! ## One step -/

/-- The message in hand is a SOURCE_CAPABILITIES message with an acceptable object. -/
def acceptable_offer (chip : Chip) : Prop :=
  PACKET_IS_DATA_MSG chip.rec_head DMT_SOURCECAPABILITIES = true ∧
    ∃ i : Fin 7, i < PD_HEADER_CNT chip.rec_head ∧ acceptable chip.charge_dev (chip.rec_load i) = true

instance : Decidable (acceptable_offer chip) := by unfold acceptable_offer; infer_instance

/-- With an acceptable offer in hand the REQUEST built fits it. -/
theorem request_selects (h : Selects chip) (ho : acceptable_offer chip) :
    Selects (build_mesg (fusb_state_snk_evaluate_caps chip) DMT_REQUEST true) := by
  obtain ⟨hd, j, hj, hja⟩ := ho
  obtain ⟨m, hm, hh, hl⟩ := h.hand hd
  have hf := @evaluate_caps_frame chip
  rcases @evaluate_caps_spec chip with ⟨_, _, hn⟩ | ⟨_, i, hi, hp, ha⟩
  · rw [← rec_obj_fin, hn j hj] at hja
    cases hja
  · have h7 := cnt_le_seven chip.rec_head
    have hi' : i < PD_HEADER_CNT m.head := by rw [hh]; exact hi
    have hlog : (build_mesg (fusb_state_snk_evaluate_caps chip) DMT_REQUEST true).log =
        .requested (i + 1) (chip.rec_load ⟨i, by omega⟩) chip.charge_dev :: .mesg DMT_REQUEST true :: chip.log := by
      rw [build_request_log, hp, hf.2.2.2.2.2.2.2.2.1, hf.2.2.2.2.2.2.2.1, ← rec_obj_fin]
      unfold Chip.rec_obj
      simp
    refine ⟨?_, ?_, by simp⟩
    · refine ⟨?_⟩
      rw [hlog]
      refine ⟨⟨m, hm, ⟨i, by omega⟩, rfl, hi', hl _ hi', ?_⟩, trivial, h.offered.each⟩
      rw [← rec_obj_fin]
      exact ha
    · intro _
      refine ⟨m, ?_, by simpa using hh, by simpa using hl⟩
      rw [hlog]
      exact hm

theorem negotiate_selects (h : Selects chip) : Selects (fusb_state_src_negotiate_cap chip) := by
  unfold fusb_state_src_negotiate_cap
  dsimp only
  split
  · exact h.add (.cons (e := Entry.asked _ _) trivial (.refl _)) rfl (by simp [set_state])
  · exact h.add (.cons (e := Entry.asked _ _) trivial (.refl _)) rfl (by simp [set_state])

theorem dispatch_selects (h : Selects chip)
    (hx : chip.conn_state = .policy_snk_evaluate_caps → acceptable_offer chip) : Selects (dispatch chip evt) := by
  exact selects_ordinary.serves.switch h {
    offer := fun _ _ _ => negotiate_selects
    negotiate := fun _ => negotiate_selects h
    evaluate := fun hc => request_selects h (hx hc)
    select := fun hc h0 => absurd h0 (h.built hc)
    vdm := fun _ _ => h.talk (process_vdm_msg_talks _) (process_vdm_msg_kept _)
    auto := fun _ hr _ => hr.talk (auto_vdm_machine_talks _ evt) (auto_vdm_machine_kept _ evt) }

theorem select_cap_default_log : (fusb_state_snk_select_cap.case_default chip evt).log = chip.log := by
  unfold fusb_state_snk_select_cap.case_default
  repeat' split
  all_goals rfl

/-- Looking in vain ends in a REQUEST for position 0. -/
theorem dispatch_requests_nothing (hc : chip.conn_state = .policy_snk_evaluate_caps)
    (hn : ∀ i < PD_HEADER_CNT chip.rec_head, acceptable chip.charge_dev (chip.rec_obj i) = false) :
    ∃ pdo charge_dev, .requested 0 pdo charge_dev ∈ (dispatch chip evt).log := by
  have hp : (fusb_state_snk_evaluate_caps chip).pos_power = 0 := by
    rcases @evaluate_caps_spec chip with ⟨_, hp, _⟩ | ⟨_, i, hi, _, ha⟩
    · exact hp
    · rw [hn i hi] at ha
      cases ha
  have hl : ∃ pdo charge_dev, .requested 0 pdo charge_dev ∈
      (policy_send_data (build_mesg (fusb_state_snk_evaluate_caps chip) DMT_REQUEST true)).log := by
    have hb : .requested 0 ((fusb_state_snk_evaluate_caps chip).rec_obj (-1)) (fusb_state_snk_evaluate_caps chip).charge_dev ∈
        (build_mesg (fusb_state_snk_evaluate_caps chip) DMT_REQUEST true).log := by
      rw [build_request_log, hp]
      exact List.mem_cons_self
    rw [policy_send_data_idle _ rfl]
    exact ⟨_, _, List.mem_cons_of_mem _ hb⟩
  have h0 : (fusb_state_snk_evaluate_caps chip).sub_state = 0 := evaluate_caps_frame.1
  have hd : dispatch chip evt =
      fusb_state_snk_select_cap.case_1 (build_mesg (fusb_state_snk_evaluate_caps chip) DMT_REQUEST true) evt := by
    unfold dispatch case_evaluate_caps fusb_state_snk_select_cap
    rw [hc]
    simp only [h0]
  rw [hd]
  -- nothing after the hand-over takes an entry out of the log
  unfold fusb_state_snk_select_cap.case_1
  dsimp only
  split
  · exact hl
  · split
    · exact hl
    · rw [select_cap_default_log]
      exact hl
  · split
    · exact hl
    · rw [select_cap_default_log]
      exact hl

theorem RequestsOffered.pos_ne_zero {pdo : BitVec 32} {charge_dev : Option (Option Int × Option Int)}
    (h : RequestsOffered chip) : .requested 0 pdo charge_dev ∉ chip.log := by
  intro hm
  obtain ⟨newer, older, hl⟩ := List.append_of_mem hm
  have he := h.each
  rw [hl] at he
  obtain ⟨_, _, i, hi, _⟩ := he.at
  omega

/-! ## Runs -/

/-- The step looks for an object to request without an acceptable offer in hand. -/
def evaluates_no_offer (chip : Chip) : Act → Prop
  | .work env => (at_switch chip env).conn_state = .policy_snk_evaluate_caps ∧ ¬acceptable_offer (at_switch chip env)
  | _ => False

instance (act : Act) : Decidable (evaluates_no_offer chip act) :=
  match act with
  | .work _ => inferInstanceAs (Decidable (_ ∧ _))
  | .timer_state | .timer_mux => inferInstanceAs (Decidable False)

theorem step_selects (h : Selects chip) {act : Act} (hx : ¬evaluates_no_offer chip act) : Selects (step chip act) := by
  refine step_keeps (selects_ordinary.serves.passes (fun h => h.get_message _)
    fun h => h.add (.cons trivial (.of_eq rfl)) rfl h.built) h ?_
  rintro env rfl _ ha
  refine dispatch_selects ha fun hc => ?_
  refine not_not.1 fun ho => ?_
  exact hx ⟨hc, ho⟩

theorem probe_selects (board : Board) : Selects (fusb30x_probe board) := by
  refine ⟨?_, ?_, ?_⟩
  · refine ⟨?_⟩
    rw [probe_log]
    exact ⟨trivial, trivial⟩
  · intro hd
    simp [fusb30x_probe, kzalloc, PACKET_IS_DATA_MSG, PD_HEADER_CNT] at hd
  · intro hc
    simp [fusb30x_probe] at hc

/-- In a run whose every look for an object finds an acceptable offer in hand,
every REQUEST asks for an acceptable object of the last offer. -/
theorem requests_offered (board : Board) (acts : List Act)
    (h : Runs.Meets step (fun chip act => ¬evaluates_no_offer chip act) (fusb30x_probe board) acts) :
    ∀ chip ∈ Runs.visited step (fusb30x_probe board) acts, RequestsOffered chip := by
  intro chip hc
  exact (h.visited_inv (I := Selects) (fun _ _ h hx => step_selects h hx) (probe_selects board) chip hc).offered

/-- The step looks for an object and finds none acceptable in the message in hand. -/
def finds_nothing (chip : Chip) : Act → Prop
  | .work env =>
    (events chip env).any = true ∧ (at_switch chip env).conn_state = .policy_snk_evaluate_caps ∧
      ∀ i < PD_HEADER_CNT (at_switch chip env).rec_head,
        acceptable (at_switch chip env).charge_dev ((at_switch chip env).rec_obj i) = false
  | _ => False

instance (act : Act) : Decidable (finds_nothing chip act) :=
  match act with
  | .work _ => inferInstanceAs (Decidable (_ ∧ _))
  | .timer_state | .timer_mux => inferInstanceAs (Decidable False)

/-- Such a step asks for no object of the offer. -/
theorem step_requests_nothing {act : Act} (hx : finds_nothing chip act) : ¬RequestsOffered (step chip act) := by
  cases act with
  | work env =>
    obtain ⟨hany, hc, hn⟩ := hx
    rw [step_work, if_pos hany]
    intro h
    obtain ⟨pdo, charge_dev, hm⟩ := @dispatch_requests_nothing _ (events chip env) hc hn
    exact h.pos_ne_zero hm
  | timer_state => exact hx.elim
  | timer_mux => exact hx.elim

/-- A sink without a charger asks for the second of two offers, the one of 5 V. -/
theorem second_of_two_requested :
    RequestsOffered (ran try_source
      (attach_sink ++ [received (data DMT_SOURCECAPABILITIES [0x0002d0c8#32, 0x00019096#32]), idle])) :=
  requests_offered _ _ (by decide +kernel) _ (Runs.run_mem_visited ..)

/-- A sink offered 9 V only, without a charger, asks for position 0. -/
theorem nine_volts_requested :
    ¬∀ chip ∈ Runs.visited step (fusb30x_probe try_source)
      (attach_sink ++ [received (data DMT_SOURCECAPABILITIES [0x0002d0c8#32])] ++ [idle]), RequestsOffered chip := by
  intro h
  refine step_requests_nothing ?_ (h _ (Runs.step_mem_visited ..))
  decide +kernel

end Fusb302
