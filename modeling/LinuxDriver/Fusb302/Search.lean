import LinuxDriver.Fusb302.Standing
import LinuxDriver.Lib.Streak
/-!
# The search for a partner

What attachment turns on, apart from the registers: the state, the reference
readings and the debounce counter, and how far the port has come in trying the
other role. `Search.Move` says once what a handler can do to them, `step_moves`
that every step is the part before the switch and one such move.
-/

namespace Fusb302

/-! ## The view -/

/-- A measurement of both lines. -/
abbrev Reading := CcVolt × CcVolt

/-- What `tcpm_get_cc` would measure. -/
def reading (chip : Chip) : Reading := ((tcpm_get_cc chip).cc1, (tcpm_get_cc chip).cc2)

/-- What decides about attaching. -/
structure Search where
  conn_state : ConnState
  connected : Bool
  cc : Reading
  debounce_cnt : Nat
  role : RoleMode
  try_role : RoleMode
  try_role_complete : Bool

/-- The view of a chip. -/
def Chip.search (chip : Chip) : Search where
  conn_state := chip.conn_state
  connected := chip.notify.is_cc_connected
  cc := (chip.cc1, chip.cc2)
  debounce_cnt := chip.debounce_cnt
  role := chip.role
  try_role := chip.try_role
  try_role_complete := chip.try_role_complete

/-- The states that debounce. -/
def ConnState.waits : ConnState → Bool
  | .attach_wait_sink | .attach_wait_source => true
  | _ => false

/-- The states that try a role. -/
def ConnState.tries : ConnState → Bool
  | .attach_try_src | .attach_try_snk => true
  | _ => false

/-- One debounce reading. The counter is a `u8`. -/
def Search.count (s : Search) (p : Reading) : Search :=
  if s.cc = p then { s with debounce_cnt := (s.debounce_cnt + 1) % 256 } else { s with cc := p, debounce_cnt := 0 }

/-- After `set_state_unattached`. -/
def Search.lost (s : Search) : Search :=
  { s with conn_state := .unattached, connected := false, try_role_complete := false }

/-! ## What an invocation does -/

/-- The results of the `tcpm_get_cc` calls, in order, and whether
`set_state_unattached` runs. -/
structure Did where
  reads : List Reading := []
  unattaches : Bool := false

/-- One after the other. -/
def Did.after (d e : Did) : Did := ⟨d.reads ++ e.reads, d.unattaches || e.unattaches⟩

/-! Each function follows the handler it is named after. -/

/-- What the start of a debounce does. -/
def start_debounce_did (chip : Chip) : Did := { reads := [reading (tcpm_set_polarity chip (cc_state_polarity chip))] }

/-- What `fusb_state_unattached` does. -/
def unattached_did (chip : Chip) (evt : Evt) : Did :=
  let chip := { chip with notify.is_cc_connected := false, is_pd_support := false }
  if evt.cc && chip.cc_state != 0#8 then
    let chip := if bit chip.cc_state CC_STATE_TOGSS_IS_UFP then set_state chip .attach_wait_sink
      else set_state chip .attach_wait_source
    let v := tcpm_check_vbus chip
    start_debounce_did { v.1 with vbus_begin := v.2 }
  else {}

/-- One reading, and perhaps the end of it. -/
def attach_wait_sink_measure_did (chip : Chip) : Did :=
  { reads := [reading chip], unattaches := measure_discards chip }

/-- What `attach_wait_sink` does. -/
def attach_wait_sink_did (chip : Chip) (evt : Evt) : Did :=
  if evt.timer_mux then
    let v := tcpm_check_vbus chip
    if v.2 then
      let chip : Chip := { v.1 with timer_mux := T_DISABLED }
      if chip.role = .DRP ∧ chip.try_role = .DFP ∧ chip.try_role_complete = false then {}
      else if chip.try_role_complete then {}
      else attach_wait_sink_measure_did chip
    else attach_wait_sink_measure_did v.1
  else {}

/-- What `attach_wait_source` does. -/
def attach_wait_source_did (chip : Chip) (evt : Evt) : Did :=
  if evt.timer_mux then
    let next := debounce chip
    { reads := [reading chip]
      unattaches := decide (next.debounce_cnt > N_DEBOUNCE_CNT) &&
        !decide ((next.cc1 = .OPEN ∨ next.cc2 = .OPEN) ∧ (next.cc1 = .RD ∨ next.cc2 = .RD)) }
  else {}

/-- What `attached_sink` does. -/
def attached_sink_did (chip : Chip) (evt : Evt) : Did := { unattaches := !(tcpm_check_vbus chip).2 && evt.timer_mux }

/-- What `try_attach` does. -/
def try_attach_did (chip : Chip) (evt : Evt) (mode : RoleMode) : Did :=
  if evt.cc && chip.cc_state != 0#8 then
    let chip := { chip with try_role_complete := true }
    let chip := if bit chip.cc_state CC_STATE_TOGSS_IS_UFP then
        set_state chip (if mode = .UFP then .attach_wait_sink else .error_recovery)
      else set_state chip (if mode = .DFP then .attach_wait_source else .error_recovery)
    start_debounce_did chip
  else {}

/-- What the switch does. -/
def dispatch_did (chip : Chip) (evt : Evt) : Did :=
  match chip.conn_state with
  | .error_recovery => { unattaches := true }
  | .unattached => unattached_did chip evt
  | .attach_wait_sink => attach_wait_sink_did chip evt
  | .attach_wait_source => attach_wait_source_did chip evt
  | .attached_sink => attached_sink_did chip evt
  | .attach_try_src => try_attach_did chip evt .DFP
  | .attach_try_snk => try_attach_did chip evt .UFP
  | _ => {}

/-- What `try_detach` does. -/
def try_detach_did (chip : Chip) : Did :=
  if bit chip.cc_state CC_STATE_TOGSS_IS_UFP ∧ chip.conn_state ≠ .policy_snk_transition_default ∧
      chip.conn_state ≠ .policy_src_prs_source_off ∧ chip.conn_state ≠ .policy_snk_prs_send_swap ∧
      chip.conn_state ≠ .policy_snk_prs_assert_rp ∧ chip.conn_state ≠ .policy_snk_prs_source_on ∧
      chip.conn_state ≠ .policy_snk_prs_transition_to_off then
    { unattaches := !(tcpm_check_vbus chip).2 }
  else if chip.conn_state ≠ .policy_src_transition_default ∧ chip.conn_state ≠ .policy_src_prs_source_off ∧
      chip.conn_state ≠ .policy_snk_prs_source_on then
    let cc1 := if bit chip.cc_state CC_STATE_TOGSS_CC2 then (reading chip).2 else (reading chip).1
    { reads := [reading chip], unattaches := decide (cc1 = .OPEN) }
  else {}

/-- What the part before the switch does. -/
def detach_did (chip : Chip) (evt : Evt) : Did :=
  if chip.notify.is_cc_connected && (evt.cc || evt.delay_cc) then try_detach_did chip else {}

/-- What an activation does. -/
def did (chip : Chip) : Act → Did
  | .work env =>
    (detach_did (alerts chip env).1 (events chip env)).after
      (if (events chip env).any then dispatch_did (at_switch chip env) (events chip env) else {})
  | _ => {}

/-! ## What it can do -/

/-- One line shows `v` and the other is open. -/
def one_line (v : CcVolt) (p : Reading) : Prop := p = (v, .OPEN) ∨ p = (.OPEN, v)

/-- The moves of a handler, where `vbus` says whether it sees VBUS. -/
inductive Search.Move (vbus : Bool) (s : Search) : Did → Search → Prop
  | stay : Move vbus s {} s
  | forget (h : s.conn_state = .unattached) : Move vbus s {} { s with connected := false }
  | leave {t : ConnState} {b : Bool} (hst : t.seeking = false) :
    Move vbus s {} { s with conn_state := t, connected := b }
  | lose : Move vbus s { unattaches := true } s.lost
  | baseline {t : ConnState} {p : Reading} (h : s.conn_state = .unattached) (hst : t.waits = true) :
    Move vbus s { reads := [p] } { s with conn_state := t, connected := false, cc := p, debounce_cnt := 0 }
  | answer {t : ConnState} {p : Reading} (h : s.conn_state.tries = true) (hst : t.waits = true ∨ t.seeking = false) :
    Move vbus s { reads := [p] } { s with conn_state := t, cc := p, debounce_cnt := 0, try_role_complete := true }
  | count {p : Reading} (h : s.conn_state.waits = true) (hc : (s.count p).debounce_cnt ≤ N_DEBOUNCE_CNT) :
    Move vbus s { reads := [p] } (s.count p)
  | give_up {p : Reading} (h : s.conn_state.waits = true) : Move vbus s { reads := [p], unattaches := true } (s.count p).lost
  | attach_source {p : Reading} (h : s.conn_state = .attach_wait_source)
    (hc : (s.count p).debounce_cnt > N_DEBOUNCE_CNT) (hp : one_line .RD p) :
    Move vbus s { reads := [p] } { s.count p with conn_state := .attached_source }
  | attach_sink {p : Reading} (h : s.conn_state = .attach_wait_sink)
    (hc : (s.count p).debounce_cnt > N_DEBOUNCE_CNT) (hp : one_line .RP p) :
    Move vbus s { reads := [p] } { s.count p with conn_state := .attached_sink }
  | attach_at_once (h : s.conn_state = .attach_wait_sink) (hv : vbus = true) (hc : s.try_role_complete = true) :
    Move vbus s {} { s with conn_state := .attached_sink }
  | try_first {t : ConnState} (h : s.conn_state = .attach_wait_sink ∨ s.conn_state = .attached_sink)
    (hc : s.try_role_complete = false) (hst : t.tries = true) :
    Move vbus s {} { s with conn_state := t, connected := false }
  | try_counted {t : ConnState} {p : Reading} (h : s.conn_state = .attach_wait_source)
    (hc : s.try_role_complete = false) (hst : t.tries = true) :
    Move vbus s { reads := [p] } { s.count p with conn_state := t, connected := false }
  | try_other {t : ConnState} (h : s.conn_state.tries = true) (hc : s.try_role_complete = false)
    (hst : t.tries = true) :
    Move vbus s {} { s with conn_state := t, connected := false, try_role_complete := true }
  | sink_policy (h : s.conn_state = .attached_sink) :
    Move vbus s {} { s with conn_state := .policy_snk_startup, connected := true, try_role_complete := true }

/-- What happens before the switch: a reset leaves the search, a detach loses the partner. -/
inductive Search.Before (s : Search) : Did → Search → Prop
  | keep {t : ConnState} {d : Did} (hst : t = s.conn_state ∨ t.seeking = false)
    (hd : d.reads = [] ∨ s.connected = true) (hu : d.unattaches = false) : Before s d { s with conn_state := t }
  | lose {t : ConnState} {d : Did} (hst : t = .unattached ∨ t.seeking = false) (hc : s.connected = true)
    (hu : d.unattaches = true) : Before s d { s.lost with conn_state := t }

variable {chip c c' : Chip} {evt : Evt} {env : Env} {s : Search} {vbus : Bool}

/-! ## The functions below the handlers -/

theorem search_of {st : ConnState} {b : Bool} (hs : c'.standing = c.standing) (hc : c'.conn_state = st)
    (hn : c'.notify.is_cc_connected = b) : c'.search = { c.search with conn_state := st, connected := b } := by
  have h : c'.search = ⟨c'.conn_state, c'.notify.is_cc_connected, (c'.standing.cc1, c'.standing.cc2),
    c'.standing.debounce_cnt, c'.standing.role, c'.standing.try_role, c'.standing.try_role_complete⟩ := rfl
  rw [h, hs, hc, hn]
  rfl

theorem get_cc_retry_toCc (store : Byte) (retry comp_times : Nat) (chip : Chip) (cc_measure : CcVolt) :
    (get_cc_retry store retry comp_times chip cc_measure).1.toCc = chip.toCc := by
  induction retry generalizing chip comp_times cc_measure with
  | zero => rfl
  | succ retry ih =>
    unfold get_cc_retry
    dsimp only
    repeat' split
    all_goals exact (ih _ _ _).trans rfl

@[simp] theorem regmap_write_toCc (chip : Chip) (reg : Reg) (val : Byte) : (regmap_write chip reg val).toCc = chip.toCc :=
  rfl

@[simp] theorem status0_read_toCc (chip : Chip) : (status0_read chip).toCc = chip.toCc := rfl

theorem get_cc_source_toCc (chip : Chip) : (get_cc_source chip).1.toCc = chip.toCc := by
  unfold get_cc_source
  dsimp only
  generalize chip.regs .SWITCHES0 &&& ~~~(SWITCHES0_MEAS_CC1 ||| SWITCHES0_MEAS_CC2 ||| SWITCHES0_PU_EN1 |||
    SWITCHES0_PU_EN2) = store
  generalize (if bit chip.cc_state CC_STATE_TOGSS_CC1 then store ||| (SWITCHES0_MEAS_CC1 ||| SWITCHES0_PU_EN1)
    else store ||| (SWITCHES0_MEAS_CC2 ||| SWITCHES0_PU_EN2)) = val
  split
  · simp only [regmap_write_toCc, get_cc_retry_toCc, status0_read_toCc]
  · simp only [regmap_write_toCc, status0_read_toCc]

theorem get_cc_sink_toCc (chip : Chip) (meas : Byte) : (get_cc_sink chip meas).1.toCc = chip.toCc := rfl

theorem tcpm_get_cc_toCc (chip : Chip) : (tcpm_get_cc chip).chip.toCc = chip.toCc := by
  unfold tcpm_get_cc
  split
  · exact (get_cc_sink_toCc _ SWITCHES0_MEAS_CC2).trans (get_cc_sink_toCc chip SWITCHES0_MEAS_CC1)
  · exact get_cc_source_toCc chip

theorem tcpm_get_cc_search (chip : Chip) : (tcpm_get_cc chip).chip.search = chip.search := by
  obtain ⟨hp, _, _, _, _, _, hn, _⟩ := tcpm_get_cc_kept chip
  unfold Chip.search
  rw [hp, hn, tcpm_get_cc_toCc]

theorem set_state_unattached_search (chip : Chip) : (set_state_unattached chip).search = chip.search.lost := by
  have hs := @set_state_unattached_standing chip
  have hc := (@set_state_unattached_frame chip).1
  have hn : (set_state_unattached chip).notify.is_cc_connected = false := by
    unfold set_state_unattached platform_fusb_notify
    rfl
  have h := search_of (c := { chip with try_role_complete := false }) hs hc hn
  exact h

theorem debounce_search (chip : Chip) : (debounce chip).search = chip.search.count (reading chip) := by
  have hm := tcpm_get_cc_search chip
  unfold debounce Search.count
  dsimp only
  by_cases h : chip.cc1 = (tcpm_get_cc chip).cc1 ∧ chip.cc2 = (tcpm_get_cc chip).cc2
  · have hp : chip.search.cc = reading chip := Prod.ext h.1 h.2
    have hd : (tcpm_get_cc chip).chip.debounce_cnt = chip.debounce_cnt := congrArg Search.debounce_cnt hm
    rw [if_pos h, if_pos hp, ← hm, ← hd]
    rfl
  · have hp : chip.search.cc ≠ reading chip := fun he => h ⟨congrArg Prod.fst he, congrArg Prod.snd he⟩
    rw [if_neg h, if_neg hp, ← hm]
    rfl

theorem start_debounce_search (chip : Chip) : (start_debounce chip).search =
    { chip.search with cc := reading (tcpm_set_polarity chip (cc_state_polarity chip)), debounce_cnt := 0 } := by
  have hm := tcpm_get_cc_search (tcpm_set_polarity chip (cc_state_polarity chip))
  have hp : (tcpm_set_polarity chip (cc_state_polarity chip)).search = chip.search := rfl
  rw [← hp, ← hm]
  rfl

theorem try_attach_set_search (chip : Chip) {mode : RoleMode} (h : mode = .DFP ∨ mode = .UFP) :
    (fusb_state_try_attach_set chip mode).search =
      { chip.search with conn_state := if mode = .DFP then .attach_try_src else .attach_try_snk, connected := false } := by
  have hs : (tcpm_set_cc (tcpm_init chip) (if mode = .DFP then .DFP else .UFP)).standing = chip.standing := by
    rw [tcpm_set_cc_standing, tcpm_init_standing]
  have hn : (tcpm_set_cc (tcpm_init chip) (if mode = .DFP then .DFP else .UFP)).notify.is_cc_connected = false := by
    simp
  unfold fusb_state_try_attach_set
  rw [if_neg (by rcases h with rfl | rfl <;> decide)]
  dsimp only
  exact search_of hs rfl hn

/-! ## The handlers -/

namespace Search

@[simp] theorem count_conn_state (s : Search) (p : Reading) : (s.count p).conn_state = s.conn_state := by
  unfold count
  split <;> rfl

@[simp] theorem count_connected (s : Search) (p : Reading) : (s.count p).connected = s.connected := by
  unfold count
  split <;> rfl

@[simp] theorem count_complete (s : Search) (p : Reading) : (s.count p).try_role_complete = s.try_role_complete := by
  unfold count
  split <;> rfl

@[simp] theorem count_cc (s : Search) (p : Reading) : (s.count p).cc = p := by
  unfold count
  split
  · assumption
  · rfl

theorem Move.to {d : Did} {s' t : Search} (h : Move vbus s d s') (ht : t = s') : Move vbus s d t := ht ▸ h

end Search

open Search

theorem unattached_move (h : chip.conn_state = .unattached) :
    Move vbus chip.search (unattached_did chip evt) (fusb_state_unattached chip evt).search := by
  unfold unattached_did fusb_state_unattached
  dsimp only
  split
  · split
    · exact (Move.baseline h (t := .attach_wait_sink) rfl).to (start_debounce_search _)
    · exact (Move.baseline h (t := .attach_wait_source) rfl).to (start_debounce_search _)
  · exact .forget h

theorem measure_move (h : c.conn_state = .attach_wait_sink) :
    Move vbus c.search (attach_wait_sink_measure_did c) (attach_wait_sink_measure c).search := by
  have hd := debounce_search c
  have hw : c.search.conn_state.waits = true := congrArg ConnState.waits h
  unfold attach_wait_sink_measure_did measure_discards attach_wait_sink_measure
  dsimp only
  generalize debounce c = next at hd ⊢
  have hcnt : (c.search.count (reading c)).debounce_cnt = next.debounce_cnt := congrArg Search.debounce_cnt hd.symm
  have hcc : (next.cc1, next.cc2) = reading c := (congrArg Search.cc hd).trans (count_cc ..)
  by_cases hn : next.debounce_cnt > N_DEBOUNCE_CNT
  · simp only [if_pos hn]
    by_cases hp : next.cc1 = .RP ∧ next.cc2 = .OPEN ∨ next.cc2 = .RP ∧ next.cc1 = .OPEN
    · simp only [if_pos hp]
      refine (Move.attach_sink h (hcnt ▸ hn) ?_).to
        (congrArg (fun s : Search => { s with conn_state := .attached_sink }) hd)
      rcases hp with ⟨h1, h2⟩ | ⟨h2, h1⟩
      · exact Or.inl (by rw [← hcc, h1, h2])
      · exact Or.inr (by rw [← hcc, h1, h2])
    · simp only [if_neg hp]
      exact (Move.give_up hw).to ((set_state_unattached_search _).trans (congrArg Search.lost hd))
  · simp only [if_neg hn]
    exact (Move.count hw (by omega)).to hd

theorem attach_wait_sink_move (h : chip.conn_state = .attach_wait_sink) :
    Move (tcpm_check_vbus chip).2 chip.search (attach_wait_sink_did chip evt)
      (fusb_state_attach_wait_sink chip evt).search := by
  unfold attach_wait_sink_did fusb_state_attach_wait_sink
  dsimp only
  split
  · split
    · rename_i hv
      split
      · rename_i ht
        exact (Move.try_first (Or.inl h) ht.2.2 (t := .attach_try_src) rfl).to (try_attach_set_search _ (Or.inl rfl))
      · split
        · rename_i hc
          exact .attach_at_once h hv hc
        · exact measure_move (c := { (tcpm_check_vbus chip).1 with timer_mux := T_DISABLED }) h
    · exact measure_move (c := (tcpm_check_vbus chip).1) h
  · exact .stay

theorem attach_wait_source_move (h : chip.conn_state = .attach_wait_source) :
    Move vbus chip.search (attach_wait_source_did chip evt) (fusb_state_attach_wait_source chip evt).search := by
  have hd := debounce_search chip
  have hw : chip.search.conn_state.waits = true := congrArg ConnState.waits h
  unfold attach_wait_source_did fusb_state_attach_wait_source
  dsimp only
  generalize debounce chip = next at hd ⊢
  have hcnt : (chip.search.count (reading chip)).debounce_cnt = next.debounce_cnt := congrArg Search.debounce_cnt hd.symm
  have hcc : (next.cc1, next.cc2) = reading chip := (congrArg Search.cc hd).trans (count_cc ..)
  have hcomplete : chip.try_role_complete = next.try_role_complete :=
    ((congrArg Search.try_role_complete hd).trans (count_complete ..)).symm
  split
  · by_cases hn : next.debounce_cnt > N_DEBOUNCE_CNT
    · rw [if_pos hn, decide_eq_true hn, Bool.true_and]
      by_cases hp : (next.cc1 = .OPEN ∨ next.cc2 = .OPEN) ∧ (next.cc1 = .RD ∨ next.cc2 = .RD)
      · rw [if_pos hp, decide_eq_true hp, Bool.not_true]
        by_cases ht : next.role = .DRP ∧ next.try_role = .UFP ∧ next.try_role_complete = false
        · rw [if_pos ht]
          exact (Move.try_counted h (hcomplete.trans ht.2.2) (t := .attach_try_snk) rfl).to
            ((try_attach_set_search next (Or.inr rfl)).trans
              (congrArg (fun s : Search => { s with conn_state := .attach_try_snk, connected := false }) hd))
        · rw [if_neg ht]
          refine (Move.attach_source h (hcnt ▸ hn) ?_).to
            (congrArg (fun s : Search => { s with conn_state := .attached_source }) hd)
          obtain ⟨h1 | h1, h2 | h2⟩ := hp
          · rw [h1] at h2
            cases h2
          · exact Or.inr (by rw [← hcc, h1, h2])
          · exact Or.inl (by rw [← hcc, h1, h2])
          · rw [h1] at h2
            cases h2
      · rw [if_neg hp, decide_eq_false hp, Bool.not_false]
        exact (Move.give_up hw).to ((set_state_unattached_search _).trans (congrArg Search.lost hd))
    · rw [if_neg hn, decide_eq_false hn, Bool.false_and]
      exact (Move.count hw (by omega)).to hd
  · exact .stay

theorem attached_sink_move (h : chip.conn_state = .attached_sink) :
    Move vbus chip.search (attached_sink_did chip evt) (fusb_state_attached_sink chip evt).search := by
  unfold attached_sink_did fusb_state_attached_sink
  dsimp only
  cases (tcpm_check_vbus chip).2
  · cases evt.timer_mux
    · exact .stay
    · exact Move.lose.to (set_state_unattached_search _)
  · rw [if_pos rfl]
    split
    · rename_i ht
      exact (Move.try_first (Or.inr h) ht.1 (t := .attach_try_src) rfl).to (try_attach_set_search _ (Or.inl rfl))
    · exact .sink_policy h

theorem try_attach_move {mode : RoleMode} (h : chip.conn_state.tries = true) :
    Move vbus chip.search (try_attach_did chip evt mode) (fusb_state_try_attach chip evt mode).search := by
  unfold try_attach_did fusb_state_try_attach
  dsimp only
  split
  · by_cases hu : bit chip.cc_state CC_STATE_TOGSS_IS_UFP
    · rw [if_pos hu]
      refine (Move.answer h (t := if mode = .UFP then .attach_wait_sink else .error_recovery) ?_).to
        (start_debounce_search _)
      split
      · exact Or.inl rfl
      · exact Or.inr rfl
    · rw [if_neg hu]
      refine (Move.answer h (t := if mode = .DFP then .attach_wait_source else .error_recovery) ?_).to
        (start_debounce_search _)
      split
      · exact Or.inl rfl
      · exact Or.inr rfl
  · split
    · split
      · rename_i hc
        have hc : chip.try_role_complete = false := by simpa using hc
        by_cases hm : mode = .DFP
        · rw [if_pos hm]
          exact (Move.try_other h hc (t := .attach_try_snk) rfl).to (try_attach_set_search _ (Or.inr rfl))
        · rw [if_neg hm]
          exact (Move.try_other h hc (t := .attach_try_src) rfl).to (try_attach_set_search _ (Or.inl rfl))
      · exact .leave rfl
    · exact .stay

/-- A handler of a policy leaves the search. -/
theorem policy_move (hs : chip.conn_state.seeking = false) (he : chip.conn_state ≠ .error_recovery) :
    Move vbus chip.search {} (dispatch chip evt).search := by
  obtain ⟨caps, hx, hn⟩ : StandsBut chip.standing (dispatch chip evt) := dispatch_stands_but ⟨rfl, hs⟩ he
  exact (Move.leave hn).to (search_of (c := { chip with partner_cap := caps }) hx rfl rfl)

/-- Every handler makes one of the moves. -/
theorem dispatch_move (chip : Chip) (evt : Evt) :
    Move (tcpm_check_vbus chip).2 chip.search (dispatch_did chip evt) (dispatch chip evt).search := by
  cases hs : chip.conn_state.seeking
  · by_cases he : chip.conn_state = .error_recovery
    · unfold dispatch dispatch_did
      rw [he]
      exact Move.lose.to (set_state_unattached_search chip)
    · have hd : dispatch_did chip evt = {} := by
        unfold dispatch_did
        split
        all_goals first | rfl | contradiction | (rename_i hc; rw [hc] at hs; cases hs)
      rw [hd]
      exact policy_move hs he
  · unfold dispatch dispatch_did
    cases hc : chip.conn_state
    all_goals try (rw [hc] at hs; cases hs)
    · exact unattached_move hc
    · exact attach_wait_sink_move hc
    · exact attach_wait_source_move hc
    · exact .leave rfl
    · exact attached_sink_move hc
    · exact try_attach_move (by rw [hc]; rfl)
    · exact try_attach_move (by rw [hc]; rfl)

/-! ## Before the switch -/

/-- The port is where it was in the search, or a reset has taken it out. -/
def Held (s : Search) (chip : Chip) : Prop :=
  ∃ st : ConnState, (st = s.conn_state ∨ st.seeking = false) ∧ chip.search = { s with conn_state := st }

theorem Held.of_eq (h : Held s c) (he : c'.search = c.search) : Held s c' := by
  obtain ⟨st, hst, hs⟩ := h
  exact ⟨st, hst, he.trans hs⟩

theorem Held.move (h : Held s c) {t : ConnState} (hst : t.seeking = false)
    (he : c'.search = { c.search with conn_state := t }) : Held s c' := by
  obtain ⟨_, _, hs⟩ := h
  refine ⟨t, Or.inr hst, ?_⟩
  rw [he, hs]

theorem Held.hard_reset (h : Held s c) : Held s (pd_execute_hard_reset c) := by
  unfold pd_execute_hard_reset
  dsimp only
  split
  · exact h.move (t := .policy_src_transition_default) rfl rfl
  · exact h.move (t := .policy_snk_transition_default) rfl rfl

theorem alerts_held (chip : Chip) (env : Env) : Held chip.search (alerts chip env).1 := by
  have h0 : Held chip.search (observe chip env) := ⟨chip.conn_state, Or.inl rfl, rfl⟩
  have h1 : ∀ a : Chip × Evt, Held chip.search a.1 → Held chip.search (alert_comp_chng env a).1 := by
    intro a h
    unfold alert_comp_chng
    split
    · exact h.of_eq rfl
    · exact h
  have h2 : ∀ a : Chip × Evt, Held chip.search a.1 → Held chip.search (alert_vbusok env a).1 := by
    intro a h
    unfold alert_vbusok
    split <;> exact h
  have h3 : ∀ a : Chip × Evt, Held chip.search a.1 → Held chip.search (alert_togdone env a).1 := by
    intro a h
    unfold alert_togdone
    split
    · exact h.of_eq rfl
    · exact h
  have h4 : ∀ a : Chip × Evt, Held chip.search a.1 → Held chip.search (alert_txsent env a).1 := by
    intro a h
    unfold alert_txsent
    split
    · exact h.of_eq rfl
    · exact h
  have h5 : ∀ a : Chip × Evt, Held chip.search a.1 → Held chip.search (alert_gcrcsent env a).1 := by
    intro a h
    unfold alert_gcrcsent
    split <;> exact h
  have h6 : ∀ a : Chip × Evt, Held chip.search a.1 → Held chip.search (alert_hardrst env a).1 := by
    intro a h
    unfold alert_hardrst
    split
    · exact (h.of_eq rfl : Held chip.search (fusb302_pd_reset a.1)).hard_reset
    · exact h
  have h7 : ∀ a : Chip × Evt, Held chip.search a.1 → Held chip.search (alert_retryfail env a).1 := by
    intro a h
    unfold alert_retryfail
    split
    · exact h.of_eq rfl
    · exact h
  have h8 : ∀ a : Chip × Evt, Held chip.search a.1 → Held chip.search (alert_hardsent env a).1 := by
    intro a h
    unfold alert_hardsent
    split
    · split
      · exact (h.of_eq rfl : Held chip.search (fusb302_pd_reset { a.1 with retry := true })).hard_reset
      · exact h.of_eq rfl
    · exact h
  have ht := h8 _ (h7 _ (h6 _ (h5 _ (h4 _ (h3 _ (h2 _ (h1 (observe chip env, {}) h0)))))))
  refine ht.of_eq ?_
  unfold alerts mux_alert tcpc_alert
  dsimp only
  split <;> split <;> rfl

/-- The test for a detach reads the lines, or not, and loses the partner, or not. -/
theorem detach_before (chip : Chip) (evt : Evt) :
    (detach_did chip evt).unattaches = false ∧ (detach chip evt).search = chip.search ∧
        ((detach_did chip evt).reads = [] ∨ chip.search.connected = true) ∨
      (detach_did chip evt).unattaches = true ∧ (detach chip evt).search = chip.search.lost ∧
        chip.search.connected = true := by
  unfold detach detach_did
  split
  · rename_i hc
    have hc : chip.search.connected = true := by
      simp only [Bool.and_eq_true] at hc
      exact hc.1
    unfold fusb_try_detach try_detach_did
    dsimp only
    split
    · cases (tcpm_check_vbus chip).2
      · exact Or.inr ⟨rfl, set_state_unattached_search _, hc⟩
      · exact Or.inl ⟨rfl, rfl, Or.inr hc⟩
    · split
      · have hm := tcpm_get_cc_search chip
        unfold reading
        dsimp only
        generalize (if bit chip.cc_state CC_STATE_TOGSS_CC2 then (tcpm_get_cc chip).cc2 else (tcpm_get_cc chip).cc1) = cc1
        by_cases ho : cc1 = .OPEN
        · rw [if_pos ho, decide_eq_true ho]
          exact Or.inr ⟨rfl, (set_state_unattached_search _).trans (congrArg Search.lost hm), hc⟩
        · rw [if_neg ho, decide_eq_false ho]
          exact Or.inl ⟨rfl, hm, Or.inr hc⟩
      · exact Or.inl ⟨rfl, rfl, Or.inl rfl⟩
  · exact Or.inl ⟨rfl, rfl, Or.inl rfl⟩

/-- A soft reset that is received takes the port out of the search. -/
theorem receive_held (evt : Evt) (h : Held s c) : Held s (count_sent (receive c evt) evt) := by
  have hg : (tcpm_get_message c).search = c.search := by
    obtain ⟨_, _, hp, _, _, _, _, hcc, hn, _⟩ := tcpm_get_message_frame c
    unfold Chip.search
    rw [hp, hcc, hn]
  have hr : Held s (receive c evt) := by
    unfold receive
    dsimp only
    split
    · split
      · split
        · exact (h.of_eq hg).move (t := .policy_src_softrst) rfl rfl
        · exact (h.of_eq hg).move (t := .policy_snk_softrst) rfl rfl
      · exact h.of_eq hg
    · exact h
  unfold count_sent
  split
  · exact hr.of_eq rfl
  · exact hr

theorem at_switch_before (chip : Chip) (env : Env) :
    Before chip.search (detach_did (alerts chip env).1 (events chip env)) (at_switch chip env).search := by
  obtain ⟨st, hst, ha⟩ := alerts_held chip env
  have hcon : (alerts chip env).1.search.connected = chip.search.connected := by rw [ha]
  unfold at_switch before_switch
  rcases detach_before (alerts chip env).1 (events chip env) with ⟨hu, hs, hd⟩ | ⟨hu, hs, hc⟩
  · have hk : Held chip.search (detach (alerts chip env).1 (events chip env)) := ⟨st, hst, hs.trans ha⟩
    obtain ⟨st', hst', he⟩ := receive_held (events chip env) hk
    rw [he]
    exact .keep hst' (hcon ▸ hd) hu
  · have hk : Held chip.search.lost (detach (alerts chip env).1 (events chip env)) := by
      refine ⟨.unattached, Or.inl rfl, ?_⟩
      rw [hs, ha]
      rfl
    obtain ⟨st', hst', he⟩ := receive_held (events chip env) hk
    rw [he]
    exact .lose hst' (hcon ▸ hc) hu

/-- Whether VBUS is seen by the handler that this act runs. -/
def vbus_seen (chip : Chip) : Act → Bool
  | .work env => (tcpm_check_vbus (at_switch chip env)).2
  | _ => false

/-- A step is what happens before the switch and one move. -/
theorem step_moves (chip : Chip) (act : Act) :
    ∃ d mid e, Before chip.search d mid ∧ Move (vbus_seen chip act) mid e (step chip act).search ∧
      did chip act = d.after e := by
  have ht : ∃ d mid e, Before chip.search d mid ∧
      Move (vbus_seen chip act) mid e (fusb_timer_handler chip act).search ∧ ({} : Did) = d.after e := by
    obtain ⟨t, he⟩ := fusb_timer_handler_eq chip act
    rw [he]
    exact ⟨{}, chip.search, {}, .keep (Or.inl rfl) (Or.inl rfl) rfl, .stay, rfl⟩
  cases act with
  | timer_state => exact ht
  | timer_mux => exact ht
  | work env =>
    refine ⟨_, _, if (events chip env).any then dispatch_did (at_switch chip env) (events chip env) else {},
      at_switch_before chip env, ?_, rfl⟩
    rw [step_work]
    split
    · exact dispatch_move ..
    · exact .stay

end Fusb302
