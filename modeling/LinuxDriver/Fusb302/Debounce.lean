import LinuxDriver.Fusb302.Search
/-!
# Attachment is debounced

A port attaches after a streak of equal measurements. The reference pair and
the counter are the end of the measurements made so far while a port debounces,
because nothing else measures then: a port that searches is not connected.
-/

namespace Fusb302

open Streaks Search

/-- The results of `tcpm_get_cc` in a run, in order. -/
def readings (chip : Chip) : List Act → List Reading
  | [] => []
  | act :: acts => (did chip act).reads ++ readings (step chip act) acts

/-- The step goes to this state from another one. -/
def enters (chip : Chip) (act : Act) (st : ConnState) : Prop :=
  chip.conn_state ≠ st ∧ (step chip act).conn_state = st

instance (chip : Chip) (act : Act) (st : ConnState) : Decidable (enters chip act st) := inferInstanceAs (Decidable (_ ∧ _))

/-! ## The invariant -/

/-- The reading last seen and how often. -/
def Search.streak (s : Search) : Streak Reading := ⟨s.cc, s.debounce_cnt⟩

/-- What the counter says of the measurements so far. -/
structure Debounced (l : List Reading) (s : Search) : Prop where
  bound : s.debounce_cnt ≤ N_DEBOUNCE_CNT + 1
  waiting : s.conn_state.waits = true → s.debounce_cnt ≤ N_DEBOUNCE_CNT ∧ s.streak.Ends l
  apart : s.conn_state.waits = true ∨ s.conn_state.tries = true → s.connected = false

variable {l : List Reading} {s s' : Search} {d : Did} {p : Reading} {st : ConnState} {vbus : Bool}

theorem seeking_of_waits (h : st.waits = true) : st.seeking = true := by
  cases st <;> first | rfl | cases h

theorem seeking_of_tries (h : st.tries = true) : st.seeking = true := by
  cases st <;> first | rfl | cases h

theorem not_waits_of_tries (h : st.tries = true) : st.waits = false := by
  cases st <;> first | rfl | cases h

/-- A state outside the debounce and the tries needs the bound only. -/
theorem Debounced.outside (hb : s.debounce_cnt ≤ N_DEBOUNCE_CNT + 1) (hw : s.conn_state.waits = false)
    (ht : s.conn_state.tries = false) : Debounced l s where
  bound := hb
  waiting h := by
    rw [hw] at h
    cases h
  apart h := by
    rw [hw, ht] at h
    rcases h with h | h <;> cases h

theorem Debounced.left (hb : s.debounce_cnt ≤ N_DEBOUNCE_CNT + 1) (hs : s.conn_state.seeking = false) : Debounced l s := by
  generalize hc : s.conn_state = st at hs
  refine .outside hb ?_ ?_ <;> rw [hc] <;> cases st <;> first | rfl | cases hs

/-- A port that tries a role is not connected. -/
theorem Debounced.trying (hb : s.debounce_cnt ≤ N_DEBOUNCE_CNT + 1) (hc : s.connected = false)
    (ht : s.conn_state.tries = true) : Debounced l s where
  bound := hb
  waiting h := by
    rw [not_waits_of_tries ht] at h
    cases h
  apart _ := hc

/-- The first measurement of a debounce is its reference. -/
theorem Debounced.baseline (h0 : s.debounce_cnt = 0) (hp : s.cc = p) (hc : s.connected = false) : Debounced (l ++ [p]) s where
  bound := by omega
  waiting _ := by
    refine ⟨by omega, ?_⟩
    have hs : s.streak = ⟨p, 0⟩ := by rw [Search.streak, h0, hp]
    rw [hs]
    exact Streak.start_ends l p
  apart _ := hc

/-- The counter has room for one more. -/
theorem count_streak (h : s.debounce_cnt ≤ N_DEBOUNCE_CNT) (p : Reading) : (s.count p).streak = s.streak.feed p := by
  unfold Search.count Search.streak Streak.feed
  split
  · have h : s.debounce_cnt ≤ 33 := h
    rw [Nat.mod_eq_of_lt (by omega)]
  · rfl

/-- After a debounce reading the streak has grown with the measurements. -/
theorem Debounced.counted (h : Debounced l s) (hw : s.conn_state.waits = true) (p : Reading) :
    (s.count p).debounce_cnt ≤ N_DEBOUNCE_CNT + 1 ∧
      List.replicate ((s.count p).debounce_cnt + 1) p <:+ l ++ [p] := by
  obtain ⟨hb, he⟩ := h.waiting hw
  have hs := count_streak hb p
  have hcnt : (s.count p).debounce_cnt = (s.streak.feed p).count := congrArg Streak.count hs
  have hf := he.feed p
  unfold Streak.Ends at hf
  rw [Streak.feed_value] at hf
  rw [hcnt]
  exact ⟨Nat.le_trans (Streak.feed_count_le ..) (Nat.succ_le_succ hb), hf⟩

/-! ## One step -/

theorem before_debounced (h : Debounced l s) (hb : Before s d s') : Debounced (l ++ d.reads) s' := by
  cases hb with
  | lose hst hc hu =>
    rcases hst with rfl | hst
    · exact .outside h.bound rfl rfl
    · exact .left h.bound hst
  | keep hst hd hu =>
    rcases hst with rfl | hst
    · refine ⟨h.bound, ?_, h.apart⟩
      intro hw
      rcases hd with hd | hd
      · rw [hd, List.append_nil]
        exact h.waiting hw
      · rw [h.apart (Or.inl hw)] at hd
        cases hd
    · exact .left h.bound hst

theorem move_debounced (h : Debounced l s) (hm : Move vbus s d s') : Debounced (l ++ d.reads) s' := by
  have hl : l ++ [] = l := List.append_nil l
  cases hm with
  | stay => exact hl.symm ▸ h
  | forget hc => exact .outside h.bound (congrArg ConnState.waits hc) (congrArg ConnState.tries hc)
  | leave hst => exact .left h.bound hst
  | lose => exact .outside h.bound rfl rfl
  | baseline hc hst => exact .baseline rfl rfl rfl
  | answer hc hst => exact .baseline rfl rfl (h.apart (Or.inr hc))
  | @count p hw hc =>
    obtain ⟨hb, he⟩ := h.counted hw p
    refine ⟨hb, fun _ => ⟨hc, ?_⟩, ?_⟩
    · unfold Streak.Ends Search.streak
      rw [count_cc]
      exact he
    · rw [count_connected, count_conn_state]
      exact h.apart
  | @give_up p hw => exact .outside (h.counted hw p).1 rfl rfl
  | @attach_source p hc hn hp => exact .outside (h.counted (congrArg ConnState.waits hc) p).1 rfl rfl
  | @attach_sink p hc hn hp => exact .outside (h.counted (congrArg ConnState.waits hc) p).1 rfl rfl
  | attach_at_once hc hv ht => exact .outside h.bound rfl rfl
  | try_first hc ht hst => exact .trying h.bound rfl hst
  | @try_counted st p hc ht hst => exact .trying (h.counted (congrArg ConnState.waits hc) p).1 rfl hst
  | try_other hc ht hst => exact .trying h.bound rfl hst
  | sink_policy hc => exact .outside h.bound rfl rfl

theorem step_debounced {chip : Chip} {act : Act} (h : Debounced l chip.search) :
    Debounced (l ++ (did chip act).reads) (step chip act).search := by
  obtain ⟨d, mid, e, hb, hm, hd⟩ := step_moves chip act
  have he := move_debounced (before_debounced h hb) hm
  rw [List.append_assoc] at he
  rw [hd]
  exact he

/-! ## Runs -/

theorem readings_append (chip : Chip) (acts : List Act) (act : Act) :
    readings chip (acts ++ [act]) = readings chip acts ++ (did (Runs.run step chip acts) act).reads := by
  induction acts generalizing chip with
  | nil => exact List.append_nil _
  | cons a acts ih =>
    rw [List.cons_append, readings, readings, ih, List.append_assoc]
    rfl

theorem run_debounced (acts : List Act) {l : List Reading} {chip : Chip} (h : Debounced l chip.search) :
    Debounced (l ++ readings chip acts) (Runs.run step chip acts).search := by
  induction acts generalizing l chip with
  | nil => exact (List.append_nil l).symm ▸ h
  | cons act acts ih =>
    rw [readings, ← List.append_assoc]
    exact ih (step_debounced h)

theorem probe_search (board : Board) :
    (fusb30x_probe board).conn_state = .unattached ∧ (fusb30x_probe board).debounce_cnt = 0 := by
  refine ⟨by simp [fusb30x_probe], ?_⟩
  have hcc : ∀ c mode, (tcpm_set_cc c mode).debounce_cnt = c.debounce_cnt := fun c mode =>
    congrArg Standing.debounce_cnt (@tcpm_set_cc_standing c mode)
  have hrx : ∀ c, (tcpm_set_rx_enable c false).debounce_cnt = c.debounce_cnt := fun c =>
    congrArg Standing.debounce_cnt (@tcpm_set_rx_enable_standing c false)
  have hinit : ∀ c, (tcpm_init c).debounce_cnt = c.debounce_cnt := fun c =>
    congrArg Standing.debounce_cnt (@tcpm_init_standing c)
  unfold fusb30x_probe
  dsimp only
  rw [hcc]
  dsimp only
  rw [hrx, hinit]
  rfl

/-- The invariant holds of every run from probe. -/
theorem ran_debounced (board : Board) (acts : List Act) :
    Debounced (readings (fusb30x_probe board) acts) (ran board acts).search :=
  run_debounced acts (l := []) (by
    obtain ⟨hc, hn⟩ := probe_search board
    exact .outside (Nat.le_trans (Nat.le_of_eq hn) (Nat.zero_le _)) (congrArg ConnState.waits hc) (congrArg ConnState.tries hc))

/-- Before the switch no port enters a state of the search but `unattached`. -/
theorem before_seeking (h : Before s d s') (hs : s'.conn_state.seeking = true) (hu : s'.conn_state ≠ .unattached) :
    s.conn_state = s'.conn_state ∧ s'.try_role_complete = s.try_role_complete := by
  cases h with
  | keep hst hd _ =>
    rcases hst with rfl | hst
    · exact ⟨rfl, rfl⟩
    · rw [hst] at hs
      cases hs
  | lose hst hc _ =>
    rcases hst with rfl | hst
    · exact absurd rfl hu
    · rw [hst] at hs
      cases hs

/-- The only ways to an attached state. -/
theorem move_attached (hm : Move vbus s d s') (h : s'.conn_state = .attached_source ∨ s'.conn_state = .attached_sink) :
    s'.conn_state = s.conn_state ∨
      (s'.conn_state = .attached_source ∧ s.conn_state = .attach_wait_source ∧
        ∃ p, one_line .RD p ∧ (s.count p).debounce_cnt > N_DEBOUNCE_CNT ∧ d.reads = [p]) ∨
      s'.conn_state = .attached_sink ∧ s.conn_state = .attach_wait_sink ∧
        ((∃ p, one_line .RP p ∧ (s.count p).debounce_cnt > N_DEBOUNCE_CNT ∧ d.reads = [p]) ∨
          vbus = true ∧ s.try_role_complete = true) := by
  cases hm with
  | stay => exact Or.inl rfl
  | forget hc => exact Or.inl rfl
  | count hw hn => exact Or.inl (count_conn_state ..)
  | attach_source hc hn hp => exact Or.inr (Or.inl ⟨rfl, hc, _, hp, hn, rfl⟩)
  | attach_sink hc hn hp => exact Or.inr (Or.inr ⟨rfl, hc, Or.inl ⟨_, hp, hn, rfl⟩⟩)
  | attach_at_once hc hv ht => exact Or.inr (Or.inr ⟨rfl, hc, Or.inr ⟨hv, ht⟩⟩)
  | leave hst | baseline hc hst | try_first hc ht hst | try_counted hc ht hst | try_other hc ht hst =>
    dsimp only at h
    rcases h with rfl | rfl <;> cases hst
  | answer hc hst =>
    dsimp only at h
    rcases h with rfl | rfl <;> rcases hst with hst | hst <;> cases hst
  | _ => rcases h with h | h <;> cases h

theorem move_to_source (hm : Move vbus s d s') (h : s'.conn_state = .attached_source) :
    s.conn_state = .attached_source ∨ s.conn_state = .attach_wait_source ∧
      ∃ p, one_line .RD p ∧ (s.count p).debounce_cnt > N_DEBOUNCE_CNT ∧ d.reads = [p] := by
  rcases move_attached hm (Or.inl h) with hs | ⟨_, hc, hp⟩ | ⟨hs, _⟩
  · exact Or.inl (hs.symm.trans h)
  · exact Or.inr ⟨hc, hp⟩
  · rw [h] at hs
    cases hs

theorem move_to_sink (hm : Move vbus s d s') (h : s'.conn_state = .attached_sink) :
    s.conn_state = .attached_sink ∨ s.conn_state = .attach_wait_sink ∧
      ((∃ p, one_line .RP p ∧ (s.count p).debounce_cnt > N_DEBOUNCE_CNT ∧ d.reads = [p]) ∨
        vbus = true ∧ s.try_role_complete = true) := by
  rcases move_attached hm (Or.inr h) with hs | ⟨hs, _⟩ | ⟨_, hc, hp⟩
  · exact Or.inl (hs.symm.trans h)
  · rw [h] at hs
    cases hs
  · exact Or.inr ⟨hc, hp⟩

/-- A port attaches as a source only after a streak of `N_DEBOUNCE_CNT + 2`
measurements with one line Rd, as a sink only after as many with one line Rp,
or at once when VBUS is there and the role was tried. The counter never wraps. -/
theorem attachment_debounced (board : Board) (acts : List Act) (act : Act) :
    let chip := ran board acts
    let measured := readings (fusb30x_probe board) (acts ++ [act])
    (enters chip act .attached_source → chip.conn_state = .attach_wait_source ∧
        ∃ p, one_line .RD p ∧ List.replicate (N_DEBOUNCE_CNT + 2) p <:+ measured) ∧
      (enters chip act .attached_sink → chip.conn_state = .attach_wait_sink ∧
        ((∃ p, one_line .RP p ∧ List.replicate (N_DEBOUNCE_CNT + 2) p <:+ measured) ∨
          vbus_seen chip act = true ∧ chip.try_role_complete = true)) ∧
      (chip.debounce_cnt + 1) % 256 = chip.debounce_cnt + 1 := by
  intro chip measured
  have hi : Debounced (readings (fusb30x_probe board) acts) chip.search := ran_debounced board acts
  obtain ⟨d, mid, e, hb, hm, hd⟩ := step_moves chip act
  have hmid := before_debounced hi hb
  have hl : measured = readings (fusb30x_probe board) acts ++ d.reads ++ e.reads := by
    rw [List.append_assoc, show measured = _ from readings_append .., show Runs.run step (fusb30x_probe board) acts = chip from rfl,
      hd]
    rfl
  -- the switch finds the port where the step found it
  have hback : ∀ {st : ConnState}, mid.conn_state = st → st.seeking = true → st ≠ .unattached →
      chip.conn_state = st ∧ mid.try_role_complete = chip.try_role_complete := by
    intro st hst hs hu
    obtain ⟨hc, ht⟩ := before_seeking hb (hst ▸ hs) (hst ▸ hu)
    exact ⟨hc.trans hst, ht⟩
  -- the streak of a full counter
  have hfull : ∀ p, mid.conn_state.waits = true → (mid.count p).debounce_cnt > N_DEBOUNCE_CNT → e.reads = [p] →
      List.replicate (N_DEBOUNCE_CNT + 2) p <:+ measured := by
    intro p hw hc he
    obtain ⟨hle, hs⟩ := hmid.counted hw p
    have hn : (mid.count p).debounce_cnt = N_DEBOUNCE_CNT + 1 := Nat.le_antisymm hle hc
    rw [hl, he]
    rwa [hn] at hs
  refine ⟨?_, ?_, ?_⟩
  · rintro ⟨hne, hent⟩
    rcases move_to_source hm hent with hs | ⟨hs, p, hp, hc, he⟩
    · exact absurd ((hback hs rfl (by decide)).1) hne
    · exact ⟨(hback hs rfl (by decide)).1, p, hp, hfull p (congrArg ConnState.waits hs) hc he⟩
  · rintro ⟨hne, hent⟩
    rcases move_to_sink hm hent with hs | ⟨hs, ⟨p, hp, hc, he⟩ | ⟨hv, ht⟩⟩
    · exact absurd ((hback hs rfl (by decide)).1) hne
    · exact ⟨(hback hs rfl (by decide)).1, Or.inl ⟨p, hp, hfull p (congrArg ConnState.waits hs) hc he⟩⟩
    · obtain ⟨hst, hcomplete⟩ := hback hs rfl (by decide)
      exact ⟨hst, Or.inr ⟨hv, hcomplete.symm.trans ht⟩⟩
  · have hbound : chip.debounce_cnt ≤ 34 := hi.bound
    omega

/-- The last of the 34 equal readings after the first one. -/
def sink_debounced : List Act := sink_seen :: (List.replicate 33 [.timer_mux, sink_still_seen]).flatten ++ [.timer_mux]

theorem attachment_debounced_source :
    enters (ran {} sink_debounced) sink_still_seen .attached_source ∧
      (ran {} sink_debounced).conn_state = .attach_wait_source ∧
      ∃ p, one_line .RD p ∧
        List.replicate (N_DEBOUNCE_CNT + 2) p <:+ readings (fusb30x_probe {}) (sink_debounced ++ [sink_still_seen]) := by
  have h : enters (ran {} sink_debounced) sink_still_seen .attached_source := by
    unfold enters
    decide +kernel
  exact ⟨h, (attachment_debounced {} sink_debounced sink_still_seen).1 h⟩

end Fusb302
