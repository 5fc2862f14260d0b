import LinuxDriver.Fusb302.Debounce
/-!
# Trying the other role

A port that may be both tries the role it prefers, and if nobody answers the
other one, once. What is left to try is counted by a rank that only
`set_state_unattached` raises.
-/

namespace Fusb302

open Search

/-- The step changes the state to a try state. -/
def enters_try (chip : Chip) (act : Act) : Bool :=
  (step chip act).conn_state.tries && decide ((step chip act).conn_state ≠ chip.conn_state)

/-- How often a run does so. -/
def tries (chip : Chip) : List Act → Nat
  | [] => 0
  | act :: acts => (enters_try chip act).toNat + tries (step chip act) acts

variable {s s' t : Search} {d : Did} {vbus : Bool}

/-- The attempts left before the port is unattached again. -/
def Search.rank (s : Search) : Nat :=
  if s.conn_state.seeking = false ∨ s.try_role_complete = true then 0 else if s.conn_state.tries = true then 1 else 2

/-- One when a try begins. -/
def Search.attempt (s s' : Search) : Nat := (s'.conn_state.tries && decide (s'.conn_state ≠ s.conn_state)).toNat

theorem rank_le (s : Search) : s.rank ≤ 2 := by
  unfold rank
  repeat' split
  all_goals decide

theorem rank_of_complete (h : s.try_role_complete = true) : s.rank = 0 := if_pos (Or.inr h)

theorem rank_of_not_seeking (h : s.conn_state.seeking = false) : s.rank = 0 := if_pos (Or.inl h)

theorem attempt_of_not_tries (h : s'.conn_state.tries = false) : s.attempt s' = 0 := by
  rw [attempt, h]
  rfl

theorem attempt_self (h : s'.conn_state = s.conn_state) : s.attempt s' = 0 := by
  simp [attempt, h]

theorem attempt_le : s.attempt s' ≤ 1 := Bool.toNat_le _

theorem attempt_trans (s t s' : Search) : s.attempt s' ≤ s.attempt t + t.attempt s' := by
  unfold attempt
  by_cases h : t.conn_state = s'.conn_state
  · simp [h]
  · cases s'.conn_state.tries
    · simp
    · have ht : t.attempt s' ≤ 1 := attempt_le
      simp [Ne.symm h]
      exact Nat.le_trans (Bool.toNat_le _) (Nat.le_add_left ..)

theorem tries_of_not_seeking {st : ConnState} (h : st.seeking = false) : st.tries = false := by
  cases st <;> first | rfl | cases h

theorem waits_of_not_seeking {st : ConnState} (h : st.seeking = false) : st.waits = false := by
  cases st <;> first | rfl | cases h

theorem tries_of_waits {st : ConnState} (h : st.waits = true) : st.tries = false := by
  cases st <;> first | rfl | cases h

/-- Before the switch nothing is tried. -/
theorem before_rank (h : Before s d s') (hu : d.unattaches = false) : s'.rank + s.attempt s' ≤ s.rank := by
  cases h with
  | lose hst hc ht =>
    rw [hu] at ht
    cases ht
  | keep hst hd _ =>
    rcases hst with rfl | hst
    · exact Nat.le_of_eq (by rw [attempt_self rfl]; rfl)
    · rw [rank_of_not_seeking hst, attempt_of_not_tries (tries_of_not_seeking hst)]
      exact Nat.zero_le _

theorem rank_of_tries (h : s.conn_state.tries = true) (hc : s.try_role_complete = false) : s.rank = 1 := by
  rw [rank, if_neg, if_pos h]
  rw [seeking_of_tries h, hc]
  simp

/-- The rank of a state of the search that tries no role. -/
theorem rank_of_seeking (h : s.conn_state.seeking = true) (ht : s.conn_state.tries = false) :
    s.rank = if s.try_role_complete then 0 else 2 := by
  unfold rank
  rw [h, ht]
  cases s.try_role_complete <;> rfl

/-- A move that tries a role uses up an attempt. -/
theorem move_rank (h : Move vbus s d s') (hu : d.unattaches = false) : s'.rank + s.attempt s' ≤ s.rank := by
  -- between two states of the search that try no role
  have hsame : ∀ {s s' : Search}, s.conn_state.seeking = true → s.conn_state.tries = false →
      s'.conn_state.seeking = true → s'.conn_state.tries = false → s'.try_role_complete = s.try_role_complete →
        s'.rank + s.attempt s' ≤ s.rank := by
    intro s s' hs ht hs' ht' hc
    rw [attempt_of_not_tries ht', rank_of_seeking hs ht, rank_of_seeking hs' ht', hc]
    exact Nat.le_refl _
  -- the first attempt
  have hfirst : ∀ {s s' : Search}, s.conn_state.seeking = true → s.conn_state.tries = false →
      s.try_role_complete = false → s'.try_role_complete = false → s'.conn_state.tries = true →
        s'.rank + s.attempt s' ≤ s.rank := by
    intro s s' hs ht hc hc' ht'
    have ha : s.attempt s' ≤ 1 := attempt_le
    rw [rank_of_seeking hs ht, rank_of_tries ht' hc', hc]
    exact Nat.add_le_add_left ha 1
  cases h with
  | lose => cases hu
  | give_up hw => cases hu
  | stay => exact Nat.le_of_eq (by rw [attempt_self rfl]; rfl)
  | forget hc => exact hsame (by rw [hc]; rfl) (by rw [hc]; rfl) (congrArg ConnState.seeking hc) (congrArg ConnState.tries hc) rfl
  | leave hst =>
    rw [attempt_of_not_tries (tries_of_not_seeking hst), rank_of_not_seeking hst]
    exact Nat.zero_le _
  | baseline hc hst =>
    exact hsame (by rw [hc]; rfl) (by rw [hc]; rfl) (seeking_of_waits hst) (tries_of_waits hst) rfl
  | answer hc hst =>
    have ht : ∀ t : ConnState, t.waits = true ∨ t.seeking = false → t.tries = false := by
      rintro t (ht | ht)
      · exact tries_of_waits ht
      · exact tries_of_not_seeking ht
    rw [attempt_of_not_tries (ht _ hst), rank_of_complete rfl]
    exact Nat.zero_le _
  | count hw hc =>
    exact hsame (seeking_of_waits hw) (tries_of_waits hw) (by rw [count_conn_state]; exact seeking_of_waits hw)
      (by rw [count_conn_state]; exact tries_of_waits hw) (count_complete ..)
  | attach_source hc hn hp => exact hsame (by rw [hc]; rfl) (by rw [hc]; rfl) rfl rfl (count_complete ..)
  | attach_sink hc hn hp => exact hsame (by rw [hc]; rfl) (by rw [hc]; rfl) rfl rfl (count_complete ..)
  | attach_at_once hc hv ht => exact hsame (by rw [hc]; rfl) (by rw [hc]; rfl) rfl rfl rfl
  | try_first hc ht hst =>
    rcases hc with hc | hc
    · exact hfirst (by rw [hc]; rfl) (by rw [hc]; rfl) ht ht hst
    · exact hfirst (by rw [hc]; rfl) (by rw [hc]; rfl) ht ht hst
  | try_counted hc ht hst =>
    exact hfirst (by rw [hc]; rfl) (by rw [hc]; rfl) ht ((count_complete ..).trans ht) hst
  | try_other hc ht hst =>
    have ha : ∀ t : Search, s.attempt t ≤ 1 := fun _ => attempt_le
    rw [rank_of_tries hc ht, rank_of_complete rfl, Nat.zero_add]
    exact ha _
  | sink_policy hc =>
    rw [attempt_of_not_tries rfl, rank_of_complete rfl]
    exact Nat.zero_le _

theorem did_after_unattaches {d e : Did} (h : (d.after e).unattaches = false) :
    d.unattaches = false ∧ e.unattaches = false := Bool.or_eq_false_iff.1 h

/-- A step without `set_state_unattached` uses up the attempts it makes. -/
theorem step_rank {chip : Chip} {act : Act} (hu : (did chip act).unattaches = false) :
    (step chip act).search.rank + (enters_try chip act).toNat ≤ chip.search.rank := by
  obtain ⟨d, mid, e, hb, hm, hd⟩ := step_moves chip act
  rw [hd] at hu
  obtain ⟨hud, hue⟩ := did_after_unattaches hu
  have h1 := before_rank hb hud
  have h2 := move_rank hm hue
  have h3 := attempt_trans chip.search mid (step chip act).search
  have h4 : (enters_try chip act).toNat = chip.search.attempt (step chip act).search := rfl
  omega

/-- The attempts of a run without `set_state_unattached`. -/
theorem tries_le_rank (acts : List Act) {chip : Chip}
    (h : Runs.Meets step (fun c act => (did c act).unattaches = false) chip acts) : tries chip acts ≤ chip.search.rank := by
  induction acts generalizing chip with
  | nil => exact Nat.zero_le _
  | cons act acts ih =>
    have hs := step_rank h.1
    have hr := ih h.2
    rw [tries]
    omega

/-- Out of `unattached`, and out of the policies, no move tries a role. -/
theorem move_tries (h : Move vbus s d s') (hs : s.conn_state = .unattached ∨ s.conn_state.seeking = false) :
    s'.conn_state.tries = false := by
  have hst : s.conn_state.tries = false := by
    rcases hs with hs | hs
    · exact congrArg ConnState.tries hs
    · exact tries_of_not_seeking hs
  have hw : s.conn_state.waits = false := by
    rcases hs with hs | hs
    · exact congrArg ConnState.waits hs
    · exact waits_of_not_seeking hs
  cases h with
  | stay => exact hst
  | forget => exact hst
  | leave h => exact tries_of_not_seeking h
  | baseline _ h => exact tries_of_waits h
  | answer h => exact absurd (hst.symm.trans h) Bool.false_ne_true
  | count h => exact absurd (hw.symm.trans h) Bool.false_ne_true
  | try_first h =>
    rcases h with h | h
    · rw [h] at hs
      rcases hs with hs | hs <;> cases hs
    · rw [h] at hs
      rcases hs with hs | hs <;> cases hs
  | try_counted h =>
    rw [h] at hs
    rcases hs with hs | hs <;> cases hs
  | try_other h => exact absurd (hst.symm.trans h) Bool.false_ne_true
  | _ => rfl

/-- A move that loses the partner tries no role. -/
theorem move_loses (h : Move vbus s d s') (hu : d.unattaches = true) : s'.conn_state.tries = false := by
  cases h with
  | lose => rfl
  | give_up => rfl
  | _ => cases hu

/-- A step with `set_state_unattached` tries no role. -/
theorem unattaching_tries_nothing {chip : Chip} {act : Act} (hu : (did chip act).unattaches = true) :
    enters_try chip act = false := by
  obtain ⟨d, mid, e, hb, hm, hd⟩ := step_moves chip act
  have ht : (step chip act).search.conn_state.tries = false := by
    rw [hd] at hu
    cases hb with
    | keep _ _ hud =>
      have hue : e.unattaches = true := by simpa [Did.after, hud] using hu
      exact move_loses hm hue
    | lose hst => exact move_tries hm hst
  rw [enters_try, show (step chip act).conn_state.tries = false from ht]
  rfl

/-! ## The bound -/

/-- Between two executions of `set_state_unattached` a port tries a role at most
twice, and never after the other role was tried. -/
theorem trying_terminates (chip : Chip) (acts : List Act) :
    (Runs.Meets step (fun c act => (did c act).unattaches = false) chip acts →
        tries chip acts ≤ 2 ∧ (chip.try_role_complete = true → tries chip acts = 0)) ∧
      ∀ act, (did chip act).unattaches = true → enters_try chip act = false := by
  refine ⟨fun h => ?_, fun act hu => unattaching_tries_nothing hu⟩
  have hr := tries_le_rank acts h
  refine ⟨Nat.le_trans hr (rank_le chip.search), fun hc => ?_⟩
  rw [rank_of_complete hc] at hr
  exact Nat.le_zero.1 hr

/-- A port that prefers to be the source, and a source that answers neither try. -/
theorem trying_terminates_source : tries (fusb30x_probe try_source) (attach_sink.take 5) = 2 ∧
    tries (ran try_source (attach_sink.take 5)) (attach_sink.drop 5) = 0 := by
  refine ⟨by decide +kernel, ?_⟩
  exact ((trying_terminates (ran try_source (attach_sink.take 5)) (attach_sink.drop 5)).1
    (by decide +kernel)).2 (by decide +kernel)

end Fusb302
