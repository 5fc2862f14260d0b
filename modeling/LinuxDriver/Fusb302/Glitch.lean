import LinuxDriver.Fusb302.Frames
/-!
# Glitches

A source takes its partner to be gone when the comparator is above the high
threshold. `tcpm_get_cc` reads it three more times then, to tell a glitch, but
what it reports for the line is OPEN from the start: only the first reading
counts.
-/

namespace Fusb302

variable (chip : Chip) {store : Byte} {retry comp_times : Nat}

/-! ## The readings of a measurement -/

/-- Reading `n` is above the threshold it is compared with. -/
def comp (n : Nat) : Bool := bit (chip.status0 n) STATUS0_COMP

/-- The first reading is above the high threshold, and the three that shall confirm it are as well. -/
def confirmed : Bool := comp chip 0 && comp chip 1 && comp chip 2 && comp chip 3

/-- The port measures as a source. -/
def source_mode : Prop := bit chip.cc_state CC_STATE_TOGSS_IS_UFP = false

/-- What is reported for the line that was measured. -/
def measured : CcVolt :=
  if bit chip.cc_state CC_STATE_TOGSS_CC1 then (tcpm_get_cc chip).cc1 else (tcpm_get_cc chip).cc2

/-- No glitch looks like a detach: an open line, and a detach, has all four
readings behind it, and with one of them below the threshold the line is
classified by a resistor. -/
structure GlitchFree : Prop where
  opens : measured chip = .OPEN → confirmed chip = true
  classified : confirmed chip = false → measured chip = .RD ∨ measured chip = .RA
  detaches : chip.conn_state ≠ .unattached → (fusb_try_detach chip).conn_state = .unattached → confirmed chip = true

/-- `fusb_try_detach` decides by a line that `tcpm_get_cc` did not measure:
`cc_state` names both lines, or none. -/
def looks_elsewhere : Bool :=
  decide (chip.conn_state ≠ .unattached ∧ chip.conn_state ≠ .policy_src_transition_default ∧
    chip.conn_state ≠ .policy_src_prs_source_off ∧ chip.conn_state ≠ .policy_snk_prs_source_on) &&
    (bit chip.cc_state CC_STATE_TOGSS_CC1 == bit chip.cc_state CC_STATE_TOGSS_CC2)

/-! ## What is reported -/

/-- The confirming readings change nothing. -/
theorem get_cc_retry_open : (get_cc_retry store retry comp_times chip .OPEN).2 = .OPEN := by
  induction retry generalizing chip comp_times with
  | zero => rfl
  | succ retry ih =>
    unfold get_cc_retry
    dsimp only
    split
    · split
      · exact ih _
      · exact ih _
    · exact ih _

theorem get_cc_source_eq :
    (get_cc_source chip).2 = if comp chip 0 then .OPEN else if comp chip 1 then .RD else .RA := by
  unfold get_cc_source
  dsimp only
  by_cases h : comp chip 0
  · rw [if_pos h, if_pos]
    · exact get_cc_retry_open _
    · exact h
  · rw [if_neg h, if_neg]
    · rfl
    · exact h

variable {chip}

/-- The first reading decides. -/
theorem measured_eq (hs : source_mode chip) :
    measured chip = if comp chip 0 then .OPEN else if comp chip 1 then .RD else .RA := by
  have hm := get_cc_source_eq chip
  unfold source_mode at hs
  unfold measured tcpm_get_cc
  rw [hs]
  cases hc : bit chip.cc_state CC_STATE_TOGSS_CC1
  · simpa [hc] using hm
  · simpa [hc] using hm

/-! ## What detaches -/

/-- The states that put the test for a detach off. -/
def defers (s : ConnState) : Bool :=
  match s with
  | .policy_src_transition_default | .policy_src_prs_source_off | .policy_snk_prs_source_on => true
  | _ => false

theorem not_defers_iff {s : ConnState} : defers s = false ↔
    s ≠ .policy_src_transition_default ∧ s ≠ .policy_src_prs_source_off ∧ s ≠ .policy_snk_prs_source_on := by
  cases s <;> simp [defers]

/-- The line the test looks at is the one measured, or not measured at all. -/
theorem looked_at (hs : source_mode chip) :
    (if bit chip.cc_state CC_STATE_TOGSS_CC2 then (tcpm_get_cc chip).cc2 else (tcpm_get_cc chip).cc1) =
      if bit chip.cc_state CC_STATE_TOGSS_CC1 == bit chip.cc_state CC_STATE_TOGSS_CC2 then .OPEN
      else measured chip := by
  unfold source_mode at hs
  unfold measured tcpm_get_cc
  rw [hs]
  cases bit chip.cc_state CC_STATE_TOGSS_CC1 <;> cases bit chip.cc_state CC_STATE_TOGSS_CC2 <;> rfl

/-- A source is detached when the line looked at is open. -/
theorem try_detach_source (hs : source_mode chip) (hd : defers chip.conn_state = false) :
    (fusb_try_detach chip).conn_state =
      if (if bit chip.cc_state CC_STATE_TOGSS_CC1 == bit chip.cc_state CC_STATE_TOGSS_CC2 then .OPEN
        else measured chip) = CcVolt.OPEN then .unattached
      else chip.conn_state := by
  have hk := (tcpm_get_cc_kept chip).1
  rw [← looked_at hs]
  unfold source_mode at hs
  unfold fusb_try_detach
  rw [if_neg (by rw [hs]; exact fun h => Bool.false_ne_true h.1), if_pos (not_defers_iff.1 hd)]
  dsimp only
  generalize (if bit chip.cc_state CC_STATE_TOGSS_CC2 then (tcpm_get_cc chip).cc2 else (tcpm_get_cc chip).cc1) = cc1
  split
  · exact (@set_state_unattached_frame _).1
  · rw [hk]

/-- A port that defers the test stays where it is. -/
theorem try_detach_defers (hs : source_mode chip) (hd : defers chip.conn_state = true) :
    (fusb_try_detach chip).conn_state = chip.conn_state := by
  unfold source_mode at hs
  unfold fusb_try_detach
  rw [if_neg (by rw [hs]; exact fun h => Bool.false_ne_true h.1), if_neg]
  intro hn
  rw [not_defers_iff.2 hn] at hd
  cases hd

theorem looks_elsewhere_eq (hu : chip.conn_state ≠ .unattached) (hd : defers chip.conn_state = false) :
    looks_elsewhere chip = (bit chip.cc_state CC_STATE_TOGSS_CC1 == bit chip.cc_state CC_STATE_TOGSS_CC2) := by
  rw [looks_elsewhere, decide_eq_true ⟨hu, not_defers_iff.1 hd⟩, Bool.true_and]

/-- With all four readings above the threshold, or the first one below it on
the line that is looked at, and in no other case. -/
theorem glitch_free_iff (chip : Chip) (hs : source_mode chip) :
    GlitchFree chip ↔ confirmed chip = true ∨ comp chip 0 = false ∧ looks_elsewhere chip = false := by
  have hm := measured_eq hs
  refine ⟨?_, ?_⟩
  · intro h
    cases h0 : comp chip 0
    · by_cases hc : confirmed chip = true
      · exact Or.inl hc
      · refine Or.inr ⟨rfl, ?_⟩
        cases he : looks_elsewhere chip
        · rfl
        · simp only [looks_elsewhere, Bool.and_eq_true, decide_eq_true_eq] at he
          obtain ⟨⟨hu, hn⟩, he⟩ := he
          have hd : defers chip.conn_state = false := not_defers_iff.2 hn
          refine absurd (h.detaches hu ?_) hc
          rw [try_detach_source hs hd, he]
          rfl
    · refine Or.inl (h.opens ?_)
      rw [hm, h0]
      rfl
  · rintro (hc | ⟨h0, he⟩)
    · refine ⟨fun _ => hc, ?_, fun _ _ => hc⟩
      intro hn
      rw [hc] at hn
      cases hn
    · rw [h0] at hm
      have hline : measured chip = .RD ∨ measured chip = .RA := by
        rw [hm]
        cases comp chip 1
        · exact Or.inr rfl
        · exact Or.inl rfl
      have hopen : measured chip ≠ .OPEN := by
        rcases hline with hl | hl <;> rw [hl] <;> decide
      refine ⟨fun ho => absurd ho hopen, fun _ => hline, ?_⟩
      intro hu ht
      cases hd : defers chip.conn_state
      · rw [looks_elsewhere_eq hu hd] at he
        rw [try_detach_source hs hd, he] at ht
        exact absurd ht (by simpa [hopen] using hu)
      · rw [try_detach_defers hs hd] at ht
        exact absurd ht hu

/-! ## One high reading -/

/-- A source that has just sent its capabilities, and one reading above the threshold. -/
def glitching : Chip := { ran {} attach_source with status0 := fun n => if n = 0 then STATUS0_COMP else 0#8 }

theorem glitch_free_iff_glitching :
    source_mode glitching ∧
      (GlitchFree glitching ↔ confirmed glitching = true ∨ comp glitching 0 = false ∧ looks_elsewhere glitching = false) :=
  ⟨by unfold source_mode; decide +kernel, glitch_free_iff glitching (by unfold source_mode; decide +kernel)⟩

/-- It is detached, though no reading confirms the first. -/
theorem glitch_detaches :
    (glitching.conn_state = .policy_src_send_caps ∧ comp glitching 0 = true ∧ comp glitching 1 = false ∧
      comp glitching 2 = false ∧ comp glitching 3 = false ∧ measured glitching = .OPEN ∧
      (fusb_try_detach glitching).conn_state = .unattached) ∧
      ¬∀ chip : Chip, source_mode chip → GlitchFree chip := by
  refine ⟨by decide +kernel, fun h => ?_⟩
  have hg := h glitching (by unfold source_mode; decide +kernel)
  have hc : confirmed glitching = true := hg.opens (by decide +kernel)
  exact absurd hc (by decide +kernel)

end Fusb302
