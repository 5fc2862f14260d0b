import LinuxDriver.Fusb302.DisplayPort
/-!
# The DisplayPort pin assignment

`pd_dfp_dp_get_pin_assignment` takes pins away from the mode's field in four
steps and returns the highest one left. Here the pins that may be left are
described one by one, and the choice is the best of them.
-/

namespace Fusb302

/-- A pin assignment of the DisplayPort mode. -/
inductive Pin
  | A
  | B
  | C
  | D
  | E
  | F
  deriving DecidableEq

namespace Pin

/-- `MODE_DP_PIN_A` is `BIT(0)`, and so on. -/
def pos : Pin → Nat
  | A => 0
  | B => 1
  | C => 2
  | D => 3
  | E => 4
  | F => 5

/-- The bit of a pin assignment. -/
def bit (p : Pin) : BitVec 32 := 1#32 <<< p.pos

/-- "Pin configs B/D/F support multi-function". -/
def MultiFunction (p : Pin) : Prop := p = B ∨ p = D ∨ p = F

/-- "Pin configs A/B support BR2 signaling levels". -/
def UsbGen2 (p : Pin) : Prop := p = A ∨ p = B

instance (p : Pin) : Decidable p.MultiFunction := inferInstanceAs (Decidable (_ ∨ _))

instance (p : Pin) : Decidable p.UsbGen2 := inferInstanceAs (Decidable (_ ∨ _))

theorem pos_lt (p : Pin) : p.pos < 6 := by
  cases p <;> decide

theorem exists_pos {n : Nat} (h : n < 6) : ∃ p : Pin, p.pos = n := by
  match n, h with
  | 0, _ => exact ⟨A, rfl⟩
  | 1, _ => exact ⟨B, rfl⟩
  | 2, _ => exact ⟨C, rfl⟩
  | 3, _ => exact ⟨D, rfl⟩
  | 4, _ => exact ⟨E, rfl⟩
  | 5, _ => exact ⟨F, rfl⟩

end Pin

/-- The partner offers the pin, and it suits its preference and its signalling. -/
structure Fits (caps status : BitVec 32) (p : Pin) : Prop where
  supported : (PD_DP_PIN_CAPS caps).getLsbD p.pos = true
  multi_function : p.MultiFunction → PD_VDO_DPSTS_MF_PREF status ≠ 0#32
  usb_gen2 : p.UsbGen2 ↔ PD_DP_SIGNAL_GEN2 caps ≠ 0#32

/-- A pin that may be chosen: C and D have precedence over E and F. -/
structure Eligible (caps status : BitVec 32) (p : Pin) : Prop where
  fits : Fits caps status p
  precedence : p = .E ∨ p = .F → ¬Fits caps status .C ∧ ¬Fits caps status .D

/-! ## The masks -/

variable {caps status : BitVec 32}

theorem masked_getLsbD (x m : BitVec 32) (p : Pin) :
    (x &&& ~~~m).getLsbD p.pos = (x.getLsbD p.pos && !m.getLsbD p.pos) := by
  have hp : p.pos < 32 := Nat.lt_trans p.pos_lt (by decide)
  rw [BitVec.getLsbD_and, BitVec.getLsbD_not, decide_eq_true hp, Bool.true_and]

theorem preferred_getLsbD (p : Pin) :
    (if PD_VDO_DPSTS_MF_PREF status = 0#32 then PD_DP_PIN_CAPS caps &&& ~~~MODE_DP_PIN_MF_MASK
      else PD_DP_PIN_CAPS caps).getLsbD p.pos = true ↔
      (PD_DP_PIN_CAPS caps).getLsbD p.pos = true ∧ (p.MultiFunction → PD_VDO_DPSTS_MF_PREF status ≠ 0#32) := by
  have hmask : MODE_DP_PIN_MF_MASK.getLsbD p.pos = decide p.MultiFunction := by
    cases p <;> decide
  split
  · rename_i h0
    rw [masked_getLsbD, hmask]
    simp [h0]
  · rename_i h0
    simp [h0]

theorem usable_pins_getLsbD (p : Pin) : (usable_pins caps status).getLsbD p.pos = true ↔ Fits caps status p := by
  have hdp : MODE_DP_PIN_DP_MASK.getLsbD p.pos = !decide p.UsbGen2 := by
    cases p <;> decide
  have hbr2 : MODE_DP_PIN_BR2_MASK.getLsbD p.pos = decide p.UsbGen2 := by
    cases p <;> decide
  have hfits : Fits caps status p ↔ ((PD_DP_PIN_CAPS caps).getLsbD p.pos = true ∧
      (p.MultiFunction → PD_VDO_DPSTS_MF_PREF status ≠ 0#32)) ∧ (p.UsbGen2 ↔ PD_DP_SIGNAL_GEN2 caps ≠ 0#32) := by
    constructor
    · intro h
      exact ⟨⟨h.supported, h.multi_function⟩, h.usb_gen2⟩
    · rintro ⟨⟨hs, hm⟩, hg⟩
      exact ⟨hs, hm, hg⟩
  rw [hfits, ← preferred_getLsbD]
  unfold usable_pins
  dsimp only
  split
  · rename_i hg
    rw [masked_getLsbD, hdp]
    simp [hg]
  · rename_i hg
    rw [masked_getLsbD, hbr2]
    simp [hg]

/-- The test for C and D. -/
theorem and_cd_ne_zero (x : BitVec 32) : x &&& 0x0c#32 ≠ 0#32 ↔ x.getLsbD 2 = true ∨ x.getLsbD 3 = true := by
  have hmask : ∀ i < 32, (0x0c#32).getLsbD i = decide (i = 2 ∨ i = 3) := by decide
  constructor
  · intro h
    refine Decidable.byContradiction fun hn => h (BitVec.eq_of_getLsbD_eq fun i hi => ?_)
    obtain ⟨h2, h3⟩ := not_or.1 hn
    rw [BitVec.getLsbD_and, hmask i hi, BitVec.getLsbD_zero, Bool.and_eq_false_iff]
    by_cases hc : i = 2 ∨ i = 3
    · left
      rcases hc with rfl | rfl
      · exact Bool.not_eq_true _ ▸ h2
      · exact Bool.not_eq_true _ ▸ h3
    · exact Or.inr (decide_eq_false hc)
  · rintro h h0
    obtain ⟨i, hi, hx⟩ : ∃ i < 32, (0x0c#32).getLsbD i = true ∧ x.getLsbD i = true :=
      h.elim (fun h => ⟨2, by decide, by decide, h⟩) fun h => ⟨3, by decide, by decide, h⟩
    have hbit : (x &&& 0x0c#32).getLsbD i = false := by rw [h0, BitVec.getLsbD_zero]
    rw [BitVec.getLsbD_and, hx.1, hx.2] at hbit
    cases hbit

/-- `pin_caps` after the last step. -/
def eligible_pins (caps status : BitVec 32) : BitVec 32 :=
  let pin_caps := usable_pins caps status
  if pin_caps &&& 0x0c#32 ≠ 0#32 then pin_caps &&& ~~~0x30#32 else pin_caps

theorem eligible_pins_getLsbD (p : Pin) : (eligible_pins caps status).getLsbD p.pos = true ↔ Eligible caps status p := by
  have hmask : (0x30#32).getLsbD p.pos = decide (p = .E ∨ p = .F) := by
    cases p <;> decide
  have hcd : usable_pins caps status &&& 0x0c#32 ≠ 0#32 ↔ Fits caps status .C ∨ Fits caps status .D := by
    rw [and_cd_ne_zero, ← usable_pins_getLsbD, ← usable_pins_getLsbD]
    rfl
  unfold eligible_pins
  dsimp only
  split
  · rename_i hc
    rw [masked_getLsbD, hmask, Bool.and_eq_true, usable_pins_getLsbD]
    constructor
    · rintro ⟨hf, he⟩
      exact ⟨hf, fun h => absurd h (by simpa using he)⟩
    · rintro ⟨hf, hp⟩
      refine ⟨hf, ?_⟩
      have hne : ¬(p = .E ∨ p = .F) := fun h => (hcd.1 hc).elim (hp h).1 (hp h).2
      simpa using hne
  · rename_i hc
    obtain ⟨h2, h3⟩ := not_or.1 (mt hcd.2 hc)
    rw [usable_pins_getLsbD]
    constructor
    · intro hf
      exact ⟨hf, fun _ => ⟨h2, h3⟩⟩
    · intro h
      exact h.fits

theorem eligible_pins_lt (caps status : BitVec 32) : (eligible_pins caps status).toNat < 2 ^ 6 := by
  have hlt := usable_pins_lt caps status
  unfold eligible_pins
  dsimp only
  split
  · rw [BitVec.toNat_and]
    exact Nat.lt_of_le_of_lt Nat.and_le_left hlt
  · exact hlt

/-! ## The choice -/

/-- A pin that stands in the last mask. -/
theorem pos_le_log2 {p : Pin} (h : Eligible caps status p) : p.pos ≤ Nat.log2 (eligible_pins caps status).toNat := by
  have hbit : (eligible_pins caps status).toNat.testBit p.pos = true := eligible_pins_getLsbD p |>.2 h
  have hge := Nat.ge_two_pow_of_testBit hbit
  have hne : (eligible_pins caps status).toNat ≠ 0 := Nat.ne_of_gt (Nat.lt_of_lt_of_le (Nat.two_pow_pos _) hge)
  exact (Nat.le_log2 hne).2 hge

/-- The pin chosen is the highest of those that may be; 0 means there is none. -/
theorem get_pin_assignment_best (caps status : BitVec 32) :
    (pd_dfp_dp_get_pin_assignment caps status = 0#32 ∧ ∀ p, ¬Eligible caps status p) ∨
      ∃ p, pd_dfp_dp_get_pin_assignment caps status = p.bit ∧ Eligible caps status p ∧
        ∀ q, Eligible caps status q → q.pos ≤ p.pos := by
  have hdef : pd_dfp_dp_get_pin_assignment caps status =
      if eligible_pins caps status = 0#32 then 0#32 else 1#32 <<< Nat.log2 (eligible_pins caps status).toNat := rfl
  rw [hdef]
  by_cases h0 : eligible_pins caps status = 0#32
  · left
    refine ⟨if_pos h0, fun p hp => ?_⟩
    have hbit := (eligible_pins_getLsbD p).2 hp
    rw [h0, BitVec.getLsbD_zero] at hbit
    cases hbit
  · right
    have hne : (eligible_pins caps status).toNat ≠ 0 := fun h => h0 (BitVec.eq_of_toNat_eq h)
    obtain ⟨p, hp⟩ := Pin.exists_pos ((Nat.log2_lt hne).2 (eligible_pins_lt caps status))
    have hbit : (eligible_pins caps status).getLsbD p.pos = true := hp ▸ Nat.testBit_log2 hne
    refine ⟨p, ?_, (eligible_pins_getLsbD p).1 hbit, fun q hq => ?_⟩
    · rw [if_neg h0, Pin.bit, hp]
    · rw [hp]
      exact pos_le_log2 hq

end Fusb302
