import LinuxDriver.Fusb302.Special
/-!
# VCONN and the communication line

One CC line carries the messages, the other may carry VCONN. Six operations
write SWITCHES0, each through its own mask; together with TXCC of SWITCHES1,
`cc_polarity` and `vconn_enabled` they must agree on which line is which.
-/

namespace Fusb302

/-! ## The property -/

/-- The bit that switches VCONN onto a line. -/
def vconn_bit : TypecCcPolarity → Byte
  | .CC1 => SWITCHES0_VCONN_CC1
  | .CC2 => SWITCHES0_VCONN_CC2

/-- The bit that selects a line for sending. -/
def txcc_bit : TypecCcPolarity → Byte
  | .CC1 => SWITCHES1_TXCC1
  | .CC2 => SWITCHES1_TXCC2

/-- The line has VCONN on it. -/
def carries_vconn (chip : Chip) (line : TypecCcPolarity) : Bool := bit (chip.regs .SWITCHES0) (vconn_bit line)

/-- The transmitter is on the line. -/
def transmits (chip : Chip) (line : TypecCcPolarity) : Bool := bit (chip.regs .SWITCHES1) (txcc_bit line)

/-- TXCC is as a reset leaves it. -/
def txcc_untouched (chip : Chip) : Prop := ∀ line, transmits chip line = bit (chip.defaults .SWITCHES1) (txcc_bit line)

/-- VCONN is where it belongs. -/
structure VconnRight (chip : Chip) : Prop where
  /-- On the other line than `cc_polarity`, and on that one only. -/
  on : chip.vconn_enabled = true → ∀ line, carries_vconn chip line = decide (line ≠ chip.cc_polarity)
  off : chip.vconn_enabled = false → ∀ line, carries_vconn chip line = false
  /-- Once `tcpm_set_polarity` has selected TXCC since the last reset. -/
  apart : txcc_untouched chip ∨ ∀ line, transmits chip line = true → carries_vconn chip line = false

/-- The operations that write SWITCHES0. -/
inductive Operation
  | set_polarity (polarity : TypecCcPolarity)
  | set_vconn (enable : Bool)
  | set_rx_enable (enable : Bool)
  | set_cc_pull_mode (mode : CcMode)
  | get_cc
  | init

/-- One operation on the chip. -/
def Operation.apply (chip : Chip) : Operation → Chip
  | .set_polarity polarity => tcpm_set_polarity chip polarity
  | .set_vconn enable => tcpm_set_vconn chip enable
  | .set_rx_enable enable => tcpm_set_rx_enable chip enable
  | .set_cc_pull_mode mode => tcpm_set_cc_pull_mode chip mode
  | .get_cc => (tcpm_get_cc chip).chip
  | .init => tcpm_init chip

/-! ## The invariant -/

/-- The other line. -/
def TypecCcPolarity.other : TypecCcPolarity → TypecCcPolarity
  | .CC1 => .CC2
  | .CC2 => .CC1

/-- VCONN is on the other line when it is enabled, and TXCC on this one unless it was reset. -/
structure Wired (chip : Chip) : Prop where
  vconn : chip.wires.vconn = if chip.wires.vconn_enabled then vconn_bit chip.wires.cc_polarity.other else 0#8
  txcc : chip.wires.txcc = chip.wires.txcc_default ∨ chip.wires.txcc = txcc_bit chip.wires.cc_polarity

variable {chip c c' : Chip} {evt : Evt}

theorem Wired.of_eq (h : Wired c) (he : c'.wires = c.wires) : Wired c' := by
  obtain ⟨hv, ht⟩ := h
  exact ⟨by rw [he]; exact hv, by rw [he]; exact ht⟩

/-- CONTROL1 does not matter. -/
theorem Wired.flush (h : Wired c) (enable : Bool) : Wired (tcpm_set_rx_enable c enable) := by
  cases enable
  · exact h.of_eq (rx_disable_wires c)
  · obtain ⟨hv, ht⟩ := h
    exact ⟨by rw [rx_enable_wires]; exact hv, by rw [rx_enable_wires]; exact ht⟩

theorem bit_mask (r m b : Byte) (h : b &&& m = b) : bit (r &&& m) b = bit r b := by
  rw [bit, bit, BitVec.and_assoc, BitVec.and_comm m b, h]

theorem carries_vconn_wires (chip : Chip) (line : TypecCcPolarity) :
    carries_vconn chip line = bit chip.wires.vconn (vconn_bit line) := by
  refine (bit_mask _ _ _ ?_).symm
  cases line <;> rfl

theorem transmits_wires (chip : Chip) (line : TypecCcPolarity) :
    transmits chip line = bit chip.wires.txcc (txcc_bit line) := by
  refine (bit_mask _ _ _ ?_).symm
  cases line <;> rfl

theorem Wired.right (h : Wired chip) : VconnRight chip := by
  obtain ⟨hv, ht⟩ := h
  have on : chip.vconn_enabled = true → ∀ line, carries_vconn chip line = decide (line ≠ chip.cc_polarity) := by
    intro he line
    have hv : chip.wires.vconn = vconn_bit chip.cc_polarity.other := by
      rw [hv]
      exact if_pos he
    rw [carries_vconn_wires, hv]
    cases chip.cc_polarity <;> cases line <;> decide
  have off : chip.vconn_enabled = false → ∀ line, carries_vconn chip line = false := by
    intro he line
    have hv : chip.wires.vconn = 0#8 := by
      rw [hv]
      exact if_neg (Bool.eq_false_iff.1 he)
    rw [carries_vconn_wires, hv]
    cases line <;> rfl
  refine ⟨on, off, ?_⟩
  -- TXCC has its reset value, or selects the line in use
  rcases ht with ht | ht
  · left
    intro line
    rw [transmits_wires, ht]
    refine bit_mask _ _ _ ?_
    cases line <;> rfl
  · right
    intro line hl
    rw [transmits_wires, ht] at hl
    cases he : chip.vconn_enabled with
    | false => exact off he line
    | true =>
      rw [on he]
      change bit (txcc_bit chip.cc_polarity) (txcc_bit line) = true at hl
      revert hl
      cases chip.cc_polarity <;> cases line <;> decide

/-! ## The operations -/

/-- TXCC is selected, and VCONN moved to the other line if it is on. -/
theorem set_polarity_wired (chip : Chip) (polarity : TypecCcPolarity) : Wired (tcpm_set_polarity chip polarity) := by
  unfold tcpm_set_polarity
  constructor
  · refine (update_inside _ _ (by decide)).trans ?_
    change _ = if chip.vconn_enabled = true then vconn_bit polarity.other else 0#8
    cases chip.vconn_enabled <;> cases polarity <;> split <;> decide
  · right
    refine (update_inside _ _ (by decide)).trans ?_
    cases polarity <;> rfl

theorem set_vconn_wired (ht : chip.wires.txcc = chip.wires.txcc_default ∨ chip.wires.txcc = txcc_bit chip.wires.cc_polarity)
    (enable : Bool) : Wired (tcpm_set_vconn chip enable) := by
  unfold tcpm_set_vconn
  refine ⟨(update_inside _ _ (by decide)).trans ?_, ht⟩
  change _ = if enable = true then vconn_bit chip.cc_polarity.other else 0#8
  cases enable <;> cases chip.cc_polarity <;> decide

theorem init_wired (chip : Chip) : Wired (tcpm_init chip) := by
  unfold tcpm_init
  refine Wired.of_eq ?_ (write_wires _ rfl)
  exact set_vconn_wired (Or.inl rfl) false

theorem Wired.apply (h : Wired chip) (op : Operation) : Wired (op.apply chip) := by
  cases op with
  | set_polarity polarity => exact set_polarity_wired chip polarity
  | set_vconn enable => exact set_vconn_wired h.txcc enable
  | set_rx_enable enable => exact h.flush enable
  | set_cc_pull_mode mode => exact h.of_eq (tcpm_set_cc_pull_mode_wires chip mode)
  | get_cc => exact h.of_eq (tcpm_get_cc_wires chip)
  | init => exact init_wired chip

theorem operations_wired (h : Wired chip) (ops : List Operation) : Wired (ops.foldl Operation.apply chip) := by
  induction ops generalizing chip with
  | nil => exact h
  | cons op ops ih => exact ih (h.apply op)

/-! ## The handlers -/

theorem wired_serves : Serves Wired where
  view h _ he := h.of_eq he
  polarity polarity _ := set_polarity_wired _ polarity
  vconn enable h := set_vconn_wired h.txcc enable
  init _ := init_wired _
  flush h := h.flush true
  move h _ := h.of_eq rfl
  recast _ h _ := h.of_eq rfl
  pd_reset h := h.of_eq rfl
  forget h := h.of_eq rfl
  sub _ h _ := h.of_eq rfl
  log h _ := h.of_eq rfl
  soft_reset h := h.of_eq rfl
  renumber _ h := h.of_eq rfl

theorem dispatch_wired (h : Wired chip) : Wired (dispatch chip evt) :=
  wired_serves.dispatch_own h (fun _ => wired_serves.toResets) fun hc _ hw => hc.of_eq hw

/-! ## Runs -/

theorem step_wired (h : Wired chip) (act : Act) : Wired (step chip act) := by
  refine step_keeps ?_ h fun _ _ _ ha => dispatch_wired ha
  exact wired_serves.passes_of (fun hc => hc.of_eq (get_message_wires _ _)) fun hc => hc.of_eq (hard_reset_wires _)

theorem probe_wired (board : Board) : Wired (fusb30x_probe board) := by
  have hc : ∀ c role, Wired (tcpm_set_cc { tcpm_set_rx_enable (tcpm_init c) false with conn_state := .unattached } role) := by
    intro c role
    have hi : Wired (tcpm_set_rx_enable (tcpm_init c) false) := (init_wired c).flush false
    exact Wired.of_eq (hi.of_eq rfl) (tcpm_set_cc_wires _ _)
  exact (hc _ _).of_eq rfl

/-- In every reachable state, and after any further operations on the lines:
VCONN is on the line opposite to `cc_polarity` or off, and never where TXCC is. -/
theorem vconn_right (board : Board) (acts : List Act) (ops : List Operation) :
    ∀ chip ∈ Runs.visited step (fusb30x_probe board) acts, VconnRight (ops.foldl Operation.apply chip) := by
  intro chip hc
  have h : Wired chip := Runs.visited_inv (I := Wired) (fun _ act h => step_wired h act) acts (probe_wired board) chip hc
  exact (operations_wired h ops).right

/-- A source with VCONN on measures its line and turns the receiver on. -/
theorem vconn_right_attached :
    VconnRight ([Operation.get_cc, .set_rx_enable true].foldl Operation.apply (ran {} attach_source)) :=
  vconn_right {} attach_source _ _ (Runs.run_mem_visited _ _)

end Fusb302
