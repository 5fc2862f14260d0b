import LinuxDriver.Touch.Input
import LinuxDriver.Lib.Runs
/-!
# The touch of the GT9147

`gt9147_irq_handler` follows one finger, in slot 0. It reads a status, which
counts the fingers, and the record of the first of them; whether the reads
succeed it does not look at. The slot is to be active as long as the reports
have a finger with track id 0, and to stay as it is when a read fails.
-/

namespace Touch.Gt9147

open Slots

def MAX_SUPPORT_POINTS : ℕ := 5
def EREMOTEIO : ℤ := 121

/-! ## The driver -/

/-- What `i2c_transfer` returns, and what the buffer then holds: the registers
if both messages went through, else anything. -/
structure Transfer (α : Type) where
  ret : ℤ
  buf : α

/-- Two messages on the bus; the buffer holds what the transfer has left there. -/
def gt9147_read_regs {α : Type} (transfer : Transfer α) : ℤ × α :=
  (if transfer.ret = 2 then 0 else - EREMOTEIO, transfer.buf)

/-- The five registers from `GT_TP1_REG` on. -/
abbrev Record := Fin 5 → Byte

/-- How the reads of `GT_GSTID_REG` and `GT_TP1_REG` end. -/
structure Irq where
  status : Transfer Byte
  first : Transfer Record

/-- `lo | (hi << 8)`. -/
def coordinate (lo hi : Byte) : BitVec 32 := lo.setWidth 32 ||| hi.setWidth 32 <<< 8

/-- The pointer emulation, the sync and the write that clears the status do not touch the slots. -/
def gt9147_irq_handler (input : Input) (irq : Irq) : Input :=
  let data := (gt9147_read_regs irq.status).2
  if data = 0x00#8 then input
  else
    let touch_num := data &&& 0x0f#8
    if touch_num ≠ 0#8 then
      let touch_data := (gt9147_read_regs irq.first).2
      let id := touch_data 0 &&& 0x0f#8
      if id = 0#8 then
        let input_x := coordinate (touch_data 1) (touch_data 2)
        let input_y := coordinate (touch_data 3) (touch_data 4)
        (((input.input_mt_slot id.toNat).input_mt_report_slot_state true).input_report_abs_x input_x).input_report_abs_y
          input_y
      else input
    else (input.input_mt_slot 0).input_mt_report_slot_state false

/-- The end of `gt9147_probe`. -/
def gt9147_probe : Input := .input_mt_init_slots MAX_SUPPORT_POINTS

/-! ## What slot 0 should show -/

/-- The status counts a finger. -/
def Irq.Touched (irq : Irq) : Prop := irq.status.buf &&& 0x0f#8 ≠ 0#8

/-- The first record is that of track id 0. -/
def Irq.Tracked (irq : Irq) : Prop := irq.first.buf 0 &&& 0x0f#8 = 0#8

/-- A read fails. That of the record is made if a finger is counted. -/
def Irq.Failed (irq : Irq) : Prop :=
  (gt9147_read_regs irq.status).1 ≠ 0 ∨ irq.Touched ∧ (gt9147_read_regs irq.first).1 ≠ 0

/-- Where the first record says the finger is. -/
def Irq.contact (irq : Irq) : Contact :=
  ⟨true, coordinate (irq.first.buf 1) (irq.first.buf 2), coordinate (irq.first.buf 3) (irq.first.buf 4)⟩

instance (irq : Irq) : Decidable irq.Touched := inferInstanceAs (Decidable (_ ≠ _))
instance (irq : Irq) : Decidable irq.Tracked := inferInstanceAs (Decidable (_ = _))
instance (irq : Irq) : Decidable irq.Failed := inferInstanceAs (Decidable (_ ∨ _))

/-- What an interrupt should leave. -/
structure Right (input : Input) (irq : Irq) : Prop where
  kept : irq.Failed → ∀ i, (gt9147_irq_handler input irq).slot i = input.slot i
  active : ¬irq.Failed → irq.status.buf ≠ 0#8 →
    (((gt9147_irq_handler input irq).slot 0).active = true ↔ irq.Touched ∧ irq.Tracked)
  position : ¬irq.Failed → irq.Touched → irq.Tracked → (gt9147_irq_handler input irq).slot 0 = irq.contact

/-! ## One interrupt -/

/-- What an interrupt makes of slot 0. -/
def Irq.act (irq : Irq) (c : Contact) : Contact :=
  if irq.status.buf = 0#8 then c
  else if irq.Touched then if irq.Tracked then irq.contact else c
  else { c with active := false }

/-- Slot 0 takes what the interrupt says, the other slots nothing. -/
theorem slot_handler {input : Input} (h : 0 < input.num_slots) (irq : Irq) (i : ℕ) :
    (gt9147_irq_handler input irq).slot i = if i = 0 then irq.act (input.slot i) else input.slot i := by
  unfold gt9147_irq_handler Irq.act
  dsimp only [gt9147_read_regs]
  by_cases h0 : irq.status.buf = 0#8
  · rw [if_pos h0, if_pos h0, ite_self]
  rw [if_neg h0, if_neg h0]
  by_cases ht : irq.status.buf &&& 0x0f#8 ≠ 0#8
  · rw [if_pos ht, if_pos (c := irq.Touched) ht]
    by_cases hi : irq.first.buf 0 &&& 0x0f#8 = 0#8
    · rw [if_pos hi, if_pos (c := irq.Tracked) hi, Input.report_press, hi]
      exact Bank.cell_select_modify input.mt h (fun _ => irq.contact) i
    · rw [if_neg hi, if_neg (c := irq.Tracked) hi, ite_self]
  · rw [if_neg ht, if_neg (c := irq.Touched) ht]
    exact Bank.cell_select_modify input.mt h (fun c => { c with active := false }) i

theorem num_slots_handler (input : Input) (irq : Irq) : (gt9147_irq_handler input irq).num_slots = input.num_slots := by
  unfold gt9147_irq_handler
  dsimp only
  split
  · rfl
  split
  · split <;> rfl
  · rfl

section
variable {irq : Irq} {c : Contact}

theorem Irq.Touched.status_ne (h : irq.Touched) : irq.status.buf ≠ 0#8 := by
  intro h0
  rw [Irq.Touched, h0] at h
  exact h rfl

theorem act_idle (h : irq.status.buf = 0#8) : irq.act c = c := if_pos h

theorem act_pressed (ht : irq.Touched) (hi : irq.Tracked) : irq.act c = irq.contact := by
  rw [Irq.act, if_neg ht.status_ne, if_pos ht, if_pos hi]

theorem act_other (ht : irq.Touched) (hi : ¬irq.Tracked) : irq.act c = c := by
  rw [Irq.act, if_neg ht.status_ne, if_pos ht, if_neg hi]

theorem act_released (h0 : irq.status.buf ≠ 0#8) (ht : ¬irq.Touched) : irq.act c = { c with active := false } := by
  rw [Irq.act, if_neg h0, if_neg ht]

end

/-! ## When an interrupt leaves what it should -/

/-- A report that has another finger first finds slot 0 released, and what a failed read leaves in the buffers says
again what slot 0 shows. -/
structure Harmless (input : Input) (irq : Irq) : Prop where
  lifted : ¬irq.Failed → irq.Touched → ¬irq.Tracked → (input.slot 0).active = false
  pressed : irq.Failed → irq.Touched → irq.Tracked → input.slot 0 = irq.contact
  released : irq.Failed → irq.status.buf ≠ 0#8 → ¬irq.Touched → (input.slot 0).active = false

/-- A failed interrupt that says nothing new about slot 0 changes no slot. -/
theorem kept_iff {input : Input} (h : 0 < input.num_slots) (irq : Irq) :
    (∀ i, (gt9147_irq_handler input irq).slot i = input.slot i) ↔ irq.act (input.slot 0) = input.slot 0 := by
  constructor
  · intro hk
    exact (slot_handler h irq 0).symm.trans (hk 0)
  · intro hk i
    rw [slot_handler h irq i]
    by_cases hi : i = 0
    · rw [if_pos hi, hi, hk]
    · rw [if_neg hi]

theorem act_eq_self (irq : Irq) (c : Contact) :
    irq.act c = c ↔ (irq.Touched → irq.Tracked → c = irq.contact) ∧
      (irq.status.buf ≠ 0#8 → ¬irq.Touched → c.active = false) := by
  by_cases h0 : irq.status.buf = 0#8
  · simp [act_idle h0, h0, mt Irq.Touched.status_ne (not_not_intro h0)]
  by_cases ht : irq.Touched
  · by_cases hi : irq.Tracked
    · rw [act_pressed ht hi]
      exact ⟨fun hc => ⟨fun _ _ => hc.symm, fun _ ho => absurd ht ho⟩, fun hc => (hc.1 ht hi).symm⟩
    · simp [act_other ht hi, ht, hi]
  · rw [act_released h0 ht]
    have hc : { c with active := false } = c ↔ c.active = false := by
      constructor
      · intro hc
        rw [← hc]
      · intro hc
        rw [← hc]
    simp [hc, h0, ht]

theorem right_iff {input : Input} (h : 0 < input.num_slots) (irq : Irq) : Right input irq ↔ Harmless input irq := by
  have hzero : (gt9147_irq_handler input irq).slot 0 = irq.act (input.slot 0) := slot_handler h irq 0
  constructor
  · rintro ⟨kept, active, -⟩
    have said : irq.Failed → _ := fun hf => (act_eq_self irq (input.slot 0)).1 ((kept_iff h irq).1 (kept hf))
    refine ⟨fun hf ht hi => ?_, fun hf => (said hf).1, fun hf => (said hf).2⟩
    have hoff := active hf ht.status_ne
    rw [hzero, act_other ht hi] at hoff
    exact Bool.eq_false_iff.2 fun hon => hi (hoff.1 hon).2
  · rintro ⟨lifted, pressed, released⟩
    refine ⟨fun hf => (kept_iff h irq).2 ((act_eq_self irq _).2 ⟨pressed hf, released hf⟩), fun hf h0 => ?_, fun hf ht hi => ?_⟩
    · rw [hzero]
      by_cases ht : irq.Touched
      · by_cases hi : irq.Tracked
        · simp [act_pressed ht hi, ht, hi, Irq.contact]
        · simp [act_other ht hi, ht, hi, lifted hf ht hi]
      · simp [act_released h0 ht, ht]
    · rw [hzero, act_pressed ht hi]

/-! ## Every sequence of interrupts -/

/-- Every interrupt of a sequence leaves what it should exactly when each is harmless where it comes. -/
theorem touches_right (irqs : List Irq) :
    Runs.Meets gt9147_irq_handler Right gt9147_probe irqs ↔
      Runs.Meets gt9147_irq_handler Harmless gt9147_probe irqs := by
  refine Runs.meets_congr_inv (I := fun input => 0 < input.num_slots) (fun input irq h => ?_)
    (fun input irq h => right_iff h irq) irqs (by decide)
  rwa [num_slots_handler]

/-- A good read of a status and of a first record with this track id, at (16, 32). -/
def good (status id : Byte) : Irq := ⟨⟨2, status⟩, ⟨2, fun i => [id, 16#8, 0#8, 32#8, 0#8].getD i 0#8⟩⟩

/-- Fingers 0 and 1 are down, then finger 1 alone: slot 0 stays active. -/
theorem ghost_touch : ¬∀ irqs, Runs.Meets gt9147_irq_handler Right gt9147_probe irqs := by
  intro h
  obtain ⟨-, hlast, -⟩ := h [good 0x82#8 0x00#8, good 0x81#8 0x01#8]
  have hactive := hlast.active (by decide) (by decide)
  revert hactive
  decide +kernel

end Touch.Gt9147
