import LinuxDriver.Iio.Direct
import LinuxDriver.Iio.Scale
/-!
# Transfers that fail

`ap3216c_read_raw` and `icm20608_read_raw` on a bus whose transfers fail or
succeed as they like. A transfer that fails leaves anything in its buffer. A
reading is worth something if all transfers it was made from have succeeded.
-/

namespace Iio

open Threads
open Icm20608 (Reading Mask EINVAL)

/-- A device, and what its transfers returned so far. -/
structure Bus where
  core : Core
  codes : List ℤ

/-- One call; the `n`-th transfer ends with the `n`-th outcome. -/
def Bus.exec (outs : ℕ → Outcome) (b : Bus) (o : Prim) : Option (o.Res × Bus) :=
  (b.core.exec 0 (outs b.codes.length) o).map fun r =>
    (r.1, ⟨r.2, if o.accesses then (outs b.codes.length).ret :: b.codes else b.codes⟩)

/-- What the program returns, and what its transfers returned. -/
def faulty {α : Type} (outs : ℕ → Outcome) (p : Run α) (s : Core) : Option (α × List ℤ) :=
  (p.solo (Bus.exec outs) ⟨s, []⟩).map fun r => (r.1, r.2.codes)

/-- A read that reports success had no failed transfer; any other returns a negative code. -/
def Honest (r : Option (Except ℤ Reading × List ℤ)) : Prop :=
  ∃ ret codes, r = some (ret, codes) ∧ (∀ reading, ret = .ok reading → ∀ code ∈ codes, code = 0) ∧
    ∀ e, ret = .error e → e < 0

/-- The reads that drop the status of their transfer. -/
def Ap3216c.Chan.drops (chan : Ap3216c.Chan) (mask : Mask) : Prop :=
  mask = .RAW ∧ chan.type = .IIO_PROXIMITY ∨ mask = .SCALE ∧ chan.type = .IIO_INTENSITY

/-- The channel and mask with which `read_raw` drops a failed read: the scales. -/
def Icm20608.Chan.drops (chan : Icm20608.Chan) (mask : Mask) : Prop := mask = .SCALE ∧ chan.type ≠ .IIO_TEMP

/-! ## The first transfer -/

theorem honest_ok {reading : Reading} {codes : List ℤ} (h : ∀ code ∈ codes, code = 0) :
    Honest (some (.ok reading, codes)) :=
  ⟨_, _, rfl, fun _ _ => h, nofun⟩

/-- One transfer that succeeds. -/
theorem honest_read {reading : Reading} : Honest (some (.ok reading, [0])) := honest_ok (by simp)

/-- No transfer at all. -/
theorem honest_constant {reading : Reading} : Honest (some (.ok reading, [])) := honest_ok (by simp)

theorem honest_refused {codes : List ℤ} : Honest (some (.error (-EINVAL), codes)) := by
  refine ⟨_, _, rfl, nofun, ?_⟩
  rintro _ ⟨⟩
  decide

theorem code_of_honest {reading : Reading} {code : ℤ} (h : Honest (some (.ok reading, [code]))) : code = 0 := by
  obtain ⟨ret, codes, he, hok, _⟩ := h
  obtain ⟨rfl, rfl⟩ := Prod.mk.inj (Option.some.inj he)
  exact hok reading rfl code List.mem_cons_self

/-- Outcomes by the first and the others. -/
def outcomes (e : Outcome) (rest : ℕ → Outcome) : ℕ → Outcome
  | 0 => e
  | n + 1 => rest n

theorem outcomes_eq (outs : ℕ → Outcome) : outcomes (outs 0) (fun n => outs (n + 1)) = outs := by
  funext n
  cases n <;> rfl

variable (e : Outcome) (rest : ℕ → Outcome) (regs : Regs) (buffer : Bool)

theorem ap3216c_drops {chan : Ap3216c.Chan} {mask : Mask} (h : chan.drops mask) :
    ∃ reading, faulty (outcomes e rest) (Ap3216c.ap3216c_read_raw chan mask) (Ap3216c.idle regs buffer) =
      some (.ok reading, [e.ret]) := by
  obtain ⟨type, channel2, address⟩ := chan
  rcases h with ⟨rfl, ht⟩ | ⟨rfl, ht⟩
  all_goals
    dsimp only at ht
    subst ht
    cases e <;> exact ⟨_, rfl⟩

theorem ap3216c_honest {chan : Ap3216c.Chan} {mask : Mask} (h : ¬chan.drops mask) :
    Honest (faulty (outcomes e rest) (Ap3216c.ap3216c_read_raw chan mask) (Ap3216c.idle regs buffer)) := by
  obtain ⟨type, channel2, address⟩ := chan
  cases mask with
  | RAW =>
    cases type with
    | IIO_PROXIMITY => exact absurd (Or.inl ⟨rfl, rfl⟩) h
    | IIO_INTENSITY =>
      cases channel2 with
      | IIO_NO_MOD => exact honest_refused
      | IIO_MOD_LIGHT_BOTH | IIO_MOD_LIGHT_IR =>
        cases e with
        | ok => exact honest_read
        | error code left => exact honest_refused
  | SCALE =>
    cases type with
    | IIO_PROXIMITY => exact honest_refused
    | IIO_INTENSITY => exact absurd (Or.inr ⟨rfl, rfl⟩) h
  | OFFSET | CALIBBIAS | other => exact honest_refused

theorem icm20608_drops {chan : Icm20608.Chan} {mask : Mask} (h : chan.drops mask) :
    ∃ reading, faulty (outcomes e rest) (Icm20608.Direct.icm20608_read_raw chan mask) (Ap3216c.idle regs buffer) =
      some (.ok reading, [e.ret]) := by
  obtain ⟨type, channel2⟩ := chan
  obtain ⟨rfl, ht⟩ := h
  cases type with
  | IIO_TEMP => exact absurd rfl ht
  | IIO_ANGL_VEL | IIO_ACCEL => cases e <;> exact ⟨_, rfl⟩

theorem icm20608_honest {chan : Icm20608.Chan} {mask : Mask} (h : ¬chan.drops mask) :
    Honest (faulty (outcomes e rest) (Icm20608.Direct.icm20608_read_raw chan mask) (Ap3216c.idle regs buffer)) := by
  obtain ⟨type, channel2⟩ := chan
  cases mask with
  | RAW =>
    -- the claim is refused while the buffer is enabled, and that is ignored
    cases e with
    | ok => cases type <;> cases buffer <;> exact honest_read
    | error code left => cases type <;> cases buffer <;> exact honest_refused
  | SCALE =>
    cases type with
    | IIO_TEMP => exact honest_constant
    | IIO_ANGL_VEL | IIO_ACCEL => exact absurd ⟨rfl, nofun⟩ h
  | CALIBBIAS =>
    cases type with
    | IIO_TEMP => exact honest_refused
    | IIO_ANGL_VEL | IIO_ACCEL =>
      cases e with
      | ok => exact honest_read
      | error code left => exact honest_refused
  | OFFSET =>
    cases type with
    | IIO_TEMP => exact honest_constant
    | IIO_ANGL_VEL | IIO_ACCEL => exact honest_refused
  | other => exact honest_refused

/-! ## Every transfer -/

variable (outs : ℕ → Outcome)

/-- A read that drops the code of its one transfer, or is honest, for each first outcome. -/
theorem honest_iff {p : Run (Except ℤ Reading)} {s : Core} {drops : Prop}
    (hd : ∀ e rest, drops → ∃ reading, faulty (outcomes e rest) p s = some (.ok reading, [e.ret]))
    (hh : ∀ e rest, ¬drops → Honest (faulty (outcomes e rest) p s)) :
    Honest (faulty outs p s) ↔ (outs 0).ret = 0 ∨ ¬drops := by
  rw [← outcomes_eq outs]
  by_cases h : drops
  · obtain ⟨reading, hr⟩ := hd (outs 0) (fun n => outs (n + 1)) h
    rw [hr]
    constructor
    · intro h'
      exact Or.inl (code_of_honest h')
    · intro h'
      have hz : (outs 0).ret = 0 := h'.resolve_right (not_not_intro h)
      exact honest_ok (by simp [hz])
  · exact iff_of_true (hh _ _ h) (Or.inr h)

/-- A read is honest exactly when its transfer succeeds or its status is looked at. -/
theorem read_raw_honest :
    (∀ (chan : Ap3216c.Chan) (mask : Mask),
      Honest (faulty outs (Ap3216c.ap3216c_read_raw chan mask) (Ap3216c.idle regs buffer)) ↔
        (outs 0).ret = 0 ∨ ¬chan.drops mask) ∧
    ∀ (chan : Icm20608.Chan) (mask : Mask),
      Honest (faulty outs (Icm20608.Direct.icm20608_read_raw chan mask) (Ap3216c.idle regs buffer)) ↔
        (outs 0).ret = 0 ∨ ¬chan.drops mask := by
  constructor
  · intro chan mask
    apply honest_iff
    · intro e rest
      exact ap3216c_drops e rest regs buffer
    · intro e rest
      exact ap3216c_honest e rest regs buffer
  · intro chan mask
    apply honest_iff
    · intro e rest
      exact icm20608_drops e rest regs buffer
    · intro e rest
      exact icm20608_honest e rest regs buffer

/-- The proximity is read over a bus that does not answer, and the buffer happens to hold ones. -/
theorem proximity_unread :
    ¬∀ (outs : ℕ → Outcome) (regs : Regs) (buffer : Bool) (chan : Ap3216c.Chan) (mask : Mask),
      Honest (faulty outs (Ap3216c.ap3216c_read_raw chan mask) (Ap3216c.idle regs buffer)) := by
  intro h
  have hps := h (fun _ => .error 4 fun _ => 0xff#8) (fun _ => 0#8) false Ap3216c.ps_chan .RAW
  obtain ⟨ret, codes, he, hok, _⟩ := hps
  have hval : faulty (fun _ => .error 4 fun _ => 0xff#8) (Ap3216c.ap3216c_read_raw Ap3216c.ps_chan .RAW)
      (Ap3216c.idle (fun _ => 0#8) false) = some (.ok ⟨.IIO_VAL_INT, 1023#32, 0#32⟩, [-5]) := rfl
  obtain ⟨rfl, rfl⟩ := Prod.mk.inj (Option.some.inj (hval.symm.trans he))
  exact absurd (hok _ rfl (-5) List.mem_cons_self) (by decide)

end Iio
