import LinuxDriver.Iio.Ap3216c
/-!
# The scale of the AP3216C

`ap3216c_write_als_scale` looks for the fraction in a table of four and has no
answer for a fraction that is not there. `ap3216c_write_raw` passes on its
return value, and leaves the integer part out.
-/

namespace Iio.Ap3216c

open Threads
open Icm20608 (Reading Mask EINVAL)

/-- The device between two calls, with the triggered buffer enabled or not. -/
def idle (regs : Regs) (buffer : Bool) : Core := { Core.probed regs with buffer := buffer }

/-- The scales: no integer part, and a fraction of the table. -/
def supported : List (BitVec 32 × BitVec 32) := als_scale_ap3216c.map fun val2 => (0#32, val2)

/-- The channel of the ambient light. -/
def Chan.Als (chan : Chan) : Prop := chan.type = .IIO_INTENSITY ∧ chan.channel2 = .IIO_MOD_LIGHT_BOTH

instance (chan : Chan) : Decidable chan.Als := inferInstanceAs (Decidable (_ ∧ _))

/-- What the write and the read after it should do. -/
def Answers (regs : Regs) (buffer : Bool) (chan : Chan) (val val2 : BitVec 32) : Prop :=
  ∃ ret regs', alone (ap3216c_write_raw chan val val2 .SCALE) (idle regs buffer) = some (ret, regs') ∧
    (ret = 0 ↔ chan.Als ∧ (val, val2) ∈ supported) ∧
    (chan.Als ∧ (val, val2) ∈ supported →
      alone (ap3216c_read_raw chan .SCALE) (idle regs' buffer) =
        some (.ok ⟨.IIO_VAL_INT_PLUS_MICRO, val, val2⟩, regs')) ∧
    (¬(chan.Als ∧ (val, val2) ∈ supported) → ret < 0 ∧ regs' AP3216C_ALSCONFIG = regs AP3216C_ALSCONFIG)

variable {regs : Regs} {buffer : Bool} {chan : Chan} {val val2 : BitVec 32}

theorem Chan.Als.exists_eq (h : chan.Als) : ∃ address, chan = ⟨.IIO_INTENSITY, .IIO_MOD_LIGHT_BOTH, address⟩ := by
  obtain ⟨type, channel2, address⟩ := chan
  obtain ⟨rfl, rfl⟩ : type = .IIO_INTENSITY ∧ channel2 = .IIO_MOD_LIGHT_BOTH := h
  exact ⟨address, rfl⟩

theorem read_scale_eq (h : chan.Als) :
    alone (ap3216c_read_raw chan .SCALE) (idle regs buffer) =
      some (.ok ⟨.IIO_VAL_INT_PLUS_MICRO, 0#32,
        als_scale_ap3216c.getD ((regs AP3216C_ALSCONFIG &&& 0x30#8) >>> 4).toNat 0#32⟩, regs) := by
  obtain ⟨address, rfl⟩ := h.exists_eq
  rfl

/-- An entry of the table goes into bits 4 and 5. -/
theorem write_scale_known (h : chan.Als) {i : ℕ} (hi : als_scale_ap3216c[i]? = some val2) :
    alone (ap3216c_write_raw chan val val2 .SCALE) (idle regs buffer) =
      some ((0 : ℤ), Mem.write regs AP3216C_ALSCONFIG [BitVec.ofNat 8 (i <<< 4)]) := by
  obtain ⟨address, rfl⟩ := h.exists_eq
  obtain ⟨hlen, rfl⟩ := List.getElem?_eq_some_iff.1 hi
  match i, hlen with
  | 0, _ | 1, _ | 2, _ | 3, _ => cases buffer <;> rfl

/-- The loop ends without a match, and `ret` is still 0. -/
theorem write_scale_unknown (h : chan.Als) (hn : val2 ∉ als_scale_ap3216c) :
    alone (ap3216c_write_raw chan val val2 .SCALE) (idle regs buffer) = some (0, regs) := by
  obtain ⟨address, rfl⟩ := h.exists_eq
  have hloop : ap3216c_write_als_scale val2 .IIO_MOD_LIGHT_BOTH = return 0 := by
    simp only [als_scale_ap3216c, List.mem_cons, List.not_mem_nil, or_false, not_or] at hn
    obtain ⟨h0, h1, h2, h3⟩ := hn
    simp [ap3216c_write_als_scale, als_scale_ap3216c, Ne.symm h0, Ne.symm h1, Ne.symm h2, Ne.symm h3]
  cases buffer
  all_goals
    simp only [ap3216c_write_raw, write_switch, hloop]
    rfl

/-- On the channel of the ambient light the write returns 0, whatever the scale. -/
theorem write_scale_zero (h : chan.Als) {ret : ℤ} {regs' : Regs}
    (hw : alone (ap3216c_write_raw chan val val2 .SCALE) (idle regs buffer) = some (ret, regs')) : ret = 0 := by
  by_cases hm : val2 ∈ als_scale_ap3216c
  · obtain ⟨i, hi⟩ := List.mem_iff_getElem?.1 hm
    rw [write_scale_known h hi] at hw
    exact (congrArg Prod.fst (Option.some.inj hw)).symm
  · rw [write_scale_unknown h hm] at hw
    exact (congrArg Prod.fst (Option.some.inj hw)).symm

theorem write_scale_refused (h : ¬chan.Als) :
    alone (ap3216c_write_raw chan val val2 .SCALE) (idle regs buffer) = some (-EINVAL, regs) := by
  obtain ⟨type, channel2, address⟩ := chan
  cases type
  · cases channel2
    · cases buffer <;> rfl
    · exact absurd ⟨rfl, rfl⟩ h
    · cases buffer <;> rfl
  · cases buffer <;> rfl

theorem mem_supported : (val, val2) ∈ supported ↔ val = 0#32 ∧ val2 ∈ als_scale_ap3216c := by
  unfold supported
  constructor
  · intro h
    obtain ⟨_, hm, he⟩ := List.mem_map.1 h
    obtain ⟨rfl, rfl⟩ := Prod.mk.inj he
    exact ⟨rfl, hm⟩
  · rintro ⟨rfl, hm⟩
    exact List.mem_map.2 ⟨val2, hm, rfl⟩

/-- The scale is answered for exactly when the channel is not that of the
ambient light or the scale is supported. -/
theorem write_scale_answers (regs : Regs) (buffer : Bool) (chan : Chan) (val val2 : BitVec 32) :
    Answers regs buffer chan val val2 ↔ (chan.Als → (val, val2) ∈ supported) := by
  constructor
  · rintro ⟨ret, regs', hw, hret, _, _⟩ ha
    exact (hret.1 (write_scale_zero ha hw)).2
  · intro h
    by_cases ha : chan.Als
    · have hs := h ha
      obtain ⟨rfl, hm⟩ := mem_supported.1 hs
      obtain ⟨i, hi⟩ := List.mem_iff_getElem?.1 hm
      refine ⟨_, _, write_scale_known ha hi, iff_of_true rfl ⟨ha, hs⟩, fun _ => ?_, fun hn => absurd ⟨ha, hs⟩ hn⟩
      have hbits : ∀ i < 4, ((BitVec.ofNat 8 (i <<< 4) &&& 0x30#8) >>> 4).toNat = i := by decide
      have hreg : Mem.write regs AP3216C_ALSCONFIG [BitVec.ofNat 8 (i <<< 4)] AP3216C_ALSCONFIG = BitVec.ofNat 8 (i <<< 4) := by
        simpa using Mem.write_inside regs AP3216C_ALSCONFIG [BitVec.ofNat 8 (i <<< 4)] (k := 0) (by simp)
      rw [read_scale_eq ha, hreg, hbits i (List.getElem?_eq_some_iff.1 hi).1, List.getD_eq_getElem?_getD, hi]
      rfl
    · refine ⟨_, _, write_scale_refused ha, iff_of_false (by decide) fun h => ha h.1, fun h => absurd h.1 ha, fun _ => ?_⟩
      exact ⟨by decide, rfl⟩

/-- 1.5 is no scale; the write returns 0. -/
theorem unknown_scale_accepted :
    ¬∀ (regs : Regs) (buffer : Bool) (chan : Chan) (val val2 : BitVec 32), Answers regs buffer chan val val2 := by
  intro h
  obtain ⟨ret, regs', hw, hret, _, _⟩ := h (fun _ => 0#8) false als_chan 1#32 500000#32
  have hm := (hret.1 (write_scale_zero (by decide) hw)).2
  exact absurd hm (by decide)

end Iio.Ap3216c
