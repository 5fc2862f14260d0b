import LinuxDriver.Lib.Slots
import Mathlib.Data.BitVec
/-!
# Touches in the input core

The multitouch part of an input device: its slots, one of which is selected.
A slot number out of range is ignored, and what is reported next goes to the
slot that was selected before.
-/

namespace Touch

open Slots

/-- Eight bits. -/
abbrev Byte := BitVec 8

/-- What a slot shows. The position of a touch that has ended stays. -/
structure Contact where
  active : Bool
  x : BitVec 32
  y : BitVec 32
  deriving DecidableEq

/-- `asked` lists the arguments of `input_mt_slot`, the last one first. -/
structure Input where
  num_slots : ℕ
  mt : Bank Contact
  asked : List ℕ

namespace Input

/-- The kernel's: all slots are free. -/
def input_mt_init_slots (num_slots : ℕ) : Input := ⟨num_slots, ⟨0, fun _ => ⟨false, 0#32, 0#32⟩⟩, []⟩

/-- The contact in slot `i`. -/
def slot (input : Input) (i : ℕ) : Contact := input.mt.cell i

/-- The kernel's: the slot that the next reports are about, if there is one of this number. -/
def input_mt_slot (input : Input) (slot : ℕ) : Input :=
  { input with mt := input.mt.select input.num_slots slot, asked := slot :: input.asked }

/-- The kernel's. -/
def input_mt_report_slot_state (input : Input) (active : Bool) : Input :=
  { input with mt := input.mt.modify fun c => { c with active := active } }

/-- `input_report_abs` of `ABS_MT_POSITION_X` and `ABS_MT_POSITION_Y`. -/
def input_report_abs_x (input : Input) (x : BitVec 32) : Input :=
  { input with mt := input.mt.modify fun c => { c with x := x } }

/-- The kernel's. -/
def input_report_abs_y (input : Input) (y : BitVec 32) : Input :=
  { input with mt := input.mt.modify fun c => { c with y := y } }

/-- A press says all that a slot shows. -/
theorem report_press (input : Input) (x y : BitVec 32) :
    ((input.input_mt_report_slot_state true).input_report_abs_x x).input_report_abs_y y =
      { input with mt := input.mt.modify fun _ => ⟨true, x, y⟩ } := by
  simp [input_mt_report_slot_state, input_report_abs_x, input_report_abs_y]

end Input

end Touch
