import LinuxDriver.Touch.Input
/-!
# The reports of the FT5426

`edt_ft5426_ts_isr` reads five records, each with an event, a position and a
4-bit id, and reports a record in the slot of that number. The slots are to
show, of every id, what its records said last.
-/

namespace Touch.Ft5426

open Slots

def MAX_SUPPORT_POINTS : ℕ := 5

def TOUCH_EVENT_UP : Byte := 0x01#8
def TOUCH_EVENT_RESERVED : Byte := 0x03#8

/-! ## The driver -/

/-- The 29 registers from 0x02 on. -/
abbrev Report := Fin 29 → Byte

/-- `rdbuf`, whose last byte is not read into. -/
def rdbuf (report : Report) (i : ℕ) : Byte := if h : i < 29 then report ⟨i, h⟩ else 0#8

/-- `((hi << 8) | lo) & 0x0fff`. -/
def coordinate (hi lo : Byte) : BitVec 32 := (hi.setWidth 32 <<< 8 ||| lo.setWidth 32) &&& 0x0fff#32

/-- The body of the loop. -/
def report_point (input : Input) (buf : ℕ → Byte) : Input :=
  let type := buf 0 >>> 6
  if type = TOUCH_EVENT_RESERVED then input
  else
    let x := coordinate (buf 2) (buf 3)
    let y := coordinate (buf 0) (buf 1)
    let id := (buf 2 >>> 4) &&& 0x0f#8
    let down := decide (type ≠ TOUCH_EVENT_UP)
    let input := (input.input_mt_slot id.toNat).input_mt_report_slot_state down
    if !down then input else (input.input_report_abs_x x).input_report_abs_y y

/-- `none` where the transfer fails. The pointer emulation and the sync do not touch the slots. -/
def edt_ft5426_ts_isr (input : Input) : Option Report → Input
  | none => input
  | some report =>
    (List.range MAX_SUPPORT_POINTS).foldl (fun input i => report_point input fun k => rdbuf report (i * 6 + 1 + k)) input

/-- The end of `edt_ft5426_ts_probe`. -/
def edt_ft5426_ts_probe : Input := .input_mt_init_slots MAX_SUPPORT_POINTS

/-! ## What the slots should show -/

/-- A record that is not reserved. -/
structure Point where
  id : ℕ
  down : Bool
  x : BitVec 32
  y : BitVec 32
  deriving DecidableEq

/-- A touch point of the report, if its event is none of the reserved ones. -/
def point (buf : ℕ → Byte) : Option Point :=
  if buf 0 >>> 6 = TOUCH_EVENT_RESERVED then none
  else
    some ⟨((buf 2 >>> 4) &&& 0x0f#8).toNat, decide (buf 0 >>> 6 ≠ TOUCH_EVENT_UP), coordinate (buf 2) (buf 3),
      coordinate (buf 0) (buf 1)⟩

/-- The points of a report, of none if it could not be read. -/
def points : Option Report → List Point
  | none => []
  | some report => (List.range MAX_SUPPORT_POINTS).filterMap fun i => point fun k => rdbuf report (i * 6 + 1 + k)

/-- Active unless the last point is an UP event, at the position of the last one that is not. -/
def shown (history : List Point) : Contact where
  active := (history.getLast?.map Point.down).getD false
  x := ((history.filter Point.down).getLast?.map Point.x).getD 0#32
  y := ((history.filter Point.down).getLast?.map Point.y).getD 0#32

/-- After these reports each slot shows what the points of its id were, and no other slot was asked for. -/
structure Right (reports : List (Option Report)) (input : Input) : Prop where
  slots : ∀ i < MAX_SUPPORT_POINTS, input.slot i = shown ((reports.flatMap points).filter fun p => p.id = i)
  asked : ∀ i ∈ input.asked, i < MAX_SUPPORT_POINTS

/-! ## One point -/

/-- What a point makes of its slot. -/
def Point.act (p : Point) (c : Contact) : Contact := if p.down then ⟨true, p.x, p.y⟩ else { c with active := false }

/-- What a point reports. -/
def Point.put (input : Input) (p : Point) : Input :=
  { input with mt := (input.mt.select input.num_slots p.id).modify p.act, asked := p.id :: input.asked }

theorem act_of_up {p : Point} (h : p.down = false) : p.act = fun c => { c with active := false } := by
  funext c
  simp [Point.act, h]

theorem act_of_down {p : Point} (h : p.down = true) : p.act = fun _ => ⟨true, p.x, p.y⟩ := by
  funext c
  simp [Point.act, h]

theorem report_point_eq (input : Input) (buf : ℕ → Byte) :
    report_point input buf = match point buf with
      | none => input
      | some p => p.put input := by
  unfold report_point point
  dsimp only
  by_cases hr : buf 0 >>> 6 = TOUCH_EVENT_RESERVED
  · rw [if_pos hr, if_pos hr]
  · rw [if_neg hr, if_neg hr]
    by_cases hu : buf 0 >>> 6 = TOUCH_EVENT_UP
    · have hdown : decide (buf 0 >>> 6 ≠ TOUCH_EVENT_UP) = false := decide_eq_false (not_not_intro hu)
      rw [hdown]
      dsimp only [Point.put]
      rw [act_of_up rfl]
      rfl
    · have hdown : decide (buf 0 >>> 6 ≠ TOUCH_EVENT_UP) = true := decide_eq_true hu
      rw [hdown]
      dsimp only [Point.put]
      rw [act_of_down rfl]
      exact Input.report_press _ _ _

theorem isr_eq (input : Input) (read : Option Report) :
    edt_ft5426_ts_isr input read = (points read).foldl (fun input p => p.put input) input := by
  cases read with
  | none => rfl
  | some report =>
    unfold edt_ft5426_ts_isr points
    dsimp only
    rw [List.foldl_filterMap]
    congr 1
    funext input i
    rw [report_point_eq]
    cases point fun k => rdbuf report (i * 6 + 1 + k) <;> rfl

/-- A point in range changes its slot only. -/
theorem slot_put {input : Input} {p : Point} (h : p.id < input.num_slots) (i : ℕ) :
    (p.put input).slot i = if i = p.id then p.act (input.slot i) else input.slot i :=
  Bank.cell_select_modify input.mt h p.act i

theorem num_slots_put (input : Input) (p : Point) : (p.put input).num_slots = input.num_slots := rfl

/-! ## A history of points -/

theorem shown_append (history : List Point) (p : Point) : shown (history ++ [p]) = p.act (shown history) := by
  unfold shown Point.act
  cases hd : p.down
  · simp [hd, List.filter_append]
  · simp [hd, List.filter_append]

theorem foldl_act (history later : List Point) :
    later.foldl (fun c p => p.act c) (shown history) = shown (history ++ later) := by
  induction later generalizing history with
  | nil => rw [List.append_nil]; rfl
  | cons p later ih =>
    rw [List.foldl_cons, ← shown_append, ih, List.append_assoc]
    rfl

theorem mem_asked {i : ℕ} {input : Input} (history : List Point) :
    i ∈ (history.foldl (fun input p => p.put input) input).asked ↔ (∃ p ∈ history, p.id = i) ∨ i ∈ input.asked := by
  induction history generalizing input with
  | nil => simp
  | cons p history ih =>
    have hput : i ∈ (p.put input).asked ↔ p.id = i ∨ i ∈ input.asked := List.mem_cons.trans (or_congr_left eq_comm)
    rw [List.foldl_cons, ih, hput]
    simp only [List.mem_cons, exists_eq_or_imp]
    rw [← or_assoc, or_comm (b := p.id = i)]

theorem reports_eq (reports : List (Option Report)) (input : Input) :
    reports.foldl edt_ft5426_ts_isr input = (reports.flatMap points).foldl (fun input p => p.put input) input := by
  induction reports generalizing input with
  | nil => rfl
  | cons read reports ih => rw [List.foldl_cons, ih, isr_eq, List.flatMap_cons, List.foldl_append]

/-! ## Every sequence of reports -/

theorem right_of_ids {reports : List (Option Report)} (h : ∀ p ∈ reports.flatMap points, p.id < MAX_SUPPORT_POINTS) :
    Right reports (reports.foldl edt_ft5426_ts_isr edt_ft5426_ts_probe) := by
  rw [reports_eq]
  constructor
  · intro i _
    have hput : ∀ input : Input, input.num_slots = MAX_SUPPORT_POINTS → ∀ p ∈ reports.flatMap points, ∀ i,
        (p.put input).slot i = if i = p.id then p.act (input.slot i) else input.slot i :=
      fun input hn p hp i => slot_put (hn ▸ h p hp) i
    have hcell := cell_foldl (I := fun input : Input => input.num_slots = MAX_SUPPORT_POINTS)
      (fun input p hn => (num_slots_put input p).trans hn) hput (s := edt_ft5426_ts_probe) rfl i
    rw [hcell]
    exact foldl_act [] _
  · intro i hi
    rcases (mem_asked _).1 hi with ⟨p, hp, rfl⟩ | hi
    · exact h p hp
    · cases hi

/-- The slots are right after every report exactly when no point carries an id past the last slot. -/
theorem reports_right (reports : List (Option Report)) :
    (∀ before, before <+: reports → Right before (before.foldl edt_ft5426_ts_isr edt_ft5426_ts_probe)) ↔
      ∀ p ∈ reports.flatMap points, p.id < MAX_SUPPORT_POINTS := by
  constructor
  · intro h p hp
    apply (h reports (List.prefix_refl reports)).asked
    rw [reports_eq]
    exact (mem_asked _).2 (Or.inl ⟨p, hp, rfl⟩)
  · rintro h before ⟨after, rfl⟩
    refine right_of_ids fun p hp => h p ?_
    rw [List.flatMap_append]
    exact List.mem_append_left _ hp

/-- Contact 0 at (16, 32), and after it contact 5 at (48, 64). -/
def high_id : Report := fun i =>
  [0x02#8, 0x80#8, 0x20#8, 0x00#8, 0x10#8, 0x00#8, 0x00#8, 0x80#8, 0x40#8, 0x50#8, 0x30#8, 0x00#8, 0x00#8].getD i 0xff#8

/-- Slot 0 shows the position of contact 5. -/
theorem high_id_astray : ¬∀ reports before : List (Option Report), before <+: reports →
    Right before (before.foldl edt_ft5426_ts_isr edt_ft5426_ts_probe) := by
  intro h
  have hslot := (h [some high_id] _ (List.prefix_refl _)).slots 0 (by decide)
  revert hslot
  decide +kernel

end Touch.Ft5426
