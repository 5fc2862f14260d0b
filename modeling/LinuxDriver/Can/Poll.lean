import LinuxDriver.Can.Frame
import LinuxDriver.Lib.Runs
/-!
# Reception and errors

`m_can_poll` with what it calls: changes of the error state, bus errors, and
the loop that takes messages out of RX FIFO 0 as long as its budget lasts.
Messages may arrive and allocations may fail at any turn of the loop.
-/

namespace Can

/-- The kernel's states of a CAN device. -/
inductive can_state
  | CAN_STATE_ERROR_ACTIVE
  | CAN_STATE_ERROR_WARNING
  | CAN_STATE_ERROR_PASSIVE
  | CAN_STATE_BUS_OFF
  | CAN_STATE_STOPPED
  | CAN_STATE_SLEEPING
  deriving DecidableEq

open can_state

def IR_BO : Word := BitVec.twoPow 32 25
def IR_EW : Word := BitVec.twoPow 32 24
def IR_EP : Word := BitVec.twoPow 32 23
def IR_RF0L : Word := BitVec.twoPow 32 3
def IR_RF0N : Word := BitVec.twoPow 32 0
def IR_MRAF : Word := BitVec.twoPow 32 17

/-- The interrupts that tell of a change of the error state. -/
def IR_ERR_STATE : Word := IR_BO ||| IR_EW ||| IR_EP
/-- `IR_STE`, `IR_FOE`, `IR_ACKE`, `IR_BE`, `IR_CRCE`, `IR_WDI`, `IR_ELO`, `IR_BEU`, `IR_BEC`, `IR_TOO`, `IR_MRAF`,
`IR_TSW`, `IR_TEFL`, `IR_RF1L`, `IR_RF0L` -/
def IR_ERR_BUS_30X : Word := 0xFC778088

def PSR_BO : Word := BitVec.twoPow 32 7
def PSR_EW : Word := BitVec.twoPow 32 6
def PSR_EP : Word := BitVec.twoPow 32 5
def LEC_UNUSED : Word := 7
def ECR_RP : Word := BitVec.twoPow 32 15

def CAN_ERR_FLAG : Word := 0x20000000
def CAN_ERR_CRTL : Word := 0x4
def CAN_ERR_PROT : Word := 0x8
def CAN_ERR_BUSOFF : Word := 0x40
def CAN_ERR_BUSERROR : Word := 0x80
def CAN_ERR_DLC : ℕ := 8

/-- What the stack gets: a frame from the bus, or an error frame. -/
inductive Up
  | frame (skb : sk_buff)
  | error (can_id : Word) (data : ℕ → Byte)

/-- The frame, if it is one from the bus. -/
def Up.frame? : Up → Option sk_buff
  | frame skb => some skb
  | error _ _ => none

/-- The counters of the network and of the CAN device. -/
structure Stats where
  rx_packets : ℕ := 0
  rx_bytes : ℕ := 0
  rx_dropped : ℕ := 0
  rx_errors : ℕ := 0
  rx_over_errors : ℕ := 0
  error_warning : ℕ := 0
  error_passive : ℕ := 0
  bus_off : ℕ := 0
  bus_error : ℕ := 0

/-- `fifo` is RX FIFO 0, `arrived` every element it ever took, `cleared` those it lost to a start, `up` what went to the
stack. -/
structure Dev where
  state : can_state := CAN_STATE_STOPPED
  interrupts : Bool := false
  stats : Stats := {}
  fifo : List (ℕ → Word) := []
  arrived : List (ℕ → Word) := []
  cleared : List (ℕ → Word) := []
  up : List Up := []

/-- The registers a poll reads, and which of its allocations succeed. -/
structure Regs where
  irqstatus : Word
  ir : Word
  psr : Word
  ecr : Word
  version : ℕ
  berr_reporting : Bool
  alloc : ℕ → Bool

/-- What happens at a turn of the receive loop: whether the allocation succeeds, and what arrives meanwhile. -/
structure Turnover where
  alloc : Bool
  arriving : List (ℕ → Word)

/-! ## Errors -/

/-- The data of an error frame, from zeros, by what is set in which byte. -/
def error_data (l : List (ℕ × Byte)) : ℕ → Byte := l.foldl (fun d e => Function.update d e.1 (d e.1 ||| e.2)) fun _ => 0

/-- An error frame goes up and is counted as received. -/
def raise (can_id : Word) (data : ℕ → Byte) (d : Dev) : Dev := { d with
  up := d.up ++ [.error (CAN_ERR_FLAG ||| can_id) data]
  stats := { d.stats with rx_packets := d.stats.rx_packets + 1, rx_bytes := d.stats.rx_bytes + CAN_ERR_DLC } }

/-- The transmit error counter in `ECR`. -/
def txerr (ecr : Word) : Byte := (ecr &&& (0xff : Word)).setWidth 8

/-- The receive error counter in `ECR`. -/
def rxerr (ecr : Word) : Byte := ((ecr &&& (0x7f00 : Word)) >>> 8).setWidth 8

/-- The first `switch` of `m_can_handle_state_change`. -/
def enter_state (new_state : can_state) (d : Dev) : Dev :=
  match new_state with
  | CAN_STATE_ERROR_ACTIVE => { d with
      state := CAN_STATE_ERROR_WARNING
      stats := { d.stats with error_warning := d.stats.error_warning + 1 } }
  | CAN_STATE_ERROR_PASSIVE => { d with
      state := CAN_STATE_ERROR_PASSIVE
      stats := { d.stats with error_passive := d.stats.error_passive + 1 } }
  | CAN_STATE_BUS_OFF => { d with
      state := CAN_STATE_BUS_OFF
      interrupts := false
      stats := { d.stats with bus_off := d.stats.bus_off + 1 } }
  | _ => d

/-- The second one: identifier and data of the error frame. -/
def state_frame (ecr : Word) : can_state → Word × (ℕ → Byte)
  | CAN_STATE_ERROR_ACTIVE =>
    (CAN_ERR_CRTL, error_data [(1, if txerr ecr > rxerr ecr then 0x08 else 0x04), (6, txerr ecr), (7, rxerr ecr)])
  | CAN_STATE_ERROR_PASSIVE =>
    (CAN_ERR_CRTL, error_data [(1, if ecr &&& ECR_RP ≠ 0 then 0x10 else 0), (1, if txerr ecr > 127 then 0x20 else 0),
      (6, txerr ecr), (7, rxerr ecr)])
  | CAN_STATE_BUS_OFF => (CAN_ERR_BUSOFF, error_data [])
  | _ => (0, error_data [])

/-- The new state and its error frame, if one can be allocated; the number is the work done. -/
def m_can_handle_state_change (r : Regs) (alloc : Bool) (new_state : can_state) (d : Dev) : Dev × ℕ :=
  let d := enter_state new_state d
  if alloc then (raise (state_frame r.ecr new_state).1 (state_frame r.ecr new_state).2 d, 1) else (d, 0)

/-- One of the three tests of `m_can_handle_state_errors`. -/
def state_error (r : Regs) (alloc : Bool) (bit : Word) (new_state : can_state) (d : Dev) : Dev × ℕ :=
  if r.psr &&& bit ≠ 0 ∧ d.state ≠ new_state then m_can_handle_state_change r alloc new_state d else (d, 0)

/-- The three tests of `PSR`, one after the other on what the one before has left. -/
def m_can_handle_state_errors (r : Regs) (d : Dev) : Dev × ℕ :=
  let (d, work_done) := state_error r (r.alloc 0) PSR_EW CAN_STATE_ERROR_WARNING d
  let (d, work) := state_error r (r.alloc 1) PSR_EP CAN_STATE_ERROR_PASSIVE d
  let work_done := work_done + work
  let (d, work) := state_error r (r.alloc 2) PSR_BO CAN_STATE_BUS_OFF d
  (d, work_done + work)

/-- The overflow frame is not counted as received. -/
def m_can_handle_lost_msg (alloc : Bool) (d : Dev) : Dev × ℕ :=
  let d := { d with stats := { d.stats with
    rx_errors := d.stats.rx_errors + 1, rx_over_errors := d.stats.rx_over_errors + 1 } }
  if alloc then ({ d with up := d.up ++ [.error (CAN_ERR_FLAG ||| CAN_ERR_CRTL) (error_data [(1, 0x01)])] }, 1) else (d, 0)

/-- What the last error code puts into an error frame. -/
def lec_data (lec : ℕ) : ℕ → Byte := error_data <|
  match lec with
  | 1 => [(2, 0x04)]
  | 2 => [(2, 0x02)]
  | 3 => [(3, 0x19)]
  | 4 => [(2, 0x10)]
  | 5 => [(2, 0x08)]
  | 6 => [(3, 0x08)]
  | _ => []

/-- A bus error is counted, and reported if the frame can be allocated. -/
def m_can_handle_lec_err (alloc : Bool) (lec : ℕ) (d : Dev) : Dev × ℕ :=
  let d := { d with stats := { d.stats with
    bus_error := d.stats.bus_error + 1, rx_errors := d.stats.rx_errors + 1 } }
  if alloc then (raise (CAN_ERR_PROT ||| CAN_ERR_BUSERROR) (lec_data lec) d, 1) else (d, 0)

/-- The last error code is one: neither no error nor no change. -/
def is_lec_err (psr : Word) : Bool := psr &&& LEC_UNUSED ≠ 0 ∧ psr &&& LEC_UNUSED ≠ LEC_UNUSED

/-- A lost message and a bus error, each if the registers tell of it. -/
def m_can_handle_bus_errors (r : Regs) (irqstatus : Word) (d : Dev) : Dev × ℕ :=
  let (d, work_done) := if irqstatus &&& IR_RF0L ≠ 0 then m_can_handle_lost_msg (r.alloc 3) d else (d, 0)
  let (d, work) := if r.berr_reporting ∧ is_lec_err r.psr then m_can_handle_lec_err (r.alloc 4) (r.psr &&& LEC_UNUSED).toNat d
    else (d, 0)
  (d, work_done + work)

/-! ## Messages -/

variable (dlc : Dlc) (num : ℕ)

/-- The hardware keeps a message if RX FIFO 0 has room. -/
def arrive (elem : ℕ → Word) (d : Dev) : Dev :=
  if d.fifo.length < num then { d with fifo := d.fifo ++ [elem], arrived := d.arrived ++ [elem] } else d

/-- Without a socket buffer the message stays where it is, counted as dropped. -/
def m_can_read_fifo (alloc : Bool) (d : Dev) : Dev :=
  match d.fifo with
  | [] => d
  | elem :: rest =>
    if alloc then { d with
      fifo := rest
      up := d.up ++ [.frame (read_element dlc elem)]
      stats := { d.stats with
        rx_packets := d.stats.rx_packets + 1
        rx_bytes := d.stats.rx_bytes + (read_element dlc elem).cf.len } }
    else { d with stats := { d.stats with rx_dropped := d.stats.rx_dropped + 1 } }

/-- The loop of `m_can_do_rx_poll`; the number is `pkts`. -/
def rx_loop (turns : ℕ → Turnover) : ℕ → Dev → Dev × ℕ
  | 0, d => (d, 0)
  | quota + 1, d =>
    if d.fifo = [] then (d, 0)
    else
      let d := m_can_read_fifo dlc (turns quota).alloc d
      let d := (turns quota).arriving.foldl (fun d elem => arrive num elem d) d
      let (d, pkts) := rx_loop turns quota d
      (d, pkts + 1)

/-- The receive loop under the name of the function it is. -/
def m_can_do_rx_poll (turns : ℕ → Turnover) (quota : ℕ) (d : Dev) : Dev × ℕ := rx_loop dlc num turns quota d

/-- Spurious `IR_MRAF` of older cores are masked. -/
def poll_irqstatus (r : Regs) : Word :=
  let irqstatus := r.irqstatus ||| r.ir
  if r.version ≤ 31 ∧ irqstatus &&& IR_MRAF ≠ 0 ∧ r.ecr &&& ECR_RP ≠ 0 ∧ rxerr r.ecr = 127 then irqstatus &&& ~~~IR_MRAF
  else irqstatus

/-- The poll with the budget `quota`: error states, bus errors, messages. With budget left the interrupts are enabled
again. -/
def m_can_poll (r : Regs) (turns : ℕ → Turnover) (quota : ℕ) (d : Dev) : Dev × ℕ :=
  if r.irqstatus ||| r.ir = 0 then (d, 0)
  else
    let irqstatus := poll_irqstatus r
    let (d, work_done) := if irqstatus &&& IR_ERR_STATE ≠ 0 then m_can_handle_state_errors r d else (d, 0)
    let (d, work) := if irqstatus &&& IR_ERR_BUS_30X ≠ 0 then m_can_handle_bus_errors r irqstatus d else (d, 0)
    let work_done := work_done + work
    let (d, work) := if irqstatus &&& IR_RF0N ≠ 0 then m_can_do_rx_poll dlc num turns (quota - work_done) d else (d, 0)
    let work_done := work_done + work
    (if work_done < quota then { d with interrupts := true } else d, work_done)

/-! ## Runs -/

/-- What happens to the device. -/
inductive Event
  | start   -- `m_can_start`
  | stop
  | arrival (elem : ℕ → Word)
  | poll (r : Regs) (turns : ℕ → Turnover) (quota : ℕ)

/-- The controller resets its FIFOs when a start lets it be configured. -/
def event_step (d : Dev) : Event → Dev
  | .start => { d with
      state := CAN_STATE_ERROR_ACTIVE, interrupts := true, fifo := [], cleared := d.cleared ++ d.fifo }
  | .stop => { d with state := CAN_STATE_STOPPED, interrupts := false }
  | .arrival elem => arrive num elem d
  | .poll r turns quota => (m_can_poll dlc num r turns quota d).1

/-- The frames among what went up. -/
def frames (d : Dev) : List sk_buff := d.up.filterMap Up.frame?

/-- What has left the FIFO, each element with whether it went up or was cleared, accounts for what arrived and waits no
more, for the frames that went up, and for what was cleared, all in order. -/
structure Account (d : Dev) (left : List ((ℕ → Word) × Bool)) : Prop where
  arrived : d.arrived = left.map (·.1) ++ d.fifo
  up : frames d = (left.filter (·.2)).map (read_element dlc ·.1)
  cleared : d.cleared = (left.filter (!·.2)).map (·.1)

/-- What arrived went up, was cleared or waits. -/
def Delivered (d : Dev) : Prop := ∃ left, Account dlc d left

/-- Nothing but error frames has gone up, `n` at most. -/
structure Errors (d d' : Dev) (work n : ℕ) : Prop where
  fifo : d'.fifo = d.fifo
  arrived : d'.arrived = d.arrived
  cleared : d'.cleared = d.cleared
  frames : frames d' = frames d
  work : work ≤ n

variable {dlc} {d d' : Dev}

@[simp] theorem frames_raise (can_id : Word) (data : ℕ → Byte) (d : Dev) : frames (raise can_id data d) = frames d := by
  simp [frames, raise, Up.frame?]

theorem Errors.refl (d : Dev) (n : ℕ) : Errors d d 0 n := ⟨rfl, rfl, rfl, rfl, Nat.zero_le n⟩

theorem Errors.trans {d₁ d₂ d₃ : Dev} {v w m n : ℕ} (h : Errors d₁ d₂ v m) (h' : Errors d₂ d₃ w n) :
    Errors d₁ d₃ (v + w) (m + n) :=
  ⟨h'.fifo.trans h.fifo, h'.arrived.trans h.arrived, h'.cleared.trans h.cleared, h'.frames.trans h.frames,
    Nat.add_le_add h.work h'.work⟩

theorem state_change_errors (r : Regs) (alloc : Bool) (new_state : can_state) (d : Dev) :
    Errors d (m_can_handle_state_change r alloc new_state d).1 (m_can_handle_state_change r alloc new_state d).2 1 := by
  have enter : Errors d (enter_state new_state d) 0 0 := by
    cases new_state <;> exact ⟨rfl, rfl, rfl, rfl, Nat.le_refl _⟩
  unfold m_can_handle_state_change
  cases alloc
  · exact ⟨enter.fifo, enter.arrived, enter.cleared, enter.frames, Nat.zero_le _⟩
  · exact ⟨enter.fifo, enter.arrived, enter.cleared, (frames_raise ..).trans enter.frames, Nat.le_refl _⟩

theorem state_error_errors (r : Regs) (alloc : Bool) (bit : Word) (new_state : can_state) (d : Dev) :
    Errors d (state_error r alloc bit new_state d).1 (state_error r alloc bit new_state d).2 1 := by
  unfold state_error
  split
  · exact state_change_errors ..
  · exact .refl d 1

theorem state_errors_errors (r : Regs) (d : Dev) :
    Errors d (m_can_handle_state_errors r d).1 (m_can_handle_state_errors r d).2 3 :=
  ((state_error_errors ..).trans (state_error_errors ..)).trans (state_error_errors ..)

theorem lost_msg_errors (alloc : Bool) (d : Dev) :
    Errors d (m_can_handle_lost_msg alloc d).1 (m_can_handle_lost_msg alloc d).2 1 := by
  unfold m_can_handle_lost_msg
  cases alloc
  · exact ⟨rfl, rfl, rfl, rfl, Nat.zero_le _⟩
  · exact ⟨rfl, rfl, rfl, by simp [frames, Up.frame?], Nat.le_refl _⟩

theorem lec_err_errors (alloc : Bool) (lec : ℕ) (d : Dev) :
    Errors d (m_can_handle_lec_err alloc lec d).1 (m_can_handle_lec_err alloc lec d).2 1 := by
  unfold m_can_handle_lec_err
  cases alloc
  · exact ⟨rfl, rfl, rfl, rfl, Nat.zero_le _⟩
  · exact ⟨rfl, rfl, rfl, frames_raise .., Nat.le_refl _⟩

/-- Work that is done on a condition. -/
theorem Errors.ite {c : Prop} [Decidable c] {p : Dev × ℕ} {d : Dev} {n : ℕ} (h : Errors d p.1 p.2 n) :
    Errors d (if c then p else (d, 0)).1 (if c then p else (d, 0)).2 n := by
  split
  · exact h
  · exact .refl d n

theorem bus_errors_errors (r : Regs) (irqstatus : Word) (d : Dev) :
    Errors d (m_can_handle_bus_errors r irqstatus d).1 (m_can_handle_bus_errors r irqstatus d).2 2 := by
  have lost : Errors d (if irqstatus &&& IR_RF0L ≠ 0 then m_can_handle_lost_msg (r.alloc 3) d else (d, 0)).1 _ 1 :=
    (lost_msg_errors (r.alloc 3) d).ite
  exact lost.trans (lec_err_errors ..).ite

/-! ## What a poll keeps -/

/-- What everything a poll calls after `m_can_handle_state_errors` keeps. -/
structure Kept (dlc : Dlc) (num : ℕ) (P : Dev → Prop) : Prop where
  bus_errors : ∀ r irqstatus d, P d → P (m_can_handle_bus_errors r irqstatus d).1
  read : ∀ alloc d, P d → P (m_can_read_fifo dlc alloc d)
  arrive : ∀ elem d, P d → P (arrive num elem d)
  interrupts : ∀ b d, P d → P { d with interrupts := b }

section Kept
variable {num} {P : Dev → Prop}

theorem Kept.rx_loop (k : Kept dlc num P) (turns : ℕ → Turnover) (quota : ℕ) (h : P d) :
    P (rx_loop dlc num turns quota d).1 := by
  have arrivals (l : List (ℕ → Word)) (d : Dev) (h : P d) : P (l.foldl (fun d elem => Can.arrive num elem d) d) := by
    induction l generalizing d with
    | nil => exact h
    | cons elem l ih => exact ih _ (k.arrive elem d h)
  induction quota generalizing d with
  | zero => exact h
  | succ quota ih =>
    dsimp only [Can.rx_loop]
    split
    · exact h
    · exact ih (arrivals _ _ (k.read _ _ h))

theorem Kept.poll_of (k : Kept dlc num P) (r : Regs) (turns : ℕ → Turnover) (quota : ℕ) (h0 : r.irqstatus ||| r.ir = 0 → P d)
    (h₁ : P (if poll_irqstatus r &&& IR_ERR_STATE ≠ 0 then m_can_handle_state_errors r d else (d, 0)).1) :
    P (m_can_poll dlc num r turns quota d).1 := by
  have ite {c : Prop} [Decidable c] {p : Dev × ℕ} {d : Dev} (hp : P p.1) (hd : P d) : P (if c then p else (d, 0)).1 := by
    split
    · exact hp
    · exact hd
  dsimp only [m_can_poll]
  split
  · exact h0 ‹_›
  · generalize (if poll_irqstatus r &&& IR_ERR_STATE ≠ 0 then m_can_handle_state_errors r d else (d, 0)) = p₁ at h₁ ⊢
    have h₂ : P (if poll_irqstatus r &&& IR_ERR_BUS_30X ≠ 0 then
        m_can_handle_bus_errors r (poll_irqstatus r) p₁.1 else (p₁.1, 0)).1 := ite (k.bus_errors r _ p₁.1 h₁) h₁
    generalize (if poll_irqstatus r &&& IR_ERR_BUS_30X ≠ 0 then
      m_can_handle_bus_errors r (poll_irqstatus r) p₁.1 else (p₁.1, 0)) = p₂ at h₂ ⊢
    have h₃ : P (if poll_irqstatus r &&& IR_RF0N ≠ 0 then
        m_can_do_rx_poll dlc num turns (quota - (p₁.2 + p₂.2)) p₂.1 else (p₂.1, 0)).1 := ite (k.rx_loop turns _ h₂) h₂
    generalize (if poll_irqstatus r &&& IR_RF0N ≠ 0 then
      m_can_do_rx_poll dlc num turns (quota - (p₁.2 + p₂.2)) p₂.1 else (p₂.1, 0)) = p₃ at h₃ ⊢
    split
    · exact k.interrupts true _ h₃
    · exact h₃

theorem Kept.poll (k : Kept dlc num P) (hs : ∀ r d, P d → P (m_can_handle_state_errors r d).1) (r : Regs)
    (turns : ℕ → Turnover) (quota : ℕ) (h : P d) : P (m_can_poll dlc num r turns quota d).1 := by
  refine k.poll_of r turns quota (fun _ => h) ?_
  split
  · exact hs r d h
  · exact h

end Kept

/-! ## Every message once -/

theorem Errors.delivered {w n : ℕ} (h : Errors d d' w n) (hd : Delivered dlc d) : Delivered dlc d' := by
  obtain ⟨left, ha⟩ := hd
  exact ⟨left, by rw [h.arrived, h.fifo, ha.arrived], h.frames.trans ha.up, h.cleared.trans ha.cleared⟩

/-- What is no part of the account. -/
theorem Delivered.aside (h : Delivered dlc d) (state : can_state) (b : Bool) :
    Delivered dlc { d with state := state, interrupts := b } := by
  obtain ⟨left, ha⟩ := h
  exact ⟨left, ha.arrived, ha.up, ha.cleared⟩

theorem Delivered.read (alloc : Bool) (d : Dev) (h : Delivered dlc d) : Delivered dlc (m_can_read_fifo dlc alloc d) := by
  obtain ⟨left, ha⟩ := h
  unfold m_can_read_fifo
  split
  · exact ⟨left, ha⟩
  · rename_i elem rest hfifo
    cases alloc
    · exact ⟨left, ha.arrived, ha.up, ha.cleared⟩
    · refine ⟨left ++ [(elem, true)], ?_, ?_, ?_⟩
      · simp [ha.arrived, hfifo]
      · have hup : d.up.filterMap Up.frame? = (left.filter (·.2)).map (read_element dlc ·.1) := ha.up
        simp [frames, hup, Up.frame?]
      · simp [ha.cleared]

theorem Delivered.arrive (elem : ℕ → Word) (d : Dev) (h : Delivered dlc d) : Delivered dlc (arrive num elem d) := by
  obtain ⟨left, ha⟩ := h
  unfold Can.arrive
  split
  · exact ⟨left, by dsimp only; rw [ha.arrived, List.append_assoc], ha.up, ha.cleared⟩
  · exact ⟨left, ha⟩

/-- A start clears what waits. -/
theorem Delivered.start (h : Delivered dlc d) : Delivered dlc (event_step dlc num d .start) := by
  obtain ⟨left, ha⟩ := h
  have hfst : (d.fifo.map fun elem => (elem, false)).map (·.1) = d.fifo := by rw [List.map_map]; exact List.map_id _
  have hup : (d.fifo.map fun elem => (elem, false)).filter (·.2) = [] := List.filter_eq_nil_iff.2 (by simp)
  have hdown : (d.fifo.map fun elem => (elem, false)).filter (!·.2) = d.fifo.map fun elem => (elem, false) :=
    List.filter_eq_self.2 (by simp)
  refine ⟨left ++ d.fifo.map fun elem => (elem, false), ?_, ?_, ?_⟩
  · rw [List.map_append, hfst]
    exact ha.arrived.trans (List.append_nil _).symm
  · rw [List.filter_append, hup, List.append_nil]
    exact ha.up
  · rw [List.filter_append, hdown, List.map_append, hfst, ← ha.cleared]
    rfl

theorem kept_delivered : Kept dlc num (Delivered dlc) where
  bus_errors r irqstatus d := (bus_errors_errors r irqstatus d).delivered
  read := Delivered.read
  arrive := Delivered.arrive num
  interrupts b d h := h.aside d.state b

theorem Delivered.poll (h : Delivered dlc d) (r : Regs) (turns : ℕ → Turnover) (quota : ℕ) :
    Delivered dlc (m_can_poll dlc num r turns quota d).1 :=
  (kept_delivered num).poll (fun r d => (state_errors_errors r d).delivered) r turns quota h

theorem Delivered.event (h : Delivered dlc d) (e : Event) : Delivered dlc (event_step dlc num d e) := by
  cases e with
  | start => exact h.start num
  | stop => exact h.aside _ _
  | arrival elem => exact h.arrive num elem
  | poll r turns quota => exact h.poll num r turns quota

/-- With budget left the loop has emptied the FIFO. -/
theorem rx_loop_budget (turns : ℕ → Turnover) (quota : ℕ) (d : Dev) :
    let p := rx_loop dlc num turns quota d
    p.2 ≤ quota ∧ (p.2 < quota → p.1.fifo = []) := by
  induction quota generalizing d with
  | zero => exact ⟨Nat.le_refl _, fun hlt => absurd hlt (Nat.lt_irrefl 0)⟩
  | succ quota ih =>
    dsimp only [Can.rx_loop]
    split
    · rename_i hfifo
      exact ⟨Nat.zero_le _, fun _ => hfifo⟩
    · obtain ⟨hle, hempty⟩ := ih ((turns quota).arriving.foldl (fun d elem => Can.arrive num elem d)
        (m_can_read_fifo dlc (turns quota).alloc d))
      exact ⟨Nat.succ_le_succ hle, fun hlt => hempty (Nat.lt_of_succ_lt_succ hlt)⟩

theorem poll_budget (r : Regs) (turns : ℕ → Turnover) (quota : ℕ) (d : Dev) :
    let p := m_can_poll dlc num r turns quota d
    p.2 ≤ max quota 5 ∧
      (p.2 < quota → r.irqstatus ||| r.ir ≠ 0 → poll_irqstatus r &&& IR_RF0N ≠ 0 → p.1.fifo = []) := by
  dsimp only [m_can_poll]
  split
  · rename_i h0
    exact ⟨Nat.zero_le _, fun _ hne => absurd h0 hne⟩
  · have states : Errors d (if poll_irqstatus r &&& IR_ERR_STATE ≠ 0 then m_can_handle_state_errors r d else (d, 0)).1 _ 3 :=
      (state_errors_errors r d).ite
    generalize (if poll_irqstatus r &&& IR_ERR_STATE ≠ 0 then m_can_handle_state_errors r d else (d, 0)) = p₁ at states ⊢
    have buses : Errors p₁.1 (if poll_irqstatus r &&& IR_ERR_BUS_30X ≠ 0 then
        m_can_handle_bus_errors r (poll_irqstatus r) p₁.1 else (p₁.1, 0)).1 _ 2 := (bus_errors_errors r _ p₁.1).ite
    generalize (if poll_irqstatus r &&& IR_ERR_BUS_30X ≠ 0 then
      m_can_handle_bus_errors r (poll_irqstatus r) p₁.1 else (p₁.1, 0)) = p₂ at buses ⊢
    have hw := (states.trans buses).work
    by_cases hn : poll_irqstatus r &&& IR_RF0N ≠ 0
    · rw [if_pos hn]
      obtain ⟨hle, hempty⟩ := @rx_loop_budget dlc num turns (quota - (p₁.2 + p₂.2)) p₂.1
      unfold m_can_do_rx_poll
      refine ⟨by omega, fun hlt _ _ => ?_⟩
      rw [if_pos hlt]
      exact hempty (by omega)
    · rw [if_neg hn]
      exact ⟨by omega, fun _ _ hy => absurd hy hn⟩

variable (dlc)

/-- Whatever arrives and whatever allocations fail, every message the FIFO took is handed up, cleared by a start, or still in
it, each once and in order. A poll stays within its budget or five error frames, and one that is told of a new message and
ends before its budget has emptied the FIFO. -/
theorem messages_delivered (events : List Event) :
    let d := Runs.run (event_step dlc num) {} events
    Delivered dlc d ∧ ∀ r turns quota, let p := m_can_poll dlc num r turns quota d
      p.2 ≤ max quota 5 ∧
        (p.2 < quota → r.irqstatus ||| r.ir ≠ 0 → poll_irqstatus r &&& IR_RF0N ≠ 0 → p.1.fifo = []) :=
  ⟨Runs.visited_inv (I := Delivered dlc) (fun _ e h => h.event num e) events ⟨[], rfl, rfl, rfl⟩ _ (Runs.run_mem_visited ..),
    fun r turns quota => poll_budget num r turns quota _⟩

/-! ## The warning that never comes -/

/-- The state is not the warning state, and no warning was counted. -/
def Unwarned (d : Dev) : Prop := d.state ≠ CAN_STATE_ERROR_WARNING ∧ d.stats.error_warning = 0

variable {dlc}

theorem Unwarned.state_error (h : Unwarned d) (r : Regs) (alloc : Bool) (bit : Word) {new_state : can_state}
    (hn : new_state ≠ CAN_STATE_ERROR_ACTIVE) : Unwarned (state_error r alloc bit new_state d).1 := by
  have enter : Unwarned (enter_state new_state d) := by
    cases new_state with
    | CAN_STATE_ERROR_ACTIVE => exact absurd rfl hn
    | CAN_STATE_ERROR_PASSIVE => exact ⟨fun e => can_state.noConfusion e, h.2⟩
    | CAN_STATE_BUS_OFF => exact ⟨fun e => can_state.noConfusion e, h.2⟩
    | _ => exact h
  unfold Can.state_error m_can_handle_state_change
  split
  · cases alloc <;> exact enter
  · exact h

theorem Unwarned.bus_errors (h : Unwarned d) (r : Regs) (irqstatus : Word) :
    Unwarned (m_can_handle_bus_errors r irqstatus d).1 := by
  have lost (alloc : Bool) : Unwarned (m_can_handle_lost_msg alloc d).1 := by
    cases alloc <;> exact h
  have lec {d : Dev} (h : Unwarned d) (alloc : Bool) (lec : ℕ) : Unwarned (m_can_handle_lec_err alloc lec d).1 := by
    cases alloc <;> exact h
  dsimp only [m_can_handle_bus_errors]
  split
  · apply lec
    split
    · exact lost _
    · exact h
  · split
    · exact lost _
    · exact h

/-- The driver asks for a change to the warning state, but the case that makes it is another one. -/
theorem Unwarned.state_errors (r : Regs) (d : Dev) (h : Unwarned d) : Unwarned (m_can_handle_state_errors r d).1 :=
  ((h.state_error r _ PSR_EW (by decide)).state_error r _ PSR_EP (by decide)).state_error r _ PSR_BO (by decide)

theorem kept_unwarned : Kept dlc num Unwarned where
  bus_errors r irqstatus d h := h.bus_errors r irqstatus
  read alloc d h := by
    unfold m_can_read_fifo
    split
    · exact h
    · split <;> exact h
  arrive elem d h := by
    unfold Can.arrive
    split <;> exact h
  interrupts _ _ h := h

theorem Unwarned.event (h : Unwarned d) (e : Event) : Unwarned (event_step dlc num d e) := by
  cases e with
  | start => exact ⟨fun e => can_state.noConfusion e, h.2⟩
  | stop => exact ⟨fun e => can_state.noConfusion e, h.2⟩
  | arrival elem => exact (kept_unwarned num : Kept dlc num Unwarned).arrive elem d h
  | poll r turns quota => exact (kept_unwarned num).poll Unwarned.state_errors r turns quota h

/-- What went up stays. -/
def Upto (l : List Up) (d : Dev) : Prop := l <+: d.up

variable {l : List Up}

theorem Upto.more (h : Upto l d) (u : Up) {s : Stats} : Upto l { d with up := d.up ++ [u], stats := s } :=
  h.trans (List.prefix_append _ _)

theorem Upto.state_error (h : Upto l d) (r : Regs) (alloc : Bool) (bit : Word) (new_state : can_state) :
    Upto l (state_error r alloc bit new_state d).1 := by
  have enter : Upto l (enter_state new_state d) := by cases new_state <;> exact h
  unfold Can.state_error m_can_handle_state_change
  split
  · cases alloc
    · exact enter
    · exact enter.more _
  · exact h

theorem kept_upto : Kept dlc num (Upto l) where
  bus_errors r irqstatus d h := by
    have lost (alloc : Bool) : Upto l (m_can_handle_lost_msg alloc d).1 := by
      cases alloc
      · exact h
      · exact h.trans (List.prefix_append _ _)
    have lec {d : Dev} (h : Upto l d) (alloc : Bool) (lec : ℕ) : Upto l (m_can_handle_lec_err alloc lec d).1 := by
      cases alloc
      · exact h
      · exact h.trans (List.prefix_append _ _)
    dsimp only [m_can_handle_bus_errors]
    split
    · apply lec
      split
      · exact lost _
      · exact h
    · split
      · exact lost _
      · exact h
  read alloc d h := by
    unfold m_can_read_fifo
    split
    · exact h
    · split
      · exact h.trans (List.prefix_append _ _)
      · exact h
  arrive elem d h := by
    unfold Can.arrive
    split <;> exact h
  interrupts _ _ h := h

variable (dlc)

/-- The device never is in the warning state, in any run; so each poll that is told of a warning, however often, hands up
one more error frame, and nothing in it says why. -/
theorem never_warning (events : List Event) : ∀ d ∈ Runs.visited (event_step dlc num) {} events,
    d.state ≠ CAN_STATE_ERROR_WARNING ∧ d.stats.error_warning = 0 ∧
      ∀ r turns quota, r.irqstatus ||| r.ir ≠ 0 → poll_irqstatus r &&& IR_ERR_STATE ≠ 0 → r.psr &&& PSR_EW ≠ 0 → r.alloc 0 = true →
        ∃ rest, (m_can_poll dlc num r turns quota d).1.up = d.up ++ .error CAN_ERR_FLAG (fun _ => 0) :: rest := by
  intro d hd
  obtain ⟨hs, hn⟩ := Runs.visited_inv (I := Unwarned) (fun _ e h => h.event num e) events
    ⟨fun e => can_state.noConfusion e, rfl⟩ d hd
  refine ⟨hs, hn, fun r turns quota h0 hirq hew halloc => ?_⟩
  have warned : Upto (d.up ++ [.error CAN_ERR_FLAG fun _ => 0]) (state_error r (r.alloc 0) PSR_EW CAN_STATE_ERROR_WARNING d).1 := by
    have empty : CAN_ERR_FLAG ||| 0 = CAN_ERR_FLAG := by decide
    have up : (m_can_handle_state_change r true CAN_STATE_ERROR_WARNING d).1.up =
        d.up ++ [.error (CAN_ERR_FLAG ||| 0) fun _ => 0] := rfl
    rw [state_error, if_pos ⟨hew, hs⟩, halloc]
    exact ⟨[], by rw [List.append_nil, up, empty]⟩
  have states : Upto (d.up ++ [.error CAN_ERR_FLAG fun _ => 0]) (m_can_handle_state_errors r d).1 :=
    (warned.state_error r _ PSR_EP _).state_error r _ PSR_BO _
  have hp : Upto (d.up ++ [.error CAN_ERR_FLAG fun _ => 0]) (m_can_poll dlc num r turns quota d).1 := by
    refine (kept_upto num).poll_of r turns quota (fun e => absurd e h0) ?_
    rw [if_pos hirq]
    exact states
  obtain ⟨rest, e⟩ := hp
  exact ⟨rest, by rw [← e, List.append_assoc]; rfl⟩

/-- Registers that tell of a warning. -/
def warned : Regs := ⟨IR_EW, IR_EW, PSR_EW, 0, 31, false, fun _ => true⟩

theorem never_warning_again :
    let d := Runs.run (event_step kernel_dlc 64) {} [.start, .poll warned (fun _ => ⟨true, []⟩) 64]
    ∃ rest, (m_can_poll kernel_dlc 64 warned (fun _ => ⟨true, []⟩) 64 d).1.up = d.up ++ .error CAN_ERR_FLAG (fun _ => 0) :: rest :=
  (never_warning kernel_dlc 64 _ _ (Runs.run_mem_visited ..)).2.2 warned _ 64 (by decide) (by decide) (by decide) rfl

end Can
