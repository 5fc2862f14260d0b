import LinuxDriver.Can.Echo
/-!
# One transmit buffer

Cores of version 3.0: `m_can_start_xmit` stops the queue before anything else
and uses buffer 0 only; the handler loops the frame back and wakes the queue
when the transmission is complete. In this order nothing can overtake.
-/

namespace Can

/-- What `m_can_start_xmit` does next on a core of version 3.0. -/
inductive Xmit30
  | idle
  | stop (skb : sk_buff) (kept : Bool)
  | keep (skb : sk_buff) (kept : Bool)
  | request

/-- What `m_can_isr` does next after `IR_TC`. -/
inductive Isr30
  | idle
  | loop_back
  | wake

/-- Bit 0 of `TXBRP`, `IR_TC`, the echo cell, the queue and who does what. `accepted` are the frames put into the buffer that
are to be looped back, `echoed` those looped back. -/
structure Net30 where
  txbrp : Bool := false
  tc : Bool := false
  echo_skb : Option sk_buff := none
  stopped : Bool := false
  xmit : Xmit30 := .idle
  isr : Isr30 := .idle
  accepted : List sk_buff := []
  echoed : List sk_buff := []

/-- The moves are those of `Act`. -/
inductive Act30
  | call (skb : sk_buff) (kept : Bool)
  | xmit
  | isr
  | sent

variable (cell : EchoCell)

/-- One access of the thread, the handler or the controller. -/
def step30 (s : Net30) : Act30 → Net30
  | .call skb kept =>
    match s.xmit, s.stopped with
    | .idle, false => { s with xmit := .stop skb kept }
    | _, _ => s
  | .xmit =>
    match s.xmit with
    | .idle => s
    | .stop skb kept => { s with stopped := true, xmit := .keep skb kept }
    | .keep skb kept => { s with
        echo_skb := cell.put kept s.echo_skb skb
        accepted := if kept then s.accepted ++ [skb] else s.accepted
        xmit := .request }
    | .request => { s with txbrp := true, xmit := .idle }
  | .isr =>
    match s.isr with
    | .idle => if s.tc then { s with tc := false, isr := .loop_back } else s
    | .loop_back => { s with
        echo_skb := (cell.get s.echo_skb).2
        echoed := s.echoed ++ (cell.get s.echo_skb).1.toList
        isr := .wake }
    | .wake => { s with stopped := false, isr := .idle }
  | .sent => if s.txbrp then { s with txbrp := false, tc := true } else s

/-- Where the one frame is: with the thread, in the buffer, reported, or with the handler. Its cell may be empty. -/
inductive Turn (s : Net30) : Prop
  | free (xmit : s.xmit = .idle) (isr : s.isr = .idle) (txbrp : s.txbrp = false) (tc : s.tc = false)
      (stopped : s.stopped = false) (cell : s.echo_skb = none)
  | stop (skb : sk_buff) (kept : Bool) (xmit : s.xmit = .stop skb kept) (isr : s.isr = .idle) (txbrp : s.txbrp = false)
      (tc : s.tc = false) (cell : s.echo_skb = none)
  | keep (skb : sk_buff) (kept : Bool) (xmit : s.xmit = .keep skb kept) (isr : s.isr = .idle) (txbrp : s.txbrp = false)
      (tc : s.tc = false) (stopped : s.stopped = true) (cell : s.echo_skb = none)
  | request (xmit : s.xmit = .request) (isr : s.isr = .idle) (txbrp : s.txbrp = false) (tc : s.tc = false)
      (stopped : s.stopped = true)
  | buffer (xmit : s.xmit = .idle) (isr : s.isr = .idle) (txbrp : s.txbrp = true) (tc : s.tc = false)
      (stopped : s.stopped = true)
  | reported (xmit : s.xmit = .idle) (isr : s.isr = .idle) (txbrp : s.txbrp = false) (tc : s.tc = true)
      (stopped : s.stopped = true)
  | loop_back (xmit : s.xmit = .idle) (isr : s.isr = .loop_back) (txbrp : s.txbrp = false) (tc : s.tc = false)
      (stopped : s.stopped = true)
  | wake (xmit : s.xmit = .idle) (isr : s.isr = .wake) (txbrp : s.txbrp = false) (tc : s.tc = false)
      (stopped : s.stopped = true) (cell : s.echo_skb = none)

/-- The ledger and the turn. -/
structure Inv30 (s : Net30) : Prop where
  ledger : s.accepted = s.echoed ++ s.echo_skb.toList
  turn : Turn s

variable {cell} {s : Net30}

/-- Each turn has one step that ends it; all other steps leave everything as it is. -/
theorem Inv30.step (hc : cell.Keeps) (h : Inv30 s) (a : Act30) : Inv30 (step30 cell s a) := by
  obtain ⟨ledger, turn⟩ := h
  obtain ⟨txbrp, tc, echo_skb, stopped, xmit, isr, accepted, echoed⟩ := s
  dsimp only at ledger
  cases turn <;> dsimp only at * <;> subst_vars
  case free =>
    cases a
    · exact ⟨rfl, .stop _ _ rfl rfl rfl rfl rfl⟩
    · exact ⟨rfl, .free rfl rfl rfl rfl rfl rfl⟩
    · exact ⟨rfl, .free rfl rfl rfl rfl rfl rfl⟩
    · exact ⟨rfl, .free rfl rfl rfl rfl rfl rfl⟩
  case stop skb kept =>
    cases a
    · exact ⟨rfl, .stop skb kept rfl rfl rfl rfl rfl⟩
    · exact ⟨rfl, .keep skb kept rfl rfl rfl rfl rfl rfl⟩
    · exact ⟨rfl, .stop skb kept rfl rfl rfl rfl rfl⟩
    · exact ⟨rfl, .stop skb kept rfl rfl rfl rfl rfl⟩
  case keep skb kept =>
    cases a
    · exact ⟨rfl, .keep skb kept rfl rfl rfl rfl rfl rfl⟩
    · refine ⟨?_, .request rfl rfl rfl rfl rfl⟩
      cases kept <;> simp [step30, hc.put_free]
    · exact ⟨rfl, .keep skb kept rfl rfl rfl rfl rfl rfl⟩
    · exact ⟨rfl, .keep skb kept rfl rfl rfl rfl rfl rfl⟩
  case request =>
    cases a
    · exact ⟨rfl, .request rfl rfl rfl rfl rfl⟩
    · exact ⟨rfl, .buffer rfl rfl rfl rfl rfl⟩
    · exact ⟨rfl, .request rfl rfl rfl rfl rfl⟩
    · exact ⟨rfl, .request rfl rfl rfl rfl rfl⟩
  case buffer =>
    cases a
    · exact ⟨rfl, .buffer rfl rfl rfl rfl rfl⟩
    · exact ⟨rfl, .buffer rfl rfl rfl rfl rfl⟩
    · exact ⟨rfl, .buffer rfl rfl rfl rfl rfl⟩
    · exact ⟨rfl, .reported rfl rfl rfl rfl rfl⟩
  case reported =>
    cases a
    · exact ⟨rfl, .reported rfl rfl rfl rfl rfl⟩
    · exact ⟨rfl, .reported rfl rfl rfl rfl rfl⟩
    · exact ⟨rfl, .loop_back rfl rfl rfl rfl rfl⟩
    · exact ⟨rfl, .reported rfl rfl rfl rfl rfl⟩
  case loop_back =>
    cases a
    · exact ⟨rfl, .loop_back rfl rfl rfl rfl rfl⟩
    · exact ⟨rfl, .loop_back rfl rfl rfl rfl rfl⟩
    · have hget := hc.get_eq echo_skb
      refine ⟨?_, .wake rfl rfl rfl rfl rfl (by simp [step30, hget])⟩
      simp [step30, hget]
    · exact ⟨rfl, .loop_back rfl rfl rfl rfl rfl⟩
  case wake =>
    cases a
    · exact ⟨rfl, .wake rfl rfl rfl rfl rfl rfl⟩
    · exact ⟨rfl, .wake rfl rfl rfl rfl rfl rfl⟩
    · exact ⟨rfl, .free rfl rfl rfl rfl rfl rfl⟩
    · exact ⟨rfl, .wake rfl rfl rfl rfl rfl rfl⟩

variable (cell)

/-- In every run the frames that are to be looped back are those that were, in order, and the one in the cell; the cell is
empty whenever a frame is put into it; and a stopped queue has someone on the way to wake it. -/
theorem one_buffer_safe (hc : cell.Keeps) (as : List Act30) : ∀ s ∈ Runs.visited (step30 cell) {} as,
    s.accepted = s.echoed ++ s.echo_skb.toList ∧ (∀ skb kept, s.xmit = .keep skb kept → s.echo_skb = none) ∧
      (s.stopped = true → s.xmit ≠ .idle ∨ s.txbrp = true ∨ s.tc = true ∨ s.isr ≠ .idle) := by
  intro s hs
  have start : Inv30 {} := ⟨rfl, .free rfl rfl rfl rfl rfl rfl⟩
  obtain ⟨ledger, turn⟩ := Runs.visited_inv (I := Inv30) (fun _ a h => h.step hc a) as start s hs
  refine ⟨ledger, fun skb kept hx => ?_, fun hstop => ?_⟩
  · cases turn with
    | keep _ _ _ _ _ _ _ cell => exact cell
    | _ => simp_all
  · cases turn <;> simp_all

/-- One frame comes back, one is freed, and one is on its way. -/
theorem one_buffer_safe_once :
    let s := Runs.run (step30 kernel_cell) {} <|
      [.call a_frame true, .xmit, .xmit, .xmit, .sent, .isr, .isr, .isr] ++
        [.call b_frame false, .xmit, .xmit, .xmit, .sent, .isr, .isr, .isr, .call b_frame true, .xmit, .xmit]
    s.accepted = s.echoed ++ s.echo_skb.toList :=
  (one_buffer_safe kernel_cell kernel_keeps _ _ (Runs.run_mem_visited ..)).1

end Can
