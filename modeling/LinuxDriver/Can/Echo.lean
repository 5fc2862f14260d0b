import Mathlib.Data.List.ReduceOption
import LinuxDriver.Can.Frame
import LinuxDriver.Lib.Circular
import LinuxDriver.Lib.Runs
/-!
# Transmission and echo

Cores from 3.1 on: `m_can_start_xmit` puts a frame into the TX FIFO and keeps it
in an echo cell, the controller sends and reports, `m_can_isr` loops the kept
frame back and wakes the queue. The transmitting thread, the handler and the
controller move in any order, one access to what they share at a time.
-/

namespace Can

/-! ## The parties -/

/-- The kernel's `can_put_echo_skb` and `can_get_echo_skb` on a cell. `put` is told whether the frame is to be kept: it is
freed if it need not be looped back or there is no memory for it. `get` gives what is looped back and what stays. -/
structure EchoCell where
  put : Bool → Option sk_buff → sk_buff → Option sk_buff
  get : Option sk_buff → Option sk_buff × Option sk_buff

/-- A free cell takes what is to be kept, and what is looped back leaves its cell. -/
structure EchoCell.Keeps (cell : EchoCell) : Prop where
  put_free : ∀ kept skb, cell.put kept none skb = if kept then some skb else none
  get_eq : ∀ old, cell.get old = (old, none)

/-- As the kernel has it: what finds the cell in use is freed too. -/
def kernel_cell : EchoCell where
  put kept old skb := if kept then some (old.getD skb) else old
  get old := (old, none)

theorem kernel_keeps : kernel_cell.Keeps := ⟨fun _ _ => rfl, fun _ => rfl⟩

/-- The sizes of the TX FIFO, which is also the number of echo cells, and of the TX event FIFO. -/
structure Config where
  num : ℕ
  txe_num : ℕ
  pos : 0 < num
  le : num ≤ 32

/-- What `m_can_start_xmit` does next. -/
inductive Xmit
  | idle
  | keep (putidx : ℕ) (skb : sk_buff) (kept : Bool)
  | enable (putidx : ℕ) (word : Word)
  | check_full (putidx : ℕ)
  | check_echo (putidx : ℕ)
  | stop

/-- What `m_can_isr` does next; `left` counts the turns of the loop of `m_can_echo_tx_event`. -/
inductive Isr
  | idle
  | count
  | fetch (left : ℕ)
  | loop_back (left : ℕ) (msg_mark : ℕ)

/-- The put index, the TX FIFO, the TX event FIFO, `IR_TEFN`, the echo cells, the queue and who does what. `accepted` are
the frames put into the FIFO that are to be looped back, `echoed` those looped back. -/
structure Net where
  tfqpi : ℕ := 0
  pending : List Word := []
  events : List Word := []
  tefn : Bool := false
  echo_skb : ℕ → Option sk_buff := fun _ => none
  stopped : Bool := false
  xmit : Xmit := .idle
  isr : Isr := .idle
  accepted : List sk_buff := []
  echoed : List sk_buff := []

/-- One access of the thread, the handler or the controller; `call` and `sent` begin something new. -/
inductive Act
  | call (skb : sk_buff) (kept : Bool)   -- the stack has a frame, which `can_put_echo_skb` is to keep or to free
  | xmit                                 -- the transmitting thread goes on
  | isr                                  -- the handler goes on, or is called
  | sent (event : Word)                  -- the controller has sent a frame; the bits of the event that are its own

variable (dlc : Dlc) (cell : EchoCell) (cfg : Config)

/-- `TXFQS` says that no element of the TX FIFO is free. -/
def m_can_tx_fifo_full (s : Net) : Bool := s.pending.length = cfg.num

/-- Whether the cell after `putidx` holds a frame. -/
def m_can_next_echo_skb_occupied (s : Net) (putidx : ℕ) : Bool :=
  let next_idx := if putidx + 1 ≥ cfg.num then 0 else putidx + 1
  (s.echo_skb next_idx).isSome

/-- A call of `m_can_start_xmit`, up to the first write. -/
def begin_xmit (s : Net) (skb : sk_buff) (kept : Bool) : Net :=
  if m_can_tx_fifo_full cfg s then { s with xmit := .stop } else { s with xmit := .keep s.tfqpi skb kept }

/-- One access of `m_can_start_xmit`: the echo cell, `TXBAR`, `TXFQS`, the next echo cell, the queue. -/
def xmit_step (s : Net) : Net :=
  match s.xmit with
  | .idle => s
  | .keep putidx skb kept => { s with
      echo_skb := Function.update s.echo_skb putidx (cell.put kept (s.echo_skb putidx) skb)
      accepted := if kept then s.accepted ++ [skb] else s.accepted
      xmit := .enable putidx (tx_dlc dlc putidx skb) }
  | .enable putidx word => { s with
      pending := s.pending ++ [word]
      tfqpi := (s.tfqpi + 1) % cfg.num
      xmit := .check_full putidx }
  | .check_full putidx => if m_can_tx_fifo_full cfg s then { s with xmit := .stop } else { s with xmit := .check_echo putidx }
  | .check_echo putidx =>
    if m_can_next_echo_skb_occupied cfg s putidx then { s with xmit := .stop } else { s with xmit := .idle }
  | .stop => { s with stopped := true, xmit := .idle }

/-- One access of `m_can_isr`: `IR`, the event count, an event, its echo cell, the queue. -/
def isr_step (s : Net) : Net :=
  match s.isr with
  | .idle => if s.tefn then { s with tefn := false, isr := .count } else s
  | .count => { s with isr := .fetch s.events.length }
  | .fetch (left + 1) => { s with events := s.events.tail, isr := .loop_back left (event_mark (s.events.headD 0)) }
  | .loop_back left msg_mark => { s with
      echo_skb := Function.update s.echo_skb msg_mark (cell.get (s.echo_skb msg_mark)).2
      echoed := s.echoed ++ (cell.get (s.echo_skb msg_mark)).1.toList
      isr := .fetch left }
  | .fetch 0 =>
    if s.stopped ∧ ¬m_can_tx_fifo_full cfg s then { s with stopped := false, isr := .idle } else { s with isr := .idle }

/-- An event is stored for a frame that asks for it and takes its marker, as long as there is room. -/
def sent_step (s : Net) (event : Word) : Net :=
  match s.pending with
  | [] => s
  | word :: rest =>
    if word &&& TX_BUF_EFC ≠ 0 ∧ s.events.length < cfg.txe_num then { s with
      pending := rest
      events := s.events ++ [(event &&& ~~~TX_BUF_MM_MASK) ||| (word &&& TX_BUF_MM_MASK)]
      tefn := true }
    else { s with pending := rest }

/-- The stack calls only while the queue is open, one call at a time. -/
def step (s : Net) : Act → Net
  | .call skb kept =>
    match s.xmit, s.stopped with
    | .idle, false => begin_xmit cfg s skb kept
    | _, _ => s
  | .xmit => xmit_step dlc cell cfg s
  | .isr => isr_step cell cfg s
  | .sent event => sent_step cfg s event

/-! ## What is on its way -/

/-- The marker of a frame that is in its cell but not in the FIFO yet. -/
def Xmit.marks : Xmit → List ℕ
  | .enable _ word => [event_mark word]
  | _ => []

/-- What the next access puts into an echo cell. -/
def Xmit.keeps : Xmit → List (Option sk_buff)
  | .keep _ skb kept => [if kept then some skb else none]
  | _ => []

/-- The marker of the event in the handler's hands. -/
def Isr.marks : Isr → List ℕ
  | .loop_back _ msg_mark => [msg_mark]
  | _ => []

/-- How many cells the next access takes from those in use. -/
def Isr.takes : Isr → ℕ
  | .loop_back _ _ => 1
  | _ => 0

/-- The message markers on their way, oldest first. -/
def inflight (s : Net) : List ℕ := s.isr.marks ++ (s.events ++ s.pending).map event_mark ++ s.xmit.marks

/-- What the transmitting thread knows, with `len` cells in use from `first` on. -/
def Thread (s : Net) (first len : ℕ) : Prop :=
  match s.xmit with
  | .idle => s.tfqpi = (first + len) % cfg.num ∧ (s.stopped = false → len < cfg.num)
  | .keep putidx _ _ => putidx = s.tfqpi ∧ s.tfqpi = (first + len) % cfg.num ∧ len < cfg.num ∧ s.stopped = false
  | .enable putidx word => putidx = s.tfqpi ∧ s.tfqpi = (first + (len - 1)) % cfg.num ∧ word &&& TX_BUF_EFC ≠ 0 ∧ s.stopped = false
  | .check_full putidx => (putidx + 1) % cfg.num = s.tfqpi ∧ putidx < cfg.num ∧ s.tfqpi = (first + len) % cfg.num ∧ s.stopped = false
  | .check_echo putidx => (putidx + 1) % cfg.num = s.tfqpi ∧ putidx < cfg.num ∧ s.tfqpi = (first + len) % cfg.num ∧ s.stopped = false
  | .stop => s.tfqpi = (first + len) % cfg.num ∧ s.stopped = false

/-- What the handler knows. -/
def Handler (s : Net) : Prop :=
  match s.isr with
  | .fetch left => left ≤ s.events.length
  | .loop_back left _ => left ≤ s.events.length
  | _ => True

/-- The markers on their way name the cells from `first` on, which hold `l`: what was accepted and not looped back. -/
structure Inv (s : Net) (first : ℕ) (l : List (Option sk_buff)) : Prop where
  holds : Circular.Holds cfg.num first s.echo_skb l
  ledger : s.accepted = s.echoed ++ l.reduceOption
  marks : inflight s = Circular.window cfg.num first l.length
  wanted : ∀ w ∈ s.pending, w &&& TX_BUF_EFC ≠ 0
  thread : Thread cfg s first l.length
  handler : Handler s

/-- The queue is left open, or woken, although the marker next in turn is still on its way. -/
def hasty (s : Net) : Act → Bool
  | .xmit =>
    match s.xmit with
    | .check_echo putidx => !m_can_next_echo_skb_occupied cfg s putidx && decide (s.tfqpi ∈ inflight s)
    | _ => false
  | .isr =>
    match s.isr with
    | .fetch 0 => s.stopped && !m_can_tx_fifo_full cfg s && decide (s.tfqpi ∈ inflight s)
    | _ => false
  | _ => false

section Steps
variable {dlc cell cfg} {s : Net} {first : ℕ} {l : List (Option sk_buff)}

theorem Inv.length (h : Inv cfg s first l) : (inflight s).length = l.length := by
  rw [h.marks, Circular.length_window]

/-- Unless the marker next in turn is on its way, there is room. -/
theorem Inv.room (h : Inv cfg s first l) (hput : s.tfqpi = (first + l.length) % cfg.num) (hn : s.tfqpi ∉ inflight s) :
    l.length < cfg.num := by
  refine Nat.lt_of_le_of_ne h.holds.room fun hl => hn ?_
  rw [h.marks, hput, hl]
  exact Circular.next_mem_window cfg.pos

/-- A thread at work has found the queue open. -/
theorem Thread.opened {len : ℕ} (h : Thread cfg s first len) (hx : s.xmit ≠ .idle) : s.stopped = false := by
  unfold Thread at h
  cases hp : s.xmit with
  | idle => exact absurd hp hx
  | stop =>
    rw [hp] at h
    exact h.2
  | _ =>
    rw [hp] at h
    exact h.2.2.2

theorem inflight_xmit {x : Xmit} (h : x.marks = s.xmit.marks) : inflight { s with xmit := x } = inflight s := by
  rw [inflight, inflight, h]

theorem Inv.call (h : Inv cfg s first l) (skb : sk_buff) (kept : Bool) :
    Inv cfg (step dlc cell cfg s (.call skb kept)) first l := by
  have ht := h.thread
  unfold step
  dsimp only
  split
  · rename_i hx hs
    unfold Thread at ht
    rw [hx] at ht
    unfold begin_xmit
    split
    · exact { h with marks := by rw [← h.marks, inflight_xmit (by rw [hx]; rfl)], thread := ⟨ht.1, hs⟩ }
    · exact { h with marks := by rw [← h.marks, inflight_xmit (by rw [hx]; rfl)], thread := ⟨rfl, ht.1, ht.2 hs, hs⟩ }
  · exact h

theorem next_idx_eq {putidx : ℕ} (h : putidx < cfg.num) :
    (if putidx + 1 ≥ cfg.num then 0 else putidx + 1) = (putidx + 1) % cfg.num := by
  split
  · rw [show putidx + 1 = cfg.num by omega, Nat.mod_self]
  · rw [Nat.mod_eq_of_lt (by omega)]

theorem EFC_tx_dlc (putidx : ℕ) (skb : sk_buff) : tx_dlc dlc putidx skb &&& TX_BUF_EFC ≠ 0 := by
  rw [EFC_eq, flag_iff _ 23 (by decide), getLsbD_tx_dlc dlc skb putidx 23 (by decide)]
  simp

/-- The thread gives the cell next in turn what it holds. -/
theorem Inv.keep (hc : cell.Keeps) (h : Inv cfg s first l) {putidx : ℕ} {skb : sk_buff} {kept : Bool}
    (hx : s.xmit = .keep putidx skb kept) :
    Inv cfg (xmit_step dlc cell cfg s) first (l ++ [if kept then some skb else none]) := by
  have ht := h.thread
  unfold Thread at ht
  rw [hx] at ht
  obtain ⟨rfl, hput, hlt, hs⟩ := ht
  have mark : event_mark (tx_dlc dlc s.tfqpi skb) = (first + l.length) % cfg.num := by
    rw [← hput]
    refine event_mark_of_bits dlc ?_ rfl
    have := Nat.mod_lt (first + l.length) cfg.pos
    have := cfg.le
    omega
  simp only [xmit_step, hx]
  refine ⟨?_, ?_, ?_, h.wanted, ?_, h.handler⟩
  · have free := h.holds.next_free hlt
    rw [← hput] at free
    dsimp only
    rw [free, hc.put_free, hput]
    exact h.holds.push hlt
  · dsimp only
    rw [h.ledger, List.reduceOption_append]
    cases kept
    · simp [List.reduceOption]
    · rw [List.append_assoc]
      rfl
  · rw [List.length_append, List.length_singleton, Circular.window_succ, ← h.marks]
    simp [inflight, hx, Xmit.marks, mark]
  · refine ⟨rfl, ?_, EFC_tx_dlc _ skb, hs⟩
    rw [List.length_append, List.length_singleton, Nat.add_sub_cancel]
    exact hput

theorem Inv.xmit (hc : cell.Keeps) (h : Inv cfg s first l) (calm : hasty cfg s .xmit = false) :
    Inv cfg (xmit_step dlc cell cfg s) first (l ++ s.xmit.keeps) := by
  have ht := h.thread
  unfold Thread at ht
  cases hx : s.xmit with
  | idle =>
    simp only [xmit_step, hx, Xmit.keeps, List.append_nil]
    exact h
  | keep putidx skb kept => exact h.keep hc hx
  | enable putidx word =>
    rw [hx] at ht
    obtain ⟨rfl, hput, hefc, hs⟩ := ht
    have some_cell : 0 < l.length := by
      rw [← h.length, inflight, hx, List.length_append]
      exact Nat.lt_add_left _ Nat.one_pos
    simp only [xmit_step, hx, Xmit.keeps, List.append_nil]
    refine ⟨h.holds, h.ledger, ?_, ?_, ?_, h.handler⟩
    · rw [← h.marks]
      simp [inflight, hx, Xmit.marks]
    · intro w hw
      rcases List.mem_append.1 hw with hw | hw
      · exact h.wanted w hw
      · rw [List.mem_singleton.1 hw]
        exact hefc
    · refine ⟨rfl, ?_, ?_, hs⟩
      · rw [hput]
        exact Nat.mod_lt _ cfg.pos
      · dsimp only
        rw [hput, Nat.mod_add_mod, Nat.add_assoc, Nat.sub_add_cancel some_cell]
  | check_full putidx =>
    rw [hx] at ht
    simp only [xmit_step, hx, Xmit.keeps, List.append_nil]
    split
    · exact { h with marks := by rw [← h.marks, inflight_xmit (by rw [hx]; rfl)], thread := ht.2.2 }
    · exact { h with marks := by rw [← h.marks, inflight_xmit (by rw [hx]; rfl)], thread := ht }
  | check_echo putidx =>
    rw [hx] at ht
    obtain ⟨-, -, hput, hs⟩ := ht
    simp only [xmit_step, hx, Xmit.keeps, List.append_nil]
    split
    · exact { h with marks := by rw [← h.marks, inflight_xmit (by rw [hx]; rfl)], thread := ⟨hput, hs⟩ }
    · rename_i hfree
      have hn : s.tfqpi ∉ inflight s := by simpa [hasty, hx, hfree] using calm
      exact { h with
        marks := by rw [← h.marks, inflight_xmit (by rw [hx]; rfl)]
        thread := ⟨hput, fun _ => h.room hput hn⟩ }
  | stop =>
    rw [hx] at ht
    simp only [xmit_step, hx, Xmit.keeps, List.append_nil]
    refine { h with marks := ?_, thread := ⟨ht.1, fun e => Bool.noConfusion e⟩ }
    rw [← h.marks, inflight, inflight, hx]
    rfl

/-- A cell less in use, from the oldest on. -/
theorem Thread.pop {len : ℕ} (h : Thread cfg s first (len + 1)) (hx : s.xmit.marks ≠ [] → 0 < len) :
    Thread cfg s (first + 1) len := by
  have e : first + 1 + len = first + (len + 1) := by omega
  unfold Thread at h ⊢
  split <;> rename_i hp <;> rw [hp] at h hx <;> dsimp only at h
  · exact ⟨by rw [e]; exact h.1, fun hs => Nat.lt_of_succ_lt (h.2 hs)⟩
  · exact ⟨h.1, by rw [e]; exact h.2.1, Nat.lt_of_succ_lt h.2.2.1, h.2.2.2⟩
  · have hl : 0 < len := hx (List.cons_ne_nil _ _)
    have e : first + 1 + (len - 1) = first + (len + 1 - 1) := by omega
    exact ⟨h.1, by rw [e]; exact h.2.1, h.2.2⟩
  · exact ⟨h.1, h.2.1, by rw [e]; exact h.2.2.1, h.2.2.2⟩
  · exact ⟨h.1, h.2.1, by rw [e]; exact h.2.2.1, h.2.2.2⟩
  · exact ⟨by rw [e]; exact h.1, h.2⟩

/-- The handler takes what the oldest cell holds. -/
theorem Inv.loop_back (hc : cell.Keeps) (h : Inv cfg s first l) {left msg_mark : ℕ} (hx : s.isr = .loop_back left msg_mark) :
    Inv cfg (isr_step cell cfg s) (first + 1) (l.drop 1) := by
  have hh := h.handler
  have ht := h.thread
  have hm := h.marks
  unfold Handler at hh
  unfold inflight at hm
  rw [hx] at hh hm
  have pos : 0 < l.length := by
    rw [← h.length, inflight, hx]
    exact Nat.succ_pos _
  obtain ⟨o, rest, rfl⟩ := List.exists_cons_of_length_pos pos
  rw [List.length_cons, Circular.window_cons] at hm
  have hmark : msg_mark = first % cfg.num := (List.cons.inj hm).1
  have hcell : s.echo_skb msg_mark = o := by rw [hmark, h.holds.head]
  simp only [isr_step, hx, List.drop_one, List.tail_cons]
  refine ⟨?_, ?_, (List.cons.inj hm).2, h.wanted, ht.pop ?_, hh⟩
  · dsimp only
    rw [hc.get_eq, hmark]
    exact h.holds.pop
  · dsimp only
    rw [hcell, hc.get_eq, h.ledger, List.append_assoc]
    cases o with
    | none => rw [List.reduceOption_cons_of_none]; rfl
    | some skb => rw [List.reduceOption_cons_of_some]; rfl
  · intro hne
    have hlen := h.length
    have := List.length_pos_of_ne_nil hne
    simp only [inflight, hx, Isr.marks, List.length_append, List.length_cons, List.length_nil] at hlen
    omega

theorem Inv.isr (hc : cell.Keeps) (h : Inv cfg s first l) (calm : hasty cfg s .isr = false) :
    Inv cfg (isr_step cell cfg s) (first + s.isr.takes) (l.drop s.isr.takes) := by
  have hh := h.handler
  have ht := h.thread
  have hm := h.marks
  unfold Handler at hh
  unfold inflight at hm
  cases hx : s.isr with
  | idle =>
    simp only [isr_step, hx, Isr.takes, Nat.add_zero, List.drop_zero]
    rw [hx] at hm
    split
    · exact { h with marks := hm, handler := trivial }
    · exact h
  | count =>
    simp only [isr_step, hx, Isr.takes, Nat.add_zero, List.drop_zero]
    rw [hx] at hm
    exact { h with marks := hm, handler := Nat.le_refl _ }
  | loop_back left msg_mark => exact h.loop_back hc hx
  | fetch left =>
    rw [hx] at hh hm
    cases left with
    | succ left =>
      obtain ⟨word, events, he⟩ : ∃ word events, s.events = word :: events :=
        List.exists_cons_of_length_pos (Nat.lt_of_lt_of_le (Nat.succ_pos left) hh)
      rw [he] at hm hh
      simp only [isr_step, hx, Isr.takes, Nat.add_zero, List.drop_zero]
      refine { h with marks := ?_, handler := ?_ }
      · rw [← hm, inflight, he]
        rfl
      · dsimp only [Handler]
        rw [he]
        exact Nat.le_of_succ_le_succ hh
    | zero =>
      simp only [isr_step, hx, Isr.takes, Nat.add_zero, List.drop_zero]
      split
      · rename_i hw
        obtain ⟨hs, hfull⟩ := hw
        have hn : s.tfqpi ∉ inflight s := by simpa [hasty, hx, hs, hfull] using calm
        refine { h with marks := hm, handler := trivial, thread := ?_ }
        cases hp : s.xmit with
        | idle =>
          unfold Thread at ht
          rw [hp] at ht
          exact ⟨ht.1, fun _ => h.room ht.1 hn⟩
        | _ => exact absurd (hs.symm.trans (ht.opened fun e => Xmit.noConfusion (hp.symm.trans e))) Bool.noConfusion
      · exact { h with marks := hm, handler := trivial }

theorem event_mark_sent (event word : Word) :
    event_mark ((event &&& ~~~TX_BUF_MM_MASK) ||| (word &&& TX_BUF_MM_MASK)) = event_mark word := by
  have e : ((event &&& ~~~TX_BUF_MM_MASK) ||| (word &&& TX_BUF_MM_MASK)) &&& TX_BUF_MM_MASK = word &&& TX_BUF_MM_MASK := by
    apply BitVec.eq_of_getLsbD_eq
    intro i hi
    simp only [BitVec.getLsbD_and, BitVec.getLsbD_or, BitVec.getLsbD_not, hi, decide_true, Bool.true_and]
    cases TX_BUF_MM_MASK.getLsbD i <;> simp
  rw [event_mark, e, event_mark]

/-- With room for the event, for which every frame asks. -/
theorem Inv.sent (h : Inv cfg s first l) (event : Word) (room : s.pending ≠ [] → s.events.length < cfg.txe_num) :
    Inv cfg (sent_step cfg s event) first l := by
  unfold sent_step
  split
  · exact h
  · rename_i word rest hp
    have hw := h.wanted
    rw [hp] at hw
    rw [if_pos ⟨hw word List.mem_cons_self, room (hp ▸ List.cons_ne_nil _ _)⟩]
    refine { h with marks := ?_, wanted := fun w hr => hw w (List.mem_cons_of_mem _ hr), handler := ?_ }
    · rw [← h.marks]
      simp [inflight, hp, event_mark_sent]
    · have hh := h.handler
      unfold Handler at hh ⊢
      have grows (left : ℕ) (hl : left ≤ s.events.length) (e : Word) : left ≤ (s.events ++ [e]).length := by
        rw [List.length_append]
        exact Nat.le_add_right_of_le hl
      cases hx : s.isr <;> rw [hx] at hh
      · trivial
      · trivial
      · exact grows _ hh _
      · exact grows _ hh _

theorem Inv.event_room (h : Inv cfg s first l) (hroom : cfg.num ≤ cfg.txe_num) (hp : s.pending ≠ []) :
    s.events.length < cfg.txe_num := by
  have hlen := h.length
  have := List.length_pos_of_ne_nil hp
  have := h.holds.room
  simp only [inflight, List.length_append, List.length_map] at hlen
  omega

theorem Inv.step (hc : cell.Keeps) (hroom : cfg.num ≤ cfg.txe_num) (h : Inv cfg s first l) {a : Act}
    (calm : hasty cfg s a = false) : ∃ first' l', Inv cfg (step dlc cell cfg s a) first' l' := by
  cases a with
  | call skb kept => exact ⟨first, l, h.call skb kept⟩
  | xmit => exact ⟨first, _, h.xmit hc calm⟩
  | isr => exact ⟨_, _, h.isr hc calm⟩
  | sent event => exact ⟨first, l, h.sent event (h.event_room hroom)⟩

end Steps

theorem inv_start : Inv cfg {} 0 [] where
  holds := Circular.holds_nil fun _ _ => rfl
  ledger := rfl
  marks := rfl
  wanted _ h := absurd h List.not_mem_nil
  thread := ⟨(Nat.zero_mod _).symm, fun _ => cfg.pos⟩
  handler := trivial

/-- Two elements in each FIFO. -/
def two_buffers : Config := ⟨2, 2, by decide, by decide⟩

/-- A frame of CAN FD. -/
def a_frame : sk_buff := ⟨true, ⟨0x123, 8, 0, fun _ => 0⟩⟩

/-- A classic frame. -/
def b_frame : sk_buff := ⟨false, ⟨0x7ff, 0, 0, fun _ => 0⟩⟩

/-- As long as the queue is never left open, or woken, while the marker next in turn is on its way, every frame that is to
be looped back is so once and in order: what is not looped back yet lies in the cells that the markers on their way name. -/
theorem echo_in_order (hc : cell.Keeps) (hroom : cfg.num ≤ cfg.txe_num) {as : List Act}
    (h : Runs.Meets (step dlc cell cfg) (fun s a => hasty cfg s a = false) {} as) :
    ∀ s ∈ Runs.visited (step dlc cell cfg) {} as,
      s.accepted = s.echoed ++ (inflight s).filterMap s.echo_skb ∧ (inflight s).Nodup := by
  have keeps (s : Net) (a : Act) (hi : ∃ first l, Inv cfg s first l) (calm : hasty cfg s a = false) :
      ∃ first l, Inv cfg (step dlc cell cfg s a) first l := by
    obtain ⟨first, l, hi⟩ := hi
    exact hi.step hc hroom calm
  intro s hs
  obtain ⟨first, l, hi⟩ := h.visited_inv keeps ⟨0, [], inv_start cfg⟩ s hs
  have cells : (inflight s).filterMap s.echo_skb = l.reduceOption := by
    have hmap := hi.holds.map_window
    rw [← hi.marks] at hmap
    rw [← hmap, List.reduceOption, List.filterMap_map]
    rfl
  rw [cells]
  refine ⟨hi.ledger, ?_⟩
  rw [hi.marks]
  exact Circular.nodup_window hi.holds.room

/-- One event, dealt with by the handler. -/
def sent_and_told : List Act := [.sent 0, .isr, .isr, .isr, .isr, .isr]

/-- A frame goes out and comes back, then one that is freed, then another, and a last one is on its way. -/
def four_frames : List Act :=
  [.call a_frame true, .xmit, .xmit] ++ sent_and_told ++ [.xmit, .xmit, .call b_frame false, .xmit, .xmit, .xmit, .xmit] ++
    [.call b_frame true, .xmit, .xmit] ++ sent_and_told ++ sent_and_told ++ [.xmit, .xmit, .call a_frame true, .xmit, .xmit]

theorem echo_in_order_once :
    let s := Runs.run (step kernel_dlc kernel_cell two_buffers) {} four_frames
    s.accepted = s.echoed ++ (inflight s).filterMap s.echo_skb ∧ (inflight s).Nodup := by
  have calm : Runs.Meets (step kernel_dlc kernel_cell two_buffers) (fun s a => hasty two_buffers s a = false) {} four_frames := by
    decide
  exact echo_in_order kernel_dlc kernel_cell two_buffers kernel_keeps (Nat.le_refl 2) calm _ (Runs.run_mem_visited _ four_frames)

/-- A freed frame leaves its cell free while its marker is on its way, and then one frame overtakes another. -/
example :
    let s := Runs.run (step kernel_dlc kernel_cell two_buffers) {} <|
      [.call a_frame false, .xmit, .xmit, .xmit, .xmit, .call a_frame true, .xmit, .xmit, .sent 0, .xmit, .xmit] ++
        [.call b_frame true, .xmit, .isr, .isr, .isr, .isr]
    s.accepted.map (·.canfd) = [true, false] ∧ s.echoed.map (·.canfd) = [false] := by
  decide

/-! ## The queue does not stay stopped -/

/-- Neither the controller nor the handler has anything left to do. -/
def Rest (s : Net) : Prop := s.isr = .idle ∧ s.tefn = false ∧ s.pending = []

/-- The queue is stopped when the last event has been dealt with already. -/
def late (s : Net) (a : Act) : Prop := a = .xmit ∧ s.xmit = .stop ∧ Rest s

/-- Every frame asks for an event, the handler is told of every event it has not counted, and while the queue is stopped
something is left to do. -/
structure Live (s : Net) : Prop where
  wanted : ∀ w ∈ s.pending, w &&& TX_BUF_EFC ≠ 0
  enabling : ∀ putidx word, s.xmit = .enable putidx word → word &&& TX_BUF_EFC ≠ 0
  idle : s.isr = .idle → s.events ≠ [] → s.tefn = true
  fetch : ∀ left, s.isr = .fetch left → left ≤ s.events.length ∧ (left < s.events.length → s.tefn = true)
  loop_back : ∀ left m, s.isr = .loop_back left m → left ≤ s.events.length ∧ (left < s.events.length → s.tefn = true)
  awake : s.stopped = true → ¬Rest s

section Live
variable {dlc cell cfg} {s : Net}

theorem Live.call (h : Live s) (skb : sk_buff) (kept : Bool) : Live (step dlc cell cfg s (.call skb kept)) := by
  unfold step begin_xmit
  dsimp only
  split
  · split
    · exact { h with enabling := fun _ _ e => Xmit.noConfusion e }
    · exact { h with enabling := fun _ _ e => Xmit.noConfusion e }
  · exact h

theorem Live.xmit (h : Live s) (intime : ¬late s .xmit) : Live (xmit_step dlc cell cfg s) := by
  unfold xmit_step
  split <;> rename_i hx
  · exact h
  · refine { h with enabling := fun p w e => ?_ }
    obtain ⟨-, rfl⟩ := Xmit.enable.inj e
    exact EFC_tx_dlc _ _
  · rename_i putidx word
    refine { h with wanted := ?_, enabling := fun _ _ e => Xmit.noConfusion e, awake := fun _ hr => ?_ }
    · intro w hw
      rcases List.mem_append.1 hw with hw | hw
      · exact h.wanted w hw
      · rw [List.mem_singleton.1 hw]
        exact h.enabling putidx word hx
    · exact absurd hr.2.2 (List.append_ne_nil_of_right_ne_nil _ (List.cons_ne_nil _ _))
  · split
    · exact { h with enabling := fun _ _ e => Xmit.noConfusion e }
    · exact { h with enabling := fun _ _ e => Xmit.noConfusion e }
  · split
    · exact { h with enabling := fun _ _ e => Xmit.noConfusion e }
    · exact { h with enabling := fun _ _ e => Xmit.noConfusion e }
  · exact { h with enabling := fun _ _ e => Xmit.noConfusion e, awake := fun _ hr => intime ⟨rfl, hx, hr⟩ }

theorem Live.isr (h : Live s) : Live (isr_step cell cfg s) := by
  unfold isr_step
  split <;> rename_i hx
  · split
    · exact { h with
        idle := fun e => Isr.noConfusion e, fetch := fun _ e => Isr.noConfusion e
        loop_back := fun _ _ e => Isr.noConfusion e, awake := fun _ hr => Isr.noConfusion hr.1 }
    · exact h
  · refine { h with
      idle := fun e => Isr.noConfusion e, fetch := fun left e => ?_
      loop_back := fun _ _ e => Isr.noConfusion e, awake := fun _ hr => Isr.noConfusion hr.1 }
    rw [← Isr.fetch.inj e]
    exact ⟨Nat.le_refl _, fun hl => absurd hl (Nat.lt_irrefl _)⟩
  · rename_i left
    obtain ⟨hle, htold⟩ := h.fetch _ hx
    refine { h with
      idle := fun e => Isr.noConfusion e, fetch := fun _ e => Isr.noConfusion e
      loop_back := fun k m e => ?_, awake := fun _ hr => Isr.noConfusion hr.1 }
    obtain ⟨rfl, -⟩ := Isr.loop_back.inj e
    rw [List.length_tail]
    exact ⟨by omega, fun hl => htold (by omega)⟩
  · rename_i left msg_mark
    refine { h with
      idle := fun e => Isr.noConfusion e, fetch := fun k e => ?_
      loop_back := fun _ _ e => Isr.noConfusion e, awake := fun _ hr => Isr.noConfusion hr.1 }
    rw [← Isr.fetch.inj e]
    exact h.loop_back left msg_mark hx
  · have told : s.events ≠ [] → s.tefn = true := fun hne => (h.fetch _ hx).2 (List.length_pos_of_ne_nil hne)
    split
    · exact { h with
        idle := fun _ => told, fetch := fun _ e => Isr.noConfusion e
        loop_back := fun _ _ e => Isr.noConfusion e, awake := fun e => Bool.noConfusion e }
    · rename_i hw
      refine { h with
        idle := fun _ => told, fetch := fun _ e => Isr.noConfusion e
        loop_back := fun _ _ e => Isr.noConfusion e, awake := fun hs hr => hw ⟨hs, ?_⟩ }
      -- a queue that stays stopped has its FIFO full
      have hp : s.pending = [] := hr.2.2
      rw [m_can_tx_fifo_full, hp]
      simpa using (Nat.ne_of_gt cfg.pos).symm

theorem Live.sent (htxe : 0 < cfg.txe_num) (h : Live s) (event : Word) : Live (sent_step cfg s event) := by
  unfold sent_step
  split
  · exact h
  · rename_i word rest hp
    have hw : ∀ w ∈ rest, w &&& TX_BUF_EFC ≠ 0 := fun w hr => h.wanted w (hp ▸ List.mem_cons_of_mem _ hr)
    split
    · refine { h with
        wanted := hw, idle := fun _ _ => rfl, fetch := fun left e => ⟨?_, fun _ => rfl⟩
        loop_back := fun left m e => ⟨?_, fun _ => rfl⟩, awake := fun _ hr => Bool.noConfusion hr.2.1 }
      · rw [List.length_append]
        exact Nat.le_add_right_of_le (h.fetch left e).1
      · rw [List.length_append]
        exact Nat.le_add_right_of_le (h.loop_back left m e).1
    · rename_i hfull
      -- with no room for an event there are events that wait for the handler
      refine { h with wanted := hw, awake := fun hs hr => ?_ }
      have hefc : word &&& TX_BUF_EFC ≠ 0 := h.wanted word (hp ▸ List.mem_cons_self)
      have hne : s.events ≠ [] := by
        rintro e
        refine hfull ⟨hefc, ?_⟩
        rw [e]
        exact htxe
      exact Bool.noConfusion (hr.2.1.symm.trans (h.idle hr.1 hne))

theorem Live.step (htxe : 0 < cfg.txe_num) (h : Live s) {a : Act} (intime : ¬late s a) : Live (step dlc cell cfg s a) := by
  cases a with
  | call skb kept => exact h.call skb kept
  | xmit => exact h.xmit intime
  | isr => exact h.isr
  | sent event => exact h.sent htxe event

end Live

theorem live_start : Live {} where
  wanted _ h := absurd h List.not_mem_nil
  enabling _ _ h := Xmit.noConfusion h
  idle _ h := absurd rfl h
  fetch _ h := Isr.noConfusion h
  loop_back _ _ h := Isr.noConfusion h
  awake h := Bool.noConfusion h

/-- A step of the handler or the controller that has something to do. -/
def Moves (s : Net) : Act → Prop
  | .isr => s.isr ≠ .idle ∨ s.tefn = true
  | .sent _ => s.pending ≠ []
  | _ => False

/-- How many steps the handler has left, less those for events it has still to fetch. -/
def Isr.weight : Isr → ℕ
  | .idle => 0
  | .count => 2
  | .fetch _ => 1
  | .loop_back _ _ => 2

/-- How many steps the handler and the controller can make at most. -/
def weight (s : Net) : ℕ := 6 * s.pending.length + 2 * s.events.length + 3 * s.tefn.toNat + s.isr.weight

theorem Live.weight_lt {s : Net} (h : Live s) {a : Act} (hm : Moves s a) :
    weight (Can.step dlc cell cfg s a) < weight s := by
  cases a with
  | call skb kept => exact hm.elim
  | xmit => exact hm.elim
  | isr =>
    dsimp only [Can.step]
    unfold isr_step
    split <;> rename_i hx
    · obtain hm | hm := hm
      · exact absurd hx hm
      · simp [weight, hx, hm, Isr.weight]
    · simp [weight, hx, Isr.weight]
    · have := (h.fetch _ hx).1
      simp only [weight, hx, Isr.weight, List.length_tail]
      omega
    · simp [weight, hx, Isr.weight]
    · split <;> simp [weight, hx, Isr.weight]
  | sent event =>
    dsimp only [Can.step]
    unfold sent_step
    split <;> rename_i hp
    · exact absurd hp hm
    · split
      · simp only [weight, hp, List.length_append, List.length_cons, List.length_nil, Bool.toNat_true]
        omega
      · simp only [weight, hp, List.length_cons]
        omega

/-- As long as the queue is never stopped after the last event, it is open again once the controller and the handler have
come to rest, which they do after a number of steps known in advance. -/
theorem queue_reopens (htxe : 0 < cfg.txe_num) {as bs : List Act}
    (h : Runs.Meets (step dlc cell cfg) (fun s a => ¬late s a) {} as)
    (hb : Runs.Meets (step dlc cell cfg) Moves (Runs.run (step dlc cell cfg) {} as) bs) :
    bs.length ≤ weight (Runs.run (step dlc cell cfg) {} as) ∧
      (Rest (Runs.run (step dlc cell cfg) {} (as ++ bs)) → (Runs.run (step dlc cell cfg) {} (as ++ bs)).stopped = false) := by
  have hl : Live (Runs.run (step dlc cell cfg) {} as) :=
    h.visited_inv (I := Live) (fun s a hs hn => hs.step htxe hn) live_start _ (Runs.run_mem_visited ..)
  rw [Runs.run_append]
  generalize Runs.run (step dlc cell cfg) {} as = s at hb hl
  induction bs generalizing s with
  | nil =>
    refine ⟨Nat.zero_le _, fun hr => ?_⟩
    cases hs : s.stopped with
    | false => exact hs
    | true => exact absurd hr (hl.awake hs)
  | cons b bs ih =>
    obtain ⟨hm, hb⟩ := hb
    have intime : ¬late s b := by
      rintro ⟨rfl, -⟩
      exact hm
    obtain ⟨hlen, hrest⟩ := ih _ hb (hl.step htxe intime)
    have := hl.weight_lt dlc cell cfg hm
    exact ⟨by rw [List.length_cons]; omega, hrest⟩

/-- Two frames fill the FIFO. -/
def filled : List Act :=
  [.call a_frame true, .xmit, .xmit, .xmit, .xmit, .call b_frame true, .xmit, .xmit, .xmit, .xmit]

/-- The queue is stopped with the FIFO full, and open again once both frames have been sent and looped back. -/
theorem queue_reopens_once :
    (Runs.run (step kernel_dlc kernel_cell two_buffers) {} filled).stopped = true ∧
      (Runs.run (step kernel_dlc kernel_cell two_buffers) {}
        (filled ++ [.sent 0, .isr, .isr, .isr, .isr, .isr, .sent 0, .isr, .isr, .isr, .isr, .isr])).stopped = false := by
  have intime : Runs.Meets (step kernel_dlc kernel_cell two_buffers) (fun s a => ¬late s a) {} filled :=
    ⟨fun h => Act.noConfusion h.1, fun h => Xmit.noConfusion h.2.1, fun h => Xmit.noConfusion h.2.1,
      fun h => Xmit.noConfusion h.2.1, fun h => Xmit.noConfusion h.2.1, fun h => Act.noConfusion h.1,
      fun h => Xmit.noConfusion h.2.1, fun h => Xmit.noConfusion h.2.1, fun h => Xmit.noConfusion h.2.1,
      fun h => List.cons_ne_nil _ _ h.2.2.2.2, trivial⟩
  have moves : Runs.Meets (step kernel_dlc kernel_cell two_buffers) Moves
      (Runs.run (step kernel_dlc kernel_cell two_buffers) {} filled)
      [.sent 0, .isr, .isr, .isr, .isr, .isr, .sent 0, .isr, .isr, .isr, .isr, .isr] :=
    ⟨List.cons_ne_nil _ _, .inr rfl, .inl fun h => Isr.noConfusion h, .inl fun h => Isr.noConfusion h,
      .inl fun h => Isr.noConfusion h, .inl fun h => Isr.noConfusion h, List.cons_ne_nil _ _, .inr rfl,
      .inl fun h => Isr.noConfusion h, .inl fun h => Isr.noConfusion h, .inl fun h => Isr.noConfusion h,
      .inl fun h => Isr.noConfusion h, trivial⟩
  exact ⟨rfl, (queue_reopens kernel_dlc kernel_cell two_buffers (by decide) intime moves).2 ⟨rfl, rfl, rfl⟩⟩

/-! ## What goes wrong otherwise -/

section Races
variable {cfg} {s : Net} {k : ℕ}

/-- What the thread looks at is the cell next in turn. -/
theorem Inv.next_cell {first : ℕ} {l : List (Option sk_buff)} (h : Inv cfg s first l) {putidx : ℕ}
    (hx : s.xmit = .check_echo putidx) :
    s.tfqpi = (first + l.length) % cfg.num ∧ m_can_next_echo_skb_occupied cfg s putidx = (s.echo_skb s.tfqpi).isSome := by
  have ht := h.thread
  unfold Thread at ht
  rw [hx] at ht
  obtain ⟨hnext, hlt, hput, -⟩ := ht
  exact ⟨hput, by simp only [m_can_next_echo_skb_occupied, next_idx_eq hlt, hnext]⟩

/-- The thread finds the next cell free while there is room. -/
theorem Inv.next_open {first : ℕ} {l : List (Option sk_buff)} (h : Inv cfg s first l) {putidx : ℕ}
    (hx : s.xmit = .check_echo putidx) (hl : l.length < cfg.num) : xmit_step dlc cell cfg s = { s with xmit := .idle } := by
  obtain ⟨hput, hocc⟩ := h.next_cell hx
  have free : s.echo_skb s.tfqpi = none := by
    rw [hput]
    exact h.holds.next_free hl
  simp only [xmit_step, hx, hocc, free]
  rfl

/-- The invariant, with a frame in every cell in use. -/
def Stocked (cfg : Config) (s : Net) (len : ℕ) : Prop := ∃ first l, Inv cfg s first l ∧ none ∉ l ∧ l.length = len

/-- Then the thread is never hasty: a cell whose marker is on its way is not free. -/
theorem Stocked.calm {len : ℕ} (h : Stocked cfg s len) : hasty cfg s .xmit = false := by
  obtain ⟨first, l, hi, hn, -⟩ := h
  cases hx : s.xmit with
  | check_echo putidx =>
    by_cases hm : s.tfqpi ∈ inflight s
    · have held : s.echo_skb s.tfqpi ∈ l := by
        rw [← hi.holds.map_window, ← hi.marks]
        exact List.mem_map_of_mem hm
      obtain ⟨skb, hskb⟩ := Option.ne_none_iff_exists'.1 fun hnone => hn (hnone ▸ held)
      simp [hasty, hx, (hi.next_cell hx).2, hskb]
    · simp [hasty, hx, hm]
  | _ => simp only [hasty, hx]

theorem Stocked.xmit (hc : cell.Keeps) {len : ℕ} (h : Stocked cfg s len) (hk : none ∉ s.xmit.keeps) :
    Stocked cfg (xmit_step dlc cell cfg s) (len + s.xmit.keeps.length) := by
  have calm := h.calm
  obtain ⟨first, l, hi, hn, rfl⟩ := h
  refine ⟨first, _, hi.xmit hc calm, ?_, List.length_append⟩
  rw [List.mem_append]
  exact not_or.2 ⟨hn, hk⟩

theorem Stocked.isr (hc : cell.Keeps) {len : ℕ} (h : Stocked cfg s len) (calm : hasty cfg s .isr = false) :
    Stocked cfg (isr_step cell cfg s) (len - s.isr.takes) := by
  obtain ⟨first, l, hi, hn, rfl⟩ := h
  exact ⟨_, _, hi.isr hc calm, fun hm => hn (List.mem_of_mem_drop hm), List.length_drop⟩

theorem Stocked.sent {len : ℕ} (h : Stocked cfg s len) (event : Word) (room : s.events.length < cfg.txe_num) :
    Stocked cfg (sent_step cfg s event) len := by
  obtain ⟨first, l, hi, hn, hlen⟩ := h
  exact ⟨first, l, hi.sent event fun _ => room, hn, hlen⟩

/-- The frames of the last calls wait in the FIFO, `k` of them, and the queue is open. -/
structure Filling (cfg : Config) (k : ℕ) (s : Net) : Prop where
  xmit : s.xmit = .idle
  stopped : s.stopped = false
  events : s.events = []
  pending : s.pending.length = k
  isr : s.isr.marks = []
  stocked : Stocked cfg s k
  live : Live s

/-- A frame is on its way, and the queue has not been looked at yet. -/
structure Sent (s t : Net) : Prop where
  xmit : t.xmit = .check_full s.tfqpi
  stopped : t.stopped = false
  events : t.events = s.events
  pending : t.pending.length = s.pending.length + 1
  isr : t.isr = s.isr
  tefn : t.tefn = s.tefn

theorem call_eq (hx : s.xmit = .idle) (hs : s.stopped = false) (hp : s.pending.length < cfg.num) (skb : sk_buff) :
    step dlc cell cfg s (.call skb true) = { s with xmit := .keep s.tfqpi skb true } := by
  have hfull : m_can_tx_fifo_full cfg s = false := by simpa [m_can_tx_fifo_full] using Nat.ne_of_lt hp
  simp only [step, hx, hs, begin_xmit, hfull]
  rfl

theorem Live.xmit_of_ne (h : Live s) (hx : s.xmit ≠ .stop) : Live (xmit_step dlc cell cfg s) :=
  h.xmit fun hl => hx hl.2.1

theorem Filling.send (hc : cell.Keeps) (h : Filling cfg k s) (hk : k < cfg.num) (skb : sk_buff) :
    let t := Runs.run (step dlc cell cfg) s [.call skb true, .xmit, .xmit]
    Sent s t ∧ Stocked cfg t (k + 1) ∧ Live t := by
  have h1 : step dlc cell cfg s (.call skb true) = _ := call_eq dlc cell h.xmit h.stopped (by rwa [h.pending]) skb
  obtain ⟨first, l, hi, hn, hlen⟩ := h.stocked
  have hs : Stocked cfg (step dlc cell cfg s (.call skb true)) k := ⟨first, l, hi.call skb true, hn, hlen⟩
  have hl : Live (step dlc cell cfg s (.call skb true)) := h.live.call skb true
  rw [h1] at hs hl
  have hs : Stocked cfg (xmit_step dlc cell cfg _) (k + 1) := hs.xmit dlc cell hc (by simp [Xmit.keeps])
  have hs : Stocked cfg (xmit_step dlc cell cfg _) (k + 1) := hs.xmit dlc cell hc List.not_mem_nil
  have hl : Live (xmit_step dlc cell cfg _) := hl.xmit_of_ne dlc cell fun e => Xmit.noConfusion e
  have hl : Live (xmit_step dlc cell cfg _) := hl.xmit_of_ne dlc cell fun e => Xmit.noConfusion e
  dsimp only
  rw [Runs.run_cons, h1]
  refine ⟨⟨rfl, h.stopped, rfl, ?_, rfl, rfl⟩, hs, hl⟩
  simp [step, xmit_step]

/-- The thread looks at the queue and leaves it open. -/
theorem Stocked.opens (hc : cell.Keeps) {len : ℕ} (h : Stocked cfg s len) (hl : Live s) {putidx : ℕ}
    (hx : s.xmit = .check_full putidx) (hp : s.pending.length < cfg.num) (hlen : len < cfg.num) :
    Runs.run (Can.step dlc cell cfg) s [.xmit, .xmit] = { s with xmit := .idle } ∧
      Stocked cfg { s with xmit := .idle } len ∧ Live { s with xmit := .idle } := by
  have hfull : m_can_tx_fifo_full cfg s = false := by
    simpa [m_can_tx_fifo_full] using Nat.ne_of_lt hp
  have h4 : xmit_step dlc cell cfg s = { s with xmit := .check_echo putidx } := by
    simp only [xmit_step, hx, hfull]
    rfl
  have hs : Stocked cfg (xmit_step dlc cell cfg s) (len + s.xmit.keeps.length) :=
    h.xmit dlc cell hc (by simp [hx, Xmit.keeps])
  have hl' : Live (xmit_step dlc cell cfg s) := hl.xmit_of_ne dlc cell fun e => by rw [hx] at e; exact Xmit.noConfusion e
  rw [h4, hx] at hs
  rw [h4] at hl'
  have hs' : Stocked cfg (xmit_step dlc cell cfg _) len := hs.xmit dlc cell hc List.not_mem_nil
  have h5 : xmit_step dlc cell cfg { s with xmit := .check_echo putidx } = { s with xmit := .idle } := by
    obtain ⟨first, l, hi, -, hlen'⟩ := hs
    exact hi.next_open dlc cell rfl (lt_of_eq_of_lt hlen' hlen)
  have hl'' : Live (xmit_step dlc cell cfg _) := hl'.xmit_of_ne dlc cell fun e => Xmit.noConfusion e
  rw [h5] at hs' hl''
  refine ⟨?_, hs', hl''⟩
  rw [Runs.run_cons, Runs.run_cons, Runs.run_nil]
  dsimp only [Can.step]
  rw [h4, h5]

/-- While there is room, the queue stays open after a frame. -/
theorem Filling.next (hc : cell.Keeps) (h : Filling cfg k s) (hk : k + 1 < cfg.num) (skb : sk_buff) :
    ∃ as, let t := Runs.run (step dlc cell cfg) s as
      Filling cfg (k + 1) t ∧ t.isr = s.isr ∧ t.tefn = s.tefn := by
  have hsend := h.send dlc cell hc (Nat.lt_of_succ_lt hk) skb
  dsimp only at hsend
  refine ⟨[.call skb true, .xmit, .xmit] ++ [.xmit, .xmit], ?_⟩
  dsimp only
  rw [Runs.run_append]
  generalize Runs.run (step dlc cell cfg) s [.call skb true, .xmit, .xmit] = t at hsend
  obtain ⟨hs, hstock, hl⟩ := hsend
  have hp : t.pending.length = k + 1 := by rw [hs.pending, h.pending]
  obtain ⟨hrun, hstock, hl⟩ := hstock.opens dlc cell hc hl hs.xmit (by omega) hk
  rw [hrun]
  exact ⟨⟨rfl, hs.stopped, hs.events.trans h.events, hp, by rw [hs.isr, h.isr], hstock, hl⟩, hs.isr, hs.tefn⟩

theorem Filling.fill (hc : cell.Keeps) (h : Filling cfg 0 s) (skb : sk_buff) (hk : k < cfg.num) :
    ∃ as, let t := Runs.run (step dlc cell cfg) s as
      Filling cfg k t ∧ t.isr = s.isr ∧ t.tefn = s.tefn := by
  induction k with
  | zero => exact ⟨[], h, rfl, rfl⟩
  | succ k ih =>
    obtain ⟨as, hf, hi, ht⟩ := ih (Nat.lt_of_succ_lt hk)
    obtain ⟨bs, hf', hi', ht'⟩ := hf.next dlc cell hc hk skb
    refine ⟨as ++ bs, ?_⟩
    dsimp only
    rw [Runs.run_append]
    exact ⟨hf', hi'.trans hi, ht'.trans ht⟩

/-- The FIFO is full, and the transmitting thread is about to stop the queue. -/
structure Full (cfg : Config) (s t : Net) : Prop where
  xmit : t.xmit = .stop
  stopped : t.stopped = false
  events : t.events = []
  pending : t.pending.length = cfg.num
  isr : t.isr = s.isr
  tefn : t.tefn = s.tefn
  stocked : Stocked cfg t cfg.num
  live : Live t

theorem Filling.full (hc : cell.Keeps) (h : Filling cfg 0 s) (skb : sk_buff) :
    ∃ as, Full cfg s (Runs.run (step dlc cell cfg) s as) := by
  have hlast : cfg.num - 1 < cfg.num := Nat.sub_lt cfg.pos Nat.one_pos
  have hnum : cfg.num - 1 + 1 = cfg.num := Nat.sub_add_cancel cfg.pos
  obtain ⟨as, hf, hisr, htefn⟩ := h.fill dlc cell hc skb hlast
  have hsend := hf.send dlc cell hc hlast skb
  refine ⟨as ++ ([.call skb true, .xmit, .xmit] ++ [.xmit]), ?_⟩
  rw [Runs.run_append, Runs.run_append]
  generalize Runs.run (step dlc cell cfg) s as = u at hf hisr htefn hsend
  dsimp only at hsend
  generalize Runs.run (step dlc cell cfg) u [.call skb true, .xmit, .xmit] = t at hsend
  obtain ⟨hs, hstock, hl⟩ := hsend
  rw [hnum] at hstock
  have hp : t.pending.length = cfg.num := by rw [hs.pending, hf.pending, hnum]
  have h4 : xmit_step dlc cell cfg t = { t with xmit := .stop } := by
    simp only [xmit_step, hs.xmit, m_can_tx_fifo_full, hp]
    rfl
  have hstock' : Stocked cfg (xmit_step dlc cell cfg t) (cfg.num + t.xmit.keeps.length) :=
    hstock.xmit dlc cell hc (by simp [hs.xmit, Xmit.keeps])
  have hl' : Live (xmit_step dlc cell cfg t) := hl.xmit_of_ne dlc cell fun e => by rw [hs.xmit] at e; exact Xmit.noConfusion e
  rw [h4, hs.xmit] at hstock'
  rw [h4] at hl'
  rw [Runs.run_cons, Runs.run_nil]
  dsimp only [Can.step]
  rw [h4]
  exact ⟨rfl, hs.stopped, hs.events.trans hf.events, hp, hs.isr.trans hisr, hs.tefn.trans htefn, hstock', hl'⟩

theorem Moves.keeps {a : Act} (h : Moves s a) :
    (step dlc cell cfg s a).xmit = s.xmit ∧ (s.stopped = false → (step dlc cell cfg s a).stopped = false) := by
  cases a with
  | call skb kept => exact h.elim
  | xmit => exact h.elim
  | isr =>
    dsimp only [Can.step]
    unfold isr_step
    split
    · split <;> exact ⟨rfl, id⟩
    · exact ⟨rfl, id⟩
    · exact ⟨rfl, id⟩
    · exact ⟨rfl, id⟩
    · split
      · exact ⟨rfl, fun _ => rfl⟩
      · exact ⟨rfl, id⟩
  | sent event =>
    dsimp only [Can.step]
    unfold sent_step
    split
    · exact ⟨rfl, id⟩
    · split <;> exact ⟨rfl, id⟩

theorem moves_of_not_rest (h : ¬Rest s) : ∃ a, Moves s a := by
  by_cases hp : s.pending = []
  · refine ⟨.isr, ?_⟩
    by_cases hi : s.isr = .idle
    · cases ht : s.tefn with
      | false => exact absurd ⟨hi, ht, hp⟩ h
      | true => exact .inr ht
    · exact .inl hi
  · exact ⟨.sent 0, hp⟩

/-- The controller and the handler may finish before the transmitting thread goes on. -/
theorem Live.settles (htxe : 0 < cfg.txe_num) (h : Live s) (hs : s.stopped = false) :
    ∃ bs, let t := Runs.run (Can.step dlc cell cfg) s bs
      Rest t ∧ t.xmit = s.xmit ∧ t.stopped = false := by
  induction hn : weight s using Nat.strongRecOn generalizing s with
  | ind n ih =>
    by_cases hr : Rest s
    · exact ⟨[], hr, rfl, hs⟩
    · obtain ⟨a, hm⟩ := moves_of_not_rest hr
      have intime : ¬late s a := by
        rintro ⟨rfl, -⟩
        exact hm
      obtain ⟨hx, hstop⟩ := @Moves.keeps dlc cell cfg s a hm
      obtain ⟨bs, hrest, hx', hs'⟩ := ih _ (hn ▸ h.weight_lt dlc cell cfg hm) (h.step htxe intime) (hstop hs) rfl
      exact ⟨a :: bs, hrest, hx'.trans hx, hs'⟩

theorem stocked_start : Stocked cfg {} 0 := ⟨0, [], inv_start cfg, List.not_mem_nil, rfl⟩

theorem filling_start : Filling cfg 0 {} := ⟨rfl, rfl, rfl, rfl, rfl, stocked_start, live_start⟩

/-- Whatever the size of the FIFO, the queue may be stopped for good: the thread finds the FIFO full, every frame is sent
and looped back, and only then does the thread stop the queue. -/
theorem stopped_for_good (hc : cell.Keeps) (cfg : Config) (htxe : 0 < cfg.txe_num) (skb : sk_buff) :
    ∃ as, let s := Runs.run (step dlc cell cfg) {} as
      s.stopped = true ∧ ∀ bs, Runs.run (step dlc cell cfg) s bs = s := by
  obtain ⟨as, hf⟩ := (filling_start : Filling cfg 0 {}).full dlc cell hc skb
  obtain ⟨bs, hrest, hx, -⟩ := @Live.settles dlc cell cfg _ htxe hf.live hf.stopped
  refine ⟨as ++ (bs ++ [.xmit]), ?_⟩
  dsimp only
  rw [Runs.run_append, Runs.run_append]
  generalize Runs.run (step dlc cell cfg) (Runs.run (step dlc cell cfg) {} as) bs = t at hrest hx
  have hstop : Runs.run (step dlc cell cfg) t [.xmit] = { t with stopped := true, xmit := .idle } := by
    simp only [Runs.run_cons, Runs.run_nil, step, xmit_step, hx, hf.xmit]
  rw [hstop]
  refine ⟨rfl, fun bs => ?_⟩
  induction bs with
  | nil => rfl
  | cons b bs ih =>
    have still : step dlc cell cfg { t with stopped := true, xmit := .idle } b = { t with stopped := true, xmit := .idle } := by
      cases b <;> simp [step, xmit_step, isr_step, sent_step, hrest.1, hrest.2.1, hrest.2.2]
    rw [Runs.run_cons, still, ih]

theorem stopped_for_good_once : ∃ as, let s := Runs.run (step kernel_dlc kernel_cell two_buffers) {} as
    s.stopped = true ∧ ∀ bs, Runs.run (step kernel_dlc kernel_cell two_buffers) s bs = s :=
  stopped_for_good kernel_dlc kernel_cell kernel_keeps two_buffers (by decide) a_frame

/-- The handler may stand before its last look at the queue with nothing on its way. -/
theorem filling_handler (hc : cell.Keeps) (cfg : Config) (htxe : 0 < cfg.txe_num) (skb : sk_buff) :
    ∃ as, let s := Runs.run (step dlc cell cfg) {} as
      Filling cfg 0 s ∧ s.isr = .fetch 0 := by
  obtain ⟨hs, hstock, hl⟩ := (filling_start : Filling cfg 0 {}).send dlc cell hc cfg.pos skb
  refine ⟨[.call skb true, .xmit, .xmit] ++ [.sent 0, .isr, .isr, .isr, .isr, .xmit, .xmit], ?_⟩
  dsimp only
  rw [Runs.run_append]
  generalize Runs.run (step dlc cell cfg) {} [.call skb true, .xmit, .xmit] = t at hs hstock hl
  obtain ⟨word, hp⟩ : ∃ word, t.pending = [word] := List.length_eq_one_iff.1 hs.pending
  have hefc : word &&& TX_BUF_EFC ≠ 0 := hl.wanted word (by rw [hp]; exact List.mem_singleton_self word)
  have room : t.events.length < cfg.txe_num := by
    rw [hs.events]
    exact htxe
  have hs4 : Stocked cfg (sent_step cfg t 0) 1 := hstock.sent 0 room
  have hl4 : Live (sent_step cfg t 0) := hl.sent htxe 0
  have h4 : sent_step cfg t 0 = { t with
      pending := [], events := [(0 &&& ~~~TX_BUF_MM_MASK) ||| (word &&& TX_BUF_MM_MASK)], tefn := true, isr := .idle } := by
    rw [sent_step, hp]
    dsimp only
    rw [if_pos ⟨hefc, room⟩, hs.events, hs.isr]
    rfl
  rw [h4] at hs4 hl4
  have hs5 : Stocked cfg (isr_step cell cfg _) 1 := hs4.isr cell hc rfl
  have hs6 : Stocked cfg (isr_step cell cfg _) 1 := hs5.isr cell hc rfl
  have hs7 : Stocked cfg (isr_step cell cfg _) 1 := hs6.isr cell hc rfl
  have hs8 : Stocked cfg (isr_step cell cfg _) 0 := hs7.isr cell hc rfl
  have hl5 : Live (isr_step cell cfg _) := hl4.isr
  have hl6 : Live (isr_step cell cfg _) := hl5.isr
  have hl7 : Live (isr_step cell cfg _) := hl6.isr
  have hl8 : Live (isr_step cell cfg _) := hl7.isr
  obtain ⟨hrun, hstock, hl⟩ := hs8.opens dlc cell hc hl8 hs.xmit cfg.pos cfg.pos
  have e : Runs.run (step dlc cell cfg) t [.sent 0, .isr, .isr, .isr, .isr, .xmit, .xmit] = Runs.run (step dlc cell cfg)
      (isr_step cell cfg (isr_step cell cfg (isr_step cell cfg (isr_step cell cfg (sent_step cfg t 0))))) [.xmit, .xmit] := rfl
  rw [e, h4, hrun]
  exact ⟨⟨rfl, hs.stopped, rfl, rfl, rfl, hstock, hl⟩, rfl⟩

/-- Whatever the size of the FIFO, a frame may find its echo cell in use: the handler looks at the queue long after it has
looped back what it had counted. -/
theorem echo_cell_taken (hc : cell.Keeps) (cfg : Config) (htxe : 0 < cfg.txe_num) (skb : sk_buff) :
    ∃ as putidx, let s := Runs.run (step dlc cell cfg) {} as
      s.xmit = .keep putidx skb true ∧ s.echo_skb putidx ≠ none := by
  obtain ⟨as, hf, hisr⟩ := filling_handler dlc cell hc cfg htxe skb
  obtain ⟨bs, hfull⟩ := hf.full dlc cell hc skb
  rw [← Runs.run_append] at hfull
  have hisr := hfull.isr.trans hisr
  refine ⟨(as ++ bs) ++ [.xmit, .sent 0, .isr, .call skb true], (Runs.run (step dlc cell cfg) {} (as ++ bs)).tfqpi, ?_⟩
  dsimp only
  rw [Runs.run_append]
  generalize Runs.run (step dlc cell cfg) {} (as ++ bs) = t at hfull hisr
  obtain ⟨word, rest, hp⟩ : ∃ word rest, t.pending = word :: rest := List.exists_cons_of_length_pos (by rw [hfull.pending]; exact cfg.pos)
  have hrest : rest.length + 1 = cfg.num := by rw [← hfull.pending, hp, List.length_cons]
  have hefc : word &&& TX_BUF_EFC ≠ 0 := hfull.live.wanted word (by rw [hp]; exact List.mem_cons_self)
  have room : t.events.length < cfg.txe_num := by
    rw [hfull.events]
    exact htxe
  have h1 : xmit_step dlc cell cfg t = { t with stopped := true, xmit := .idle } := by simp only [xmit_step, hfull.xmit]
  have hs : Stocked cfg (xmit_step dlc cell cfg t) (cfg.num + t.xmit.keeps.length) :=
    hfull.stocked.xmit dlc cell hc (by simp [hfull.xmit, Xmit.keeps])
  rw [h1, hfull.xmit] at hs
  have h2 : sent_step cfg { t with stopped := true, xmit := .idle } 0 = { t with
      pending := rest, events := [(0 &&& ~~~TX_BUF_MM_MASK) ||| (word &&& TX_BUF_MM_MASK)], tefn := true
      stopped := true, xmit := .idle, isr := .fetch 0 } := by
    simp only [sent_step, hp]
    rw [if_pos ⟨hefc, room⟩, hfull.events, hisr]
    rfl
  -- all cells are in use, and the next one in turn with them
  have taken : t.echo_skb t.tfqpi ≠ none := by
    obtain ⟨first, l, hi, hn, hlen⟩ := hs
    have hlen : l.length = cfg.num := hlen
    have hput : t.tfqpi = (first + l.length) % cfg.num := hi.thread.1
    rw [hput]
    exact hi.holds.next_taken cfg.pos hlen hn
  have h3 : isr_step cell cfg { t with
      pending := rest, events := [(0 &&& ~~~TX_BUF_MM_MASK) ||| (word &&& TX_BUF_MM_MASK)], tefn := true
      stopped := true, xmit := .idle, isr := .fetch 0 } = { t with
      pending := rest, events := [(0 &&& ~~~TX_BUF_MM_MASK) ||| (word &&& TX_BUF_MM_MASK)], tefn := true
      stopped := false, xmit := .idle, isr := .idle } := by
    have hne : rest.length ≠ cfg.num := by omega
    simp [isr_step, m_can_tx_fifo_full, hne]
  have e : Runs.run (step dlc cell cfg) t [.xmit, .sent 0, .isr, .call skb true] =
      step dlc cell cfg (isr_step cell cfg (sent_step cfg (xmit_step dlc cell cfg t) 0)) (.call skb true) := rfl
  have hcall : step dlc cell cfg { t with
      pending := rest, events := [(0 &&& ~~~TX_BUF_MM_MASK) ||| (word &&& TX_BUF_MM_MASK)], tefn := true
      stopped := false, xmit := .idle, isr := .idle } (.call skb true) = _ :=
    call_eq dlc cell rfl rfl (by rw [← hrest]; exact Nat.lt_succ_self _) skb
  rw [e, h1, h2, h3, hcall]
  exact ⟨rfl, taken⟩

theorem echo_cell_taken_once : ∃ as putidx, let s := Runs.run (step kernel_dlc kernel_cell two_buffers) {} as
    s.xmit = .keep putidx a_frame true ∧ s.echo_skb putidx ≠ none :=
  echo_cell_taken kernel_dlc kernel_cell kernel_keeps two_buffers (by decide) a_frame

end Races

end Can
