import Mathlib.Data.Nat.Notation
import Mathlib.Data.Int.Notation
import Mathlib.Algebra.Order.Group.Multiset
import Mathlib.Tactic.Abel
import LinuxDriver.Lib.Runs
/-!
# The receive reordering of the RTL8723DS

Frames of an A-MPDU are handed up in the order of their 12 bit sequence
numbers: `recv_indicatepkt_reorder` keeps what comes early in a queue, the
timer gives up on a gap. One station and one traffic id. The receive path is
one thread; it cancels the timer after it has left the lock, so the timer can
expire in between.
-/

namespace Wlan

/-- What the reordering reads of `rx_pkt_attrib`, and the frame. -/
structure recv_frame (α : Type*) where
  seq_num : ℕ
  qos : Bool
  amsdu : Bool
  data : α

/-- The control block of one traffic id. -/
structure recv_reorder_ctrl (α : Type*) where
  enable : Bool
  indicate_seq : ℕ
  wsize_b : ℕ
  pending_recvframe_queue : List (recv_frame α)
  /-- `reordering_ctrl_timer` is pending. -/
  reordering_ctrl_timer : Bool
  bReorderWaiting : Bool

/-- The control block, whether the driver runs, whether the receive path has still to cancel the timer, and where the
frames went: to the upper layer, back to the free queue, or nowhere. -/
structure Rx (α : Type*) extends recv_reorder_ctrl α where
  cannot_run : Bool
  cancelling : Bool
  indicated : List (recv_frame α)
  freed : List (recv_frame α)
  leaked : List (recv_frame α)

/-- Bit 11 of `a - b`. -/
def SN_LESS (a b : ℕ) : Bool := 2048 ≤ ((a : ℤ) - b) % 4096

/-- The numbers are the same. -/
def SN_EQUAL (a b : ℕ) : Bool := a == b

variable {α : Type*}

/-! ## The driver -/

/-- The control block of `rtw_alloc_stainfo`. -/
def recv_reorder_ctrl.new : recv_reorder_ctrl α :=
  { enable := false, indicate_seq := 0xffff, wsize_b := 64, pending_recvframe_queue := [],
    reordering_ctrl_timer := false, bReorderWaiting := false }

/-- A station whose driver runs and has got no frame. -/
def rtw_alloc_stainfo : Rx α :=
  { recv_reorder_ctrl.new with cannot_run := false, cancelling := false, indicated := [], freed := [], leaked := [] }

/-- `indicate_seq` afterwards, if the frame is not an old one. -/
def check_indicate_seq (indicate_seq wsize_b seq_num : ℕ) : Option ℕ :=
  -- computed before the first frame sets `indicate_seq`
  let wend := (indicate_seq + wsize_b + 4095) % 4096
  let indicate_seq := if indicate_seq = 0xffff then seq_num else indicate_seq
  if SN_LESS seq_num indicate_seq then none
  else if SN_EQUAL seq_num indicate_seq then some ((indicate_seq + 1) % 4096)
  else if SN_LESS wend seq_num then
    some (if wsize_b ≤ seq_num + 1 then seq_num + 1 - wsize_b else 0xfff - (wsize_b - (seq_num + 1)) + 1)
  else some indicate_seq

/-- The queue with the frame in its place, unless its number is there already. -/
def enqueue_reorder_recvframe (prframe : recv_frame α) : List (recv_frame α) → Option (List (recv_frame α))
  | [] => some [prframe]
  | pnext :: plist =>
    if SN_LESS pnext.seq_num prframe.seq_num then (enqueue_reorder_recvframe prframe plist).map (pnext :: ·)
    else if SN_EQUAL pnext.seq_num prframe.seq_num then none
    else some (prframe :: pnext :: plist)

/-- The loop of `recv_indicatepkts_in_order`: `indicate_seq` afterwards, the frames taken from the queue, and the queue. -/
def indicate_loop : ℕ → List (recv_frame α) → ℕ × List (recv_frame α) × List (recv_frame α)
  | w, [] => (w, [], [])
  | w, prframe :: plist =>
    if !SN_LESS w prframe.seq_num then
      let r := indicate_loop (if SN_EQUAL w prframe.seq_num then (w + 1) % 4096 else w) plist
      (r.1, prframe :: r.2.1, r.2.2)
    else (w, [], prframe :: plist)

/-- A frame that is no A-MSDU goes nowhere once the driver is stopped. `amsdu_to_msdu` hands up what it can and frees the
frame. -/
def Rx.indicate (s : Rx α) (prframe : recv_frame α) : Rx α :=
  if !prframe.amsdu && s.cannot_run then { s with leaked := s.leaked ++ [prframe] }
  else { s with indicated := s.indicated ++ [prframe] }

/-- The frames taken from the queue, handed up one after the other, and the return value. -/
def recv_indicatepkts_in_order (s : Rx α) (bforced : Bool) : Rx α × Bool :=
  match bforced, s.pending_recvframe_queue with
  | true, [] => (s, true)
  | _, queue =>
    let w := if bforced then (queue.head?.elim s.indicate_seq (·.seq_num)) else s.indicate_seq
    let r := indicate_loop w queue
    (r.2.1.foldl Rx.indicate { s with indicate_seq := r.1, pending_recvframe_queue := r.2.2 }, !r.2.2.isEmpty)

/-- From the lock on. The frame is not queued if it is old or there already. -/
def recv_indicatepkt_reorder_locked (s : Rx α) (prframe : recv_frame α) : Rx α × Bool :=
  match check_indicate_seq s.indicate_seq s.wsize_b prframe.seq_num with
  | none =>
    -- the first frame sets `indicate_seq` even so, but it is not an old one then
    (s, false)
  | some w =>
    match enqueue_reorder_recvframe prframe s.pending_recvframe_queue with
    | none => ({ s with indicate_seq := w }, false)
    | some queue =>
      let r := recv_indicatepkts_in_order { s with indicate_seq := w, pending_recvframe_queue := queue } false
      if r.2 then
        (if r.1.bReorderWaiting then r.1 else { r.1 with bReorderWaiting := true, reordering_ctrl_timer := true }, true)
      else ({ r.1 with bReorderWaiting := false, cancelling := true }, true)

/-- `hdr`: `wlanhdr_to_ethhdr` succeeds. -/
def recv_indicatepkt_reorder (s : Rx α) (prframe : recv_frame α) (hdr : Bool) : Rx α × Bool :=
  if !prframe.amsdu then
    if !hdr then (s, false)
    else if !prframe.qos then if !s.cannot_run then (s.indicate prframe, true) else (s, false)
    else if !s.enable then
      ({ s with indicated := s.indicated ++ [prframe], indicate_seq := (prframe.seq_num + 1) % 4096 }, true)
    else recv_indicatepkt_reorder_locked s prframe
  else if !s.enable then
    ({ s with indicated := s.indicated ++ [prframe], indicate_seq := (prframe.seq_num + 1) % 4096 }, true)
  else recv_indicatepkt_reorder_locked s prframe

/-- With `recv_func_posthandle`, which frees the frame if this fails. -/
def process_recv_indicatepkts (s : Rx α) (prframe : recv_frame α) (hdr : Bool) : Rx α :=
  let r := recv_indicatepkt_reorder s prframe hdr
  if r.2 then r.1
  else if !r.1.cannot_run then { r.1 with freed := r.1.freed ++ [prframe] }
  else { r.1 with leaked := r.1.leaked ++ [prframe] }

/-- An expiry moves the window on to the first frame held, and arms the timer again if frames are left. -/
def rtw_reordering_ctrl_timeout_handler (s : Rx α) : Rx α :=
  if s.cannot_run then s
  else
    let r := recv_indicatepkts_in_order { s with bReorderWaiting := false } true
    if r.2 then { r.1 with reordering_ctrl_timer := true } else r.1

/-- Status 0 accepts the session, 37 turns it down. -/
def add_ba_rsp_hdl (s : Rx α) (status : ℕ) : Rx α :=
  { s with
    indicate_seq := 0xffff
    enable := if status = 0 then true else if status = 37 then false else s.enable }

/-! ## The events -/

/-- What happens to the driver. -/
inductive Act (α : Type*)
  /-- The receive path gets a frame. -/
  | recv (prframe : recv_frame α) (hdr : Bool)
  /-- It reaches `_cancel_timer_ex`. -/
  | cancel
  | timeout
  | addba (status : ℕ)
  | delba
  /-- The driver is stopped or the card removed. -/
  | stop
  /-- `rtw_free_stainfo`, and the next `rtw_alloc_stainfo`. -/
  | free

/-- The receive path, outside the lock, cancels the timer if it meant to. -/
def Rx.cancel (s : Rx α) : Rx α :=
  if s.cancelling then { s with cancelling := false, reordering_ctrl_timer := false } else s

/-- One event. The receive path has cancelled the timer before it gets the next frame. -/
def step (s : Rx α) : Act α → Rx α
  | .recv prframe hdr => process_recv_indicatepkts s.cancel prframe hdr
  | .cancel => s.cancel
  | .timeout => if s.reordering_ctrl_timer then rtw_reordering_ctrl_timeout_handler { s with reordering_ctrl_timer := false } else s
  | .addba status => add_ba_rsp_hdl s status
  | .delba => { s with enable := false }
  | .stop => { s with cannot_run := true }
  | .free => { s with torecv_reorder_ctrl := recv_reorder_ctrl.new, freed := s.freed ++ s.pending_recvframe_queue }

/-- The frames the receive path got. -/
def frames (acts : List (Act α)) : List (recv_frame α) :=
  acts.filterMap fun
    | .recv prframe _ => some prframe
    | _ => none

/-! ## What the parts do -/

/-- The upper layer gets the frame if it is handed up now. -/
def Rx.hands (s : Rx α) (prframe : recv_frame α) : Bool := prframe.amsdu || !s.cannot_run

theorem foldl_indicate (l : List (recv_frame α)) (s : Rx α) :
    l.foldl Rx.indicate s
      = { s with indicated := s.indicated ++ l.filter s.hands, leaked := s.leaked ++ l.filter (!s.hands ·) } := by
  induction l generalizing s with
  | nil => simp
  | cons f l ih =>
    rw [List.foldl_cons, ih]
    unfold Rx.indicate Rx.hands
    cases hf : f.amsdu <;> cases s.cannot_run <;> simp [hf]

theorem indicate_loop_split (w : ℕ) (l : List (recv_frame α)) :
    (indicate_loop w l).2.1 ++ (indicate_loop w l).2.2 = l := by
  induction l generalizing w with
  | nil => rfl
  | cons f l ih =>
    unfold indicate_loop
    split
    · exact congrArg (f :: ·) (ih _)
    · rfl

/-- Where the loop starts. -/
def Rx.from (s : Rx α) (bforced : Bool) : ℕ :=
  if bforced then s.pending_recvframe_queue.head?.elim s.indicate_seq (·.seq_num) else s.indicate_seq

/-- What the loop makes of the queue. -/
def Rx.looped (s : Rx α) (bforced : Bool) : ℕ × List (recv_frame α) × List (recv_frame α) :=
  indicate_loop (s.from bforced) s.pending_recvframe_queue

theorem in_order_eq (s : Rx α) {bforced : Bool} (h : bforced = false ∨ s.pending_recvframe_queue ≠ []) :
    recv_indicatepkts_in_order s bforced =
      ({ s with
          indicate_seq := (s.looped bforced).1
          pending_recvframe_queue := (s.looped bforced).2.2
          indicated := s.indicated ++ (s.looped bforced).2.1.filter s.hands
          leaked := s.leaked ++ (s.looped bforced).2.1.filter (!s.hands ·) },
        !(s.looped bforced).2.2.isEmpty) := by
  unfold recv_indicatepkts_in_order
  split
  · simp_all
  · dsimp only
    rw [foldl_indicate]
    rfl

theorem enqueue_perm {f : recv_frame α} {q q' : List (recv_frame α)} (h : enqueue_reorder_recvframe f q = some q') :
    q'.Perm (f :: q) := by
  induction q generalizing q' with
  | nil =>
    obtain rfl := Option.some.inj h
    exact List.Perm.refl _
  | cons g q ih =>
    unfold enqueue_reorder_recvframe at h
    split at h
    · obtain ⟨q'', hq, rfl⟩ := Option.map_eq_some_iff.1 h
      exact ((ih hq).cons g).trans (List.Perm.swap f g q)
    · split at h
      · cases h
      · obtain rfl := Option.some.inj h
        exact List.Perm.refl _

/-! ## Where the frames are -/

/-- All the frames the reordering has had. -/
def Rx.all (s : Rx α) : Multiset (recv_frame α) := s.indicated + s.freed + s.leaked + s.pending_recvframe_queue

theorem filter_add_not (p : recv_frame α → Bool) (l : List (recv_frame α)) :
    (↑(l.filter p) : Multiset (recv_frame α)) + ↑(l.filter (!p ·)) = l := by
  rw [Multiset.coe_add, Multiset.coe_eq_coe]
  exact List.filter_append_perm p l

theorem all_in_order (s : Rx α) (bforced : Bool) : (recv_indicatepkts_in_order s bforced).1.all = s.all := by
  by_cases h : bforced = false ∨ s.pending_recvframe_queue ≠ []
  · have hsplit : (↑(s.looped bforced).2.1 : Multiset (recv_frame α)) + ↑(s.looped bforced).2.2 = s.pending_recvframe_queue :=
      congrArg _ (indicate_loop_split (s.from bforced) s.pending_recvframe_queue)
    have hsum := filter_add_not s.hands (s.looped bforced).2.1
    rw [in_order_eq s h]
    simp only [Rx.all, ← Multiset.coe_add]
    rw [← hsplit, ← hsum]
    abel
  · obtain ⟨h1, h2⟩ := not_or.1 h
    cases bforced with
    | false => exact absurd rfl h1
    | true =>
      unfold recv_indicatepkts_in_order
      rw [not_ne_iff.1 h2]

@[simp] theorem all_cancel (s : Rx α) : s.cancel.all = s.all := by
  unfold Rx.cancel
  split <;> rfl

theorem all_reorder_locked (s : Rx α) (f : recv_frame α) :
    (recv_indicatepkt_reorder_locked s f).1.all = s.all + if (recv_indicatepkt_reorder_locked s f).2 then {f} else 0 := by
  unfold recv_indicatepkt_reorder_locked
  split
  · simp
  case h_2 w hw =>
    split
    · simp [Rx.all]
    case h_2 q hq =>
      have hall := all_in_order { s with indicate_seq := w, pending_recvframe_queue := q } false
      have hperm : (q : Multiset (recv_frame α)) = s.pending_recvframe_queue + {f} := by
        rw [Multiset.coe_eq_coe.2 (enqueue_perm hq), ← Multiset.cons_coe, ← Multiset.singleton_add, add_comm]
      have hput : ({ s with indicate_seq := w, pending_recvframe_queue := q } : Rx α).all = s.all + {f} := by
        simp only [Rx.all]
        rw [hperm]
        abel
      rw [hput] at hall
      dsimp only
      split
      · split <;> exact hall
      · exact hall

theorem all_reorder (s : Rx α) (f : recv_frame α) (hdr : Bool) :
    (recv_indicatepkt_reorder s f hdr).1.all = s.all + if (recv_indicatepkt_reorder s f hdr).2 then {f} else 0 := by
  have hup : ∀ w, ({ s with indicated := s.indicated ++ [f], indicate_seq := w } : Rx α).all = s.all + {f} := by
    intro w
    simp only [Rx.all, ← Multiset.coe_add, Multiset.coe_singleton]
    abel
  have hind : (s.indicate f).all = s.all + {f} := by
    unfold Rx.indicate
    split
    · simp only [Rx.all, ← Multiset.coe_add, Multiset.coe_singleton]
      abel
    · exact hup s.indicate_seq
  unfold recv_indicatepkt_reorder
  split
  · split
    · simp
    · split
      · split
        · simpa using hind
        · simp
      · split
        · simpa using hup _
        · exact all_reorder_locked s f
  · split
    · simpa using hup _
    · exact all_reorder_locked s f

/-- A frame the receive path gets is added once; nothing else adds or loses one. -/
theorem all_step (s : Rx α) (a : Act α) : (step s a).all = s.all + (frames [a] : Multiset (recv_frame α)) := by
  cases a with
  | recv f hdr =>
    have h := all_reorder s.cancel f hdr
    simp only [step, process_recv_indicatepkts]
    split
    case isTrue hr =>
      rw [h, if_pos hr]
      simp [frames]
    case isFalse hr =>
      rw [if_neg hr, add_zero] at h
      have hf : (frames [.recv f hdr] : Multiset (recv_frame α)) = {f} := by simp [frames]
      rw [hf, ← all_cancel s, ← h]
      split <;>
      · simp only [Rx.all, ← Multiset.coe_add, Multiset.coe_singleton]
        abel
  | cancel => simp [step, frames]
  | timeout =>
    simp only [step]
    split
    · unfold rtw_reordering_ctrl_timeout_handler
      split
      · simp [frames, Rx.all]
      · have h := all_in_order { s with reordering_ctrl_timer := false, bReorderWaiting := false } true
        dsimp only
        split <;> simpa [frames, Rx.all] using h
    · simp [frames]
  | addba status => simp [step, add_ba_rsp_hdl, frames, Rx.all]
  | delba => simp [step, frames, Rx.all]
  | stop => simp [step, frames, Rx.all]
  | free =>
    have h0 : (frames [(.free : Act α)] : Multiset (recv_frame α)) = 0 := rfl
    simp only [step, h0, Rx.all, recv_reorder_ctrl.new, ← Multiset.coe_add, Multiset.coe_nil]
    abel

theorem frames_cons (a : Act α) (acts : List (Act α)) : frames (a :: acts) = frames [a] ++ frames acts := by
  cases a <;> rfl

theorem all_run (s : Rx α) (acts : List (Act α)) :
    (Runs.run step s acts).all = s.all + (frames acts : Multiset (recv_frame α)) := by
  induction acts generalizing s with
  | nil => simp [frames]
  | cons a acts ih =>
    rw [Runs.run_cons, ih, all_step, frames_cons a acts, ← Multiset.coe_add, add_assoc]

/-! ## What a frame does to the timer -/

/-- The queue and the timer stay, and nothing leaks while the driver runs. -/
structure Quiet (s s' : Rx α) : Prop where
  pending : s'.pending_recvframe_queue = s.pending_recvframe_queue
  timer : s'.reordering_ctrl_timer = s.reordering_ctrl_timer
  waiting : s'.bReorderWaiting = s.bReorderWaiting
  cancelling : s'.cancelling = s.cancelling
  cannot_run : s'.cannot_run = s.cannot_run
  leaked : s.cannot_run = false → s'.leaked = s.leaked

/-- A frame has been queued, and what could be handed up has left the queue. -/
structure Queued (s s' : Rx α) : Prop where
  rest : s'.pending_recvframe_queue ≠ [] → s'.bReorderWaiting = true ∧ s'.cancelling = s.cancelling ∧
    s'.reordering_ctrl_timer = (s.reordering_ctrl_timer || !s.bReorderWaiting)
  empty : s'.pending_recvframe_queue = [] → s'.bReorderWaiting = false ∧ s'.cancelling = true
  cannot_run : s'.cannot_run = s.cannot_run
  leaked : s.cannot_run = false → s'.leaked = s.leaked

theorem Quiet.refl (s : Rx α) : Quiet s s := ⟨rfl, rfl, rfl, rfl, rfl, fun _ => rfl⟩

theorem hands_all {s : Rx α} (h : s.cannot_run = false) (l : List (recv_frame α)) :
    l.filter s.hands = l ∧ l.filter (!s.hands ·) = [] := by
  simp [Rx.hands, h]

/-- What handing up from the queue leaves alone, and what it returns. -/
theorem in_order_frame (s : Rx α) (bforced : Bool) :
    (recv_indicatepkts_in_order s bforced).1.reordering_ctrl_timer = s.reordering_ctrl_timer ∧
    (recv_indicatepkts_in_order s bforced).1.bReorderWaiting = s.bReorderWaiting ∧
    (recv_indicatepkts_in_order s bforced).1.cancelling = s.cancelling ∧
    (recv_indicatepkts_in_order s bforced).1.cannot_run = s.cannot_run ∧
    ((recv_indicatepkts_in_order s bforced).2 = false → (recv_indicatepkts_in_order s bforced).1.pending_recvframe_queue = []) ∧
    (s.cannot_run = false → (recv_indicatepkts_in_order s bforced).1.leaked = s.leaked) := by
  by_cases h : bforced = false ∨ s.pending_recvframe_queue ≠ []
  · rw [in_order_eq s h]
    refine ⟨rfl, rfl, rfl, rfl, fun he => by simpa using he, fun hc => ?_⟩
    dsimp only
    rw [(hands_all hc _).2, List.append_nil]
  · obtain ⟨h1, h2⟩ := not_or.1 h
    cases bforced with
    | false => exact absurd rfl h1
    | true =>
      unfold recv_indicatepkts_in_order
      rw [not_ne_iff.1 h2]
      exact ⟨rfl, rfl, rfl, rfl, Bool.noConfusion, fun _ => rfl⟩

theorem in_order_unforced (s : Rx α) :
    (recv_indicatepkts_in_order s false).2 = true → (recv_indicatepkts_in_order s false).1.pending_recvframe_queue ≠ [] := by
  rw [in_order_eq s (.inl rfl)]
  intro h
  simpa using h

theorem reorder_locked_cases (s : Rx α) (f : recv_frame α) :
    Quiet s (recv_indicatepkt_reorder_locked s f).1 ∨ Queued s (recv_indicatepkt_reorder_locked s f).1 := by
  unfold recv_indicatepkt_reorder_locked
  split
  · exact .inl (.refl s)
  case h_2 w hw =>
    split
    · exact .inl ⟨rfl, rfl, rfl, rfl, rfl, fun _ => rfl⟩
    case h_2 q hq =>
      refine .inr ?_
      set t : Rx α := { s with indicate_seq := w, pending_recvframe_queue := q } with ht
      obtain ⟨htimer, hwait, hcancel, hrun, hempty, hleak⟩ := in_order_frame t false
      have hfull := in_order_unforced t
      dsimp only
      cases hr : (recv_indicatepkts_in_order t false).2 with
      | true =>
        rw [if_pos rfl]
        have hne := hfull hr
        dsimp only
        cases hb : (recv_indicatepkts_in_order t false).1.bReorderWaiting with
        | true =>
          rw [if_pos rfl]
          have hs : s.bReorderWaiting = true := hwait.symm.trans hb
          exact ⟨fun _ => ⟨hb, hcancel, by rw [htimer, hs]; simp [ht]⟩, fun h => absurd h hne, hrun, hleak⟩
        | false =>
          have hs : s.bReorderWaiting = false := hwait.symm.trans hb
          exact ⟨fun _ => ⟨rfl, hcancel, by rw [hs]; simp⟩, fun h => absurd h hne, hrun, hleak⟩
      | false => exact ⟨fun h => absurd (hempty hr) h, fun _ => ⟨rfl, rfl⟩, hrun, hleak⟩

theorem reorder_cases (s : Rx α) (f : recv_frame α) (hdr : Bool) :
    Quiet s (recv_indicatepkt_reorder s f hdr).1 ∨ Queued s (recv_indicatepkt_reorder s f hdr).1 := by
  have hup : ∀ w, Quiet s { s with indicated := s.indicated ++ [f], indicate_seq := w } :=
    fun w => ⟨rfl, rfl, rfl, rfl, rfl, fun _ => rfl⟩
  unfold recv_indicatepkt_reorder
  split
  · split
    · exact .inl (.refl s)
    · split
      · split
        case isTrue hrun =>
          refine .inl ?_
          unfold Rx.indicate
          split
          · simp_all
          · exact hup s.indicate_seq
        · exact .inl (.refl s)
      · split
        · exact .inl (hup _)
        · exact reorder_locked_cases s f
  · split
    · exact .inl (hup _)
    · exact reorder_locked_cases s f

theorem cancel_cannot_run (s : Rx α) : s.cancel.cannot_run = s.cannot_run := by
  unfold Rx.cancel
  split <;> rfl

/-- As long as the driver runs, every frame is handed up or freed. -/
theorem leaked_step {s : Rx α} (h : s.cannot_run = false) {a : Act α} (ha : a ≠ .stop) :
    (step s a).cannot_run = false ∧ (step s a).leaked = s.leaked := by
  cases a with
  | recv f hdr =>
    have hc : s.cancel.cannot_run = false := (cancel_cannot_run s).trans h
    have hl : s.cancel.leaked = s.leaked := by
      unfold Rx.cancel
      split <;> rfl
    have hr : (recv_indicatepkt_reorder s.cancel f hdr).1.cannot_run = false ∧
        (recv_indicatepkt_reorder s.cancel f hdr).1.leaked = s.leaked := by
      rcases reorder_cases s.cancel f hdr with hq | hq
      · exact ⟨hq.cannot_run.trans hc, (hq.leaked hc).trans hl⟩
      · exact ⟨hq.cannot_run.trans hc, (hq.leaked hc).trans hl⟩
    simp only [step, process_recv_indicatepkts]
    split
    · exact hr
    · rw [if_pos (by simp [hr.1])]
      exact hr
  | cancel =>
    simp only [step, Rx.cancel]
    split <;> exact ⟨h, rfl⟩
  | timeout =>
    simp only [step, rtw_reordering_ctrl_timeout_handler]
    split
    · rw [if_neg (by simp [h])]
      obtain ⟨-, -, -, hrun, -, hleak⟩ := in_order_frame { s with reordering_ctrl_timer := false, bReorderWaiting := false } true
      split <;> exact ⟨hrun.trans h, hleak h⟩
    · exact ⟨h, rfl⟩
  | addba status => exact ⟨h, rfl⟩
  | delba => exact ⟨h, rfl⟩
  | stop => exact absurd rfl ha
  | free => exact ⟨h, rfl⟩

theorem running {s : Rx α} {acts : List (Act α)} (h : .stop ∉ acts) (h0 : s.cannot_run = false) :
    (Runs.run step s acts).cannot_run = false ∧ (Runs.run step s acts).leaked = s.leaked := by
  induction acts generalizing s with
  | nil => exact ⟨h0, rfl⟩
  | cons a acts ih =>
    obtain ⟨ha, hacts⟩ := not_or.1 (mt List.mem_cons.2 h)
    obtain ⟨h1, h2⟩ := leaked_step h0 (Ne.symm ha)
    exact ⟨(ih hacts h1).1, (ih hacts h1).2.trans h2⟩

/-- No frame is lost or duplicated, in whatever order frames, expiries, sessions and stops come: each that the receive
path got is in one place, and nowhere else than with the upper layer, in the queue or free if the driver is not stopped. -/
theorem frames_conserved (acts : List (Act α)) :
    let s := Runs.run step rtw_alloc_stainfo acts
    (s.indicated ++ s.freed ++ s.leaked ++ s.pending_recvframe_queue).Perm (frames acts) ∧
      (.stop ∉ acts → s.leaked = []) := by
  have h := all_run rtw_alloc_stainfo acts
  have h0 : (rtw_alloc_stainfo : Rx α).all = 0 := rfl
  rw [h0, zero_add] at h
  exact ⟨Multiset.coe_eq_coe.1 (by simpa [Rx.all] using h), fun hs => (running hs rfl).2⟩

end Wlan
