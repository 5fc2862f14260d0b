import LinuxDriver.Wlan.Reorder
/-!
# No frame is stuck in the reordering queue

Whatever comes, the timer is pending as long as frames are, and each expiry
hands up the first of them. That the receive path cancels the timer outside
the lock does no harm: it does so only when it has emptied the queue, and is
the only one to fill it.
-/

namespace Wlan

variable {α : Type*} {s : Rx α}

/-- While frames are pending or waited for, the timer is armed or the driver stopped; the receive path cancels only an
idle timer. -/
structure Armed (s : Rx α) : Prop where
  pending : s.pending_recvframe_queue ≠ [] → s.reordering_ctrl_timer = true ∨ s.cannot_run = true
  waiting : s.bReorderWaiting = true → s.reordering_ctrl_timer = true ∨ s.cannot_run = true
  cancelling : s.cancelling = true → s.pending_recvframe_queue = [] ∧ s.bReorderWaiting = false

theorem Armed.cancel (h : Armed s) : Armed s.cancel ∧ s.cancel.cancelling = false := by
  unfold Rx.cancel
  split
  case isTrue hc =>
    obtain ⟨hp, hw⟩ := h.cancelling hc
    exact ⟨⟨fun hn => absurd hp hn, fun hw' => absurd (hw.symm.trans hw') Bool.false_ne_true,
      fun hc' => absurd hc' Bool.false_ne_true⟩, rfl⟩
  case isFalse hc => exact ⟨h, by simpa using hc⟩

theorem Armed.quiet {s' : Rx α} (h : Armed s) (hq : Quiet s s') : Armed s' := by
  constructor
  · rw [hq.pending, hq.timer, hq.cannot_run]
    exact h.pending
  · rw [hq.waiting, hq.timer, hq.cannot_run]
    exact h.waiting
  · rw [hq.pending, hq.waiting, hq.cancelling]
    exact h.cancelling

theorem Armed.queued {s' : Rx α} (h : Armed s) (hc : s.cancelling = false) (hq : Queued s s') : Armed s' := by
  by_cases hp : s'.pending_recvframe_queue = []
  · obtain ⟨hw, -⟩ := hq.empty hp
    exact ⟨fun hn => absurd hp hn, fun hw' => absurd (hw.symm.trans hw') Bool.false_ne_true, fun _ => ⟨hp, hw⟩⟩
  · obtain ⟨-, hc', ht⟩ := hq.rest hp
    have harmed : s'.reordering_ctrl_timer = true ∨ s'.cannot_run = true := by
      rw [ht, hq.cannot_run]
      cases hw : s.bReorderWaiting with
      | true =>
        rw [Bool.not_true, Bool.or_false]
        exact h.waiting hw
      | false => exact .inl (Bool.or_true _)
    exact ⟨fun _ => harmed, fun _ => harmed, fun hcc => absurd (hc.symm.trans (hc'.symm.trans hcc)) Bool.false_ne_true⟩

theorem Armed.reorder (h : Armed s) (hc : s.cancelling = false) (f : recv_frame α) (hdr : Bool) :
    Armed (process_recv_indicatepkts s f hdr) := by
  have hr : Armed (recv_indicatepkt_reorder s f hdr).1 := by
    rcases reorder_cases s f hdr with hq | hq
    · exact h.quiet hq
    · exact h.queued hc hq
  unfold process_recv_indicatepkts
  dsimp only
  split
  · exact hr
  · split <;> exact ⟨hr.pending, hr.waiting, hr.cancelling⟩

theorem Armed.timeout (h : Armed s) (hrun : s.cannot_run = false) :
    Armed (rtw_reordering_ctrl_timeout_handler { s with reordering_ctrl_timer := false }) := by
  unfold rtw_reordering_ctrl_timeout_handler
  rw [if_neg (by simp [hrun])]
  set t : Rx α := { s with reordering_ctrl_timer := false, bReorderWaiting := false } with ht
  obtain ⟨-, hwait, hcancel, -, hempty, -⟩ := in_order_frame t true
  -- while the receive path is to cancel the timer, the queue is empty and stays so
  have hkept : t.cancelling = true → (recv_indicatepkts_in_order t true).1.pending_recvframe_queue = [] := by
    intro hc
    have hp : t.pending_recvframe_queue = [] := (h.cancelling hc).1
    unfold recv_indicatepkts_in_order
    rw [hp]
    exact hp
  have hc : (recv_indicatepkts_in_order t true).1.cancelling = true →
      (recv_indicatepkts_in_order t true).1.pending_recvframe_queue = [] ∧
        (recv_indicatepkts_in_order t true).1.bReorderWaiting = false :=
    fun hc => ⟨hkept (hcancel.symm.trans hc), hwait⟩
  dsimp only
  split
  · exact ⟨fun _ => .inl rfl, fun _ => .inl rfl, hc⟩
  case isFalse hr =>
    exact ⟨fun hn => absurd (hempty (by simpa using hr)) hn, fun hw => absurd (hwait.symm.trans hw) Bool.false_ne_true, hc⟩

theorem Armed.step (h : Armed s) (a : Act α) : Armed (step s a) := by
  cases a with
  | recv f hdr => exact h.cancel.1.reorder h.cancel.2 f hdr
  | cancel => exact h.cancel.1
  | timeout =>
    simp only [Wlan.step]
    split
    · by_cases hrun : s.cannot_run = true
      · unfold rtw_reordering_ctrl_timeout_handler
        rw [if_pos hrun]
        exact ⟨fun _ => .inr hrun, fun _ => .inr hrun, h.cancelling⟩
      · exact h.timeout (by simpa using hrun)
    · exact h
  | addba status => exact ⟨h.pending, h.waiting, h.cancelling⟩
  | delba => exact ⟨h.pending, h.waiting, h.cancelling⟩
  | stop => exact ⟨fun _ => .inr rfl, fun _ => .inr rfl, h.cancelling⟩
  | free =>
    exact ⟨fun hn => absurd rfl hn, fun hw => absurd hw Bool.false_ne_true, fun _ => ⟨rfl, rfl⟩⟩

theorem armed_run (acts : List (Act α)) : Armed (Runs.run step rtw_alloc_stainfo acts) := by
  refine Runs.visited_inv (fun s a h => h.step a) acts ?_ _ (Runs.run_mem_visited ..)
  exact ⟨fun hn => absurd rfl hn, fun hw => absurd hw Bool.false_ne_true, fun hc => absurd hc Bool.false_ne_true⟩

/-! ## The expiries -/

theorem sn_less_self (w : ℕ) : SN_LESS w w = false := by
  unfold SN_LESS
  simp

/-- An expiry that finds frames hands up the first of them, and what follows it without a gap. -/
theorem timeout_step {f : recv_frame α} {q : List (recv_frame α)} (hp : s.pending_recvframe_queue = f :: q)
    (ht : s.reordering_ctrl_timer = true) (hrun : s.cannot_run = false) :
    ∃ out, (step s .timeout).indicated = s.indicated ++ f :: out ∧
      out ++ (step s .timeout).pending_recvframe_queue = q ∧ (step s .timeout).cannot_run = false ∧
      ((step s .timeout).pending_recvframe_queue ≠ [] → (step s .timeout).reordering_ctrl_timer = true) := by
  set t : Rx α := { s with reordering_ctrl_timer := false, bReorderWaiting := false } with htdef
  have hne : t.pending_recvframe_queue ≠ [] := by simp [htdef, hp]
  have hstep : step s .timeout = if (recv_indicatepkts_in_order t true).2 then
      { (recv_indicatepkts_in_order t true).1 with reordering_ctrl_timer := true } else (recv_indicatepkts_in_order t true).1 := by
    simp only [step, rtw_reordering_ctrl_timeout_handler]
    rw [if_pos ht, if_neg (by simp [hrun])]
  have hloop : t.looped true = indicate_loop f.seq_num (f :: q) := by
    simp [Rx.looped, Rx.from, htdef, hp]
  obtain ⟨w, out, rest, hl⟩ : ∃ w out rest, indicate_loop f.seq_num (f :: q) = (w, f :: out, rest) := by
    unfold indicate_loop
    rw [if_pos (by simp [sn_less_self])]
    exact ⟨_, _, _, rfl⟩
  have hsplit : (f :: out) ++ rest = f :: q := by
    have := indicate_loop_split f.seq_num (f :: q)
    rwa [hl] at this
  have hq : out ++ rest = q := (List.cons.inj hsplit).2
  rw [hstep, in_order_eq t (.inr hne), hloop, hl]
  obtain ⟨hup, hlost⟩ := hands_all (s := t) hrun (f :: out)
  dsimp only
  rw [hup, hlost]
  refine ⟨out, ?_⟩
  cases rest with
  | nil => exact ⟨rfl, hq, hrun, fun h => absurd rfl h⟩
  | cons g l => exact ⟨rfl, hq, hrun, fun _ => rfl⟩

theorem timeouts_drain {n : ℕ} (hn : s.pending_recvframe_queue.length ≤ n) (hrun : s.cannot_run = false)
    (ht : s.pending_recvframe_queue ≠ [] → s.reordering_ctrl_timer = true) :
    (Runs.run step s (List.replicate n .timeout)).pending_recvframe_queue = [] ∧
      (Runs.run step s (List.replicate n .timeout)).indicated = s.indicated ++ s.pending_recvframe_queue := by
  induction n generalizing s with
  | zero =>
    have hp := List.length_eq_zero_iff.1 (Nat.le_zero.1 hn)
    exact ⟨hp, by simp [hp]⟩
  | succ n ih =>
    rw [List.replicate_succ, Runs.run_cons]
    cases hp : s.pending_recvframe_queue with
    | nil =>
      have hnil : (step s .timeout).pending_recvframe_queue = [] ∧ (step s .timeout).indicated = s.indicated ∧
          (step s .timeout).cannot_run = false := by
        simp only [step, rtw_reordering_ctrl_timeout_handler, hrun, recv_indicatepkts_in_order, hp]
        split <;> simp [hp, hrun]
      have := ih (by simp [hnil.1]) hnil.2.2 (fun h => absurd hnil.1 h)
      rwa [hnil.1, hnil.2.1] at this
    | cons f q =>
      obtain ⟨out, hi, hq, hr, ht'⟩ := timeout_step hp (ht (by simp [hp])) hrun
      have hlen : (step s .timeout).pending_recvframe_queue.length ≤ n := by
        have := congrArg List.length hq
        rw [hp] at hn
        simp only [List.length_append, List.length_cons] at this hn
        omega
      obtain ⟨h1, h2⟩ := ih hlen hr ht'
      exact ⟨h1, by rw [h2, hi, ← hq]; simp⟩

/-- After every run of a driver that is not stopped, as many expiries of the timer as there are frames in the queue hand
all of them up, in their order. -/
theorem no_frame_stuck (acts : List (Act α)) (hs : .stop ∉ acts) (n : ℕ) :
    let s := Runs.run step rtw_alloc_stainfo acts
    let t := Runs.run step s (List.replicate n .timeout)
    s.pending_recvframe_queue.length ≤ n → t.pending_recvframe_queue = [] ∧
      t.indicated = s.indicated ++ s.pending_recvframe_queue := by
  intro s t hn
  have hrun := (running hs (rfl : (rtw_alloc_stainfo : Rx α).cannot_run = false)).1
  refine timeouts_drain hn hrun fun hp => ?_
  rcases (armed_run acts).pending hp with h | h
  · exact h
  · exact absurd (hrun.symm.trans h) Bool.false_ne_true

theorem no_frame_stuck_gap :
    let s := Runs.run step rtw_alloc_stainfo [.addba 0, .recv ⟨5, true, false, ()⟩ true, .recv ⟨7, true, false, ()⟩ true]
    let t := Runs.run step s (List.replicate 1 .timeout)
    t.pending_recvframe_queue = [] ∧ t.indicated = s.indicated ++ s.pending_recvframe_queue :=
  no_frame_stuck [.addba 0, .recv ⟨5, true, false, ()⟩ true, .recv ⟨7, true, false, ()⟩ true] (by simp) 1 (by decide)

end Wlan
