import LinuxDriver.Lib.Window
import LinuxDriver.Lib.Trace
import LinuxDriver.Wlan.ReorderTimer
/-!
# The reordering hands frames up in order

The sender numbers its frames 0, 1, 2, … and sends the number modulo 4096.
`num` reads the number of a frame. As long as numbers do not come from too far
off, the reordering works on the 12 bits as a reorder buffer does on the
numbers.
-/

namespace Wlan

open Window

variable {α : Type*} {num : α → ℕ}

/-- The number of a frame. -/
def key (num : α → ℕ) (f : recv_frame α) : ℕ := num f.data

/-- A frame of the session: of a QoS station, with the last 12 bits of its number. -/
structure Numbered (num : α → ℕ) (f : recv_frame α) : Prop where
  seq_num : f.seq_num = key num f % 4096
  qos : f.qos = true ∨ f.amsdu = true

/-! ## The 12 bits -/

theorem sn_less_iff {a b : ℕ} (h1 : a < b + 2048) (h2 : b ≤ a + 2048) : SN_LESS (a % 4096) (b % 4096) = decide (a < b) := by
  unfold SN_LESS
  rw [decide_eq_decide]
  omega

theorem sn_equal_iff {a b : ℕ} (h1 : a < b + 4096) (h2 : b < a + 4096) : SN_EQUAL (a % 4096) (b % 4096) = decide (a = b) := by
  unfold SN_EQUAL
  rw [Bool.beq_eq_decide_eq, decide_eq_decide]
  omega

/-- The window does not start past what has come. -/
theorem shift_le (w n : ℕ) : shift 64 w n = w ∨ shift 64 w n ≤ n + 1 := by
  unfold shift
  split <;> try split
  all_goals omega

theorem check_eq {w n : ℕ} (h1 : n < w + 2048) (h2 : w ≤ n + 2048) :
    check_indicate_seq (w % 4096) 64 (n % 4096) = if n < w then none else some (shift 64 w n % 4096) := by
  unfold check_indicate_seq
  have hw : w % 4096 ≠ 0xffff := by omega
  dsimp only
  rw [if_neg hw, sn_less_iff h1 h2]
  by_cases hlt : n < w
  · simp [hlt]
  · have hend : (w % 4096 + 64 + 4095) % 4096 = (w + 63) % 4096 := by omega
    rw [if_neg (by simpa using hlt), if_neg hlt, sn_equal_iff (by omega) (by omega), hend, sn_less_iff (by omega) (by omega)]
    unfold shift
    by_cases heq : n = w
    · rw [if_pos (by simpa using heq), if_pos heq]
      exact congrArg some (by omega)
    · rw [if_neg (by simpa using heq), if_neg heq]
      by_cases hfar : w + 64 ≤ n
      · rw [if_pos (by simp; omega), if_pos hfar]
        refine congrArg some ?_
        split <;> omega
      · rw [if_neg (by simp; omega), if_neg hfar]

theorem loop_eq {l : List (recv_frame α)} (hn : ∀ f ∈ l, Numbered num f) (hl : Sorted (key num) l) {w : ℕ}
    (hw : ∀ f ∈ l, w < key num f + 2048 ∧ key num f ≤ w + 2048) :
    indicate_loop (w % 4096) l =
      ((drain (key num) w l).1 % 4096, (drain (key num) w l).2.1, (drain (key num) w l).2.2) := by
  induction l generalizing w with
  | nil => rfl
  | cons f l ih =>
    obtain ⟨hf, hl'⟩ := List.pairwise_cons.1 hl
    obtain ⟨h1, h2⟩ := hw f List.mem_cons_self
    unfold indicate_loop drain
    rw [(hn f List.mem_cons_self).seq_num, sn_less_iff h1 h2, sn_equal_iff (by omega) (by omega)]
    by_cases hle : key num f ≤ w
    · rw [if_pos (by simpa using hle), if_pos hle]
      have hstart : (if decide (w = key num f) = true then (w % 4096 + 1) % 4096 else w % 4096)
          = (if key num f = w then w + 1 else w) % 4096 := by
        by_cases heq : key num f = w
        · rw [if_pos (by simpa using heq.symm), if_pos heq]
          omega
        · rw [if_neg (by simpa using Ne.symm heq), if_neg heq]
      dsimp only
      rw [hstart, ih (fun g hg => hn g (List.mem_cons_of_mem _ hg)) hl' fun g hg => ?_]
      have := hf g hg
      obtain ⟨h3, h4⟩ := hw g (List.mem_cons_of_mem _ hg)
      split <;> omega
    · rw [if_neg (by simpa using hle), if_neg hle]

theorem enqueue_eq {f : recv_frame α} {l : List (recv_frame α)} (hf : Numbered num f) (hn : ∀ g ∈ l, Numbered num g)
    (hl : Sorted (key num) l) (hw : ∀ g ∈ l, key num g < key num f + 2048 ∧ key num f ≤ key num g + 2048) :
    enqueue_reorder_recvframe f l =
      if key num f ∈ l.map (key num) then none else some (l.orderedInsert (key num · ≤ key num ·) f) := by
  induction l with
  | nil => rfl
  | cons g l ih =>
    obtain ⟨hg, hl'⟩ := List.pairwise_cons.1 hl
    obtain ⟨h1, h2⟩ := hw g List.mem_cons_self
    have ih := ih (fun g hg => hn g (List.mem_cons_of_mem _ hg)) hl' fun g hg => hw g (List.mem_cons_of_mem _ hg)
    unfold enqueue_reorder_recvframe
    rw [(hn g List.mem_cons_self).seq_num, hf.seq_num, sn_less_iff h1 h2, sn_equal_iff (by omega) (by omega), ih,
      List.orderedInsert_cons, List.map_cons]
    rcases Nat.lt_trichotomy (key num g) (key num f) with hlt | heq | hgt
    · rw [if_pos (by simpa using hlt), if_neg (by omega : ¬key num f ≤ key num g)]
      have hne : key num f ≠ key num g := by omega
      by_cases hm : key num f ∈ l.map (key num)
      · rw [if_pos hm, if_pos (List.mem_cons_of_mem _ hm)]
        rfl
      · rw [if_neg hm, if_neg (by simp only [List.mem_cons, not_or]; exact ⟨hne, hm⟩)]
        rfl
    · rw [if_neg (by simp [heq]), if_pos (by simpa using heq), if_pos (by simp [heq])]
    · rw [if_neg (by simp; omega), if_neg (by simp; omega), if_pos (le_of_lt hgt), if_neg]
      simp only [List.mem_cons, not_or]
      refine ⟨by omega, fun hm => ?_⟩
      obtain ⟨c, hc, hcf⟩ := List.mem_map.1 hm
      have := hg c hc
      omega

/-! ## The session -/

/-- What happens in a session of a driver that is not stopped. -/
def InSession (num : α → ℕ) : Act α → Prop
  | .recv f _ => Numbered num f
  | .cancel => True
  | .timeout => True
  | _ => False

/-- The number of a frame that comes as far as the reordering. -/
def Act.arrival (num : α → ℕ) : Act α → Option ℕ
  | .recv f hdr => if f.amsdu || hdr then some (key num f) else none
  | _ => none

/-- The numbers that have come, the latest first. -/
def arrivals (num : α → ℕ) (acts : List (Act α)) : List ℕ := (acts.filterMap (Act.arrival num)).reverse

/-- The driver is as the reorder buffer `b` is, but for the high bits of where the window starts. -/
structure Shows (num : α → ℕ) (s : Rx α) (b : Buffer (recv_frame α)) : Prop where
  enable : s.enable = true
  wsize_b : s.wsize_b = 64
  cannot_run : s.cannot_run = false
  start : s.indicate_seq = b.start % 4096
  held : s.pending_recvframe_queue = b.held
  out : s.indicated = b.out
  numbered : ∀ f ∈ b.held, Numbered num f
  good : b.Good (key num) 64

theorem Shows.cancel {s : Rx α} {b : Buffer (recv_frame α)} (h : Shows num s b) : Shows num s.cancel b := by
  unfold Rx.cancel
  split
  · exact ⟨h.enable, h.wsize_b, h.cannot_run, h.start, h.held, h.out, h.numbered, h.good⟩
  · exact h

/-- Handing up from the queue is what the reorder buffer does. -/
theorem Shows.in_order {s : Rx α} {b : Buffer (recv_frame α)} {w : ℕ} {l : List (recv_frame α)} {bforced : Bool}
    (hstart : s.from bforced = w % 4096) (hq : s.pending_recvframe_queue = l)
    (hb : bforced = false ∨ s.pending_recvframe_queue ≠ []) (he : s.enable = true) (hz : s.wsize_b = 64)
    (hr : s.cannot_run = false) (ho : s.indicated = b.out) (hn : ∀ f ∈ l, Numbered num f) (hl : Sorted (key num) l)
    (hw : ∀ f ∈ l, w < key num f + 2048 ∧ key num f ≤ w + 2048) (hg : (b.release (key num) w l).Good (key num) 64) :
    Shows num (recv_indicatepkts_in_order s bforced).1 (b.release (key num) w l) := by
  have hloop : s.looped bforced = ((drain (key num) w l).1 % 4096, (drain (key num) w l).2.1, (drain (key num) w l).2.2) := by
    unfold Rx.looped
    rw [hstart, hq]
    exact loop_eq hn hl hw
  have hsplit := (drained hl w).split
  rw [in_order_eq s hb, hloop]
  refine ⟨he, hz, hr, rfl, rfl, ?_, fun f hf => hn f (hsplit ▸ List.mem_append_right _ hf), hg⟩
  show s.indicated ++ List.filter s.hands _ = b.out ++ _
  rw [ho, (hands_all hr _).1]

theorem Shows.locked {s : Rx α} {b : Buffer (recv_frame α)} (h : Shows num s b) {f : recv_frame α} (hf : Numbered num f)
    (h1 : key num f < b.start + 2048) (h2 : b.start ≤ key num f + 2048) :
    Shows num (recv_indicatepkt_reorder_locked s f).1 (b.accept (key num) 64 f) := by
  have hgood := h.good.accept (by decide) f
  have hcheck : check_indicate_seq s.indicate_seq s.wsize_b f.seq_num
      = if key num f < b.start then none else some (shift 64 b.start (key num f) % 4096) := by
    rw [h.start, h.wsize_b, hf.seq_num, check_eq h1 h2]
  unfold recv_indicatepkt_reorder_locked
  rw [hcheck]
  unfold Buffer.accept at hgood ⊢
  by_cases hlt : key num f < b.start
  · rw [if_pos hlt, if_pos (.inl hlt)]
    exact h
  · have hnear : ∀ g ∈ b.held, key num g < key num f + 2048 ∧ key num f ≤ key num g + 2048 := by
      intro g hg
      have := h.good.past g hg
      have := h.good.near g hg
      omega
    rw [if_neg hlt]
    dsimp only
    rw [h.held, enqueue_eq hf h.numbered h.good.sorted hnear]
    by_cases hm : key num f ∈ b.held.map (key num)
    · rw [if_pos hm, if_pos (.inr hm)]
      -- the number is within the window and not the one waited for, so the window stays
      obtain ⟨g, hg, hgf⟩ := List.mem_map.1 hm
      have := h.good.past g hg
      have := h.good.near g hg
      have hsh : shift 64 b.start (key num f) = b.start := by
        unfold shift
        rw [if_neg (by omega), if_neg (by omega)]
      dsimp only
      rw [hsh]
      exact ⟨h.enable, h.wsize_b, h.cannot_run, rfl, rfl, h.out, h.numbered, h.good⟩
    · have hor : ¬(key num f < b.start ∨ key num f ∈ b.held.map (key num)) := not_or.2 ⟨hlt, hm⟩
      rw [if_neg hor] at hgood
      rw [if_neg hm, if_neg hor]
      have hmem : ∀ g ∈ b.held.orderedInsert (key num · ≤ key num ·) f, g = f ∨ g ∈ b.held :=
        fun g hg => (List.mem_orderedInsert ..).1 hg
      set t : Rx α := { s with
        indicate_seq := shift 64 b.start (key num f) % 4096
        pending_recvframe_queue := b.held.orderedInsert (key num · ≤ key num ·) f } with ht
      have hin : Shows num (recv_indicatepkts_in_order t false).1
          (b.release (key num) (shift 64 b.start (key num f)) (b.held.orderedInsert (key num · ≤ key num ·) f)) := by
        refine Shows.in_order (s := t) rfl rfl (.inl rfl) h.enable h.wsize_b h.cannot_run h.out ?_
          (sorted_orderedInsert h.good.sorted hm) ?_ hgood
        · intro g hg
          rcases hmem g hg with rfl | hg
          · exact hf
          · exact h.numbered g hg
        · intro g hg
          have hsh := le_shift 64 b.start (key num f)
          have hsh' := shift_le b.start (key num f)
          rcases hmem g hg with rfl | hg
          · omega
          · have := h.good.past g hg
            have := h.good.near g hg
            omega
      dsimp only
      split
      · split
        · exact hin
        · exact ⟨hin.enable, hin.wsize_b, hin.cannot_run, hin.start, hin.held, hin.out, hin.numbered, hin.good⟩
      · exact ⟨hin.enable, hin.wsize_b, hin.cannot_run, hin.start, hin.held, hin.out, hin.numbered, hin.good⟩

/-- A frame of the session takes the locked path if it comes as far. -/
theorem reorder_eq {s : Rx α} (he : s.enable = true) {f : recv_frame α} (hf : Numbered num f) (hdr : Bool) :
    recv_indicatepkt_reorder s f hdr =
      if f.amsdu || hdr then recv_indicatepkt_reorder_locked s f else (s, false) := by
  unfold recv_indicatepkt_reorder
  rcases hf.qos with hq | ha
  · cases ha : f.amsdu <;> cases hdr <;> simp [he, hq]
  · simp [ha, he]

theorem Shows.recv {s : Rx α} {b : Buffer (recv_frame α)} (h : Shows num s b) {f : recv_frame α} (hf : Numbered num f)
    {hdr : Bool} (hw : (f.amsdu || hdr) = true → key num f < b.start + 2048 ∧ b.start ≤ key num f + 2048) :
    Shows num (step s (.recv f hdr)) (if f.amsdu || hdr then b.accept (key num) 64 f else b) := by
  have hr : Shows num (recv_indicatepkt_reorder s.cancel f hdr).1 (if f.amsdu || hdr then b.accept (key num) 64 f else b) := by
    rw [reorder_eq h.cancel.enable hf]
    split
    case isTrue hup => exact h.cancel.locked hf (hw hup).1 (hw hup).2
    case isFalse => exact h.cancel
  simp only [step, process_recv_indicatepkts]
  split
  · exact hr
  · split <;> exact ⟨hr.enable, hr.wsize_b, hr.cannot_run, hr.start, hr.held, hr.out, hr.numbered, hr.good⟩

/-- Where no timer is pending, nothing is held. -/
theorem Shows.timeout {s : Rx α} {b : Buffer (recv_frame α)} (h : Shows num s b) (ha : Armed s) :
    Shows num (step s .timeout) (b.expire (key num)) := by
  simp only [step, rtw_reordering_ctrl_timeout_handler]
  split
  case isFalse hidle =>
    have hnil : b.held = [] := by
      by_contra hne
      rcases ha.pending (h.held ▸ hne) with hp | hr
      · exact hidle hp
      · exact absurd (h.cannot_run.symm.trans hr) Bool.false_ne_true
    have hexpire : b.expire (key num) = b := by
      unfold Buffer.expire
      rw [hnil]
    rwa [hexpire]
  case isTrue =>
    rw [if_neg (by simp [h.cannot_run])]
    have hgood := h.good.expire
    set t : Rx α := { s with reordering_ctrl_timer := false, bReorderWaiting := false } with ht
    have hin : Shows num (recv_indicatepkts_in_order t true).1 (b.expire (key num)) := by
      unfold Buffer.expire at hgood ⊢
      have hp : t.pending_recvframe_queue = b.held := h.held
      cases hb : b.held with
      | nil =>
        rw [hb] at hp
        have hin : recv_indicatepkts_in_order t true = (t, true) := by
          unfold recv_indicatepkts_in_order
          rw [hp]
        rw [hin]
        exact ⟨h.enable, h.wsize_b, h.cannot_run, h.start, h.held, h.out, h.numbered, h.good⟩
      | cons f l =>
        rw [hb] at hp hgood
        have hnum : ∀ g ∈ f :: l, Numbered num g := hb ▸ h.numbered
        have hsort : Sorted (key num) (f :: l) := hb ▸ h.good.sorted
        refine Shows.in_order (s := t) ?_ hp (.inr (by rw [hp]; exact List.cons_ne_nil _ _)) h.enable h.wsize_b
          h.cannot_run h.out hnum hsort (fun g hg => ?_) hgood
        · unfold Rx.from
          rw [if_pos rfl, hp]
          exact (hnum f List.mem_cons_self).seq_num
        · have hpast : ∀ g ∈ f :: l, b.start < key num g := hb ▸ h.good.past
          have hnear : ∀ g ∈ f :: l, key num g < b.start + 64 := hb ▸ h.good.near
          have := hpast f List.mem_cons_self
          have := hnear f List.mem_cons_self
          have := hpast g hg
          have := hnear g hg
          omega
    split
    · exact ⟨hin.enable, hin.wsize_b, hin.cannot_run, hin.start, hin.held, hin.out, hin.numbered, hin.good⟩
    · exact hin

/-! ## What has come -/

/-- How the window lies to the numbers that have come. -/
structure Heard (num : α → ℕ) (b : Buffer (recv_frame α)) (ns : List ℕ) : Prop where
  known : ∀ f, f ∈ b.held ∨ f ∈ b.out → key num f ∈ ns
  seen : ∀ n ∈ ns, n < b.start ∨ n ∈ b.held.map (key num)
  last : ns ≠ [] → ∃ m ∈ ns, b.start ≤ m + 1

theorem mem_release {b : Buffer (recv_frame α)} {w : ℕ} {l : List (recv_frame α)} (hl : Sorted (key num) l)
    (f : recv_frame α) : f ∈ (b.release (key num) w l).held ∨ f ∈ (b.release (key num) w l).out ↔ f ∈ l ∨ f ∈ b.out := by
  have hsplit : f ∈ l ↔ f ∈ (drain (key num) w l).2.1 ∨ f ∈ (drain (key num) w l).2.2 := by
    rw [← List.mem_append, (drained hl w).split]
  show f ∈ (drain (key num) w l).2.2 ∨ f ∈ b.out ++ (drain (key num) w l).2.1 ↔ _
  rw [hsplit, List.mem_append]
  tauto

/-- Draining a sorted queue keeps track. -/
theorem Heard.release {b : Buffer (recv_frame α)} {ns ns' : List ℕ} {w : ℕ} {l : List (recv_frame α)} (h : Heard num b ns)
    (hl : Sorted (key num) l) (hw : b.start ≤ w) (hsub : ∀ n ∈ ns, n ∈ ns') (hk : ∀ f ∈ l, key num f ∈ ns')
    (hs : ∀ n ∈ ns', n < b.start ∨ n ∈ l.map (key num)) (hlast : ns' ≠ [] → ∃ m ∈ ns', w ≤ m + 1) :
    Heard num (b.release (key num) w l) ns' := by
  have hd := drained hl w
  refine ⟨fun f hf => ?_, fun n hn => ?_, fun hne => ?_⟩
  · rcases (mem_release hl f).1 hf with hf | hf
    · exact hk f hf
    · exact hsub _ (h.known f (.inr hf))
  · have := hd.grows
    rcases hs n hn with hlt | hm
    · exact .inl (by show n < (drain (key num) w l).1; omega)
    · obtain ⟨f, hf, rfl⟩ := List.mem_map.1 hm
      rw [← hd.split] at hf
      rcases List.mem_append.1 hf with hf | hf
      · exact .inl (hd.out_lt f hf)
      · exact .inr (List.mem_map_of_mem hf)
  · rcases @drain_start _ (key num) w l with hs | ⟨f, hf, hs⟩
    · obtain ⟨m, hm, hle⟩ := hlast hne
      exact ⟨m, hm, by show (drain (key num) w l).1 ≤ _; omega⟩
    · have hfl : f ∈ l := hd.split ▸ List.mem_append_left _ hf
      exact ⟨key num f, hk f hfl, le_of_eq hs⟩

theorem Heard.accept {b : Buffer (recv_frame α)} {ns : List ℕ} (h : Heard num b ns) (hg : b.Good (key num) 64)
    {f : recv_frame α} (h0 : ns = [] → b.start = key num f) :
    Heard num (b.accept (key num) 64 f) (key num f :: ns) := by
  have hf : key num f ∈ key num f :: ns := List.mem_cons_self
  have hsub : ∀ n ∈ ns, n ∈ key num f :: ns := fun n hn => List.mem_cons_of_mem _ hn
  have hstart : ∃ m ∈ key num f :: ns, b.start ≤ m + 1 := by
    by_cases hne : ns = []
    · exact ⟨_, hf, by rw [h0 hne]; omega⟩
    · obtain ⟨m, hm, hle⟩ := h.last hne
      exact ⟨m, hsub m hm, hle⟩
  unfold Buffer.accept
  split
  case isTrue hor =>
    refine ⟨fun g hg => hsub _ (h.known g hg), fun n hn => ?_, fun _ => hstart⟩
    rcases List.mem_cons.1 hn with rfl | hn
    · exact hor
    · exact h.seen n hn
  case isFalse hor =>
    obtain ⟨hge, hm⟩ := not_or.1 hor
    refine h.release (sorted_orderedInsert hg.sorted hm) (le_shift ..) hsub (fun g hgm => ?_) (fun n hn => ?_) fun _ => ?_
    · rcases (List.mem_orderedInsert ..).1 hgm with rfl | hgm
      · exact hf
      · exact hsub _ (h.known g (.inl hgm))
    · rcases List.mem_cons.1 hn with rfl | hn
      · exact .inr (List.mem_map_of_mem ((List.mem_orderedInsert ..).2 (.inl rfl)))
      · rcases h.seen n hn with hlt | hn
        · exact .inl hlt
        · obtain ⟨g, hgm, rfl⟩ := List.mem_map.1 hn
          exact .inr (List.mem_map_of_mem ((List.mem_orderedInsert ..).2 (.inr hgm)))
    · rcases shift_le b.start (key num f) with heq | hle
      · rw [heq]
        exact hstart
      · exact ⟨_, hf, hle⟩

/-- The number waited for has not come. -/
theorem Heard.start_missing {b : Buffer (recv_frame α)} {ns : List ℕ} (h : Heard num b ns)
    (hg : b.Good (key num) 64) : b.start ∉ ns := by
  intro hm
  rcases h.seen _ hm with hlt | hmem
  · exact Nat.lt_irrefl _ hlt
  · obtain ⟨g, hgm, hgs⟩ := List.mem_map.1 hmem
    have := hg.past g hgm
    omega

/-! ## Runs of a session -/

/-- No frame has come yet. -/
structure Fresh (s : Rx α) : Prop where
  enable : s.enable = true
  wsize_b : s.wsize_b = 64
  cannot_run : s.cannot_run = false
  start : s.indicate_seq = 0xffff
  held : s.pending_recvframe_queue = []
  out : s.indicated = []

theorem Fresh.cancel {s : Rx α} (h : Fresh s) : Fresh s.cancel := by
  unfold Rx.cancel
  split
  · exact ⟨h.enable, h.wsize_b, h.cannot_run, h.start, h.held, h.out⟩
  · exact h

theorem Fresh.timeout {s : Rx α} (h : Fresh s) : Fresh (step s .timeout) := by
  simp only [step, rtw_reordering_ctrl_timeout_handler]
  split
  · rw [if_neg (by simp [h.cannot_run])]
    unfold recv_indicatepkts_in_order
    simp only [h.held]
    rw [if_pos trivial]
    exact ⟨h.enable, h.wsize_b, h.cannot_run, h.start, rfl, h.out⟩
  · exact h

/-- The buffer that waits for the number of the first frame. -/
def first (n : ℕ) : Buffer (recv_frame α) := { start := n, held := [], out := [] }

theorem first_good (n : ℕ) : (first n : Buffer (recv_frame α)).Good (key num) 64 :=
  ⟨⟨List.Pairwise.nil, by simp [first], by simp [first]⟩, List.Pairwise.nil, by simp [first]⟩

theorem Fresh.recv {s : Rx α} (h : Fresh s) {f : recv_frame α} (hf : Numbered num f) (hdr : Bool) :
    if f.amsdu || hdr then Shows num (step s (.recv f hdr)) ((first (key num f)).accept (key num) 64 f)
    else Fresh (step s (.recv f hdr)) := by
  have hc := h.cancel
  set t : Rx α := { s.cancel with indicate_seq := f.seq_num } with ht
  -- the first frame sets where the window starts
  have hfirst : recv_indicatepkt_reorder_locked s.cancel f = recv_indicatepkt_reorder_locked t f := by
    have hlt : f.seq_num < 4096 := by
      have := hf.seq_num
      omega
    have hcheck : check_indicate_seq s.cancel.indicate_seq s.cancel.wsize_b f.seq_num = some ((f.seq_num + 1) % 4096) := by
      rw [hc.start]
      unfold check_indicate_seq
      simp [sn_less_self, SN_EQUAL]
    have hcheck' : check_indicate_seq t.indicate_seq t.wsize_b f.seq_num = some ((f.seq_num + 1) % 4096) := by
      unfold check_indicate_seq
      simp [ht, sn_less_self, SN_EQUAL]
    unfold recv_indicatepkt_reorder_locked
    rw [hcheck, hcheck']
  have hshows : Shows num t (first (key num f)) :=
    ⟨hc.enable, hc.wsize_b, hc.cannot_run, hf.seq_num, hc.held, hc.out, by simp [first], first_good _⟩
  simp only [step, process_recv_indicatepkts]
  rw [reorder_eq hc.enable hf]
  split
  · rw [hfirst]
    have hr := hshows.locked hf (by simp [first]) (by simp [first])
    split
    · exact hr
    · split <;> exact ⟨hr.enable, hr.wsize_b, hr.cannot_run, hr.start, hr.held, hr.out, hr.numbered, hr.good⟩
  · rw [if_neg Bool.false_ne_true]
    split <;> exact ⟨hc.enable, hc.wsize_b, hc.cannot_run, hc.start, hc.held, hc.out⟩

/-- What happens to the reorder buffer that stands for the session. There is none before the first frame, the number of
which is where the window starts. -/
def buffer_step (num : α → ℕ) (o : Option (Buffer (recv_frame α))) : Act α → Option (Buffer (recv_frame α))
  | .recv f hdr => if f.amsdu || hdr then some ((o.getD (first (key num f))).accept (key num) 64 f) else o
  | .timeout => o.map (Buffer.expire (key num))
  | _ => o

/-- A frame that comes as far as the reordering is less than 2048 numbers ahead of where the window starts, and no more
than 2048 behind. -/
def near (num : α → ℕ) (o : Option (Buffer (recv_frame α))) (a : Act α) : Prop :=
  ∀ n ∈ a.arrival num, ∀ b ∈ o, n < b.start + 2048 ∧ b.start ≤ n + 2048

instance (o : Option (Buffer (recv_frame α))) (a : Act α) : Decidable (near num o a) :=
  inferInstanceAs (Decidable (∀ n ∈ a.arrival num, ∀ b ∈ o, n < b.start + 2048 ∧ b.start ≤ n + 2048))

/-- The driver waits for the first frame, or shows the reorder buffer there is. -/
def Follows (num : α → ℕ) (s : Rx α) : Option (Buffer (recv_frame α)) → Prop
  | none => Fresh s
  | some b => Shows num s b

theorem Follows.recv {s : Rx α} {o : Option (Buffer (recv_frame α))} (h : Follows num s o) {f : recv_frame α}
    (hf : Numbered num f) {hdr : Bool} (hn : near num o (.recv f hdr)) :
    Follows num (step s (.recv f hdr)) (buffer_step num o (.recv f hdr)) := by
  cases o with
  | none =>
    have hr := Fresh.recv h hf hdr
    simp only [buffer_step]
    split
    case isTrue hup =>
      rw [if_pos hup] at hr
      exact hr
    case isFalse hup =>
      rw [if_neg hup] at hr
      exact hr
  | some b =>
    have hnear : (f.amsdu || hdr) = true → key num f < b.start + 2048 ∧ b.start ≤ key num f + 2048 :=
      fun hup => hn (key num f) (by simp [Act.arrival, hup]) b rfl
    have hr := Shows.recv h hf hnear
    simp only [buffer_step]
    split
    case isTrue hup =>
      rw [if_pos hup] at hr
      exact hr
    case isFalse hup =>
      rw [if_neg hup] at hr
      exact hr

/-- One event of the session is one of the reorder buffer. -/
theorem Follows.step {s : Rx α} {o : Option (Buffer (recv_frame α))} (h : Follows num s o) (harmed : Armed s) {a : Act α}
    (ha : InSession num a) (hn : near num o a) : Follows num (Wlan.step s a) (buffer_step num o a) := by
  cases a with
  | recv f hdr => exact h.recv ha hn
  | cancel =>
    cases o with
    | none => exact Fresh.cancel h
    | some b => exact Shows.cancel h
  | timeout =>
    cases o with
    | none => exact Fresh.timeout h
    | some b => exact Shows.timeout h harmed
  | addba status => exact ha.elim
  | delba => exact ha.elim
  | stop => exact ha.elim
  | free => exact ha.elim

theorem Follows.run {s : Rx α} {o : Option (Buffer (recv_frame α))} {acts : List (Act α)} (h : Follows num s o)
    (harmed : Armed s) (hs : ∀ a ∈ acts, InSession num a) (hn : Runs.Meets (buffer_step num) (near num) o acts) :
    Follows num (Runs.run Wlan.step s acts) (Runs.run (buffer_step num) o acts) := by
  induction acts generalizing s o with
  | nil => exact h
  | cons a acts ih =>
    have ha := hs a List.mem_cons_self
    exact ih (h.step harmed ha hn.1) (harmed.step a) (fun a ha => hs a (List.mem_cons_of_mem _ ha)) hn.2

/-- The frame numbered `n`, with the number for its content. -/
def sent (n : ℕ) : Act ℕ := .recv { seq_num := n % 4096, qos := true, amsdu := false, data := n } true

/-- The first number is `n0`. No later one is 2048 or more behind one that came before it, or 64 or more ahead of one
that has not come yet. -/
def Windowed (n0 n : ℕ) (ns : List ℕ) : Prop :=
  if ns = [] then n = n0 else (∀ m ∈ ns, m < n + 2048) ∧ ∀ m < n, n0 ≤ m → m + 64 ≤ n → m ∈ ns

instance (n0 n : ℕ) (ns : List ℕ) : Decidable (Windowed n0 n ns) :=
  inferInstanceAs (Decidable (if ns = [] then n = n0 else (∀ m ∈ ns, m < n + 2048) ∧ ∀ m < n, n0 ≤ m → m + 64 ≤ n → m ∈ ns))

theorem Windowed.near {n0 : ℕ} {b : Buffer (recv_frame α)} {ns : List ℕ} {n : ℕ} (hg : b.Good (key num) 64)
    (hb : Heard num b ns) (h0 : n0 ≤ b.start) (hne : ns ≠ []) (hn : Windowed n0 n ns) :
    n < b.start + 64 ∧ b.start ≤ n + 2048 := by
  unfold Windowed at hn
  rw [if_neg hne] at hn
  have hmiss := hb.start_missing hg
  obtain ⟨k, hk, hlast⟩ := hb.last hne
  have := hn.1 k hk
  refine ⟨?_, by omega⟩
  by_contra hfar
  exact hmiss (hn.2 _ (by omega) h0 (by omega))

theorem le_start_accept {n0 : ℕ} {b : Buffer (recv_frame α)} (h0 : n0 ≤ b.start) (hg : b.Good (key num) 64)
    (f : recv_frame α) : n0 ≤ (b.accept (key num) 64 f).start := by
  unfold Buffer.accept
  split
  case isTrue => exact h0
  case isFalse hor =>
    have := (drained (sorted_orderedInsert hg.sorted (not_or.1 hor).2) (shift 64 b.start (key num f))).grows
    have := le_shift 64 b.start (key num f)
    exact le_trans h0 (le_trans this ‹_›)

/-- The reorder buffer of a session without an expiry, the sender of which keeps to its window. -/
structure Kept (num : α → ℕ) (n0 : ℕ) (b : Buffer (recv_frame α)) (ns : List ℕ) : Prop where
  good : b.Good (key num) 64
  heard : Heard num b ns
  le_start : n0 ≤ b.start
  whole : b.Whole (key num) n0

theorem Kept.first (f : recv_frame α) : Kept num (key num f) ((first (key num f)).accept (key num) 64 f) [key num f] := by
  have hheard : Heard num (Wlan.first (key num f)) [] := ⟨by simp [Wlan.first], by simp, fun hne => absurd rfl hne⟩
  have hwhole : (Wlan.first (key num f) : Buffer (recv_frame α)).Whole (key num) (key num f) := by
    simp [Wlan.first, Buffer.Whole]
  exact ⟨(first_good _).accept (by decide) f, hheard.accept (first_good _) fun _ => rfl,
    le_start_accept (le_refl _) (first_good _) f, hwhole.accept (first_good _) (le_refl _) (by simp [Wlan.first])⟩

theorem Kept.accept {n0 : ℕ} {b : Buffer (recv_frame α)} {ns : List ℕ} (h : Kept num n0 b ns) (hne : ns ≠ [])
    {f : recv_frame α} (hn : Windowed n0 (key num f) ns) : Kept num n0 (b.accept (key num) 64 f) (key num f :: ns) :=
  ⟨h.good.accept (by decide) f, h.heard.accept h.good fun he => absurd he hne, le_start_accept h.le_start h.good f,
    h.whole.accept h.good h.le_start (hn.near h.good h.heard h.le_start hne).1⟩

/-- There is a reorder buffer once a frame has come, and then it is kept. -/
def Track (num : α → ℕ) (n0 : ℕ) (o : Option (Buffer (recv_frame α))) (ns : List ℕ) : Prop :=
  match o with
  | none => ns = []
  | some b => ns ≠ [] ∧ Kept num n0 b ns

theorem Track.recv {n0 : ℕ} {o : Option (Buffer (recv_frame α))} {ns : List ℕ} (h : Track num n0 o ns) {f : recv_frame α}
    (hn : Windowed n0 (key num f) ns) :
    Track num n0 (some ((o.getD (first (key num f))).accept (key num) 64 f)) (key num f :: ns) := by
  refine ⟨List.cons_ne_nil _ _, ?_⟩
  cases o with
  | none =>
    obtain rfl : ns = [] := h
    obtain rfl : key num f = n0 := by simpa [Windowed] using hn
    exact Kept.first f
  | some b => exact h.2.accept h.1 hn

theorem Track.near {n0 : ℕ} {o : Option (Buffer (recv_frame α))} {ns : List ℕ} (h : Track num n0 o ns) {n : ℕ}
    (hn : Windowed n0 n ns) : ∀ b ∈ o, n < b.start + 2048 ∧ b.start ≤ n + 2048 := by
  rintro b rfl
  have := hn.near h.2.good h.2.heard h.2.le_start h.1
  omega

end Wlan
