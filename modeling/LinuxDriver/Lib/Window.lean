import Mathlib.Data.List.Sort
import Mathlib.Data.List.Range
import Mathlib.Data.Nat.Notation
/-!
# Reorder buffers

Items carry numbers. A buffer hands them on in the order of their numbers: what
arrives early is held back until the gap before it is filled, or until the
window moves on without what is missing. `start` is the number waited for.
-/

namespace Window

variable {α : Type*} (num : α → ℕ)

/-- The number waited for, what is held back, and what was handed on. -/
structure Buffer (α : Type*) where
  start : ℕ
  held : List α
  out : List α

/-- Items numbered up to `w` leave the front; the one numbered `w` moves `w` on. -/
def drain : ℕ → List α → ℕ × List α × List α
  | w, [] => (w, [], [])
  | w, a :: l =>
    if num a ≤ w then
      let r := drain (if num a = w then w + 1 else w) l
      (r.1, a :: r.2.1, r.2.2)
    else (w, [], a :: l)

/-- Where the window starts once `n` has arrived. -/
def shift (size w n : ℕ) : ℕ :=
  if n = w then w + 1 else if w + size ≤ n then n + 1 - size else w

/-- What the drain takes is handed on. -/
def Buffer.release (b : Buffer α) (w : ℕ) (l : List α) : Buffer α :=
  let r := drain num w l
  { start := r.1, held := r.2.2, out := b.out ++ r.2.1 }

/-- An item arrives. It is dropped if its turn is over or if it is held already. -/
def Buffer.accept (size : ℕ) (b : Buffer α) (a : α) : Buffer α :=
  if num a < b.start ∨ num a ∈ b.held.map num then b
  else b.release num (shift size b.start (num a)) (b.held.orderedInsert (num · ≤ num ·) a)

/-- The wait is over: the window moves on to the first item held. -/
def Buffer.expire (b : Buffer α) : Buffer α :=
  match b.held with
  | [] => b
  | a :: l => b.release num (num a) (a :: l)

/-- Strictly increasing numbers. -/
def Sorted (l : List α) : Prop := l.Pairwise (num · < num ·)

/-- What is held is sorted, past `start` and within the window. -/
structure Buffer.Ok (size : ℕ) (b : Buffer α) : Prop where
  sorted : Sorted num b.held
  past : ∀ a ∈ b.held, b.start < num a
  near : ∀ a ∈ b.held, num a < b.start + size

/-! ## Draining -/

/-- What a drain of a sorted list from `w` on does: it splits the list at the first gap. -/
structure Drained (w : ℕ) (l : List α) (r : ℕ × List α × List α) : Prop where
  grows : w ≤ r.1
  split : r.2.1 ++ r.2.2 = l
  out_lt : ∀ a ∈ r.2.1, num a < r.1
  rest_gt : ∀ a ∈ r.2.2, r.1 < num a
  filled : ∀ n, w ≤ n → n < r.1 → n ∈ r.2.1.map num

variable {num}

theorem drained {l : List α} (hl : Sorted num l) (w : ℕ) : Drained num w l (drain num w l) := by
  induction l generalizing w with
  | nil => exact ⟨le_refl _, rfl, by simp [drain], by simp [drain], by intro n h1 h2; simp [drain] at h2; omega⟩
  | cons a l ih =>
    obtain ⟨ha, hl⟩ := List.pairwise_cons.1 hl
    simp only [drain]
    split
    case isTrue hle =>
      have h := ih hl (if num a = w then w + 1 else w)
      have hw : w ≤ if num a = w then w + 1 else w := by split <;> omega
      have hw' : num a < (drain num (if num a = w then w + 1 else w) l).1 ∨ num a < w := by
        rcases Nat.lt_or_eq_of_le hle with hlt | heq
        · exact .inr hlt
        · have := h.grows
          rw [if_pos heq] at this ⊢
          exact .inl (by omega)
      refine ⟨le_trans hw h.grows, congrArg (a :: ·) h.split, ?_, h.rest_gt, ?_⟩
      · intro b hb
        rcases List.mem_cons.1 hb with rfl | hb
        · have := h.grows
          show num b < (drain num (if num b = w then w + 1 else w) l).1
          omega
        · exact h.out_lt b hb
      · intro n h1 h2
        by_cases hn : n = num a
        · exact List.mem_cons.2 (.inl hn)
        · have hw1 : (if num a = w then w + 1 else w) ≤ n := by split <;> omega
          exact List.mem_cons_of_mem _ (h.filled n hw1 h2)
    case isFalse hgt =>
      refine ⟨le_refl _, rfl, by simp, ?_, by intro n h1 h2; simp at h2; omega⟩
      intro b hb
      rcases List.mem_cons.1 hb with rfl | hb
      · simpa using hgt
      · exact lt_trans (by simpa using hgt) (ha b hb)

/-- The window starts where it did or behind an item that left. -/
theorem drain_start (w : ℕ) (l : List α) :
    (drain num w l).1 = w ∨ ∃ a ∈ (drain num w l).2.1, (drain num w l).1 = num a + 1 := by
  induction l generalizing w with
  | nil => exact .inl rfl
  | cons a l ih =>
    simp only [drain]
    split
    · rcases ih (if num a = w then w + 1 else w) with h | ⟨c, hc, h⟩
      · by_cases ha : num a = w
        · exact .inr ⟨a, List.mem_cons_self, by rw [h, if_pos ha, ha]⟩
        · exact .inl (by rw [h, if_neg ha])
      · exact .inr ⟨c, List.mem_cons_of_mem _ hc, h⟩
    · exact .inl rfl

/-! ## Order -/

variable (num) in
/-- Besides, what has left is sorted and behind the window. -/
structure Buffer.Good (size : ℕ) (b : Buffer α) : Prop extends b.Ok num size where
  ordered : Sorted num b.out
  behind : ∀ a ∈ b.out, num a < b.start

variable {size : ℕ} {b : Buffer α}

theorem Buffer.Good.release (h : b.Good num size) {w : ℕ} {l : List α} (hl : Sorted num l) (hw : b.start ≤ w)
    (hge : ∀ a ∈ l, b.start ≤ num a) (hlt : ∀ a ∈ l, num a < w + size) : (b.release num w l).Good num size := by
  have hd := drained hl w
  have hsub : ∀ a, (a ∈ (drain num w l).2.1 → a ∈ l) ∧ (a ∈ (drain num w l).2.2 → a ∈ l) := by
    intro a
    constructor <;> intro ha <;> rw [← hd.split, List.mem_append]
    · exact .inl ha
    · exact .inr ha
  obtain ⟨ho, hr, hor⟩ := List.pairwise_append.1 (hd.split ▸ hl : Sorted num _)
  refine ⟨⟨hr, hd.rest_gt, fun a ha => ?_⟩, ?_, ?_⟩
  · have := hlt a ((hsub a).2 ha)
    have := hd.grows
    show num a < (drain num w l).1 + size
    omega
  · refine List.pairwise_append.2 ⟨h.ordered, ho, fun a ha c hc => ?_⟩
    exact lt_of_lt_of_le (h.behind a ha) (hge c ((hsub c).1 hc))
  · intro a ha
    have := hd.grows
    rcases List.mem_append.1 ha with ha | ha
    · have := h.behind a ha
      show num a < (drain num w l).1
      omega
    · exact hd.out_lt a ha

theorem le_shift (size w n : ℕ) : w ≤ shift size w n := by
  unfold shift
  split <;> try split
  all_goals omega

theorem sorted_orderedInsert {l : List α} (hl : Sorted num l) {a : α} (ha : num a ∉ l.map num) :
    Sorted num (l.orderedInsert (num · ≤ num ·) a) := by
  induction l with
  | nil => exact List.pairwise_singleton _ _
  | cons c l ih =>
    obtain ⟨hc, hl⟩ := List.pairwise_cons.1 hl
    simp only [List.map_cons, List.mem_cons, not_or] at ha
    rw [List.orderedInsert_cons]
    split
    case isTrue hle =>
      have hlt : num a < num c := lt_of_le_of_ne hle ha.1
      refine List.pairwise_cons.2 ⟨fun d hd => ?_, List.pairwise_cons.2 ⟨hc, hl⟩⟩
      rcases List.mem_cons.1 hd with rfl | hd
      · exact hlt
      · exact lt_trans hlt (hc d hd)
    case isFalse hgt =>
      refine List.pairwise_cons.2 ⟨fun d hd => ?_, ih hl ha.2⟩
      rcases (List.mem_orderedInsert ..).1 hd with rfl | hd
      · exact lt_of_not_ge hgt
      · exact hc d hd

theorem Buffer.Good.accept (h : b.Good num size) (hs : 0 < size) (a : α) :
    (b.accept num size a).Good num size := by
  unfold Buffer.accept
  split
  case isTrue => exact h
  case isFalse hn =>
    rw [not_or, not_lt] at hn
    have hsh := le_shift size b.start (num a)
    refine h.release (sorted_orderedInsert h.sorted hn.2) hsh (fun c hc => ?_) (fun c hc => ?_)
    · rcases (List.mem_orderedInsert ..).1 hc with rfl | hc
      · exact hn.1
      · exact le_of_lt (h.past c hc)
    · rcases (List.mem_orderedInsert ..).1 hc with rfl | hc
      · unfold shift
        split <;> try split
        all_goals omega
      · have := h.near c hc
        omega

theorem Buffer.Good.expire (h : b.Good num size) : (b.expire num).Good num size := by
  unfold Buffer.expire
  cases hb : b.held with
  | nil => exact h
  | cons a l =>
    have hsort : Sorted num (a :: l) := hb ▸ h.sorted
    have hpast : ∀ c ∈ a :: l, b.start < num c := hb ▸ h.past
    have hnear : ∀ c ∈ a :: l, num c < b.start + size := hb ▸ h.near
    refine h.release hsort (le_of_lt (hpast a List.mem_cons_self)) (fun c hc => le_of_lt (hpast c hc)) (fun c hc => ?_)
    have := hpast a List.mem_cons_self
    have := hnear c hc
    omega

/-! ## No gap -/

variable (num) in
/-- All the numbers from `n0` up to where the window starts have left. -/
def Buffer.Whole (n0 : ℕ) (b : Buffer α) : Prop := b.out.map num = List.range' n0 (b.start - n0)

theorem eq_range' {l : List ℕ} (h : l.Pairwise (· < ·)) {lo hi : ℕ} (hm : ∀ n, n ∈ l ↔ lo ≤ n ∧ n < hi) :
    l = List.range' lo (hi - lo) := by
  have hn : l.Nodup := h.imp (fun hab => Nat.ne_of_lt hab)
  refine List.Perm.eq_of_pairwise (fun a b _ _ h1 h2 => absurd h2 (lt_asymm h1)) h List.pairwise_lt_range' ?_
  refine (List.perm_ext_iff_of_nodup hn List.nodup_range').2 fun n => ?_
  rw [hm, List.mem_range'_1]
  omega

/-- An item within the window lets the window move on over what has come, without a gap. -/
theorem Buffer.Whole.accept {n0 : ℕ} (h : b.Whole num n0) (hg : b.Good num size) (h0 : n0 ≤ b.start)
    {a : α} (ha : num a < b.start + size) : (b.accept num size a).Whole num n0 := by
  unfold Buffer.accept
  split
  case isTrue => exact h
  case isFalse hn =>
    rw [not_or, not_lt] at hn
    set l := b.held.orderedInsert (num · ≤ num ·) a with hl
    have hsort : Sorted num l := sorted_orderedInsert hg.sorted hn.2
    have hd := drained hsort (shift size b.start (num a))
    have hgrow := hd.grows
    have hsh := le_shift size b.start (num a)
    have hout : (drain num (shift size b.start (num a)) l).2.1.map num
        = List.range' b.start ((drain num (shift size b.start (num a)) l).1 - b.start) := by
      refine eq_range' (List.pairwise_map.2 (List.pairwise_append.1 (hd.split ▸ hsort : Sorted num _)).1) fun n => ?_
      constructor
      · rintro hm
        obtain ⟨c, hc, rfl⟩ := List.mem_map.1 hm
        refine ⟨?_, hd.out_lt c hc⟩
        have hcl : c ∈ l := hd.split ▸ List.mem_append_left _ hc
        rcases (List.mem_orderedInsert ..).1 hcl with rfl | hcl
        · exact hn.1
        · exact le_of_lt (hg.past c hcl)
      · rintro ⟨h1, h2⟩
        by_cases hw : shift size b.start (num a) ≤ n
        · exact hd.filled n hw h2
        · -- the window moved by the item itself, which is the one waited for
          have hna : n = num a ∧ num a = b.start := by
            unfold shift at hw
            split at hw
            · omega
            · split at hw <;> omega
          have hmem : a ∈ (drain num (shift size b.start (num a)) l).2.1 ++ (drain num (shift size b.start (num a)) l).2.2 := by
            rw [hd.split, hl, List.mem_orderedInsert]
            exact .inl rfl
          rcases List.mem_append.1 hmem with hm | hm
          · exact List.mem_map.2 ⟨a, hm, hna.1.symm⟩
          · have := hd.rest_gt a hm
            omega
    unfold Buffer.Whole Buffer.release at *
    dsimp only
    rw [List.map_append, h, hout]
    have hsum : (drain num (shift size b.start (num a)) l).1 - n0
        = (b.start - n0) + ((drain num (shift size b.start (num a)) l).1 - b.start) := by omega
    rw [hsum, ← List.range'_append_1]
    congr 2
    omega

end Window
