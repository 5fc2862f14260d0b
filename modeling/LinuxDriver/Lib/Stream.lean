import Mathlib.Data.List.Forall2
/-!
# Reading a stream of items

Items are encoded one after the other in a stream, and a reader takes one item
off its front, skipping those it does not want. If one read does that on any
encoded stream, successive reads return the wanted items in order and leave
the stream at the start of an item each time.
-/

namespace Stream

variable {α β σ ε : Type*}

/-- `n` successive reads, and what the stream holds after each. -/
def reads (next : σ → List β → Except ε (σ × List β)) : Nat → σ → List β → Except ε (List (σ × List β))
  | 0, _, _ => .ok []
  | n + 1, s, stream =>
    match next s stream with
    | .error e => .error e
    | .ok (s, stream) => (reads next n s stream).map ((s, stream) :: ·)

/-- `next` takes the first wanted item off a stream of encoded items; `shows`
relates the reader's state to the item it has read. -/
def Reads (enc : α → List β) (wanted : α → Bool) (shows : σ → α → Prop)
    (next : σ → List β → Except ε (σ × List β)) : Prop :=
  ∀ s skipped a rest, (∀ x ∈ skipped, wanted x = false) → wanted a = true →
    ∃ s', next s ((skipped ++ a :: rest).flatMap enc) = .ok (s', rest.flatMap enc) ∧ shows s' a

variable {enc : α → List β} {wanted : α → Bool} {shows : σ → α → Prop} {next : σ → List β → Except ε (σ × List β)}

/-- As many reads as there are wanted items return these in order, each at the start of an item. -/
theorem Reads.all (h : Reads enc wanted shows next) (items : List α) (s : σ) :
    ∃ outs, reads next (items.filter wanted).length s (items.flatMap enc) = .ok outs ∧
      List.Forall₂ (fun out a => shows out.1 a ∧ ∃ rest, rest <:+ items ∧ out.2 = rest.flatMap enc)
        outs (items.filter wanted) := by
  generalize hw : items.filter wanted = ws
  induction ws generalizing items s with
  | nil => exact ⟨[], rfl, .nil⟩
  | cons a ws ih =>
    obtain ⟨skipped, rest, rfl, hs, ha, hr⟩ := List.filter_eq_cons_iff.1 hw
    have hn : ∀ x ∈ skipped, wanted x = false := fun x hx => Bool.eq_false_iff.2 (hs x hx)
    obtain ⟨s', he, hshow⟩ := h s skipped a rest hn ha
    obtain ⟨outs, ho, hf⟩ := ih rest s' hr
    have hsuf : rest <:+ skipped ++ a :: rest := ⟨skipped ++ [a], by simp⟩
    refine ⟨(s', rest.flatMap enc) :: outs, ?_, .cons ⟨hshow, rest, hsuf, rfl⟩ ?_⟩
    · simp only [List.length_cons, reads]
      rw [he]
      dsimp only
      rw [ho]
      rfl
    · refine hf.imp ?_
      rintro out b ⟨hb, rest', hr', hrest⟩
      exact ⟨hb, rest', hr'.trans hsuf, hrest⟩

/-! ## Items of equal width -/

variable {f : α → List β} {w : Nat}

theorem length_flatMap_width (hf : ∀ a, (f a).length = w) (l : List α) : (l.flatMap f).length = w * l.length := by
  induction l with
  | nil => rfl
  | cons a l ih => rw [List.flatMap_cons, List.length_append, hf, ih, List.length_cons, Nat.mul_succ, Nat.add_comm]

theorem take_flatMap_width (hf : ∀ a, (f a).length = w) (l : List α) (n : Nat) :
    (l.flatMap f).take (w * n) = (l.take n).flatMap f := by
  induction l generalizing n with
  | nil => simp
  | cons a l ih =>
    cases n with
    | zero => simp
    | succ n =>
      have hn : w * (n + 1) - (f a).length = w * n := by
        rw [hf, Nat.mul_succ]
        omega
      have ha : (f a).take (w * (n + 1)) = f a := by
        apply List.take_of_length_le
        rw [hf, Nat.mul_succ]
        omega
      rw [List.flatMap_cons, List.take_append, ha, hn, ih, List.take_succ_cons, List.flatMap_cons]

/-- Position `j` of item `i`. -/
theorem getElem?_flatMap_width (hf : ∀ a, (f a).length = w) (l : List α) (i : Nat) {j : Nat} (hj : j < w) :
    (l.flatMap f)[w * i + j]? = l[i]?.bind fun a => (f a)[j]? := by
  induction l generalizing i with
  | nil => rfl
  | cons a l ih =>
    rw [List.flatMap_cons]
    cases i with
    | zero =>
      rw [Nat.mul_zero, Nat.zero_add, List.getElem?_append_left (by rw [hf]; exact hj)]
      rfl
    | succ i =>
      have hi : w * (i + 1) + j - (f a).length = w * i + j := by
        rw [hf, Nat.mul_succ]
        omega
      rw [List.getElem?_append_right (by rw [hf, Nat.mul_succ]; omega), hi, ih]
      rfl

end Stream
