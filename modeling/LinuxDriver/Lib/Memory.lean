import Mathlib.Data.List.Basic
import Mathlib.Tactic.Common
/-!
# Copying bytes in and out of a memory

A memory is a function from addresses to bytes. `read` and `write` are the two
directions of a `memcpy` between it and a list; `fill` reads consecutive
stretches into a list of segments.
-/

namespace Mem

variable {β : Type*}

/-- `len` cells from `start` on. -/
def read (m : Int → β) (start : Int) (len : Nat) : List β := (List.range len).map fun k : Nat => m (start + k)

/-- The cells from `start` on hold the data, the others what they did. -/
def write (m : Int → β) (start : Int) (data : List β) : Int → β := fun a =>
  if start ≤ a then (data[(a - start).toNat]?).getD (m a) else m a

/-- The segments, filled from consecutive addresses. -/
def fill (m : Int → β) : Int → List (List β) → List (List β)
  | _, [] => []
  | start, s :: ss => read m start s.length :: fill m (start + s.length) ss

@[simp] theorem read_length (m : Int → β) (start : Int) (len : Nat) : (read m start len).length = len := by
  simp [read]

@[simp] theorem read_zero (m : Int → β) (start : Int) : read m start 0 = [] := rfl

theorem read_getElem? (m : Int → β) (start : Int) {len k : Nat} (h : k < len) :
    (read m start len)[k]? = some (m (start + k)) := by
  simp [read, h]

theorem read_add (m : Int → β) (start : Int) (n k : Nat) :
    read m start (n + k) = read m start n ++ read m (start + n) k := by
  simp [read, List.range_add, Int.add_assoc, Function.comp_def]

theorem read_succ (m : Int → β) (start : Int) (n : Nat) : read m start (n + 1) = m start :: read m (start + 1) n := by
  rw [Nat.add_comm, read_add]
  simp [read]

@[simp] theorem write_nil (m : Int → β) (start : Int) : write m start [] = m := by
  funext a; simp [write]

theorem write_inside (m : Int → β) (start : Int) (data : List β) {k : Nat} (h : k < data.length) :
    write m start data (start + k) = data[k] := by
  have h1 : start ≤ start + (k : Int) := by omega
  have h2 : (start + (k : Int) - start).toNat = k := by omega
  rw [write, if_pos h1, h2, List.getElem?_eq_getElem h, Option.getD_some]

theorem write_outside (m : Int → β) (start : Int) (data : List β) {a : Int}
    (h : a < start ∨ start + data.length ≤ a) : write m start data a = m a := by
  simp only [write]
  split
  · rw [List.getElem?_eq_none (by omega), Option.getD_none]
  · rfl

/-- Adjacent writes compose into one write of the concatenation. -/
theorem write_append (m : Int → β) (start : Int) (xs ys : List β) :
    write m start (xs ++ ys) = write (write m start xs) (start + xs.length) ys := by
  funext a
  by_cases h1 : start ≤ a
  · obtain ⟨k, rfl⟩ : ∃ k : Nat, a = start + k := ⟨(a - start).toNat, by omega⟩
    have h2 : (start + (k : Int) - start).toNat = k := by omega
    by_cases h3 : k < xs.length
    · rw [write_outside (write m start xs) _ _ (.inl (by omega))]
      rw [write, write, if_pos h1, if_pos h1, h2, List.getElem?_append_left h3]
    · have h4 : start + (xs.length : Int) ≤ start + k := by omega
      have h5 : (start + (k : Int) - (start + (xs.length : Int))).toNat = k - xs.length := by omega
      rw [write, if_pos h1, h2, List.getElem?_append_right (Nat.not_lt.1 h3), write, if_pos h4, h5,
        write_outside m start xs (.inr h4)]
  · rw [write_outside _ _ _ (.inl (by omega)), write_outside _ _ _ (.inl (by omega)),
      write_outside _ _ _ (.inl (by omega))]

theorem write_cons (m : Int → β) (start : Int) (b : β) (data : List β) :
    write m start (b :: data) = write (write m start [b]) (start + 1) data :=
  write_append m start [b] data

theorem read_write_after (m : Int → β) (start : Int) (data : List β) (len : Nat) :
    read (write m start data) (start + data.length) len = read m (start + data.length) len := by
  refine List.map_congr_left fun k _ => ?_
  exact write_outside _ _ _ (.inr (by omega))

@[simp] theorem read_write_self (m : Int → β) (start : Int) (data : List β) :
    read (write m start data) start data.length = data := by
  apply List.ext_getElem (by simp)
  intro k hk hk'
  simp [read, write_inside m start data hk']

/-- What a `memcpy` has copied is there. -/
theorem read_write_read (m m' : Int → β) (start start' : Int) (len : Nat) :
    read (write m start (read m' start' len)) start len = read m' start' len := by
  have hself := read_write_self m start (read m' start' len)
  rwa [read_length] at hself

theorem read_write_disjoint (m : Int → β) {start start' : Int} {data : List β} {len : Nat}
    (h : ∀ k < len, ∀ j < data.length, start' + k ≠ start + j) :
    read (write m start data) start' len = read m start' len := by
  refine List.map_congr_left fun k hk => ?_
  have hk := List.mem_range.1 hk
  apply write_outside
  by_contra hin
  exact h k hk (start' + k - start).toNat (by omega) (by omega)

/-- A write changes nothing exactly when the memory already holds the data. -/
theorem write_eq_self_iff (m : Int → β) (start : Int) (data : List β) :
    write m start data = m ↔ read m start data.length = data := by
  constructor
  · intro h
    apply List.ext_getElem (by simp)
    intro k hk hk'
    have := congrFun h (start + k)
    rw [write_inside m start data hk'] at this
    simp [read, this]
  · intro h
    funext a
    by_cases ha : start ≤ a ∧ a < start + data.length
    · obtain ⟨k, rfl⟩ : ∃ k : Nat, a = start + k := ⟨(a - start).toNat, by omega⟩
      have hk : k < data.length := by omega
      rw [write_inside m start data hk]
      have e := read_getElem? m start hk
      rw [h, List.getElem?_eq_getElem hk] at e
      exact Option.some.inj e
    · exact write_outside _ _ _ (by omega)

theorem fill_flatten (m : Int → β) (start : Int) (ss : List (List β)) :
    (fill m start ss).flatten = read m start ss.flatten.length := by
  induction ss generalizing start with
  | nil => rfl
  | cons s ss ih => simp [fill, ih, read_add]

/-- Filling changes nothing exactly when the segments already hold the memory's bytes. -/
theorem fill_eq_self_iff (m : Int → β) (start : Int) (ss : List (List β)) :
    fill m start ss = ss ↔ read m start ss.flatten.length = ss.flatten := by
  induction ss generalizing start with
  | nil => simp [fill]
  | cons s ss ih =>
    simp only [fill, List.cons.injEq, ih, List.flatten_cons, List.length_append, read_add]
    constructor
    · rintro ⟨h1, h2⟩
      rw [h1, h2]
    · intro h
      exact List.append_inj h (by simp)

end Mem
