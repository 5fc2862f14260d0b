import Mathlib.Data.Fintype.Basic
import Mathlib.Logic.Function.Basic
import LinuxDriver.Key.Driver
/-!
# Concurrent readers of the key

The steps of `key_timer_function` and of any number of `key_read` calls
interleave. A call tests `status`, copies it to the user and sets it to
KEY_KEEP in three accesses. `recorded` counts the events the timer has
recorded; the event in `status` is always the last one. `delivered` lists what
the calls that returned 0 gave their callers, and which event it was.

Nothing goes wrong as long as a call passes its test only while no other call
is between its test and its end, and the timer does not write KEY_KEEP between
a call's test and its copy.
-/

namespace Key

/-- Where a `key_read` call is. -/
inductive Reader
  /-- Not called, or before the first test. -/
  | out
  /-- In `wait_event_interruptible`. -/
  | waiting
  /-- `status` was not KEY_KEEP. -/
  | passed
  /-- `copy_to_user` has copied this status, all of it if `ret` is 0. -/
  | copied (ret : ℕ) (status : KeyStatus) (event : ℕ)

/-- The device, the readers, and what was recorded and delivered. -/
structure Shared (ι : Type*) extends KeyDev where
  /-- The level sampled by a running `key_timer_function`. -/
  current_val : Option Int
  readers : ι → Reader
  recorded : ℕ
  delivered : List (KeyStatus × ℕ)

/-- One access of the timer function or of a reader. -/
inductive Access (ι : Type*)
  /-- `gpio_get_value` in `key_timer_function`. -/
  | sample (level : Bool)
  /-- The rest of `key_timer_function`. -/
  | record
  | test (reader : ι) (o_nonblock : Bool)
  /-- A signal ends the wait. -/
  | interrupt (reader : ι)
  | copy (reader : ι) (ret : ℕ)
  | reset (reader : ι)

variable {ι : Type*} [DecidableEq ι]

namespace Shared

/-- No reader has begun. -/
def start : Shared ι := { probe with current_val := none, readers := fun _ => .out, recorded := 0, delivered := [] }

/-- Reader `i` is now at `r`. -/
def move (s : Shared ι) (i : ι) (r : Reader) : Shared ι := { s with readers := Function.update s.readers i r }

/-- `key_timer_function` after its sample. -/
def record (s : Shared ι) : Shared ι :=
  match s.current_val with
  | none => s
  | some v =>
    { s with
      toKeyDev := key_timer_function s.toKeyDev v
      current_val := none
      recorded := if finding s.last_val v = .KEY_KEEP then s.recorded else s.recorded + 1 }

/-- The test of a call: where there is nothing to read it returns -EAGAIN or waits. -/
def test (s : Shared ι) (i : ι) (o_nonblock : Bool) : Shared ι :=
  if s.status = .KEY_KEEP then s.move i (if o_nonblock then .out else .waiting) else s.move i .passed

/-- The call returns `ret`, having set `status` to KEY_KEEP. -/
def reset (s : Shared ι) (i : ι) (ret : ℕ) (status : KeyStatus) (event : ℕ) : Shared ι :=
  { s.move i .out with
    status := .KEY_KEEP
    delivered := if ret = 0 then (status, event) :: s.delivered else s.delivered }

/-- An access that its thread cannot make changes nothing. -/
def access (s : Shared ι) : Access ι → Shared ι
  | .sample level => if s.current_val = none then { s with current_val := some level.toInt } else s
  | .record => s.record
  | .test i o_nonblock =>
    match s.readers i with
    | .out | .waiting => s.test i o_nonblock
    | _ => s
  | .interrupt i =>
    match s.readers i with
    | .waiting => s.move i .out
    | _ => s
  | .copy i ret =>
    match s.readers i with
    | .passed => s.move i (.copied ret s.status s.recorded)
    | _ => s
  | .reset i =>
    match s.readers i with
    | .copied ret status event => s.reset i ret status event
    | _ => s

end Shared

/-- Every call that returned 0 delivered a press or a release, and no event was delivered twice. -/
structure Consumed (s : Shared ι) : Prop where
  event : ∀ d ∈ s.delivered, d.1 = .KEY_PRESS ∨ d.1 = .KEY_RELEASE
  once : (s.delivered.map Prod.snd).Nodup

/-! ## Races -/

/-- After the test and before the end of the call. -/
def Reader.reading : Reader → Bool
  | .passed | .copied .. => true
  | _ => false

/-- The reader has waited for an event and not copied it yet. -/
def Reader.has_passed : Reader → Bool
  | .passed => true
  | _ => false

/-- A call passes its test while another is reading, or the timer writes
KEY_KEEP between the test and the copy of a call. -/
def races (s : Shared ι) : Access ι → Prop
  | .test i _ =>
    (s.readers i).reading = false ∧ s.status ≠ .KEY_KEEP ∧ ∃ j, j ≠ i ∧ (s.readers j).reading = true
  | .record => s.current_val.map (finding s.last_val) = some .KEY_KEEP ∧ ∃ j, (s.readers j).has_passed = true
  | _ => False

instance [Fintype ι] (s : Shared ι) (a : Access ι) : Decidable (races s a) := by
  unfold races
  cases a <;> infer_instance

/-! ## What holds between races -/

/-- At most one call is reading, and it has the event it read to itself. -/
structure Orderly (s : Shared ι) : Prop where
  alone : ∀ i j, (s.readers i).reading = true → (s.readers j).reading = true → i = j
  fresh : ∀ i, s.readers i = .passed → s.status ≠ .KEY_KEEP
  /-- The event in `status` has not been delivered, unless a call is about to remove it. -/
  unread : s.status ≠ .KEY_KEEP → (∀ i ret v n, s.readers i ≠ .copied ret v n) → ∀ d ∈ s.delivered, d.2 ≠ s.recorded
  taken : ∀ i ret v n, s.readers i = .copied ret v n → v ≠ .KEY_KEEP ∧ n ≤ s.recorded ∧ ∀ d ∈ s.delivered, d.2 ≠ n
  past : ∀ d ∈ s.delivered, d.2 ≤ s.recorded
  event : ∀ d ∈ s.delivered, d.1 ≠ .KEY_KEEP
  once : (s.delivered.map Prod.snd).Nodup

variable {s : Shared ι}

theorem move_readers (i : ι) (r : Reader) (j : ι) : (s.move i r).readers j = if j = i then r else s.readers j :=
  Function.update_apply ..

/-- A call that is not reading may move to another place where it is not. -/
theorem Orderly.stand (h : Orderly s) {i : ι} {r : Reader} (hi : (s.readers i).reading = false)
    (hr : r.reading = false) : Orderly (s.move i r) := by
  -- a call that reads is not the one that moved
  have same : ∀ {j}, ((s.move i r).readers j).reading = true → (s.move i r).readers j = s.readers j := by
    intro j hj
    rw [move_readers] at hj ⊢
    split at hj
    · rw [hr] at hj
      cases hj
    · rename_i hn
      rw [if_neg hn]
  have copied : ∀ {j ret v n}, s.readers j = .copied ret v n → (s.move i r).readers j = .copied ret v n := by
    intro j ret v n hj
    rw [move_readers, if_neg]
    · exact hj
    · rintro rfl
      rw [hj] at hi
      cases hi
  refine ⟨?_, ?_, ?_, ?_, h.past, h.event, h.once⟩
  · intro j k hj hk
    rw [same hj] at hj
    rw [same hk] at hk
    exact h.alone j k hj hk
  · intro j hj
    rw [same (by rw [hj]; rfl)] at hj
    exact h.fresh j hj
  · intro hs hc
    exact h.unread hs fun j ret v n hj => hc j ret v n (copied hj)
  · intro j ret v n hj
    rw [same (by rw [hj]; rfl)] at hj
    exact h.taken j ret v n hj

/-- A call starts to read while no other call does. -/
theorem Orderly.pass (h : Orderly s) {i : ι} (hs : s.status ≠ .KEY_KEEP)
    (hn : ∀ j, (s.readers j).reading = false) : Orderly (s.move i .passed) := by
  have only : ∀ {j}, ((s.move i .passed).readers j).reading = true → j = i := by
    intro j hj
    rw [move_readers] at hj
    split at hj
    · assumption
    · rw [hn j] at hj
      cases hj
  refine ⟨?_, fun _ _ => hs, ?_, ?_, h.past, h.event, h.once⟩
  · intro j k hj hk
    rw [only hj, only hk]
  · intro hs _
    apply h.unread hs
    intro j ret v n hj
    have := hn j
    rw [hj] at this
    cases this
  · intro j ret v n hj
    have hi := only (by rw [hj]; rfl : ((s.move i .passed).readers j).reading = true)
    rw [hi, move_readers, if_pos rfl] at hj
    cases hj

/-- The reading call copies the event. -/
theorem Orderly.copy (h : Orderly s) {i : ι} (ret : ℕ) (hi : s.readers i = .passed) :
    Orderly (s.move i (.copied ret s.status s.recorded)) := by
  have hr : (s.readers i).reading = true := by rw [hi]; rfl
  have only : ∀ {j}, ((s.move i (.copied ret s.status s.recorded)).readers j).reading = true → j = i := by
    intro j hj
    rw [move_readers] at hj
    split at hj
    · assumption
    · exact h.alone j i hj hr
  have hs := h.fresh i hi
  refine ⟨?_, ?_, ?_, ?_, h.past, h.event, h.once⟩
  · intro j k hj hk
    rw [only hj, only hk]
  · intro _ _
    exact hs
  · intro _ hc
    exact absurd (by rw [move_readers, if_pos rfl]) (hc i ret s.status s.recorded)
  · intro j ret' v n hj
    have hji := only (by rw [hj]; rfl : ((s.move i _).readers j).reading = true)
    rw [hji, move_readers, if_pos rfl] at hj
    cases hj
    refine ⟨hs, Nat.le_refl _, h.unread hs ?_⟩
    -- nobody else has copied: `i` is the only reader, and it had not
    intro k ret' v n hk
    have hki := h.alone k i (by rw [hk]; rfl) hr
    rw [hki, hi] at hk
    cases hk

/-- The reading call ends. -/
theorem Orderly.reset (h : Orderly s) {i : ι} {ret : ℕ} {v : KeyStatus} {n : ℕ} (hi : s.readers i = .copied ret v n) :
    Orderly (s.reset i ret v n) := by
  -- `i` was the only call that reads
  have none_left : ∀ j, ((s.reset i ret v n).readers j).reading = false := by
    intro j
    have hm : (s.reset i ret v n).readers j = if j = i then .out else s.readers j := move_readers i .out j
    rw [hm]
    split
    · rfl
    · rename_i hj
      refine Bool.eq_false_iff.2 fun hr => ?_
      exact hj (h.alone j i hr (by rw [hi]; rfl))
  obtain ⟨hv, hn, hd⟩ := h.taken i ret v n hi
  have delivered : ∀ d ∈ (s.reset i ret v n).delivered, d = (v, n) ∨ d ∈ s.delivered := by
    intro d hd
    unfold Shared.reset at hd
    dsimp only at hd
    split at hd
    · exact List.mem_cons.1 hd
    · exact Or.inr hd
  refine ⟨?_, ?_, ?_, ?_, ?_, ?_, ?_⟩
  · intro j k hj _
    rw [none_left j] at hj
    cases hj
  · intro j hj
    have := none_left j
    rw [hj] at this
    cases this
  · intro hs
    exact absurd rfl hs
  · intro j ret v n hj
    have := none_left j
    rw [hj] at this
    cases this
  · intro d hd
    rcases delivered d hd with rfl | hd
    · exact hn
    · exact h.past d hd
  · intro d hd
    rcases delivered d hd with rfl | hd
    · exact hv
    · exact h.event d hd
  · unfold Shared.reset
    dsimp only
    split
    · rw [List.map_cons, List.nodup_cons]
      refine ⟨?_, h.once⟩
      intro hm
      obtain ⟨d, hd', he⟩ := List.mem_map.1 hm
      exact hd d hd' he
    · exact h.once

omit [DecidableEq ι] in
/-- The timer records an event, or writes KEY_KEEP while no call has passed its test. -/
theorem Orderly.record (h : Orderly s) (hn : ¬races s .record) : Orderly s.record := by
  unfold Shared.record
  split
  · exact h
  · rename_i v hv
    by_cases hk : finding s.last_val v = .KEY_KEEP
    · have hp : ∀ i, s.readers i ≠ .passed := by
        intro i hi
        refine hn ⟨?_, i, by rw [hi]; rfl⟩
        rw [hv, Option.map_some, hk]
      rw [if_pos hk]
      refine ⟨h.alone, fun i hi => absurd hi (hp i), ?_, h.taken, h.past, h.event, h.once⟩
      intro hs
      exact absurd hk hs
    · rw [if_neg hk]
      have past : ∀ d ∈ s.delivered, d.2 ≤ s.recorded + 1 := fun d hd => Nat.le_succ_of_le (h.past d hd)
      refine ⟨h.alone, fun _ _ => hk, ?_, ?_, past, h.event, h.once⟩
      · intro _ _ d hd
        exact Nat.ne_of_lt (Nat.lt_succ_of_le (h.past d hd))
      · intro i ret v n hi
        obtain ⟨hv, hn, hd⟩ := h.taken i ret v n hi
        exact ⟨hv, Nat.le_succ_of_le hn, hd⟩

theorem orderly_access (s : Shared ι) (a : Access ι) (h : Orderly s) (hn : ¬races s a) : Orderly (s.access a) := by
  unfold Shared.access
  cases a with
  | sample level =>
    dsimp only
    split
    · exact ⟨h.alone, h.fresh, h.unread, h.taken, h.past, h.event, h.once⟩
    · exact h
  | record => exact h.record hn
  | test i o_nonblock =>
    dsimp only
    have test : (s.readers i).reading = false → Orderly (s.test i o_nonblock) := by
      intro hi
      unfold Shared.test
      split
      · refine h.stand hi ?_
        split <;> rfl
      · rename_i hs
        refine h.pass hs ?_
        intro j
        by_cases hj : j = i
        · rw [hj, hi]
        · exact Bool.eq_false_iff.2 fun hr => hn ⟨hi, hs, j, hj, hr⟩
    split
    · rename_i hi
      exact test (by rw [hi]; rfl)
    · rename_i hi
      exact test (by rw [hi]; rfl)
    · exact h
  | interrupt i =>
    dsimp only
    split
    · rename_i hi
      exact h.stand (by rw [hi]; rfl) rfl
    · exact h
  | copy i ret =>
    dsimp only
    split
    · rename_i hi
      exact h.copy ret hi
    · exact h
  | reset i =>
    dsimp only
    split
    · rename_i hi
      exact h.reset hi
    · exact h

omit [DecidableEq ι] in
theorem orderly_start : Orderly (Shared.start : Shared ι) where
  alone i j hi := by cases hi
  fresh i hi := by cases hi
  unread hs := absurd rfl hs
  taken i ret v n hi := by cases hi
  past d hd := by cases hd
  event d hd := by cases hd
  once := List.nodup_nil

/-- Without a race every `key_read` that returns 0 delivers an event, and each event is delivered at most once. -/
theorem events_consumed (acts : List (Access ι))
    (h : Runs.Meets Shared.access (fun s a => ¬races s a) (Shared.start : Shared ι) acts) :
    ∀ s ∈ Runs.visited Shared.access (Shared.start : Shared ι) acts, Consumed s := by
  intro s hs
  have ho : Orderly s := h.visited_inv orderly_access orderly_start s hs
  refine ⟨?_, ho.once⟩
  intro d hd
  have hk := ho.event d hd
  cases he : d.1 with
  | KEY_PRESS => exact Or.inl rfl
  | KEY_RELEASE => exact Or.inr rfl
  | KEY_KEEP => exact absurd he hk

/-- One call after the other: the press goes to the first, the release to the second. -/
theorem turns_consume :
    Consumed (Runs.run Shared.access (Shared.start : Shared (Fin 2))
      [.sample false, .record, .test 0 true, .copy 0 0, .reset 0, .sample true, .record, .test 1 false, .copy 1 0,
        .reset 1]) :=
  events_consumed _ (by decide) _ (Runs.run_mem_visited ..)

/-- Two calls pass their tests on the same press; the second delivers KEY_KEEP. -/
theorem second_reader_gets_keep :
    ¬Consumed (Runs.run Shared.access (Shared.start : Shared (Fin 2))
      [.sample false, .record, .test 0 true, .test 1 true, .copy 0 0, .reset 0, .copy 1 0, .reset 1]) := by
  intro h
  have he := h.event (.KEY_KEEP, 1) (by decide)
  revert he
  decide

/-! ## Every race can go wrong -/

/-- A call that has passed its test delivers what it finds. -/
theorem keep_delivered {i : ι} (hi : s.readers i = .passed) (hs : s.status = .KEY_KEEP) :
    ¬Consumed (Runs.run Shared.access s [.copy i 0, .reset i]) := by
  have hc : s.access (.copy i 0) = s.move i (.copied 0 .KEY_KEEP s.recorded) := by
    unfold Shared.access
    simp only [hi, hs]
  have hm : (s.move i (.copied 0 .KEY_KEEP s.recorded)).readers i = .copied 0 .KEY_KEEP s.recorded := by
    rw [move_readers, if_pos rfl]
  have hr : (s.move i (.copied 0 .KEY_KEEP s.recorded)).access (.reset i) =
      (s.move i (.copied 0 .KEY_KEEP s.recorded)).reset i 0 .KEY_KEEP s.recorded := by
    unfold Shared.access
    simp only [hm]
  intro h
  rw [Runs.run_cons, hc, Runs.run_cons, hr, Runs.run_nil] at h
  rcases h.event (.KEY_KEEP, s.recorded) List.mem_cons_self with he | he
  · cases he
  · cases he

/-- After a race the calls under way can finish in an order that breaks the rule. -/
theorem race_breaks {a : Access ι} (h : races s a) : ∃ acts, ¬Consumed (Runs.run Shared.access (s.access a) acts) := by
  unfold races at h
  cases a with
  | test i o_nonblock =>
    obtain ⟨hi, hs, j, hj, hr⟩ := h
    have ha : s.access (.test i o_nonblock) = s.move i .passed := by
      unfold Shared.access
      cases he : s.readers i with
      | out => simp only [Shared.test, if_neg hs, he]
      | waiting => simp only [Shared.test, if_neg hs, he]
      | passed => rw [he] at hi; cases hi
      | copied => rw [he] at hi; cases hi
    have hp : (s.move i .passed).readers i = .passed := by rw [move_readers, if_pos rfl]
    have hjp : (s.move i .passed).readers j = s.readers j := by rw [move_readers, if_neg hj]
    rw [ha]
    cases hc : s.readers j with
    | out => rw [hc] at hr; cases hr
    | waiting => rw [hc] at hr; cases hr
    | passed =>
      -- the newcomer finishes first
      refine ⟨[.copy i 0, .reset i] ++ [.copy j 0, .reset j], ?_⟩
      rw [Runs.run_append]
      apply keep_delivered
      · simp only [Runs.run_cons, Runs.run_nil, Shared.access, hp, move_readers, if_pos, Shared.reset, if_neg hj, hc]
      · simp only [Runs.run_cons, Runs.run_nil, Shared.access, hp, move_readers, if_pos, Shared.reset]
    | copied ret v n =>
      -- the other call ends
      refine ⟨[.reset j] ++ [.copy i 0, .reset i], ?_⟩
      rw [Runs.run_append]
      apply keep_delivered
      · simp only [Runs.run_cons, Runs.run_nil, Shared.access, hjp, hc, Shared.reset, move_readers, if_neg (Ne.symm hj), if_pos]
      · simp only [Runs.run_cons, Runs.run_nil, Shared.access, hjp, hc, Shared.reset]
  | record =>
    obtain ⟨hk, j, hj⟩ := h
    refine ⟨[.copy j 0, .reset j], ?_⟩
    cases hv : s.current_val with
    | none => rw [hv] at hk; cases hk
    | some v =>
      rw [hv, Option.map_some, Option.some.injEq] at hk
      apply keep_delivered
      · have hr : (s.access .record).readers = s.readers := by
          simp only [Shared.access, Shared.record, hv]
        rw [hr]
        cases hp : s.readers j with
        | passed => rfl
        | out => rw [hp] at hj; cases hj
        | waiting => rw [hp] at hj; cases hj
        | copied ret v n => rw [hp] at hj; cases hj
      · simp only [Shared.access, Shared.record, hv]
        exact hk
  | sample level => exact h.elim
  | interrupt i => exact h.elim
  | copy i ret => exact h.elim
  | reset i => exact h.elim

end Key
