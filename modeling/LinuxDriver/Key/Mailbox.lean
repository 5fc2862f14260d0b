import LinuxDriver.Key.Driver
/-!
# No key event is lost

Expiries of the debounce timer and calls of `key_read`, each one step.
`status` should be a mailbox for the last edge: only a read that returns the
edge, or a later edge, takes it away. It is one as long as no expiry finds the
level unchanged, and no read fails to copy, while an edge waits to be read.
-/

namespace Key

/-- An expiry samples a level in {0, 1}; in a read `copy_to_user` returns `ret`. -/
inductive Act
  | expiry (level : Bool)
  | read (ret : Nat)

/-- One expiry or one read, each as a whole. -/
def step (driver : Driver) (key : KeyDev) : Act → KeyDev
  | .expiry level => key_timer_function key level.toInt
  | .read ret => (key_read driver ret key).2

/-! ## Histories -/

/-- An edge that was recorded, or a read and what it returned. -/
inductive Item
  | edge (e : KeyStatus)
  | read (returned : Option KeyStatus)

/-- What one step adds to the history. -/
def item (driver : Driver) (key : KeyDev) : Act → List Item
  | .expiry level =>
    let e := finding key.last_val level.toInt
    if e = .KEY_KEEP then [] else [.edge e]
  | .read ret => [.read (key_read driver ret key).1]

/-- The items of a run, in their order. -/
def history (driver : Driver) : KeyDev → List Act → List Item
  | _, [] => []
  | key, a :: acts => item driver key a ++ history driver (step driver key a) acts

/-- The events recorded. -/
def edges (l : List Item) : List KeyStatus :=
  l.filterMap fun
    | .edge e => some e
    | .read _ => none

/-- The events the reads returned. -/
def returned (l : List Item) : List KeyStatus :=
  l.filterMap fun
    | .edge _ => none
    | .read r => r.filter (· ≠ .KEY_KEEP)

/-- The events a mailbox returns to the reads: each edge to the first read
after it, unless another edge comes before that read. -/
def mail : KeyStatus → List Item → List KeyStatus
  | _, [] => []
  | _, .edge e :: l => mail e l
  | unread, .read _ :: l => (if unread = .KEY_KEEP then [] else [unread]) ++ mail .KEY_KEEP l

/-- The event that follows. -/
def KeyStatus.other : KeyStatus → KeyStatus
  | .KEY_PRESS => .KEY_RELEASE
  | .KEY_RELEASE => .KEY_PRESS
  | .KEY_KEEP => .KEY_KEEP

/-- Press and release in turn, `e` first. -/
def InTurn : KeyStatus → List KeyStatus → Prop
  | _, [] => True
  | e, x :: l => x = e ∧ InTurn e.other l

/-- An unread event stays unless a read returns it or a later event is recorded. -/
def Removed (driver : Driver) (key : KeyDev) (a : Act) : Prop :=
  key.status = .KEY_KEEP ∨ (step driver key a).status = key.status ∨
    (∃ e, item driver key a = [.edge e]) ∨ item driver key a = [.read (some key.status)]

/-- The claim on a run: events in turn, none removed unread, and the reads return what was in the mailbox. -/
structure NothingLost (driver : Driver) (acts : List Act) : Prop where
  alternate : InTurn .KEY_PRESS (edges (history driver probe acts))
  removed : Runs.Meets (step driver) (Removed driver) probe acts
  returned : returned (history driver probe acts) = mail .KEY_KEEP (history driver probe acts)

/-! ## The edges alternate -/

variable {driver : Driver} {key : KeyDev}

/-- The event that is due after this level. -/
def due (last_val : Int) : KeyStatus := if last_val = 0 then .KEY_RELEASE else .KEY_PRESS

@[simp] theorem edges_append (l l' : List Item) : edges (l ++ l') = edges l ++ edges l' := List.filterMap_append

@[simp] theorem returned_append (l l' : List Item) : returned (l ++ l') = returned l ++ returned l' :=
  List.filterMap_append

/-- An expiry brings the event that is due, or the level is the one before. -/
inductive Expiry (key : KeyDev) (level : Bool) : Prop
  | edge (hf : finding key.last_val level.toInt = due key.last_val) (hd : due level.toInt = (due key.last_val).other)
  | keep (hf : finding key.last_val level.toInt = .KEY_KEEP) (hl : level.toInt = key.last_val)

theorem expiry_cases (h : key.last_val = 0 ∨ key.last_val = 1) (level : Bool) : Expiry key level := by
  rcases h with h | h <;> cases level
  · exact .keep (by rw [h]; rfl) (by rw [h]; rfl)
  · exact .edge (by rw [h]; rfl) (by rw [h]; rfl)
  · exact .edge (by rw [h]; rfl) (by rw [h]; rfl)
  · exact .keep (by rw [h]; rfl) (by rw [h]; rfl)

theorem due_ne_keep (last_val : Int) : due last_val ≠ .KEY_KEEP := by
  unfold due
  split
  · decide
  · decide

theorem read_last_val (ret : Nat) (key : KeyDev) : (key_read driver ret key).2.last_val = key.last_val := by
  unfold key_read
  split <;> rfl

theorem read_status (ret : Nat) (key : KeyDev) : (key_read driver ret key).2.status = .KEY_KEEP := by
  unfold key_read
  split
  · rename_i h
    exact h.2
  · rfl

theorem last_val_01 (h : key.last_val = 0 ∨ key.last_val = 1) (a : Act) :
    (step driver key a).last_val = 0 ∨ (step driver key a).last_val = 1 := by
  cases a with
  | expiry level =>
    cases level
    · exact Or.inl rfl
    · exact Or.inr rfl
  | read ret => rwa [step, read_last_val]

theorem edges_in_turn (h : key.last_val = 0 ∨ key.last_val = 1) (acts : List Act) :
    InTurn (due key.last_val) (edges (history driver key acts)) := by
  induction acts generalizing key with
  | nil => exact trivial
  | cons a acts ih =>
    have ht := ih (@last_val_01 driver _ h a)
    rw [history, edges_append]
    cases a with
    | expiry level =>
      unfold item
      dsimp only
      cases expiry_cases h level with
      | edge hf hd =>
        rw [hf, if_neg (due_ne_keep _)]
        refine ⟨rfl, ?_⟩
        rw [← hd]
        exact ht
      | keep hf hl =>
        rw [if_pos hf, ← hl]
        exact ht
    | read ret =>
      rw [step, read_last_val] at ht
      exact ht

/-! ## Unread events -/

/-- KEY_KEEP is written over an unread event: by an expiry that finds the level
unchanged, or by a read whose copy fails. -/
def erases (key : KeyDev) : Act → Prop
  | .expiry level => finding key.last_val level.toInt = .KEY_KEEP ∧ key.status ≠ .KEY_KEEP
  | .read ret => ret ≠ 0 ∧ key.status ≠ .KEY_KEEP

instance (key : KeyDev) (a : Act) : Decidable (erases key a) := by
  unfold erases
  cases a <;> infer_instance

/-- Nothing else takes an unread event away. -/
theorem removed_iff (h : key.last_val = 0 ∨ key.last_val = 1) (a : Act) : Removed driver key a ↔ ¬erases key a := by
  unfold Removed erases
  cases a with
  | expiry level =>
    unfold item
    dsimp only
    cases expiry_cases h level with
    | edge hf hd =>
      have hk : finding key.last_val level.toInt ≠ .KEY_KEEP := hf ▸ due_ne_keep _
      simp [hk]
    | keep hf hl =>
      have hs : (step driver key (.expiry level)).status = .KEY_KEEP := hf
      rw [hs]
      simp [hf, eq_comm]
  | read ret =>
    have hs : (step driver key (.read ret)).status = .KEY_KEEP := read_status ret key
    unfold item
    rw [hs]
    by_cases hk : key.status = .KEY_KEEP
    · simp [hk]
    · have hk' : ¬KeyStatus.KEY_KEEP = key.status := fun h => hk h.symm
      by_cases hr : ret = 0 <;> simp [key_read, hk, hk', hr]

/-- While nothing is erased, `status` is the mailbox. -/
theorem returned_eq_mail (h : key.last_val = 0 ∨ key.last_val = 1) {acts : List Act}
    (hm : Runs.Meets (step driver) (fun key a => ¬erases key a) key acts) :
    returned (history driver key acts) = mail key.status (history driver key acts) := by
  -- from the first act on: the mailbox of the rest starts with the status it leaves
  induction acts generalizing key with
  | nil => rfl
  | cons a acts ih =>
    have ht := ih (@last_val_01 driver _ h a) hm.2
    have hn := hm.1
    rw [history, returned_append, ht]
    cases a with
    | expiry level =>
      unfold item
      dsimp only
      cases expiry_cases h level with
      | edge hf hd =>
        rw [if_neg (hf ▸ due_ne_keep _)]
        rfl
      | keep hf hl =>
        have hk : key.status = .KEY_KEEP := by
          refine not_not.1 fun hk => ?_
          exact hn ⟨hf, hk⟩
        have hs : (step driver key (.expiry level)).status = .KEY_KEEP := hf
        rw [if_pos hf, hs, hk]
        rfl
    | read ret =>
      rw [step, read_status]
      by_cases hk : key.status = .KEY_KEEP
      · by_cases hd : driver = .keyirq <;> by_cases hr : ret = 0 <;>
          simp [item, key_read, hk, hd, hr, returned, mail]
      · have hr : ret = 0 := not_not.1 fun hr => hn ⟨hr, hk⟩
        simp [item, key_read, hk, hr, returned, mail, Option.filter]

/-- In every history of expiries and reads no event is lost, exactly when no
expiry finds the level unchanged and no read fails to copy while an event is unread. -/
theorem nothing_lost_iff (driver : Driver) (acts : List Act) :
    NothingLost driver acts ↔ Runs.Meets (step driver) (fun key a => ¬erases key a) probe acts := by
  have h0 : probe.last_val = 0 ∨ probe.last_val = 1 := Or.inr rfl
  have hr : Runs.Meets (step driver) (Removed driver) probe acts ↔
      Runs.Meets (step driver) (fun key a => ¬erases key a) probe acts :=
    Runs.meets_congr_inv (I := fun key => key.last_val = 0 ∨ key.last_val = 1) (fun _ a h => last_val_01 h a)
      (fun _ a h => removed_iff h a) acts h0
  constructor
  · intro h
    exact hr.1 h.removed
  · intro h
    exact ⟨edges_in_turn h0 acts, hr.2 h, returned_eq_mail h0 h⟩

/-- The key is pressed, the contact bounces without a change of level, and the press is gone. -/
theorem bounce_erases_press : ¬NothingLost .keyirq [.expiry false, .expiry false, .read 0] := by
  intro h
  have hr := h.returned
  revert hr
  decide

/-- A read into a bad buffer takes the press, and the next read returns nothing. -/
theorem failed_read_erases_press : ¬NothingLost .keyirq [.expiry false, .read 4, .read 0] := by
  intro h
  have hr := h.returned
  revert hr
  decide

end Key
