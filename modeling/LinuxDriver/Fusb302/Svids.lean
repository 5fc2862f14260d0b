import LinuxDriver.Fusb302.AltMode
/-!
# The SVID table

`vdm_svid` has twelve slots, `vdm_svid_num` counts them and `val_tmp >> 1` is
the slot asked for next. The counter is cleared by a DISCOVERY_SVIDS request
and advanced by every acknowledgement, so it is the number of filled slots as
long as no second acknowledgement is counted on top of the first.
-/

namespace Fusb302

/-! ## What the log says about the table -/

/-- Word `i` of `rec_load`: each message overwrites the words it carries. -/
def received_word : List Entry → Fin 7 → BitVec 32
  | [], _ => 0#32
  | .recv m :: l, i => if i.val < PD_HEADER_CNT m.head then m.load i else received_word l i
  | _ :: l, i => received_word l i

theorem last_word (k : Nat) : 6 - k < 7 := by omega

/-- The halves of the last `k` words, upper half first. -/
def halves (words : Fin 7 → BitVec 32) : Nat → List (BitVec 16)
  | 0 => []
  | k + 1 => (words ⟨6 - k, last_word k⟩ >>> 16).setWidth 16 :: (words ⟨6 - k, last_word k⟩).setWidth 16 :: halves words k

/-- The SVIDs of an acknowledgement: a zero ends them. -/
def svids (words : Fin 7 → BitVec 32) : List (BitVec 16) := (halves words 6).takeWhile (· != 0#16)

/-- The SVID acknowledged last for slot `i` since the last DISCOVERY_SVIDS request. -/
def filled : List Entry → Nat → Option (BitVec 16)
  | [], _ => none
  | .vdm cmd :: l, i => if cmd = VDM_DISCOVERY_SVIDS then none else filled l i
  | .ack cmd :: l, i =>
    if cmd = VDM_DISCOVERY_SVIDS then (svids (received_word l))[i]?.or (filled l i) else filled l i
  | _ :: l, i => filled l i

/-! ## The property -/

/-- The port on which a ready state runs `auto_vdm_machine`. -/
def at_machine (chip : Chip) (env : Env) : Chip := ready_rx (at_switch chip env) (events chip env)

/-- The step builds a message with this command. -/
def builds_vdm (cmd : Nat) (chip : Chip) (act : Act) : Prop :=
  ∃ new, (step chip act).log = new ++ chip.log ∧ .vdm cmd ∈ new

/-- The slot asked for next was filled by an acknowledgement. -/
def InRange (chip : Chip) : Prop :=
  ∃ h : (chip.val_tmp >>> 1).toNat < 12,
    filled chip.log (chip.val_tmp >>> 1).toNat = some (chip.vdm_svid ⟨(chip.val_tmp >>> 1).toNat, h⟩)

/-- The table is not indexed out of range in this step. -/
structure Indexed (chip : Chip) (act : Act) : Prop where
  count : (step chip act).vdm_svid_num ≤ 12
  query : builds_vdm VDM_DISCOVERY_MODES chip act → ∃ env, act = .work env ∧ InRange (at_machine chip env)

/-! ## The invariant -/

/-- The answer to the request counts: the request is sent, or the modes of its SVIDs are asked for. -/
def asked (chip : Chip) : Prop :=
  (chip.vdm_state = .DISCOVERY_SVID ∧ chip.vdm_send_state ≠ 0) ∨ chip.vdm_state = .DISCOVERY_MODES

theorem no_queries {v : BitVec 8} (h : v = 0#8) : (v >>> 1).toNat = 0 := by
  rw [h]
  rfl

/-- The table is what the log says. -/
structure Table (chip : Chip) : Prop where
  words : chip.rec_load = received_word chip.log
  slots : ∀ i : Fin 12, filled chip.log i = if chip.vdm_svid i = 0#16 then none else some (chip.vdm_svid i)

/-- The counter and the cursor stay within the filled slots. -/
structure Counter (chip : Chip) : Prop where
  count : chip.vdm_svid_num ≤ 12
  full : asked chip → ∀ i < chip.vdm_svid_num, filled chip.log i ≠ none
  early : chip.vdm_state = .DISCOVERY_ID ∨ chip.vdm_state = .DISCOVERY_SVID → (chip.val_tmp >>> 1).toNat = 0
  found : chip.vdm_state = .DISCOVERY_MODES → chip.vdm_svid_num ≠ 0
  room : chip.vdm_state = .DISCOVERY_MODES → (chip.val_tmp >>> 1).toNat ≤ chip.vdm_svid_num ∧
    (chip.vdm_send_state ≠ 0 → (chip.val_tmp >>> 1).toNat ≠ chip.vdm_svid_num)

/-- The invariant: the table and the counter. -/
structure Stored (chip : Chip) : Prop extends Table chip, Counter chip

variable {chip c c' : Chip} {evt : Evt} {l l' : List Entry} {cmd : Nat}

/-- Entries that neither receive nor concern the table. -/
def Entry.plain : Entry → Prop
  | .recv _ => False
  | .vdm cmd | .ack cmd => cmd ≠ VDM_DISCOVERY_SVIDS
  | _ => True

theorem plain_of_ordinary {e : Entry} (h : e.ordinary = true) : e.plain := by
  cases e with
  | recv m => cases h
  | vdm cmd => cases h
  | ack cmd => cases h
  | _ => trivial

/-- Plain entries say nothing about the table. -/
theorem same_table (h : Trace.Added Entry.plain l l') : received_word l' = received_word l ∧ filled l' = filled l := by
  refine h.induct (R := fun l' => received_word l' = received_word l ∧ filled l' = filled l) ?_ ⟨rfl, rfl⟩
  rintro e l'' he ⟨hw, hf⟩
  cases e with
  | recv m => exact he.elim
  | vdm cmd =>
    refine ⟨hw, funext fun i => ?_⟩
    rw [filled, if_neg he, hf]
  | ack cmd =>
    refine ⟨hw, funext fun i => ?_⟩
    rw [filled, if_neg he, hf]
  | _ => exact ⟨hw, hf⟩

theorem Table.quiet (h : Table c) (hl : Trace.Added Entry.plain c.log c'.log) (hr : c'.rec_load = c.rec_load)
    (hs : c'.vdm_svid = c.vdm_svid) : Table c' := by
  obtain ⟨hw, hf⟩ := same_table hl
  refine ⟨by rw [hr, hw, h.words], ?_⟩
  intro i
  rw [hf, hs]
  exact h.slots i

/-- The discovery stands where it did; the count in `val_tmp` is kept, or starts again. -/
theorem Counter.quiet (h : Counter c) (hl : filled c'.log = filled c.log) (hv : c'.toVdm = c.toVdm)
    (ht : (c'.val_tmp >>> 1).toNat = 0 ∨ c'.val_tmp >>> 1 = c.val_tmp >>> 1) : Counter c' := by
  have hfull := h.full
  have hearly := h.early
  have hfound := h.found
  have hroom := h.room
  constructor
  · rw [hv]
    exact h.count
  · unfold asked at *
    rw [hv, hl]
    exact hfull
  · rw [hv]
    intro hs
    rcases ht with h0 | hk
    · exact h0
    · rw [hk]
      exact hearly hs
  · rw [hv]
    exact hfound
  · rw [hv]
    intro hs
    rcases ht with h0 | hk
    · rw [h0]
      exact ⟨Nat.zero_le _, fun _ => (hfound hs).symm⟩
    · rw [hk]
      exact hroom hs

/-- A stage other than that of the SVIDs sends its command, or goes on waiting. -/
theorem Counter.send (h : Counter c) (hl : filled c'.log = filled c.log) (hn : c'.vdm_svid_num = c.vdm_svid_num)
    (hs : c'.vdm_state = c.vdm_state) (ht : c'.val_tmp = c.val_tmp)
    (hv : c.vdm_state = .DISCOVERY_SVID → c.vdm_send_state ≠ 0)
    (hm : c.vdm_state = .DISCOVERY_MODES → (c.val_tmp >>> 1).toNat ≠ c.vdm_svid_num) : Counter c' := by
  constructor
  · rw [hn]
    exact h.count
  · rw [hn, hl]
    rintro (⟨ha, -⟩ | ha)
    · rw [hs] at ha
      exact h.full (Or.inl ⟨ha, hv ha⟩)
    · rw [hs] at ha
      exact h.full (Or.inr ha)
  · rw [hs, ht]
    exact h.early
  · rw [hs, hn]
    exact h.found
  · rw [hs, hn, ht]
    exact fun ha => ⟨(h.room ha).1, fun _ => hm ha⟩

theorem Stored.quiet (h : Stored c) (hl : Trace.Added Entry.plain c.log c'.log) (hr : c'.rec_load = c.rec_load)
    (hv : c'.toVdm = c.toVdm) (ht : (c'.val_tmp >>> 1).toNat = 0 ∨ c'.val_tmp >>> 1 = c.val_tmp >>> 1) :
    Stored c' :=
  ⟨h.toTable.quiet hl hr (congrArg Vdm.vdm_svid hv), h.toCounter.quiet (same_table hl).2 hv ht⟩

/-- A stage outside the discovery of SVIDs asks nothing of the counter but its bound. -/
theorem counter_outside (hc : c.vdm_svid_num ≤ 12)
    (hs : c.vdm_state ≠ .DISCOVERY_ID ∧ c.vdm_state ≠ .DISCOVERY_SVID ∧ c.vdm_state ≠ .DISCOVERY_MODES) :
    Counter c := by
  obtain ⟨hi, hv, hm⟩ := hs
  refine ⟨hc, ?_, ?_, fun h => absurd h hm, fun h => absurd h hm⟩
  · rintro (h | h)
    · exact absurd h.1 hv
    · exact absurd h hm
  · rintro (h | h)
    · exact absurd h hi
    · exact absurd h hv

/-- The discovery starts, or goes on to ask for SVIDs, with nothing sent. -/
theorem counter_early (hc : c.vdm_svid_num ≤ 12) (ht : (c.val_tmp >>> 1).toNat = 0)
    (hs : c.vdm_state = .DISCOVERY_ID ∨ (c.vdm_state = .DISCOVERY_SVID ∧ c.vdm_send_state = 0)) : Counter c := by
  have hm : c.vdm_state ≠ .DISCOVERY_MODES := by
    rcases hs with h | ⟨h, -⟩ <;> rw [h] <;> decide
  refine ⟨hc, ?_, fun _ => ht, fun h => absurd h hm, fun h => absurd h hm⟩
  rintro (⟨hv, hn⟩ | h)
  · rcases hs with hi | ⟨-, h0⟩
    · rw [hi] at hv
      cases hv
    · exact absurd h0 hn
  · exact absurd h hm

/-! ## Ordinary handlers -/

theorem Stored.restart (h : Stored c) (hl : c'.log = .stage .DISCOVERY_ID :: c.log) (hr : c'.rec_load = c.rec_load)
    (hs : c'.vdm_svid = c.vdm_svid) (hn : c'.vdm_svid_num = c.vdm_svid_num) (hv : c'.vdm_state = .DISCOVERY_ID)
    (ht : c'.val_tmp = 0#8) : Stored c' := by
  refine ⟨h.toTable.quiet ?_ hr hs, counter_early (by rw [hn]; exact h.count) (by rw [ht]; rfl) (Or.inl hv)⟩
  rw [hl]
  exact .cons trivial (.refl _)

theorem stored_ordinary : Ordinary Stored where
  view := by
    intro c c' h hv
    simp only [Chip.view, View.mk.injEq] at hv
    obtain ⟨_, _, ht, hr, _, _, hv, _, hl⟩ := hv
    exact h.quiet (.of_eq hl) (congrArg Rx.rec_load hr) hv (Or.inr (by rw [ht]))
  move h _ := h.quiet (.refl _) rfl rfl (Or.inl (no_queries rfl))
  recast _ h _ := h.quiet (.refl _) rfl rfl (Or.inl (no_queries rfl))
  sub _ h _ := h.quiet (.refl _) rfl rfl (Or.inr rfl)
  log h he := h.quiet (.cons (plain_of_ordinary he) (.refl _)) rfl rfl (Or.inr rfl)
  soft_reset {c} h := by
    have hs : Stored { set_vdm_state c .DISCOVERY_ID with val_tmp := 0#8, vdm_send_state := 0, vdm_substate := 0 } :=
      h.restart rfl rfl rfl rfl rfl rfl
    exact hs.quiet (.cons (e := Entry.soft_reset) trivial (.refl _)) rfl rfl (Or.inl (no_queries rfl))
  renumber _ h := h.quiet (.refl _) rfl rfl (Or.inr rfl)
  forget h := h.quiet (.refl _) rfl rfl (Or.inr rfl)

theorem hard_reset_stored (h : Stored c) : Stored (pd_execute_hard_reset c) := by
  unfold pd_execute_hard_reset
  dsimp only
  split
  · exact h.restart rfl rfl rfl rfl rfl rfl
  · exact h.restart rfl rfl rfl rfl rfl rfl

theorem get_message_stored (h : Stored c) (fifo : List PdMsg) : Stored (get_message c fifo) := by
  induction fifo generalizing c with
  | nil => exact h
  | cons m fifo ih =>
    unfold get_message
    split
    · apply ih
      exact h.quiet (.refl _) rfl rfl (Or.inr rfl)
    · refine ⟨⟨?_, h.slots⟩, h.toCounter.quiet rfl rfl (Or.inr rfl)⟩
      dsimp only
      rw [h.words]
      rfl

theorem negotiate_cap_stored (h : Stored c) : Stored (fusb_state_src_negotiate_cap c) := by
  unfold fusb_state_src_negotiate_cap
  dsimp only
  split
  all_goals exact h.quiet (.cons (e := Entry.asked _ _) trivial (.refl _)) rfl rfl (Or.inl (no_queries rfl))

theorem build_request_stored (h : Stored c) : Stored (build_mesg c DMT_REQUEST true) := by
  refine h.quiet ?_ (by simp) (by simp) (Or.inr (by simp))
  rw [build_request_log]
  exact .cons (e := Entry.requested _ _ _) trivial (.cons (e := Entry.mesg _ _) trivial (.refl _))

theorem evaluate_caps_stored (h : Stored c) : Stored (fusb_state_snk_evaluate_caps c) := by
  obtain ⟨_, hv, _, _, hr, hd, _, hl, _⟩ := @evaluate_caps_frame c
  exact h.quiet (.of_eq hl) (congrArg Rx.rec_load hr) hd (Or.inl (no_queries hv))

/-! ## Storing an acknowledgement -/

/-- The lower half of a word, as the driver masks it. -/
theorem low_half (x : BitVec 32) :
    (x &&& 0xffff#32).setWidth 16 = x.setWidth 16 ∧ (x &&& 0xffff#32 = 0#32 ↔ x.setWidth 16 = 0#16) := by
  have hx : (x &&& 0xffff#32).toNat = x.toNat % 65536 := by
    rw [BitVec.toNat_and]
    exact Nat.and_two_pow_sub_one_eq_mod x.toNat 16
  constructor
  · apply BitVec.eq_of_toNat_eq
    rw [BitVec.toNat_setWidth, BitVec.toNat_setWidth, hx]
    exact Nat.mod_mod _ _
  · rw [← BitVec.toNat_inj, ← BitVec.toNat_inj, hx, BitVec.toNat_setWidth]
    rfl

/-- The loop stores the SVIDs of the last `k` words from slot `12 - 2 * k` on, and counts them. -/
theorem store_svids_eq (chip : Chip) (k : Nat) (hk : k ≤ 6) :
    let found := (halves chip.rec_load k).takeWhile (· != 0#16)
    (store_svids chip k).vdm_svid_num = chip.vdm_svid_num + found.length ∧
      ∀ j : Fin 12, (store_svids chip k).vdm_svid j =
        if 12 - 2 * k ≤ j.val then (found[j.val - (12 - 2 * k)]?).getD (chip.vdm_svid j) else chip.vdm_svid j := by
  induction k generalizing chip with
  | zero => simp [store_svids, halves]
  | succ k ih =>
    have hin : 0 ≤ ((5 - k + 1 : Nat) : Int) ∧ ((5 - k + 1 : Nat) : Int) < 7 := by omega
    have hw : (⟨((5 - k + 1 : Nat) : Int).toNat, by omega⟩ : Fin 7) = ⟨6 - k, by omega⟩ := by
      apply Fin.ext
      dsimp only
      omega
    have hb : 12 - 2 * (k + 1) = (5 - k) * 2 := by omega
    obtain ⟨hue, hu0⟩ := low_half (chip.rec_load ⟨6 - k, by omega⟩ >>> 16)
    obtain ⟨hle, hl0⟩ := low_half (chip.rec_load ⟨6 - k, by omega⟩)
    unfold store_svids Chip.rec_obj
    dsimp only
    rw [dif_pos hin, hw, hb, halves]
    by_cases hu : (chip.rec_load ⟨6 - k, by omega⟩ >>> 16) &&& 0xffff#32 = 0#32
    · -- the upper half is zero
      rw [if_pos hu, hu0.1 hu]
      simp
    · have hu' := mt hu0.2 hu
      rw [if_neg hu, hue, List.takeWhile_cons_of_pos (by simpa using hu')]
      by_cases hl : chip.rec_load ⟨6 - k, by omega⟩ &&& 0xffff#32 = 0#32
      · -- only the lower half is zero
        rw [if_pos hl, hl0.1 hl, List.takeWhile_cons_of_neg (by simp)]
        refine ⟨rfl, fun j => ?_⟩
        dsimp only
        by_cases hj : j.val = (5 - k) * 2
        · simp [hj]
        · rw [if_neg hj]
          split
          · rw [List.getElem?_eq_none (by simp; omega)]
            rfl
          · rfl
      · have hl' := mt hl0.2 hl
        rw [if_neg hl, hle, List.takeWhile_cons_of_pos (by simpa using hl')]
        -- both halves are stored, and the loop goes on with the next word
        obtain ⟨hn, hs⟩ := ih { chip with
          vdm_svid := fun j =>
            if j.val = (5 - k) * 2 + 1 then (chip.rec_load ⟨6 - k, by omega⟩).setWidth 16
            else if j.val = (5 - k) * 2 then (chip.rec_load ⟨6 - k, by omega⟩ >>> 16).setWidth 16
            else chip.vdm_svid j
          vdm_svid_num := chip.vdm_svid_num + 1 + 1 } (by omega)
        refine ⟨?_, fun j => ?_⟩
        · refine hn.trans ?_
          dsimp only
          rw [List.length_cons, List.length_cons]
          omega
        · rw [hs j]
          dsimp only
          by_cases h0 : j.val = (5 - k) * 2
          · rw [if_neg (by omega), if_neg (by omega), if_pos h0, if_pos (by omega), h0]
            simp
          · by_cases h1 : j.val = (5 - k) * 2 + 1
            · rw [if_neg (by omega), if_pos h1, if_pos (by omega), h1]
              simp
            · rw [if_neg h1, if_neg h0]
              by_cases hj : 12 - 2 * k ≤ j.val
              · rw [if_pos hj, if_pos (by omega), show j.val - (5 - k) * 2 = j.val - (12 - 2 * k) + 1 + 1 by omega]
                simp
              · rw [if_neg hj, if_neg (by omega)]

theorem svids_length (words : Fin 7 → BitVec 32) : (svids words).length ≤ 12 := by
  have hh : ∀ k, (halves words k).length = 2 * k := by
    intro k
    induction k with
    | zero => rfl
    | succ k ih =>
      rw [halves, List.length_cons, List.length_cons, ih]
      omega
  exact Nat.le_trans (List.takeWhile_sublist _).length_le (Nat.le_of_eq (hh 6))

theorem svids_ne_zero {words : Fin 7 → BitVec 32} {i : Nat} {s : BitVec 16} (h : (svids words)[i]? = some s) :
    s ≠ 0#16 := by
  have hs := List.all_eq_true.1 List.all_takeWhile s (List.mem_of_getElem? h)
  simpa using hs

/-- SVIDs are counted on top of others: past the last slot, or past the slots
that were filled for the request that is being answered. -/
def overfills (chip : Chip) : Prop :=
  chip.vdm_svid_num ≠ 0 ∧ (svids chip.rec_load).length ≠ 0 ∧
    (12 < chip.vdm_svid_num + (svids chip.rec_load).length ∨ asked chip)

theorem svids_stored (h : Stored chip) (ho : ¬overfills chip) :
    Stored (store_svids (chip.emit (.ack VDM_DISCOVERY_SVIDS)) 6) := by
  obtain ⟨hle, hp, hs, hk, _, _, hl⟩ := store_svids_frame (chip.emit (.ack VDM_DISCOVERY_SVIDS)) 6
  obtain ⟨hn, hj⟩ := store_svids_eq (chip.emit (.ack VDM_DISCOVERY_SVIDS)) 6 (Nat.le_refl 6)
  have hrx : (store_svids (chip.emit (.ack VDM_DISCOVERY_SVIDS)) 6).rec_load = chip.rec_load :=
    congrArg Rx.rec_load (store_svids_kept (chip.emit (.ack VDM_DISCOVERY_SVIDS)) 6).2.2.1
  have hv : (store_svids (chip.emit (.ack VDM_DISCOVERY_SVIDS)) 6).val_tmp = chip.val_tmp := congrArg Policy.val_tmp hp
  have hf : ∀ i, filled (.ack VDM_DISCOVERY_SVIDS :: chip.log) i = (svids chip.rec_load)[i]?.or (filled chip.log i) := by
    intro i
    rw [filled, if_pos rfl, h.words]
  change (store_svids _ 6).vdm_svid_num = chip.vdm_svid_num + (svids chip.rec_load).length at hn
  change ∀ j : Fin 12, _ = if 0 ≤ j.val then ((svids chip.rec_load)[j.val]?).getD (chip.vdm_svid j) else _ at hj
  refine ⟨⟨?_, ?_⟩, ⟨?_, ?_, ?_, ?_, ?_⟩⟩
  · rw [hrx, hl]
    exact h.words
  · intro j
    rw [hl, hj j, if_pos (Nat.zero_le _)]
    refine (hf j).trans ?_
    rw [h.slots j]
    cases hg : (svids chip.rec_load)[j.val]? with
    | none => rfl
    | some s => exact (if_neg (svids_ne_zero hg)).symm
  · -- twelve fit on top of none, and on others only what does not overfill
    rw [hn]
    have hc := h.count
    have hlen := svids_length chip.rec_load
    by_cases h0 : chip.vdm_svid_num = 0
    · omega
    · by_cases hz : (svids chip.rec_load).length = 0
      · omega
      · exact Nat.le_of_not_lt fun hlt => ho ⟨h0, hz, Or.inl hlt⟩
  · intro ha i hi
    have ha : asked chip := by
      unfold asked at ha ⊢
      rwa [hs, hk] at ha
    rw [hn] at hi
    rw [hl]
    change filled (.ack VDM_DISCOVERY_SVIDS :: chip.log) i ≠ none
    rw [hf i]
    by_cases hi' : i < (svids chip.rec_load).length
    · rw [List.getElem?_eq_getElem hi']
      exact Option.some_ne_none _
    · -- the slot was filled before, or two acknowledgements count for one request
      rw [List.getElem?_eq_none (Nat.le_of_not_lt hi'), Option.none_or]
      refine h.full ha i ?_
      by_cases hz : (svids chip.rec_load).length = 0
      · omega
      · exact absurd ⟨by omega, hz, Or.inr ha⟩ ho
  · rw [hs, hv]
    exact h.early
  · rw [hs]
    intro hm
    have := h.found hm
    omega
  · rw [hs, hv, hk]
    intro hm
    obtain ⟨hr, hne⟩ := h.room hm
    refine ⟨Nat.le_trans hr hle, fun h0 => ?_⟩
    exact Nat.ne_of_lt (Nat.lt_of_lt_of_le (Nat.lt_of_le_of_ne hr (hne h0)) hle)

theorem Stored.err (h : Stored c) : Stored (set_vdm_state c .ERR) :=
  ⟨h.toTable.quiet (.cons (e := Entry.stage _) trivial (.refl _)) rfl rfl,
    counter_outside h.count ⟨by simp [set_vdm_state], by simp [set_vdm_state], by simp [set_vdm_state]⟩⟩

theorem process_vdm_ack_stored (h : Stored chip) (ho : cmd = VDM_DISCOVERY_SVIDS → ¬overfills chip) :
    Stored (process_vdm_ack (chip.emit (.ack cmd)) cmd) := by
  have ack : cmd ≠ VDM_DISCOVERY_SVIDS → Stored (chip.emit (.ack cmd)) := fun hc =>
    h.quiet (.cons (e := Entry.ack cmd) hc (.refl _)) rfl rfl (Or.inr rfl)
  by_cases hc : cmd = VDM_DISCOVERY_SVIDS
  · subst hc
    exact svids_stored h (ho rfl)
  have ha := ack hc
  unfold process_vdm_ack
  rw [if_neg hc]
  split
  · exact ⟨⟨ha.words, ha.slots⟩, ⟨ha.count, ha.full, ha.early, ha.found, ha.room⟩⟩
  · split
    · obtain ⟨hv, hl, _, _, ht⟩ := store_mode_frame (chip.emit (.ack cmd))
      refine ha.quiet (.of_eq hl) (congrArg Rx.rec_load (store_mode_kept _).2.2.1) hv (Or.inr ?_)
      rw [ht]
      split
      · exact or_one_count _
      · rfl
    · -- `val_tmp` is set to 1
      have one : (1#8 >>> 1).toNat = 0 := rfl
      repeat' split
      · exact ha.quiet (.refl _) rfl rfl (Or.inl one)
      · exact ha.quiet (.refl _) rfl rfl (Or.inl one)
      · exact ha.quiet (.cons (e := Entry.enter_mode) trivial (.refl _)) rfl rfl (Or.inl one)
      · exact ha

/-- The message in hand acknowledges SVIDs that are counted on top of others. -/
def overfilling_msg (chip : Chip) : Prop :=
  GET_VDMHEAD_STRUCT_TYPE (chip.rec_obj 0) ≠ 0 ∧ GET_VDMHEAD_CMD_TYPE (chip.rec_obj 0) = VDM_TYPE_ACK ∧
    GET_VDMHEAD_CMD (chip.rec_obj 0) = VDM_DISCOVERY_SVIDS ∧ overfills chip

theorem process_vdm_msg_stored (h : Stored chip) (ho : ¬overfilling_msg chip) : Stored (process_vdm_msg chip) := by
  unfold process_vdm_msg
  dsimp only
  split
  · exact h
  · rename_i ht
    split
    · split
      · exact h.quiet (.of_eq (by simp)) (by simp) (by simp) (Or.inr (by simp))
      · exact h
    · split
      · rename_i hack
        exact process_vdm_ack_stored h fun hc hov => ho ⟨ht, hack, hc, hov⟩
      · split
        · exact h.err
        · exact h

/-! ## The discovery machine -/

/-- `AUTO_VDM_HANDLE` of a result keeps the table and the counter. -/
def Yields (r : Chip × VdmRet) : Prop :=
  match r.2 with
  | .zero => Stored (set_vdm_state r.1 r.1.vdm_state.next)
  | _ => Stored r.1

theorem auto_vdm_handle_stored {func : Chip → Evt → Chip × VdmRet} (h : Yields (func chip evt)) :
    Stored (AUTO_VDM_HANDLE func chip evt) := by
  unfold AUTO_VDM_HANDLE Yields at *
  dsimp only
  cases hr : (func chip evt).2 <;> rw [hr] at h
  · exact h.quiet (.refl _) rfl rfl (Or.inr rfl)
  · exact h.err
  · exact h.err
  · exact h

/-- The stage waits for its command, which it has sent. -/
structure Serving (s : VdmState) (chip : Chip) : Prop extends Stored chip where
  state : chip.vdm_state = s
  sending : chip.vdm_send_state ≠ 0

theorem serving_waits {s : VdmState} : Waits (Serving s) Yields where
  send {c} h := by
    refine ⟨stored_ordinary.serves.send h.toStored, ?_, ?_⟩
    · simpa using h.state
    · simpa using h.sending
  sent {c} h := by
    refine ⟨⟨⟨h.words, h.slots⟩, h.toCounter.send rfl rfl rfl rfl (fun _ => h.sending) fun hm => ?_⟩, h.state, ?_⟩
    · exact (h.room hm).2 h.sending
    · exact (by decide : (2 : Nat) ≠ 0)
  failed h := h.toStored.err
  timeout h := h.toStored.err.quiet (.refl _) rfl rfl (Or.inr rfl)
  waiting h := h.toStored

variable {acks : Chip → Bool} {begin : Chip → Chip} {finish : Chip → Chip × VdmRet} {mode : Nat}

theorem Stored.build (h : Stored chip) (hc : cmd ≠ VDM_DISCOVERY_SVIDS) :
    Stored (set_vdm_mesg chip cmd VDM_TYPE_INIT mode) := by
  obtain ⟨hp, hv, _⟩ := set_vdm_mesg_frame chip cmd VDM_TYPE_INIT mode
  refine h.quiet ?_ (congrArg Rx.rec_load (set_vdm_mesg_kept ..).2.2.1) hv (Or.inr (by rw [hp]))
  rw [set_vdm_mesg_log]
  exact .cons (e := Entry.vdm cmd) hc (.refl _)

/-- A stage builds its command, not the request for SVIDs, and sends it. -/
theorem begin_serving {s : VdmState} (h : Stored chip) (hs : chip.vdm_state = s) (hc : cmd ≠ VDM_DISCOVERY_SVIDS)
    (hv : s ≠ .DISCOVERY_SVID) (hm : s = .DISCOVERY_MODES → (chip.val_tmp >>> 1).toNat ≠ chip.vdm_svid_num)
    (hb : ∀ c, ∃ v n, begin c = { c with vdm_id := v, notify := n }) :
    Serving s (policy_send_data
      { begin (set_vdm_mesg chip cmd VDM_TYPE_INIT mode) with tx_state := .tx_idle, vdm_send_state := 1 }) := by
  obtain ⟨v, n, he⟩ := hb (set_vdm_mesg chip cmd VDM_TYPE_INIT mode)
  have hd : Stored (set_vdm_mesg chip cmd VDM_TYPE_INIT mode) := h.build hc
  obtain ⟨hp, hk, _⟩ := set_vdm_mesg_frame chip cmd VDM_TYPE_INIT mode
  have hst : (set_vdm_mesg chip cmd VDM_TYPE_INIT mode).vdm_state = s := by rw [hk, hs]
  rw [he]
  refine serving_waits.send ⟨⟨⟨hd.words, hd.slots⟩, hd.toCounter.send rfl rfl rfl rfl ?_ ?_⟩, hst, ?_⟩
  · intro hx
    exact absurd (hst.symm.trans hx) hv
  · rw [hp, hk, hs]
    exact hm
  · exact (by decide : (1 : Nat) ≠ 0)

theorem discoveryid_yields (h : Stored chip) (hs : chip.vdm_state = .DISCOVERY_ID) :
    Yields (vdm_send_discoveryid chip evt) := by
  refine serving_waits.vdm_send (fun _ => ?_) (fun hn => ⟨h, hs, hn⟩) ?_
  · exact begin_serving h hs (by decide) (by decide) (fun hx => by cases hx) fun c => ⟨_, _, rfl⟩
  · intro c hw _
    have hst := hw.state
    refine ⟨hw.toTable.quiet (.cons (e := Entry.stage _) trivial (.refl _)) rfl rfl, ?_⟩
    refine counter_early hw.count (hw.early (Or.inl hst)) (Or.inr ⟨?_, rfl⟩)
    change c.vdm_state.next = _
    rw [hst]
    rfl

theorem discoverysvid_yields (h : Stored chip) (hs : chip.vdm_state = .DISCOVERY_SVID) :
    Yields (vdm_send_discoverysvid chip evt) := by
  refine serving_waits.vdm_send (fun _ => ?_) (fun hn => ⟨h, hs, hn⟩) ?_
  · -- the table is cleared
    refine serving_waits.send ⟨⟨⟨h.words, ?_⟩, ⟨Nat.zero_le _, fun _ i hi => absurd hi (Nat.not_lt_zero i), h.early, ?_, ?_⟩⟩,
      hs, (by decide : (1 : Nat) ≠ 0)⟩
    · exact fun i => rfl
    · intro hx
      exact absurd (hs.symm.trans hx) (by decide)
    · intro hx
      exact absurd (hs.symm.trans hx) (by decide)
  · intro c hw ha
    have hst := hw.state
    have hn : c.vdm_svid_num ≠ 0 := by simpa using ha
    have h0 := hw.early (Or.inr hst)
    refine ⟨hw.toTable.quiet (.cons (e := Entry.stage _) trivial (.refl _)) rfl rfl, ⟨hw.count, ?_, ?_, fun _ => hn, ?_⟩⟩
    · exact fun _ => hw.full (Or.inl ⟨hst, hw.sending⟩)
    · exact fun _ => h0
    · intro _
      refine ⟨?_, fun hx => absurd rfl hx⟩
      change (c.val_tmp >>> 1).toNat ≤ c.vdm_svid_num
      rw [h0]
      exact Nat.zero_le _

theorem discoverymodes_yields (h : Stored chip) (hs : chip.vdm_state = .DISCOVERY_MODES) :
    Yields (vdm_send_discoverymodes chip evt) := by
  unfold vdm_send_discoverymodes
  split
  · rename_i hne
    refine serving_waits.vdm_send (fun _ => ?_) (fun hn => ⟨h, hs, hn⟩) ?_
    · exact begin_serving h hs (by decide) (by decide) (fun _ => hne) fun c => ⟨_, _, rfl⟩
    · intro c hw _
      obtain ⟨hle, hne⟩ := hw.room hw.state
      have hlt : (c.val_tmp >>> 1).toNat < c.vdm_svid_num := Nat.lt_of_le_of_ne hle (hne hw.sending)
      refine ⟨hw.toTable.quiet (.cons (e := Entry.query) trivial (.refl _)) rfl rfl, ⟨hw.count, ?_, ?_, hw.found, ?_⟩⟩
      · exact fun _ => hw.full (Or.inr hw.state)
      · rintro (hx | hx)
        · exact absurd (hw.state.symm.trans hx) (by decide)
        · exact absurd (hw.state.symm.trans hx) (by decide)
      · exact fun _ => ⟨(count_query c.val_tmp c.vdm_svid_num hlt).1, fun hx => absurd rfl hx⟩
  · refine ⟨h.toTable.quiet (.cons (e := Entry.stage _) trivial (.refl _)) rfl rfl, counter_outside h.count ?_⟩
    simp [set_vdm_state, hs, VdmState.next]

/-- The last three stages, which are past the table. -/
theorem send_val_yields {s : VdmState} (h : Stored chip) (hs : chip.vdm_state = s)
    (hlate : s = .ENTER_MODE ∨ s = .UPDATE_STATUS ∨ s = .DP_CONFIG) (hc : cmd ≠ VDM_DISCOVERY_SVIDS)
    (hb : ∀ c, ∃ n, begin c = { c with notify := n }) : Yields (vdm_send_val cmd mode begin chip evt) := by
  have hne : s ≠ .DISCOVERY_SVID ∧ s ≠ .DISCOVERY_MODES ∧
      s.next ≠ .DISCOVERY_ID ∧ s.next ≠ .DISCOVERY_SVID ∧ s.next ≠ .DISCOVERY_MODES := by
    rcases hlate with rfl | rfl | rfl <;> decide
  obtain ⟨h1, h2, hnext⟩ := hne
  refine serving_waits.vdm_send (fun _ => ?_) (fun hn => ⟨h, hs, hn⟩) ?_
  · refine begin_serving h hs hc h1 (fun hx => absurd hx h2) fun c => ?_
    obtain ⟨n, he⟩ := hb c
    exact ⟨c.vdm_id, n, he⟩
  · intro c hw _
    refine ⟨hw.toTable.quiet (.cons (e := Entry.stage _) trivial (.refl _)) rfl rfl, counter_outside hw.count ?_⟩
    rw [← hw.state] at hnext
    exact hnext

theorem auto_vdm_machine_stored (h : Stored chip) : Stored (auto_vdm_machine chip evt) := by
  unfold auto_vdm_machine
  split
  · exact auto_vdm_handle_stored (discoveryid_yields h ‹_›)
  · exact auto_vdm_handle_stored (discoverysvid_yields h ‹_›)
  · exact auto_vdm_handle_stored (discoverymodes_yields h ‹_›)
  · exact auto_vdm_handle_stored (send_val_yields h ‹_› (Or.inl rfl) (by decide) fun c => ⟨_, rfl⟩)
  · exact auto_vdm_handle_stored (send_val_yields h ‹_› (Or.inr (Or.inl rfl)) (by decide) fun c => ⟨_, rfl⟩)
  · exact auto_vdm_handle_stored (send_val_yields h ‹_› (Or.inr (Or.inr rfl)) (by decide) fun c => ⟨_, rfl⟩)
  · refine ⟨h.toTable.quiet (.cons (e := Entry.stage _) trivial (.refl _)) rfl rfl, counter_outside h.count ?_⟩
    simp [set_vdm_state]
  · exact h

/-! ## The commands of a step -/

/-- No message with this command is among the entries added to `l`. -/
def Unbuilt (cmd : Nat) (l : List Entry) (chip : Chip) : Prop := Trace.Added (fun e => e ≠ .vdm cmd) l chip.log

theorem Unbuilt.add (h : Unbuilt cmd l c) {p : Entry → Prop} (hl : Trace.Added p c.log c'.log)
    (hp : ¬p (.vdm cmd)) : Unbuilt cmd l c' :=
  h.trans (hl.mono fun _ he hx => hp (hx ▸ he))

theorem unbuilt_ordinary (cmd : Nat) (l : List Entry) : Ordinary (Unbuilt cmd l) where
  view := by
    intro c c' h hv
    simp only [Chip.view, View.mk.injEq] at hv
    obtain ⟨_, _, _, _, _, _, _, _, hl⟩ := hv
    exact h.add (p := fun _ => False) (.of_eq hl) id
  move h _ := h
  recast _ h _ := h
  sub _ h _ := h
  log h he := by
    refine h.add (p := fun e => e.ordinary = true) (.cons he (.refl _)) ?_
    exact Bool.false_ne_true
  soft_reset h := .cons Entry.noConfusion (.cons Entry.noConfusion h)
  renumber _ h := h
  forget h := h

/-- The stage waits for this command and has not sent it; that of the modes has a slot left to ask for. -/
def due (cmd : Nat) (chip : Chip) : Prop :=
  chip.vdm_state.command = some cmd ∧ chip.vdm_send_state = 0 ∧
    (chip.vdm_state = .DISCOVERY_MODES → (chip.val_tmp >>> 1).toNat ≠ chip.vdm_svid_num)

/-- The stage of the modes has a slot left to ask for, and has not sent its query. -/
def queries (chip : Chip) : Prop :=
  chip.vdm_state = .DISCOVERY_MODES ∧ (chip.val_tmp >>> 1).toNat ≠ chip.vdm_svid_num ∧ chip.vdm_send_state = 0

theorem unbuilt_waits (cmd : Nat) (l : List Entry) : Waits (Unbuilt cmd l) fun r => Unbuilt cmd l r.1 where
  send h := (unbuilt_ordinary cmd l).serves.send h
  sent h := h
  failed h := .cons Entry.noConfusion h
  timeout h := .cons Entry.noConfusion h
  waiting h := h

theorem auto_vdm_handle_unbuilt {func : Chip → Evt → Chip × VdmRet} (h : Unbuilt cmd l (func chip evt).1) :
    Unbuilt cmd l (AUTO_VDM_HANDLE func chip evt) := by
  unfold AUTO_VDM_HANDLE
  dsimp only
  split
  · exact .cons Entry.noConfusion h
  · exact h
  · exact .cons Entry.noConfusion h

theorem vdm_send_unbuilt {cmd' : Nat} (h : Unbuilt cmd l chip) (hc : chip.vdm_send_state = 0 → cmd' ≠ cmd)
    (hb : ∀ c, (begin c).log = c.log) (hf : ∀ c, Unbuilt cmd l c → Unbuilt cmd l (finish c).1) :
    Unbuilt cmd l (vdm_send cmd' mode begin acks finish chip evt).1 := by
  refine (unbuilt_waits cmd l).vdm_send (fun h0 => ?_) (fun _ => h) fun c hw _ => hf _ hw
  refine (unbuilt_ordinary cmd l).serves.send ?_
  have hm : Unbuilt cmd l (set_vdm_mesg chip cmd' VDM_TYPE_INIT mode) := by
    unfold Unbuilt
    rw [set_vdm_mesg_log]
    refine .cons ?_ h
    intro he
    cases he
    exact hc h0 rfl
  exact hm.add (p := fun _ => False) (.of_eq (hb _)) id

theorem auto_vdm_machine_unbuilt (h : Unbuilt cmd l chip) (hd : ¬due cmd chip) :
    Unbuilt cmd l (auto_vdm_machine chip evt) := by
  -- a stage other than that of the modes builds its command when it has not sent it
  have other : ∀ {s : VdmState} {cmd' : Nat}, chip.vdm_state = s → s.command = some cmd' → s ≠ .DISCOVERY_MODES →
      chip.vdm_send_state = 0 → cmd' ≠ cmd := by
    rintro s cmd' hs hc hm h0 rfl
    exact hd ⟨by rw [hs, hc], h0, fun hx => absurd (hs.symm.trans hx) hm⟩
  unfold auto_vdm_machine
  split
  · rename_i hs
    exact auto_vdm_handle_unbuilt (vdm_send_unbuilt h (other hs rfl (by decide)) (fun _ => rfl) fun _ hc => hc)
  · rename_i hs
    exact auto_vdm_handle_unbuilt (vdm_send_unbuilt h (other hs rfl (by decide)) (fun _ => rfl) fun _ hc => hc)
  · rename_i hs
    refine auto_vdm_handle_unbuilt ?_
    unfold vdm_send_discoverymodes
    split
    · rename_i hne
      refine vdm_send_unbuilt h ?_ (fun _ => rfl) fun _ hc => .cons Entry.noConfusion hc
      rintro h0 rfl
      exact hd ⟨by rw [hs]; rfl, h0, fun _ => hne⟩
    · exact h
  · rename_i hs
    exact auto_vdm_handle_unbuilt (vdm_send_unbuilt h (other hs rfl (by decide)) (fun _ => rfl) fun _ hc => hc)
  · rename_i hs
    exact auto_vdm_handle_unbuilt (vdm_send_unbuilt h (other hs rfl (by decide)) (fun _ => rfl) fun _ hc => hc)
  · rename_i hs
    exact auto_vdm_handle_unbuilt (vdm_send_unbuilt h (other hs rfl (by decide)) (fun _ => rfl) fun _ hc => hc)
  · exact .cons Entry.noConfusion h
  · exact h

theorem dispatch_unbuilt (h : Unbuilt cmd l chip)
    (hd : chip.conn_state = .policy_src_ready ∨ chip.conn_state = .policy_snk_ready →
      VDM_IS_ACTIVE (ready_rx chip evt) = true → ¬due cmd (ready_rx chip evt)) :
    Unbuilt cmd l (dispatch chip evt) := by
  have negotiate : ∀ {c}, Unbuilt cmd l c → Unbuilt cmd l (fusb_state_src_negotiate_cap c) := by
    intro c hc
    unfold fusb_state_src_negotiate_cap
    dsimp only
    split
    all_goals exact .cons Entry.noConfusion hc
  have build : ∀ {c}, Unbuilt cmd l c → Unbuilt cmd l (build_mesg c DMT_REQUEST true) := by
    intro c hc
    refine hc.add (p := fun e => e ≠ .vdm cmd) ?_ fun hn => hn rfl
    rw [build_request_log]
    exact .cons Entry.noConfusion (.cons Entry.noConfusion (.refl _))
  have evaluate : Unbuilt cmd l (fusb_state_snk_evaluate_caps chip) := by
    obtain ⟨_, _, _, _, _, _, _, hl, _⟩ := @evaluate_caps_frame chip
    exact h.add (p := fun _ => False) (.of_eq hl) id
  exact (unbuilt_ordinary cmd l).serves.switch h {
    offer := fun _ _ _ => negotiate
    negotiate := fun _ => negotiate h
    evaluate := fun _ => build evaluate
    select := fun _ _ => build h
    vdm := fun _ _ => h.add (process_vdm_msg_replies chip) id
    auto := fun hc hr ha => auto_vdm_machine_unbuilt hr (hd hc ha) }

theorem at_switch_unbuilt (env : Env) (h : Unbuilt cmd l chip) : Unbuilt cmd l (at_switch chip env) := by
  refine at_switch_keeps ((unbuilt_ordinary cmd l).serves.passes_of ?_ ?_ env) h
  · intro c hc
    rcases get_message_log c c.fifo with hl | ⟨m, hl⟩
    · exact hc.add (p := fun _ => False) (.of_eq hl) id
    · unfold Unbuilt tcpm_get_message
      rw [hl]
      exact .cons Entry.noConfusion hc
  · intro c hc
    unfold pd_execute_hard_reset
    dsimp only
    split
    all_goals exact .cons Entry.noConfusion hc

/-- The machine runs in a ready state, in the stage that is to build this command. -/
def builds_here (cmd : Nat) (chip : Chip) (env : Env) : Prop :=
  due cmd (at_machine chip env) ∧ VDM_IS_ACTIVE (at_machine chip env) = true ∧
    ((at_switch chip env).conn_state = .policy_src_ready ∨ (at_switch chip env).conn_state = .policy_snk_ready) ∧
    (events chip env).any = true

theorem step_unbuilt {act : Act} (hd : ∀ env, act = .work env → ¬builds_here cmd chip env) :
    Unbuilt cmd chip.log (step chip act) := by
  have idle : ∀ c : Chip, c.log = chip.log → Unbuilt cmd chip.log c := fun c hc => .of_eq hc
  cases act with
  | work env =>
    have ha := at_switch_unbuilt env (idle chip rfl)
    rw [step_work]
    split
    · rename_i hany
      exact dispatch_unbuilt ha fun hc hv hds => hd env rfl ⟨hds, hv, hc, hany⟩
    · exact ha
  | timer_state =>
    obtain ⟨t, he⟩ := fusb_timer_handler_eq chip .timer_state
    exact idle (fusb_timer_handler chip _) (by rw [he])
  | timer_mux =>
    obtain ⟨t, he⟩ := fusb_timer_handler_eq chip .timer_mux
    exact idle (fusb_timer_handler chip _) (by rw [he])

/-- A command is built by the machine of a ready state, in the stage that waits for it. -/
theorem due_of_builds {act : Act} (h : builds_vdm cmd chip act) : ∃ env, act = .work env ∧ builds_here cmd chip env := by
  obtain ⟨new, hl, hm⟩ := h
  have never : ¬Unbuilt cmd chip.log (step chip act) := by
    rintro ⟨l, hl', hn⟩
    have he : l = new := List.append_cancel_right (hl'.symm.trans hl)
    exact hn _ (he ▸ hm) rfl
  refine not_not.1 fun hd => never (step_unbuilt ?_)
  exact fun env he hb => hd ⟨env, he, hb⟩

/-- A query is built by the machine of a ready state, in the stage of the modes. -/
theorem queries_of_builds {act : Act} (h : builds_vdm VDM_DISCOVERY_MODES chip act) :
    ∃ env, act = .work env ∧ queries (at_machine chip env) ∧
      ((at_switch chip env).conn_state = .policy_src_ready ∨ (at_switch chip env).conn_state = .policy_snk_ready) := by
  obtain ⟨env, he, ⟨hc, h0, hne⟩, _, hr, _⟩ := due_of_builds h
  have hs : (at_machine chip env).vdm_state = .DISCOVERY_MODES := by
    cases hs : (at_machine chip env).vdm_state <;> rw [hs] at hc <;> first | rfl | cases hc
  exact ⟨env, he, ⟨hs, hne hs, h0⟩, hr⟩

/-! ## Runs -/

/-- A ready state counts SVIDs on top of others in this step. -/
def overfilled (chip : Chip) : Act → Prop
  | .work env =>
    ((at_switch chip env).conn_state = .policy_src_ready ∨ (at_switch chip env).conn_state = .policy_snk_ready) ∧
      vdm_in_hand (at_switch chip env) (events chip env) = true ∧ overfilling_msg (at_switch chip env)
  | _ => False

instance (act : Act) : Decidable (overfilled chip act) :=
  match act with
  | .work _ => by
    unfold overfilled overfilling_msg overfills asked
    infer_instance
  | .timer_state | .timer_mux => inferInstanceAs (Decidable False)

theorem dispatch_stored (h : Stored chip)
    (hx : chip.conn_state = .policy_src_ready ∨ chip.conn_state = .policy_snk_ready →
      vdm_in_hand chip evt = true → ¬overfilling_msg chip) : Stored (dispatch chip evt) := by
  exact stored_ordinary.serves.switch h {
    offer := fun _ _ _ => negotiate_cap_stored
    negotiate := fun _ => negotiate_cap_stored h
    evaluate := fun _ => build_request_stored (evaluate_caps_stored h)
    select := fun _ _ => build_request_stored h
    vdm := fun hc hv => process_vdm_msg_stored h (hx hc hv)
    auto := fun _ hr _ => auto_vdm_machine_stored hr }

theorem at_switch_stored (env : Env) (h : Stored chip) : Stored (at_switch chip env) :=
  at_switch_keeps (stored_ordinary.serves.passes_of (fun hc => get_message_stored hc _) hard_reset_stored env) h

theorem step_stored (h : Stored chip) {act : Act} (hx : ¬overfilled chip act) : Stored (step chip act) := by
  refine step_keeps (stored_ordinary.serves.passes_of (fun hc => get_message_stored hc _) hard_reset_stored) h ?_
  rintro env rfl _ ha
  exact dispatch_stored ha fun hc hv ho => hx ⟨hc, hv, ho⟩

theorem in_range (h : Stored chip) (hq : queries chip) : InRange chip := by
  obtain ⟨hs, hne, _⟩ := hq
  have hlt := Nat.lt_of_le_of_ne (h.room hs).1 hne
  have h12 := Nat.lt_of_lt_of_le hlt h.count
  refine ⟨h12, ?_⟩
  have hf := h.full (Or.inr hs) _ hlt
  have hsl := h.slots ⟨(chip.val_tmp >>> 1).toNat, h12⟩
  dsimp only at hsl
  rw [hsl] at hf ⊢
  split
  · rename_i h0
    rw [if_pos h0] at hf
    exact absurd rfl hf
  · rfl

theorem indexed_step (h : Stored chip) {act : Act} (hx : ¬overfilled chip act) : Indexed chip act where
  count := (step_stored h hx).count
  query hb := by
    obtain ⟨env, rfl, hq, hc⟩ := queries_of_builds hb
    refine ⟨env, rfl, in_range ?_ hq⟩
    have ha := at_switch_stored env h
    refine stored_ordinary.serves.ready_rx ha ?_ fun hv => process_vdm_msg_stored ha fun ho => hx ⟨hc, hv, ho⟩
    rcases hc with hc | hc <;> rw [hc] <;> rfl

theorem probe_stored (board : Board) : Stored (fusb30x_probe board) := by
  have hv : (fusb30x_probe board).toVdm = (kzalloc board).toVdm := by simp [fusb30x_probe]
  have hr : (fusb30x_probe board).toRx = (kzalloc board).toRx := by simp [fusb30x_probe]
  have ht : (fusb30x_probe board).val_tmp = 0#8 := by simp [fusb30x_probe, kzalloc]
  refine ⟨⟨?_, ?_⟩, counter_early ?_ (no_queries ht) (Or.inl ?_)⟩
  · rw [probe_log, hr]
    rfl
  · intro i
    rw [probe_log, hv]
    rfl
  · rw [hv]
    exact Nat.zero_le 12
  · rw [hv]
    rfl

/-- In a run that never counts SVIDs on top of others, the table is not indexed out of range. -/
theorem table_in_range (board : Board) (acts : List Act)
    (h : Runs.Meets step (fun chip act => ¬overfilled chip act) (fusb30x_probe board) acts) :
    Runs.Meets step Indexed (fusb30x_probe board) acts :=
  h.imp (fun _ _ hs hx => step_stored hs hx) (fun _ _ hs hx => indexed_step hs hx) (probe_stored board)

/-- From a source that is ready to the DISCOVERY_SVIDS request sent. -/
def ask_svids : List Act := attach_source ++ contract ++ [txsent] ++ discover_id ++ [idle, txsent]

/-- An acknowledgement of DISCOVERY_SVIDS with these objects. -/
def acked_svids (objects : List (BitVec 32)) : Act := received (data DMT_VENDERDEFINED (0xff008042#32 :: objects))

/-- One SVID is acknowledged, and its modes are asked for. -/
theorem one_svid_in_range :
    Runs.Meets step Indexed (fusb30x_probe {}) (ask_svids ++ [acked_svids [0xff010000#32], idle]) :=
  table_in_range _ _ (by decide +kernel)

/-- A full table. -/
def twelve_svids : Act :=
  acked_svids [0xff010001#32, 0x00020003#32, 0x00040005#32, 0x00060007#32, 0x00080009#32, 0x000a000b#32]

/-- A partner that acknowledges its twelve SVIDs twice. -/
theorem second_ack_overflows :
    ¬Runs.Meets step Indexed (fusb30x_probe {}) (ask_svids ++ [twelve_svids] ++ [twelve_svids]) := by
  intro hm
  have hc := (meets_last hm).count
  revert hc
  decide +kernel

end Fusb302
