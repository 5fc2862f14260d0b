import LinuxDriver.Fusb302.Ordinary
/-!
# Alternate mode discovery

A stage of the discovery is left only after its own command was transmitted
and acknowledged in the current visit, as long as the ready states process no
stray acknowledgement: all stages share the completion byte `val_tmp`, and an
acknowledgement of DP_CONFIG is believed at any time.
-/

namespace Fusb302

/-! ## What the log says about a visit -/

/-- The command a stage waits for. -/
def VdmState.command : VdmState → Option Nat
  | .DISCOVERY_ID => some VDM_DISCOVERY_ID
  | .DISCOVERY_SVID => some VDM_DISCOVERY_SVIDS
  | .DISCOVERY_MODES => some VDM_DISCOVERY_MODES
  | .ENTER_MODE => some VDM_ENTER_MODE
  | .UPDATE_STATUS => some VDM_DP_STATUS_UPDATE
  | .DP_CONFIG => some VDM_DP_CONFIG
  | .NOTIFY | .READY | .ERR => none

/-- The stage last set. -/
def stage_of : List Entry → VdmState
  | [] => .DISCOVERY_ID
  | .stage s :: _ => s
  | _ :: l => stage_of l

/-- The newest entry is the building of `cmd`. -/
def builds (cmd : Nat) : List Entry → Bool
  | .vdm c :: _ => c == cmd
  | _ => false

/-- `cmd` was transmitted in the current visit of the stage, or since the last mode query. -/
def transmitted (cmd : Nat) : List Entry → Bool
  | [] | .stage _ :: _ | .query :: _ => false
  | .fifo _ _ :: l => builds cmd l || transmitted cmd l
  | _ :: l => transmitted cmd l

/-- And acknowledged after that. -/
def acked (cmd : Nat) : List Entry → Bool
  | [] | .stage _ :: _ | .query :: _ => false
  | .ack c :: l => (c == cmd && transmitted cmd l) || acked cmd l
  | _ :: l => acked cmd l

/-- A mode query was completed in the current visit. -/
def queried : List Entry → Bool
  | [] | .stage _ :: _ => false
  | .query :: _ => true
  | _ :: l => queried l

/-- DP_CONFIG was transmitted in the current discovery. -/
def configured : List Entry → Bool
  | [] | .stage .DISCOVERY_ID :: _ => false
  | .fifo _ _ :: l => builds VDM_DP_CONFIG l || configured l
  | _ :: l => configured l

/-! ## The property -/

/-- A stage is left for the next one: after an acknowledgement of its command,
or for the modes after acknowledged queries with none open. -/
def left_rightly (older : List Entry) : Prop :=
  match stage_of older with
  | .DISCOVERY_MODES => queried older = true ∧ transmitted VDM_DISCOVERY_MODES older = false
  | s => ∀ cmd ∈ s.command, acked cmd older = true

/-- An entry fits the log before it. -/
def Answered : Entry → List Entry → Prop
  | .stage s, older => s = (stage_of older).next → left_rightly older
  | .query, older => acked VDM_DISCOVERY_MODES older = true
  | .enter_mode, .ack cmd :: older => cmd = VDM_DP_CONFIG ∧ configured older = true
  | .enter_mode, _ => False
  | _, _ => True

instance (older : List Entry) : Decidable (left_rightly older) := by
  unfold left_rightly
  cases stage_of older <;> infer_instance

instance (e : Entry) (older : List Entry) : Decidable (Answered e older) := by
  unfold Answered
  split <;> infer_instance

/-- What is new in a log, and whether it accounts for alternate mode being entered. -/
def Entered (before after : Chip) : Prop :=
  ∃ new, after.log = new ++ before.log ∧
    (after.notify.is_enter_mode = true → before.notify.is_enter_mode = true ∨ .enter_mode ∈ new)

/-- Discovery advances only on its own acknowledgements in this step. -/
structure Advances (chip : Chip) (act : Act) : Prop where
  answered : Trace.Each Answered (step chip act).log
  entered : Entered chip (step chip act)

/-! ## The invariant -/

/-- Entries that say nothing about the discovery. -/
def Entry.silent : Entry → Prop
  | .vdm _ | .ack _ | .stage _ | .query | .enter_mode => False
  | _ => True

/-- The log fits together and belongs to the port; no message built last is unsent. -/
structure LogRight (start chip : Chip) : Prop where
  answered : Trace.Each Answered chip.log
  stage : stage_of chip.log = chip.vdm_state
  unbuilt : ∀ cmd, builds cmd chip.log = false
  entered : Entered start chip

/-- The discovery's fields say what the log says about the current visit. -/
structure Visit (chip : Chip) : Prop where
  sent : chip.vdm_send_state ≠ 0 → ∀ cmd ∈ chip.vdm_state.command, transmitted cmd chip.log = true
  id : chip.vdm_state = .DISCOVERY_ID → chip.vdm_send_state ≠ 0 → chip.vdm_id ≠ 0#32 →
    acked VDM_DISCOVERY_ID chip.log = true
  svid : chip.vdm_state = .DISCOVERY_SVID → chip.vdm_send_state ≠ 0 → chip.vdm_svid_num ≠ 0 →
    acked VDM_DISCOVERY_SVIDS chip.log = true
  early : chip.notify.data_role = .DFP → chip.vdm_state = .DISCOVERY_ID ∨ chip.vdm_state = .DISCOVERY_SVID →
    chip.val_tmp = 0#8
  svids : chip.vdm_state = .DISCOVERY_MODES → chip.vdm_svid_num ≠ 0
  room : chip.vdm_state = .DISCOVERY_MODES → (chip.val_tmp >>> 1).toNat ≤ chip.vdm_svid_num ∧
    (chip.vdm_send_state ≠ 0 → (chip.val_tmp >>> 1).toNat ≠ chip.vdm_svid_num)
  queries : chip.vdm_state = .DISCOVERY_MODES → (chip.val_tmp >>> 1).toNat ≠ 0 → queried chip.log = true
  unsent : chip.vdm_state = .DISCOVERY_MODES → chip.vdm_send_state = 0 →
    transmitted VDM_DISCOVERY_MODES chip.log = false
  query : chip.notify.data_role = .DFP → chip.vdm_state = .DISCOVERY_MODES → chip.val_tmp &&& 1#8 ≠ 0#8 →
    acked VDM_DISCOVERY_MODES chip.log = true
  late : chip.notify.data_role = .DFP → chip.val_tmp ≠ 0#8 →
    chip.vdm_state = .ENTER_MODE ∨ chip.vdm_state = .UPDATE_STATUS ∨ chip.vdm_state = .DP_CONFIG →
    ∀ cmd ∈ chip.vdm_state.command, acked cmd chip.log = true

variable {start chip c c' : Chip} {evt : Evt} {l l' : List Entry} {cmd : Nat} {p : Entry → Prop}

/-! ## Silent entries -/

/-- The log says the same about the visit, and has no unsent message on top. -/
structure SameVisit (l' l : List Entry) : Prop where
  stage : stage_of l' = stage_of l
  unbuilt : ∀ cmd, builds cmd l' = false
  transmitted : ∀ cmd, transmitted cmd l' = transmitted cmd l
  acked : ∀ cmd, acked cmd l' = acked cmd l
  queried : queried l' = queried l

theorem same_visit (h : Trace.Added Entry.silent l l') (hb : ∀ cmd, builds cmd l = false) : SameVisit l' l := by
  refine h.induct (R := fun l' => SameVisit l' l) ?_ ⟨rfl, hb, fun _ => rfl, fun _ => rfl, rfl⟩
  intro e l'' he hl
  obtain ⟨hs, hu, ht, ha, hq⟩ := hl
  cases e with
  | fifo data state =>
    refine ⟨hs, fun _ => rfl, ?_, ha, hq⟩
    intro cmd
    rw [transmitted, hu, Bool.false_or, ht]
  | vdm cmd => exact he.elim
  | ack cmd => exact he.elim
  | stage s => exact he.elim
  | query => exact he.elim
  | enter_mode => exact he.elim
  | _ => exact ⟨hs, fun _ => rfl, ht, ha, hq⟩

theorem answered_of_silent {e : Entry} (h : e.silent) (older : List Entry) : Answered e older := by
  cases e with
  | stage s => exact h.elim
  | query => exact h.elim
  | enter_mode => exact h.elim
  | _ => trivial

theorem Entered.add (h : Entered start c) (hl : Trace.Added p c.log c'.log)
    (he : c'.notify.is_enter_mode = true → c.notify.is_enter_mode = true) : Entered start c' := by
  obtain ⟨new, hn, hm⟩ := h
  obtain ⟨l, hl, _⟩ := hl
  refine ⟨l ++ new, by rw [hl, hn, List.append_assoc], ?_⟩
  intro h'
  exact (hm (he h')).imp_right (List.mem_append_right l)

theorem LogRight.quiet (h : LogRight start c) (hl : Trace.Added Entry.silent c.log c'.log)
    (hv : c'.vdm_state = c.vdm_state) (he : c'.notify.is_enter_mode = true → c.notify.is_enter_mode = true) :
    LogRight start c' := by
  have hs := same_visit hl h.unbuilt
  exact ⟨hl.each (fun _ l he => answered_of_silent he l) h.answered, by rw [hs.stage, h.stage, hv], hs.unbuilt,
    h.entered.add hl he⟩

/-- With the count back at 0 there are still SVIDs to query. -/
theorem Visit.room_of (h : Visit c) (hs : c.vdm_state = .DISCOVERY_MODES) {n : Nat} (hn : n = 0 ∨ n = (c.val_tmp >>> 1).toNat) :
    n ≤ c.vdm_svid_num ∧ (c.vdm_send_state ≠ 0 → n ≠ c.vdm_svid_num) := by
  rcases hn with rfl | rfl
  · exact ⟨Nat.zero_le _, fun _ => Ne.symm (h.svids hs)⟩
  · exact h.room hs

/-- The visit goes on; `val_tmp` is kept, or cleared by a change of the policy state. -/
theorem Visit.quiet (h : Visit c) (hb : ∀ cmd, builds cmd c.log = false) (hl : Trace.Added Entry.silent c.log c'.log)
    (hv : c'.toVdm = c.toVdm)
    (hr : c'.val_tmp = 0#8 ∨ (c'.val_tmp = c.val_tmp ∧ (c'.notify.data_role = .DFP → c.notify.data_role = .DFP))) :
    Visit c' := by
  obtain ⟨_, _, ht, ha, hq⟩ := same_visit hl hb
  have hsent := h.sent
  have hid := h.id
  have hsvid := h.svid
  have hsvids := h.svids
  have hunsent := h.unsent
  constructor <;> rw [hv]
  · intro hs cmd hc
    rw [ht]
    exact hsent hs cmd hc
  · rw [ha]
    exact hid
  · rw [ha]
    exact hsvid
  · intro hd hs
    rcases hr with h0 | ⟨hk, hd'⟩
    · exact h0
    · rw [hk]
      exact h.early (hd' hd) hs
  · exact hsvids
  · intro hs
    refine h.room_of hs ?_
    rcases hr with h0 | ⟨hk, _⟩
    · exact .inl (by rw [h0]; rfl)
    · exact .inr (by rw [hk])
  · intro hs hn
    rcases hr with h0 | ⟨hk, _⟩
    · rw [h0] at hn
      exact absurd rfl hn
    · rw [hk] at hn
      rw [hq]
      exact h.queries hs hn
  · rw [ht]
    exact hunsent
  · intro hd hs hn
    rcases hr with h0 | ⟨hk, hd'⟩
    · rw [h0] at hn
      exact absurd rfl hn
    · rw [hk] at hn
      rw [ha]
      exact h.query (hd' hd) hs hn
  · intro hd hn hs cmd hc
    rcases hr with h0 | ⟨hk, hd'⟩
    · exact absurd h0 hn
    · rw [hk] at hn
      rw [ha]
      exact h.late (hd' hd) hn hs cmd hc

/-! ## Ordinary handlers -/

theorem silent_of_ordinary {e : Entry} (h : e.ordinary = true) : e.silent := by
  cases e <;> trivial

theorem LogRight.stage_set (h : LogRight start c) {s : VdmState} (hs : Answered (.stage s) c.log)
    (hv : c'.vdm_state = s) (hl : c'.log = .stage s :: c.log)
    (he : c'.notify.is_enter_mode = true → c.notify.is_enter_mode = true) : LogRight start c' := by
  refine ⟨?_, ?_, ?_, h.entered.add (p := fun _ => True) ⟨[.stage s], hl, fun _ _ => trivial⟩ he⟩
  · rw [hl]
    exact ⟨hs, h.answered⟩
  · rw [hl, hv]
    rfl
  · intro cmd
    rw [hl]
    rfl

/-- No stage is followed by the first one, nor left for ERR. -/
theorem answered_first (l : List Entry) : Answered (.stage .DISCOVERY_ID) l := by
  intro h
  cases hs : stage_of l <;> rw [hs] at h <;> cases h

theorem answered_err (l : List Entry) : Answered (.stage .ERR) l := by
  intro h
  unfold left_rightly
  cases hs : stage_of l <;> rw [hs] at h <;> cases h
  all_goals
    intro cmd hc
    cases hc

theorem logRight_ordinary (start : Chip) : Ordinary (LogRight start) where
  view := by
    intro c c' h hv
    simp only [Chip.view, View.mk.injEq] at hv
    obtain ⟨_, _, _, _, _, _, hv, he, hl⟩ := hv
    exact h.quiet (.of_eq hl) (congrArg Vdm.vdm_state hv) (by rw [he]; exact id)
  move h _ := h.quiet (.refl _) rfl id
  recast _ h _ := h.quiet (.refl _) rfl id
  sub _ h _ := h.quiet (.refl _) rfl id
  log h he := h.quiet (.cons (silent_of_ordinary he) (.refl _)) rfl id
  soft_reset {c} h := by
    have hs : LogRight start (set_vdm_state c .DISCOVERY_ID) := h.stage_set (answered_first _) rfl rfl id
    exact hs.quiet (.cons (e := Entry.soft_reset) trivial (.refl _)) rfl id
  renumber _ h := h.quiet (.refl _) rfl id
  forget h := h.quiet (.refl _) rfl fun he => by cases he

/-- The log and the fields of the discovery agree. -/
structure Discovers (start chip : Chip) : Prop where
  log : LogRight start chip
  visit : Visit chip

theorem Discovers.quiet (h : Discovers start c) (hl : Trace.Added Entry.silent c.log c'.log) (hv : c'.toVdm = c.toVdm)
    (he : c'.notify.is_enter_mode = true → c.notify.is_enter_mode = true)
    (hr : c'.val_tmp = 0#8 ∨ (c'.val_tmp = c.val_tmp ∧ (c'.notify.data_role = .DFP → c.notify.data_role = .DFP))) :
    Discovers start c' :=
  ⟨h.log.quiet hl (congrArg Vdm.vdm_state hv) he, h.visit.quiet h.log.unbuilt hl hv hr⟩

/-- A stage in which nothing was sent and nothing acknowledged. -/
theorem visit_fresh (hi : c.vdm_send_state = 0) (hv : c.val_tmp = 0#8)
    (hm : c.vdm_state = .DISCOVERY_MODES → c.vdm_svid_num ≠ 0 ∧ transmitted VDM_DISCOVERY_MODES c.log = false) :
    Visit c := by
  constructor
  · exact fun h => absurd hi h
  · exact fun _ h => absurd hi h
  · exact fun _ h => absurd hi h
  · exact fun _ _ => hv
  · exact fun hs => (hm hs).1
  · intro _
    rw [hv]
    exact ⟨Nat.zero_le _, fun h => absurd hi h⟩
  · intro _ h
    rw [hv] at h
    exact absurd rfl h
  · exact fun hs _ => (hm hs).2
  · intro _ _ h
    rw [hv] at h
    exact absurd rfl h
  · exact fun _ h => absurd hv h

/-- After a soft reset the first stage is visited, with nothing sent. -/
theorem JustReset.visit (h : JustReset c) : Visit c :=
  visit_fresh h.idle h.val_tmp fun hs => by rw [h.stage] at hs; cases hs

theorem discovers_ordinary (start : Chip) : Ordinary (Discovers start) where
  view := by
    intro c c' h hv
    simp only [Chip.view, View.mk.injEq] at hv
    obtain ⟨_, _, ht, _, _, hd, hv, he, hl⟩ := hv
    exact h.quiet (.of_eq hl) hv (by rw [he]; exact id) (Or.inr ⟨ht, by rw [hd]; exact id⟩)
  move h _ := h.quiet (.refl _) rfl id (Or.inl rfl)
  recast _ h _ := h.quiet (.refl _) rfl id (Or.inl rfl)
  sub _ h _ := h.quiet (.refl _) rfl id (Or.inr ⟨rfl, id⟩)
  log h he := h.quiet (.cons (silent_of_ordinary he) (.refl _)) rfl id (Or.inr ⟨rfl, id⟩)
  soft_reset h := ⟨(logRight_ordinary start).serves.soft_reset h.log, JustReset.visit ⟨rfl, rfl, rfl⟩⟩
  renumber _ h := h.quiet (.refl _) rfl id (Or.inr ⟨rfl, id⟩)
  forget h := h.quiet (.refl _) rfl (fun he => by cases he) (Or.inr ⟨rfl, fun hd => by cases hd⟩)

theorem negotiate_cap_discovers (h : Discovers start c) : Discovers start (fusb_state_src_negotiate_cap c) := by
  unfold fusb_state_src_negotiate_cap
  dsimp only
  split
  all_goals exact h.quiet (.cons (e := Entry.asked _ _) trivial (.refl _)) rfl id (Or.inl rfl)

theorem build_request_discovers (h : Discovers start c) : Discovers start (build_mesg c DMT_REQUEST true) := by
  refine h.quiet ?_ (by simp) (by simp) (Or.inr (by simp))
  rw [build_request_log]
  exact .cons (e := Entry.requested _ _ _) trivial (.cons (e := Entry.mesg _ _) trivial (.refl _))

theorem evaluate_caps_discovers (h : Discovers start c) : Discovers start (fusb_state_snk_evaluate_caps c) := by
  obtain ⟨_, hv, _, _, _, hd, hn, hl, _⟩ := @evaluate_caps_frame c
  exact h.quiet (.of_eq hl) hd (by rw [hn]; exact id) (Or.inl hv)

/-! ## Received messages -/

/-- An acknowledgement of `cmd` writes the completion byte. -/
def completes (chip : Chip) (cmd : Nat) : Bool :=
  cmd == VDM_ENTER_MODE || cmd == VDM_DP_STATUS_UPDATE || cmd == VDM_DP_CONFIG ||
    (cmd == VDM_DISCOVERY_MODES && decide (PD_HEADER_CNT chip.rec_head > 1))

/-- It acknowledges a DP_CONFIG never sent in this discovery, or writes the
completion byte of a stage that has not transmitted this command. -/
def stray (chip : Chip) (cmd : Nat) : Bool :=
  (cmd == VDM_DP_CONFIG && !configured chip.log) ||
    (completes chip cmd && chip.notify.data_role == .DFP &&
      chip.vdm_state.command.any fun c => c != cmd || chip.vdm_send_state == 0)

theorem acked_of_transmitted (h : transmitted cmd l = true) : acked cmd (.ack cmd :: l) = true := by
  rw [acked, h, beq_self_eq_true]
  rfl

theorem acked_ack (h : acked cmd l = true) (c : Nat) : acked cmd (.ack c :: l) = true := by
  rw [acked, h, Bool.or_true]

/-- The stage that is completed has transmitted the command acknowledged. -/
theorem acked_of_not_stray (h : Visit chip) (hs : stray chip cmd = false) (hw : completes chip cmd = true)
    (hd : chip.notify.data_role = .DFP) :
    ∀ c ∈ chip.vdm_state.command, c = cmd ∧ acked c (.ack cmd :: chip.log) = true := by
  intro c hc
  have hn : (c != cmd || chip.vdm_send_state == 0) = false := by
    have h2 := (Bool.or_eq_false_iff.1 hs).2
    rw [hw, hd, Option.mem_def.1 hc] at h2
    exact h2
  obtain ⟨he, h0⟩ := Bool.or_eq_false_iff.1 hn
  have he : c = cmd := by simpa using he
  subst he
  refine ⟨rfl, acked_of_transmitted (h.sent ?_ c hc)⟩
  intro h'
  rw [h'] at h0
  cases h0

theorem LogRight.ack (h : LogRight start chip) (cmd : Nat) : LogRight start (chip.emit (.ack cmd)) :=
  ⟨⟨trivial, h.answered⟩, h.stage, fun _ => rfl, h.entered.add (.cons (p := fun _ => True) trivial (.refl _)) id⟩

theorem Visit.ack (h : Visit chip) (cmd : Nat) : Visit (chip.emit (.ack cmd)) where
  sent := h.sent
  id hs hn hi := acked_ack (h.id hs hn hi) cmd
  svid hs hn hi := acked_ack (h.svid hs hn hi) cmd
  early := h.early
  svids := h.svids
  room := h.room
  queries := h.queries
  unsent := h.unsent
  query hd hs hn := acked_ack (h.query hd hs hn) cmd
  late hd hn hs c hc := acked_ack (h.late hd hn hs c hc) cmd

/-- The completion byte is written once the stage's command is acknowledged;
the count of mode queries in its upper bits stays or starts again. -/
theorem Visit.complete (h : Visit c) (hv : c'.toVdm = c.toVdm) (hl : c'.log = c.log)
    (hd : c'.notify.data_role = c.notify.data_role)
    (ht : (c'.val_tmp >>> 1).toNat = 0 ∨ c'.val_tmp >>> 1 = c.val_tmp >>> 1)
    (ha : c.notify.data_role = .DFP → ∀ cmd ∈ c.vdm_state.command,
      acked cmd c.log = true ∧ cmd ≠ VDM_DISCOVERY_ID ∧ cmd ≠ VDM_DISCOVERY_SVIDS) : Visit c' := by
  have hsent := h.sent
  have hid := h.id
  have hsvid := h.svid
  have hsvids := h.svids
  have hunsent := h.unsent
  have hqueries := h.queries
  constructor <;> rw [hv] <;> try rw [hl]
  · exact hsent
  · exact hid
  · exact hsvid
  · rw [hd]
    intro hr hs
    -- the first two stages do not write it
    rcases hs with hs | hs
    · exact absurd rfl (ha hr VDM_DISCOVERY_ID (by rw [hs]; rfl)).2.1
    · exact absurd rfl (ha hr VDM_DISCOVERY_SVIDS (by rw [hs]; rfl)).2.2
  · exact hsvids
  · intro hs
    refine h.room_of hs ?_
    rcases ht with h0 | hk
    · exact .inl h0
    · exact .inr (by rw [hk])
  · intro hs hn
    rcases ht with h0 | hk
    · exact absurd h0 hn
    · rw [hk] at hn
      exact hqueries hs hn
  · exact hunsent
  · rw [hd]
    intro hr hs _
    exact (ha hr VDM_DISCOVERY_MODES (by rw [hs]; rfl)).1
  · rw [hd]
    intro hr _ _ cmd hc
    exact (ha hr cmd hc).1

theorem Visit.svids_stored (h : Visit c) (ha : c.vdm_state = .DISCOVERY_SVID → c.vdm_send_state ≠ 0 →
    acked VDM_DISCOVERY_SVIDS c.log = true) (k : Nat) : Visit (store_svids c k) := by
  obtain ⟨hn, hp, hs, hk, hi, hd, hl⟩ := store_svids_frame c k
  have hv : (store_svids c k).val_tmp = c.val_tmp := congrArg Policy.val_tmp hp
  have hsent := h.sent
  have hid := h.id
  have hearly := h.early
  have hunsent := h.unsent
  have hqueries := h.queries
  have hquery := h.query
  have hlate := h.late
  constructor <;> rw [hs]
  · rwa [hk, hl]
  · rwa [hk, hi, hl]
  · rw [hk, hl]
    exact fun hs hn _ => ha hs hn
  · rwa [hd, hv]
  · intro hm
    have := h.svids hm
    omega
  · intro hm
    obtain ⟨hle, hne⟩ := h.room hm
    rw [hv, hk]
    refine ⟨Nat.le_trans hle hn, ?_⟩
    intro h0
    have := hne h0
    omega
  · rwa [hv, hl]
  · rwa [hk, hl]
  · rwa [hd, hv, hl]
  · rwa [hd, hv, hl]

/-- `val_tmp` is set to 1: the count of mode queries starts again. -/
theorem Visit.set_one (h : Visit c) (hv : c'.toVdm = c.toVdm) (hl : c'.log = c.log)
    (hd : c'.notify.data_role = c.notify.data_role) (ht : c'.val_tmp = 1#8)
    (ha : c.notify.data_role = .DFP → ∀ cmd ∈ c.vdm_state.command,
      acked cmd c.log = true ∧ cmd ≠ VDM_DISCOVERY_ID ∧ cmd ≠ VDM_DISCOVERY_SVIDS) : Visit c' :=
  h.complete hv hl hd (Or.inl (by rw [ht]; rfl)) ha

/-- An acknowledgement that is not stray keeps the log and the discovery in agreement. -/
theorem process_vdm_ack_discovers (h : Discovers start chip) (hs : stray chip cmd = false) :
    Discovers start (process_vdm_ack (chip.emit (.ack cmd)) cmd) := by
  have hl := h.log.ack cmd
  have hv := h.visit.ack cmd
  -- the stage waiting for `cmd` has transmitted it
  have waits : ∀ s : VdmState, chip.vdm_state = s → s.command = some cmd → chip.vdm_send_state ≠ 0 →
      acked cmd (chip.emit (.ack cmd)).log = true := by
    intro s hst hc hn
    exact acked_of_transmitted (h.visit.sent hn cmd (by rw [hst, hc]; rfl))
  -- and so has the one whose completion byte `cmd` writes
  have writes : completes chip cmd = true → cmd ≠ VDM_DISCOVERY_ID → cmd ≠ VDM_DISCOVERY_SVIDS →
      chip.notify.data_role = .DFP → ∀ c ∈ chip.vdm_state.command,
        acked c (chip.emit (.ack cmd)).log = true ∧ c ≠ VDM_DISCOVERY_ID ∧ c ≠ VDM_DISCOVERY_SVIDS := by
    intro hw h1 h2 hd c hc
    obtain ⟨rfl, ha⟩ := acked_of_not_stray h.visit hs hw hd c hc
    exact ⟨ha, h1, h2⟩
  unfold process_vdm_ack
  split
  · rename_i hc
    subst hc
    refine ⟨hl.quiet (.refl _) rfl id, ?_⟩
    obtain ⟨h1, _, h3, h4, h5, h6, h7, h8, h9, h10⟩ := hv
    exact ⟨h1, fun hst hn _ => waits _ hst rfl hn, h3, h4, h5, h6, h7, h8, h9, h10⟩
  · split
    · rename_i hc
      subst hc
      obtain ⟨_, _, hst, _, _, hn, hlog⟩ := store_svids_frame (chip.emit (.ack VDM_DISCOVERY_SVIDS)) 6
      exact ⟨hl.quiet (.of_eq hlog) hst (by rw [hn]; exact id), hv.svids_stored (fun hst hn => waits _ hst rfl hn) 6⟩
    · split
      · rename_i hc
        subst hc
        obtain ⟨hvd, hlog, hd, he, ht⟩ := store_mode_frame (chip.emit (.ack VDM_DISCOVERY_MODES))
        refine ⟨hl.quiet (.of_eq hlog) (congrArg Vdm.vdm_state hvd) (by rw [he]; exact id), ?_⟩
        split at ht
        · rename_i hcnt
          have hw : completes chip VDM_DISCOVERY_MODES = true := decide_eq_true hcnt
          exact hv.complete hvd hlog hd (Or.inr (by rw [ht, or_one_count])) (writes hw (by decide) (by decide))
        · exact hv.quiet hl.unbuilt (.of_eq hlog) hvd (Or.inr ⟨ht, by rw [hd]; exact id⟩)
      · split
        · rename_i hc
          subst hc
          exact ⟨hl.quiet (.refl _) rfl id, hv.set_one rfl rfl rfl rfl (writes rfl (by decide) (by decide))⟩
        · split
          · rename_i hc
            subst hc
            exact ⟨hl.quiet (.refl _) rfl id, hv.set_one rfl rfl rfl rfl (writes rfl (by decide) (by decide))⟩
          · split
            · rename_i hc
              subst hc
              have hcf : configured chip.log = true := by
                have h1 := (Bool.or_eq_false_iff.1 hs).1
                simpa using h1
              obtain ⟨new, hn, _⟩ := hl.entered
              refine ⟨⟨⟨⟨rfl, hcf⟩, hl.answered⟩, hl.stage, fun _ => rfl, .enter_mode :: new, congrArg (.enter_mode :: ·) hn,
                fun _ => Or.inr List.mem_cons_self⟩, ?_⟩
              have hv' : Visit { chip.emit (.ack VDM_DP_CONFIG) with val_tmp := 1#8 } :=
                hv.set_one rfl rfl rfl rfl (writes rfl (by decide) (by decide))
              obtain ⟨h1, h2, h3, h4, h5, h6, h7, h8, h9, h10⟩ := hv'
              exact ⟨h1, h2, h3, h4, h5, h6, h7, h8, h9, h10⟩
            · exact ⟨hl, hv⟩

/-- Nothing is asked of a stage without a command. -/
theorem visit_of_no_command (h : c.vdm_state.command = none) : Visit c := by
  have hn : ∀ s, c.vdm_state = s → s.command ≠ none → False := by
    intro s hs hc
    rw [← hs, h] at hc
    exact hc rfl
  constructor
  · rw [h]
    exact fun _ _ hc => by cases hc
  · exact fun hs => (hn _ hs (by simp [VdmState.command])).elim
  · exact fun hs => (hn _ hs (by simp [VdmState.command])).elim
  · rintro _ (hs | hs)
    · exact (hn _ hs (by simp [VdmState.command])).elim
    · exact (hn _ hs (by simp [VdmState.command])).elim
  · exact fun hs => (hn _ hs (by simp [VdmState.command])).elim
  · exact fun hs => (hn _ hs (by simp [VdmState.command])).elim
  · exact fun hs => (hn _ hs (by simp [VdmState.command])).elim
  · exact fun hs => (hn _ hs (by simp [VdmState.command])).elim
  · exact fun _ hs => (hn _ hs (by simp [VdmState.command])).elim
  · rw [h]
    exact fun _ _ _ _ hc => by cases hc

theorem err_discovers (h : LogRight start c) : Discovers start (set_vdm_state c .ERR) :=
  ⟨h.stage_set (answered_err _) rfl rfl id, visit_of_no_command rfl⟩

/-- The message in hand is a stray acknowledgement. -/
def stray_msg (chip : Chip) : Bool :=
  GET_VDMHEAD_STRUCT_TYPE (chip.rec_obj 0) != 0 && GET_VDMHEAD_CMD_TYPE (chip.rec_obj 0) == VDM_TYPE_ACK &&
    stray chip (GET_VDMHEAD_CMD (chip.rec_obj 0))

theorem process_vdm_msg_discovers (h : Discovers start chip) (hs : stray_msg chip = false) :
    Discovers start (process_vdm_msg chip) := by
  unfold process_vdm_msg
  dsimp only
  split
  · exact h
  · rename_i ht
    split
    · split
      · exact h.quiet (.of_eq (by simp)) (by simp) (by simp) (Or.inr (by simp))
      · exact h
    · split
      · rename_i hack
        refine process_vdm_ack_discovers h ?_
        unfold stray_msg at hs
        rwa [hack, bne_iff_ne.2 ht, beq_self_eq_true, Bool.true_and, Bool.true_and] at hs
      · split
        · exact err_discovers h.log
        · exact h

/-! ## The discovery machine -/

/-- `AUTO_VDM_HANDLE` of a result keeps the agreement. -/
def Handled (start : Chip) (r : Chip × VdmRet) : Prop :=
  match r.2 with
  | .zero => Discovers start (set_vdm_state r.1 r.1.vdm_state.next)
  | .EINPROGRESS => Discovers start r.1
  | _ => LogRight start r.1

theorem auto_vdm_handle_discovers {func : Chip → Evt → Chip × VdmRet} (h : Handled start (func chip evt)) :
    Discovers start (AUTO_VDM_HANDLE func chip evt) := by
  unfold AUTO_VDM_HANDLE Handled at *
  dsimp only
  split
  · rename_i hr
    rw [hr] at h
    exact h.quiet (.refl _) rfl id (Or.inr ⟨rfl, id⟩)
  · rename_i hr
    rw [hr] at h
    exact h
  · rename_i h0 h1
    refine err_discovers ?_
    cases hr : (func chip evt).2 with
    | zero => exact absurd hr h0
    | EINPROGRESS => exact absurd hr h1
    | EPIPE =>
      rw [hr] at h
      exact h
    | ETIMEDOUT =>
      rw [hr] at h
      exact h

variable {acks : Chip → Bool} {begin : Chip → Chip} {finish : Chip → Chip × VdmRet} {mode : Nat}

/-- The stage waits for its command, which it has sent. -/
structure Waiting (start : Chip) (s : VdmState) (chip : Chip) : Prop extends Discovers start chip where
  state : chip.vdm_state = s
  dfp : chip.notify.data_role = .DFP
  sending : chip.vdm_send_state ≠ 0

theorem Waiting.send {s : VdmState} (h : Waiting start s c) : Waiting start s (policy_send_data c) := by
  obtain ⟨hd, hs, hr, hn⟩ := h
  exact ⟨(discovers_ordinary start).serves.send hd, by simpa using hs, by simpa using hr, by simpa using hn⟩

theorem Waiting.sent {s : VdmState} (h : Waiting start s c) {t : Timers} :
    Waiting start s { c with vdm_send_state := 2, toTimers := t } := by
  obtain ⟨⟨hl, hv⟩, hs, hr, hn⟩ := h
  have h2 : (2 : Nat) ≠ 0 := by decide
  refine ⟨⟨hl.quiet (.refl _) rfl id, ?_⟩, hs, hr, h2⟩
  exact ⟨fun _ => hv.sent hn, fun hi _ => hv.id hi hn, fun hi _ => hv.svid hi hn, hv.early, hv.svids,
    fun hm => ⟨(hv.room hm).1, fun _ => (hv.room hm).2 hn⟩, hv.queries, fun _ h0 => absurd h0 h2, hv.query, hv.late⟩

theorem waiting_waits (start : Chip) (s : VdmState) : Waits (Waiting start s) (Handled start) where
  send h := h.send
  sent h := h.sent
  failed h := (err_discovers h.log).log
  timeout h := (err_discovers h.log).log.quiet (.refl _) rfl id
  waiting h := h.toDiscovers

/-- The command is on the wire and the stage's result is cleared. -/
theorem begin_waiting {s : VdmState} (h : Discovers start chip) (hs : chip.vdm_state = s) (hc : s.command = some cmd)
    (hd : chip.notify.data_role = .DFP)
    (hk : c.vdm_state = chip.vdm_state ∧ c.val_tmp = chip.val_tmp ∧ c.notify.data_role = chip.notify.data_role ∧
      c.log = .vdm cmd :: chip.log)
    (hi : c.vdm_send_state = 1) (ht : c.tx_state = .tx_idle)
    (he : c.notify.is_enter_mode = true → chip.notify.is_enter_mode = true)
    (hid : s = .DISCOVERY_ID → c.vdm_id = 0#32) (hsv : s = .DISCOVERY_SVID → c.vdm_svid_num = 0)
    (hm : s = .DISCOVERY_MODES → c.vdm_svid_num = chip.vdm_svid_num ∧ (chip.val_tmp >>> 1).toNat ≠ chip.vdm_svid_num) :
    Waiting start s (policy_send_data c) := by
  obtain ⟨hst, hv, hr, hl⟩ := hk
  rw [policy_send_data_idle c ht]
  -- the frame that goes out is the one the stage has just built
  have hsent : ∀ c' ∈ s.command, transmitted c' (.fifo (senddata c) c.conn_state :: c.log) = true := by
    intro c' hc'
    rw [hc] at hc'
    cases hc'
    rw [hl, transmitted, builds, beq_self_eq_true, Bool.true_or]
  have hnum := h.visit.svids
  have hroom := h.visit.room
  have hearly := h.visit.early
  have hqueries := h.visit.queries
  have hquery := h.visit.query
  have hlate := h.visit.late
  rw [hs] at hnum hroom hearly hqueries hquery hlate hst
  refine ⟨⟨⟨⟨trivial, by rw [hl]; exact ⟨trivial, h.log.answered⟩⟩, ?_, fun _ => rfl, ?_⟩, ?_⟩, hst, hr.trans hd, ?_⟩
  · change stage_of c.log = c.vdm_state
    rw [hl, hst, ← hs]
    exact h.log.stage
  · refine h.log.entered.add (p := fun _ => True) ⟨[.fifo (senddata c) c.conn_state, .vdm cmd], ?_, fun _ _ => trivial⟩ he
    change Entry.fifo _ _ :: c.log = _
    rw [hl]
    rfl
  · constructor <;> dsimp only <;> rw [hst]
    · exact fun _ => hsent
    · exact fun hx _ hn => absurd (hid hx) hn
    · exact fun hx _ hn => absurd (hsv hx) hn
    · rw [hr, hv]
      exact hearly
    · intro hx
      rw [(hm hx).1]
      exact hnum hx
    · intro hx
      obtain ⟨he, hne⟩ := hm hx
      rw [hv, he]
      exact ⟨(hroom hx).1, fun _ => hne⟩
    · rw [hv, hl]
      exact hqueries
    · intro _ h0
      rw [hi] at h0
      cases h0
    · rw [hr, hv, hl]
      exact hquery
    · rw [hr, hv, hl]
      exact hlate
  · change c.vdm_send_state ≠ 0
    rw [hi]
    decide

/-- The next stage is entered with nothing sent. -/
theorem advance_handled (h : LogRight start c) (hl : left_rightly c.log) (hv : c.val_tmp = 0#8)
    (hi : c.vdm_send_state = 0) (hm : c.vdm_state.next = .DISCOVERY_MODES → c.vdm_svid_num ≠ 0) :
    Handled start (c, .zero) :=
  ⟨h.stage_set (fun _ => hl) rfl rfl id, visit_fresh hi hv fun hs => ⟨hm hs, rfl⟩⟩

theorem Waiting.left_rightly {s : VdmState} (h : Waiting start s c) (hs : s ≠ .DISCOVERY_MODES)
    (ha : ∀ cmd ∈ s.command, acked cmd c.log = true) : left_rightly c.log := by
  unfold Fusb302.left_rightly
  rw [h.log.stage, h.state]
  cases s <;> first | exact ha | exact absurd rfl hs

theorem discoveryid_handled (h : Discovers start chip) (hs : chip.vdm_state = .DISCOVERY_ID)
    (hd : chip.notify.data_role = .DFP) : Handled start (vdm_send_discoveryid chip evt) := by
  refine (waiting_waits start _).vdm_send (fun _ => ?_) (fun hn => ⟨h, hs, hd, hn⟩) ?_
  · refine begin_waiting h hs rfl hd ?_ rfl rfl ?_ (fun _ => rfl) (fun hx => by cases hx) (fun hx => by cases hx)
    · exact ⟨rfl, rfl, rfl, rfl⟩
    · exact id
  · intro c hw ha
    have hacked : ∀ cmd ∈ VdmState.DISCOVERY_ID.command, acked cmd c.log = true := by
      intro cmd hc
      cases hc
      exact hw.visit.id hw.state hw.sending (by simpa using ha)
    refine advance_handled (hw.log.quiet (.refl _) rfl id) (hw.left_rightly (by decide) hacked) ?_ rfl ?_
    · exact hw.visit.early hw.dfp (Or.inl hw.state)
    · intro hx
      have hst := hw.state
      dsimp only at hx
      rw [hst] at hx
      cases hx

theorem discoverysvid_handled (h : Discovers start chip) (hs : chip.vdm_state = .DISCOVERY_SVID)
    (hd : chip.notify.data_role = .DFP) : Handled start (vdm_send_discoverysvid chip evt) := by
  refine (waiting_waits start _).vdm_send (fun _ => ?_) (fun hn => ⟨h, hs, hd, hn⟩) ?_
  · refine begin_waiting h hs rfl hd ?_ rfl rfl ?_ (fun hx => by cases hx) (fun _ => rfl) (fun hx => by cases hx)
    · exact ⟨rfl, rfl, rfl, rfl⟩
    · exact id
  · intro c hw ha
    have hn : c.vdm_svid_num ≠ 0 := by simpa using ha
    have hacked : ∀ cmd ∈ VdmState.DISCOVERY_SVID.command, acked cmd c.log = true := by
      intro cmd hc
      cases hc
      exact hw.visit.svid hw.state hw.sending hn
    refine advance_handled (hw.log.quiet (.refl _) rfl id) (hw.left_rightly (by decide) hacked) ?_ rfl fun _ => hn
    exact hw.visit.early hw.dfp (Or.inr hw.state)

/-- One mode query is completed, and none is open. -/
theorem query_handled (h : Waiting start .DISCOVERY_MODES c) (ha : c.val_tmp &&& 1#8 ≠ 0#8) :
    Discovers start { c with
      vdm_send_state := 0, val_tmp := (c.val_tmp &&& 0xfe#8) + 2#8, work_continue := true, log := .query :: c.log } := by
  have hq := h.visit.query h.dfp h.state ha
  obtain ⟨hle, hne⟩ := h.visit.room h.state
  obtain ⟨hn, h1⟩ := count_query c.val_tmp c.vdm_svid_num (by have := hne h.sending; omega)
  have hl : LogRight start { c with
      vdm_send_state := 0, val_tmp := (c.val_tmp &&& 0xfe#8) + 2#8, work_continue := true, log := .query :: c.log } :=
    ⟨⟨hq, h.log.answered⟩, h.log.stage, fun _ => rfl, h.log.entered.add (p := fun _ => True) ⟨[.query], rfl, fun _ _ => trivial⟩ id⟩
  have hs : ∀ s, c.vdm_state = s → s = .DISCOVERY_MODES := fun s hs => hs.symm.trans h.state
  refine ⟨hl, ⟨fun h0 => absurd rfl h0, fun _ h0 => absurd rfl h0, fun _ h0 => absurd rfl h0, ?_, h.visit.svids,
    fun _ => ⟨hn, fun h0 => absurd rfl h0⟩, fun _ _ => rfl, fun _ _ => rfl, fun _ _ h0 => absurd h1 h0, ?_⟩⟩
  · rintro _ (hx | hx)
    · cases hs _ hx
    · cases hs _ hx
  · rintro _ _ (hx | hx | hx)
    · cases hs _ hx
    · cases hs _ hx
    · cases hs _ hx

theorem discoverymodes_handled (h : Discovers start chip) (hs : chip.vdm_state = .DISCOVERY_MODES)
    (hd : chip.notify.data_role = .DFP) : Handled start (vdm_send_discoverymodes chip evt) := by
  unfold vdm_send_discoverymodes
  split
  · rename_i hne
    refine (waiting_waits start _).vdm_send (fun _ => ?_) (fun hn => ⟨h, hs, hd, hn⟩) ?_
    · refine begin_waiting h hs rfl hd ?_ rfl rfl ?_ (fun hx => by cases hx) (fun hx => by cases hx) (fun _ => ⟨rfl, hne⟩)
      · exact ⟨rfl, rfl, rfl, rfl⟩
      · exact id
    · intro c hw ha
      have hq := query_handled hw (by simpa using ha)
      exact hq
  · rename_i heq
    have heq := not_not.1 heq
    -- all queries are done: none is open, and there was at least one
    obtain ⟨_, hne⟩ := h.visit.room hs
    have hi : chip.vdm_send_state = 0 := not_not.1 fun hn => hne hn heq
    have hq := h.visit.queries hs (by rw [heq]; exact h.visit.svids hs)
    refine advance_handled (h.log.quiet (.refl _) rfl id) ?_ rfl hi ?_
    · unfold left_rightly
      dsimp only
      rw [h.log.stage, hs]
      exact ⟨hq, h.visit.unsent hs hi⟩
    · intro hx
      dsimp only at hx
      rw [hs] at hx
      cases hx

/-- The last three stages wait for `val_tmp` and clear it. -/
theorem send_val_handled {s : VdmState} (h : Discovers start chip) (hs : chip.vdm_state = s)
    (hd : chip.notify.data_role = .DFP) (hc : s.command = some cmd)
    (hlate : s = .ENTER_MODE ∨ s = .UPDATE_STATUS ∨ s = .DP_CONFIG)
    (hb : ∀ c, ∃ b, begin c = { c with notify.is_enter_mode := b } ∧ (b = true → c.notify.is_enter_mode = true)) :
    Handled start (vdm_send_val cmd mode begin chip evt) := by
  have hne : s ≠ .DISCOVERY_ID ∧ s ≠ .DISCOVERY_SVID ∧ s ≠ .DISCOVERY_MODES ∧ s.next ≠ .DISCOVERY_MODES := by
    rcases hlate with rfl | rfl | rfl <;> decide
  obtain ⟨h1, h2, h3, h4⟩ := hne
  refine (waiting_waits start _).vdm_send (fun _ => ?_) (fun hn => ⟨h, hs, hd, hn⟩) ?_
  · obtain ⟨b, he, hm⟩ := hb (set_vdm_mesg chip cmd VDM_TYPE_INIT mode)
    obtain ⟨hp, hv, hr, hn⟩ := set_vdm_mesg_frame chip cmd VDM_TYPE_INIT mode
    rw [he]
    rw [hn] at hm
    refine begin_waiting h hs hc hd ?_ rfl rfl hm (fun hx => absurd hx h1) (fun hx => absurd hx h2) (fun hx => absurd hx h3)
    have hst := congrArg Vdm.vdm_state hv
    have hvt := congrArg Policy.val_tmp hp
    exact ⟨hst, hvt, hr, set_vdm_mesg_log ..⟩
  · intro c hw ha
    have hacked : ∀ cmd ∈ s.command, acked cmd c.log = true := by
      intro cmd hc
      rw [← hw.state] at hc hlate
      exact hw.visit.late hw.dfp (by simpa using ha) hlate cmd hc
    refine advance_handled (hw.log.quiet (.refl _) rfl id) (hw.left_rightly h3 hacked) rfl rfl ?_
    intro hx
    dsimp only at hx
    rw [hw.state] at hx
    exact absurd hx h4

theorem auto_vdm_machine_discovers (h : Discovers start chip) (hd : chip.notify.data_role = .DFP) :
    Discovers start (auto_vdm_machine chip evt) := by
  unfold auto_vdm_machine
  split
  · exact auto_vdm_handle_discovers (discoveryid_handled h ‹_› hd)
  · exact auto_vdm_handle_discovers (discoverysvid_handled h ‹_› hd)
  · exact auto_vdm_handle_discovers (discoverymodes_handled h ‹_› hd)
  · refine auto_vdm_handle_discovers (send_val_handled h ‹_› hd rfl (Or.inl rfl) fun c => ⟨false, rfl, ?_⟩)
    intro hb
    cases hb
  · exact auto_vdm_handle_discovers
      (send_val_handled h ‹_› hd rfl (Or.inr (Or.inl rfl)) fun c => ⟨c.notify.is_enter_mode, rfl, id⟩)
  · exact auto_vdm_handle_discovers
      (send_val_handled h ‹_› hd rfl (Or.inr (Or.inr rfl)) fun c => ⟨c.notify.is_enter_mode, rfl, id⟩)
  · rename_i hs
    have hn : left_rightly (platform_fusb_notify chip).log := by
      unfold left_rightly
      have hl : stage_of (platform_fusb_notify chip).log = .NOTIFY := by
        rw [← hs, ← h.log.stage]
        rfl
      rw [hl]
      intro _ hc
      cases hc
    exact ⟨h.log.stage_set (fun _ => hn) rfl rfl id, visit_of_no_command rfl⟩
  · exact h

/-! ## The ready states -/

theorem active_dfp (h : VDM_IS_ACTIVE c = true) : c.notify.data_role = .DFP := by
  unfold VDM_IS_ACTIVE at h
  exact beq_iff_eq.1 (Bool.and_eq_true_iff.1 h).1

/-! ## One step -/

/-- The log fits together, and agrees with the discovery unless it is about to start again. -/
structure Tracks (start chip : Chip) : Prop where
  log : LogRight start chip
  visit : resetting chip.conn_state = true ∨ Visit chip

theorem Discovers.tracks (h : Discovers start c) : Tracks start c := ⟨h.log, Or.inr h.visit⟩

/-- The ready states process a stray acknowledgement. -/
def strays (chip : Chip) (evt : Evt) : Bool :=
  (chip.conn_state == .policy_src_ready || chip.conn_state == .policy_snk_ready) && evt.rx &&
    PACKET_IS_DATA_MSG chip.rec_head DMT_VENDERDEFINED && stray_msg chip

theorem not_stray (hc : chip.conn_state = .policy_src_ready ∨ chip.conn_state = .policy_snk_ready)
    (hx : strays chip evt = false) (hv : vdm_in_hand chip evt = true) : stray_msg chip = false := by
  obtain ⟨hrx, hp⟩ := Bool.and_eq_true_iff.1 hv
  unfold strays at hx
  rw [hrx, hp] at hx
  rcases hc with hc | hc
  all_goals rw [hc] at hx; exact hx

theorem dispatch_tracks (h : Tracks start chip) (hx : strays chip evt = false) : Tracks start (dispatch chip evt) := by
  obtain ⟨hl, hr | hv⟩ := h
  · have hs : Ordinary.special chip.conn_state = false := by
      generalize chip.conn_state = s at hr
      cases s <;> first | rfl | cases hr
    exact ⟨(logRight_ordinary start).serves.dispatch hl hs, (resetting_step hr).imp_right JustReset.visit⟩
  · have k := (discovers_ordinary start).serves
    have h : Discovers start chip := ⟨hl, hv⟩
    refine Discovers.tracks ?_
    exact k.switch h {
      offer := fun _ _ _ => negotiate_cap_discovers
      negotiate := fun _ => negotiate_cap_discovers h
      evaluate := fun _ => build_request_discovers (evaluate_caps_discovers h)
      select := fun _ _ => build_request_discovers h
      vdm := fun hc hv => process_vdm_msg_discovers h (not_stray hc hx hv)
      auto := fun _ hr ha => auto_vdm_machine_discovers hr (active_dfp ha) }

theorem Tracks.stay (h : Tracks start c) (hl : Trace.Added Entry.silent c.log c'.log)
    (hp : c'.conn_state = c.conn_state ∧ c'.val_tmp = c.val_tmp) (hv : c'.toVdm = c.toVdm)
    (hn : c'.notify = c.notify) : Tracks start c' := by
  refine ⟨h.log.quiet hl (congrArg Vdm.vdm_state hv) (by rw [hn]; exact id), ?_⟩
  rw [hp.1]
  exact h.visit.imp_right fun hvis => hvis.quiet h.log.unbuilt hl hv (Or.inr ⟨hp.2, by rw [hn]; exact id⟩)

theorem tracks_survives (env : Env) : Survives chip env (Tracks start) where
  observe _ h := h.stay (.refl _) ⟨rfl, rfl⟩ rfl rfl
  phy c c' hk h := by
    obtain ⟨hp, _, _, _, _, hv, hn, hl, _⟩ := hk
    exact h.stay (.of_eq hl) (by rw [hp]; exact ⟨rfl, rfl⟩) hv hn
  sent _ h := h.stay (.cons (e := Entry.sent) trivial (.refl _)) ⟨rfl, rfl⟩ rfl rfl
  retryfail _ h := h.stay (.cons (e := Entry.retryfail) trivial (.refl _)) ⟨rfl, rfl⟩ rfl rfl
  hard_reset _ c h := by
    have hp : LogRight start (fusb302_pd_reset c) := (logRight_ordinary start).serves.pd_reset h.log
    unfold pd_execute_hard_reset
    dsimp only
    have hs : LogRight start (set_vdm_state { fusb302_pd_reset c with msg_id := 0 } .DISCOVERY_ID) :=
      hp.stage_set (answered_first _) rfl rfl id
    split
    · exact ⟨(logRight_ordinary start).serves.move hs rfl, Or.inl rfl⟩
    · exact ⟨(logRight_ordinary start).serves.move hs rfl, Or.inl rfl⟩
  hardsent _ h := h.stay (.refl _) ⟨rfl, rfl⟩ rfl rfl
  expire _ _ h := h.stay (.refl _) ⟨rfl, rfl⟩ rfl rfl
  collect _ _ _ h := h.stay (.refl _) ⟨rfl, rfl⟩ rfl rfl
  unattached _ h := ⟨(logRight_ordinary start).serves.unattached (logRight_ordinary start).serves.toResets h.log, Or.inl (by rw [set_state_unattached_frame.1]; rfl)⟩
  message c h := by
    obtain ⟨_, _, hp, _, _, _, hv, _, hn, _⟩ := tcpm_get_message_frame c
    refine h.stay ?_ (by rw [hp]; exact ⟨rfl, rfl⟩) hv hn
    rcases get_message_log c c.fifo with hl | ⟨m, hl⟩
    · exact .of_eq hl
    · rw [tcpm_get_message, hl]
      exact .cons trivial (.refl _)
  softrst _ c h := by
    refine ⟨(logRight_ordinary start).serves.either h.log rfl rfl, Or.inl ?_⟩
    simp only [set_state]
    split <;> rfl
  count _ h := h.stay (.refl _) ⟨rfl, rfl⟩ rfl rfl

/-! ## Runs -/

/-- A ready state processes a stray acknowledgement in this step. -/
def misacks (chip : Chip) : Act → Prop
  | .work env => strays (at_switch chip env) (events chip env) = true
  | _ => False

instance (act : Act) : Decidable (misacks chip act) := by
  unfold misacks
  cases act <;> infer_instance

theorem step_tracks (h : Tracks start chip) {act : Act} (hx : ¬misacks chip act) : Tracks start (step chip act) := by
  refine step_keeps (fun env => (tracks_survives env).passes) h ?_
  rintro env rfl _ ha
  exact dispatch_tracks ha (eq_false_of_ne_true hx)

/-- The log accounts for what is new since any state. -/
theorem Tracks.restart (h : Tracks start chip) : Tracks chip chip :=
  ⟨⟨h.log.answered, h.log.stage, h.log.unbuilt, [], rfl, Or.inl⟩, h.visit⟩

theorem probe_tracks (board : Board) : Tracks (fusb30x_probe board) (fusb30x_probe board) := by
  refine ⟨⟨?_, ?_, ?_, [], rfl, Or.inl⟩, Or.inl (by simp [fusb30x_probe, resetting, attaching])⟩
  · simp [fusb30x_probe, kzalloc, Answered]
  · simp [fusb30x_probe, kzalloc, stage_of]
  · simp [fusb30x_probe, kzalloc, builds]

/-- In a run whose ready states process no stray acknowledgement, every stage
of the discovery is left, and alternate mode entered, only on an
acknowledgement of what was sent. -/
theorem discovery_acked (board : Board) (acts : List Act)
    (h : Runs.Meets step (fun chip act => ¬misacks chip act) (fusb30x_probe board) acts) :
    Runs.Meets step Advances (fusb30x_probe board) acts := by
  refine h.imp (I := fun chip => Tracks chip chip) ?_ ?_ (probe_tracks board)
  · intro chip act ht hx
    exact (step_tracks ht hx).restart
  · intro chip act ht hx
    have hs := step_tracks ht hx
    exact ⟨hs.log.answered, hs.log.entered⟩

/-- From a source that is ready to the first stage acknowledged: it asks for
the sink's capabilities first. -/
def discover_id : List Act :=
  [idle, idle, txsent, received (data DMT_SINKCAPABILITIES [0x00019096#32]), idle, txsent,
    received (data DMT_VENDERDEFINED [0xff008041#32, 0x1#32])]

theorem identity_acked :
    Runs.Meets step Advances (fusb30x_probe {}) (attach_source ++ contract ++ [txsent] ++ discover_id) :=
  discovery_acked _ _ (by decide +kernel)

theorem not_meets_last {board : Board} {acts : List Act} {act : Act}
    (h : ¬Trace.Each Answered (step (ran board acts) act).log) :
    ¬Runs.Meets step Advances (fusb30x_probe board) (acts ++ [act]) := by
  intro hm
  exact h (meets_last hm).answered

/-- A partner that acknowledges a DP_CONFIG nobody sent switches the port to alternate mode. -/
theorem unasked_config_enters :
    ¬Runs.Meets step Advances (fusb30x_probe {})
      (attach_source ++ contract ++ [txsent] ++ [received (data DMT_VENDERDEFINED [0xff018051#32])]) := by
  apply not_meets_last
  decide +kernel

end Fusb302
