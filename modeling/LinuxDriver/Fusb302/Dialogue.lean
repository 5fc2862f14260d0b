import LinuxDriver.Fusb302.Modes
import LinuxDriver.Fusb302.Special
import LinuxDriver.Fusb302.Svids
/-!
# The dialogue with a DisplayPort partner

The discovery asks for the modes of every SVID the partner reports and keeps
the last mode that has pins; what follows is written for DisplayPort. When the
discovery ends with DisplayPort reported and the mode kept given for it, the
later stages have what they need until their last command is built.
-/

namespace Fusb302

/-! ## What the log says about the partner -/

abbrev DP_SVID : BitVec 16 := 0xff01#16

/-- The SVIDs a message carries. -/
def PdMsg.svids (m : PdMsg) : List (BitVec 16) :=
  Fusb302.svids fun i => if i.val < PD_HEADER_CNT m.head then m.load i else 0#32

/-- The SVID a message is about. -/
def PdMsg.svid (m : PdMsg) : BitVec 16 := (m.load 0 >>> 16).setWidth 16

/-- The first mode of a message has pins. -/
def PdMsg.has_pins (m : PdMsg) : Bool :=
  decide (PD_HEADER_CNT m.head > 1) && !decide ((m.load 1 >>> 8) &&& 0x3f#32 = 0#32 ∧ (m.load 1 >>> 16) &&& 0x3f#32 = 0#32)

/-- The message received, if an entry records one. -/
def Entry.heard : Entry → Option PdMsg
  | .recv m => some m
  | _ => none

/-- The message received last. -/
def heard (l : List Entry) : Option PdMsg := l.findSome? Entry.heard

/-- DisplayPort is among the SVIDs acknowledged since the last DISCOVERY_SVIDS request. -/
def reports : List Entry → Bool
  | [] => false
  | .vdm cmd :: l => cmd != VDM_DISCOVERY_SVIDS && reports l
  | .ack cmd :: l => (cmd == VDM_DISCOVERY_SVIDS && (heard l).any fun m => m.svids.contains DP_SVID) || reports l
  | _ :: l => reports l

/-- The last answer since then that gave a mode with pins. -/
def mode_of : List Entry → Option PdMsg
  | [] => none
  | .vdm cmd :: l => if cmd = VDM_DISCOVERY_SVIDS then none else mode_of l
  | .ack cmd :: l => if cmd = VDM_DISCOVERY_MODES then ((heard l).filter PdMsg.has_pins).or (mode_of l) else mode_of l
  | _ :: l => mode_of l

/-- The partner reported DisplayPort, and the last mode with pins was given for it. -/
def for_display_port (l : List Entry) : Bool := reports l && (mode_of l).any fun m => m.svid == DP_SVID

/-! ## The invariant -/

/-- A command of DisplayPort is still to be built. -/
def late (chip : Chip) : Prop :=
  chip.vdm_state = .ENTER_MODE ∨ chip.vdm_state = .UPDATE_STATUS ∨ (chip.vdm_state = .DP_CONFIG ∧ chip.vdm_send_state = 0)

/-- The later stages have what DisplayPort needs, and `kept` is the mode the log says was kept. -/
structure Dialogue (kept : BitVec 32 × BitVec 32) (chip : Chip) : Prop where
  late : late chip → for_display_port chip.log = true
  held : asked chip ∨ Fusb302.late chip → ∀ m, mode_of chip.log = some m → kept = (m.load 1, PD_DP_PIN_CAPS (m.load 1))

/-- The message registers hold the message received last. -/
structure Heard (chip : Chip) : Prop where
  head : PD_HEADER_CNT chip.rec_head ≠ 0 → ∃ m, heard chip.log = some m ∧ chip.rec_head = m.head
  load : ∀ m, heard chip.log = some m → ∀ i : Fin 7, i.val < PD_HEADER_CNT m.head → chip.rec_load i = m.load i

variable {kept : BitVec 32 × BitVec 32} {chip c c' : Chip} {evt : Evt} {l l' : List Entry} {cmd : Nat}

/-- Entries that say nothing about the partner. -/
def Entry.apart : Entry → Prop
  | .vdm cmd => cmd ≠ VDM_DISCOVERY_SVIDS
  | .ack cmd => cmd ≠ VDM_DISCOVERY_SVIDS ∧ cmd ≠ VDM_DISCOVERY_MODES
  | _ => True

theorem apart_of_ordinary {e : Entry} (h : e.ordinary = true) : e.apart := by
  cases e with
  | vdm cmd => cases h
  | ack cmd => cases h
  | _ => trivial

/-- The log says the same about the partner. -/
structure SamePartner (l' l : List Entry) : Prop where
  reports : reports l' = reports l
  mode_of : mode_of l' = mode_of l

theorem same_partner (h : Trace.Added Entry.apart l l') : SamePartner l' l := by
  refine h.induct (R := fun l' => SamePartner l' l) ?_ ⟨rfl, rfl⟩
  rintro e l'' he ⟨hr, hm⟩
  cases e with
  | vdm cmd =>
    refine ⟨?_, ?_⟩
    · rw [reports, hr, bne_iff_ne.2 he, Bool.true_and]
    · rw [mode_of, if_neg he, hm]
  | ack cmd =>
    refine ⟨?_, ?_⟩
    · rw [reports, hr, beq_false_of_ne he.1, Bool.false_and, Bool.false_or]
    · rw [mode_of, if_neg he.2, hm]
  | _ => exact ⟨hr, hm⟩

theorem asked_congr (hv : c'.toVdm = c.toVdm) : asked c' = asked c := by
  unfold asked
  rw [hv]

theorem late_congr (hv : c'.toVdm = c.toVdm) : Fusb302.late c' = Fusb302.late c := by
  unfold Fusb302.late
  rw [hv]

theorem SamePartner.for_display_port (h : SamePartner l' l) : for_display_port l' = for_display_port l := by
  unfold Fusb302.for_display_port
  rw [h.reports, h.mode_of]

/-- The discovery stands where it did. -/
theorem Dialogue.stay (h : Dialogue kept c) (hl : SamePartner c'.log c.log) (hv : c'.toVdm = c.toVdm) : Dialogue kept c' := by
  constructor
  · rw [late_congr hv, hl.for_display_port]
    exact h.late
  · rw [asked_congr hv, late_congr hv, hl.mode_of]
    exact h.held

theorem Dialogue.quiet (h : Dialogue kept c) (hl : Trace.Added Entry.apart c.log c'.log) (hv : c'.toVdm = c.toVdm) :
    Dialogue kept c' := h.stay (same_partner hl) hv

/-- A stage sends its command, or goes on waiting. -/
theorem Dialogue.send (h : Dialogue kept c) (hl : c'.log = c.log) (ha : asked c' → asked c)
    (hla : Fusb302.late c' → Fusb302.late c) : Dialogue kept c' := by
  constructor
  · rw [hl]
    exact fun hx => h.late (hla hx)
  · rw [hl]
    exact fun hx => h.held (hx.imp ha hla)

/-- A stage that neither counts answers nor is written for DisplayPort needs nothing. -/
theorem dialogue_of_not (ha : ¬asked c) (hl : ¬late c) : Dialogue kept c :=
  ⟨fun h => absurd h hl, fun h => absurd h (not_or.2 ⟨ha, hl⟩)⟩

/-- A stage that is none of the discovery asks nothing. -/
theorem dialogue_over (hs : c.vdm_state = .NOTIFY ∨ c.vdm_state = .READY ∨ c.vdm_state = .ERR) : Dialogue kept c := by
  apply dialogue_of_not
  · rintro (⟨hx, -⟩ | hx) <;> rcases hs with hs | hs | hs <;> cases hs.symm.trans hx
  · rintro (hx | hx | ⟨hx, -⟩) <;> rcases hs with hs | hs | hs <;> cases hs.symm.trans hx

/-- The discovery starts, or goes on to ask for SVIDs, with nothing sent. -/
theorem dialogue_early (hs : c.vdm_state = .DISCOVERY_ID ∨ (c.vdm_state = .DISCOVERY_SVID ∧ c.vdm_send_state = 0)) :
    Dialogue kept c := by
  apply dialogue_of_not
  · rintro (⟨hx, hn⟩ | hx) <;> rcases hs with hs | ⟨hs, h0⟩
    · cases hs.symm.trans hx
    · exact hn h0
    · cases hs.symm.trans hx
    · cases hs.symm.trans hx
  · rintro (hx | hx | ⟨hx, -⟩) <;> rcases hs with hs | ⟨hs, -⟩ <;> cases hs.symm.trans hx

theorem JustReset.dialogue (h : JustReset c) : Dialogue kept c := dialogue_early (Or.inl h.stage)

/-! ## Ordinary handlers -/

theorem dialogue_ordinary (kept : BitVec 32 × BitVec 32) : Ordinary (Dialogue kept) where
  view := by
    intro c c' h hv
    simp only [Chip.view, View.mk.injEq] at hv
    obtain ⟨_, _, _, _, _, _, hv, _, hl⟩ := hv
    exact h.quiet (.of_eq hl) hv
  move h _ := h.quiet (.refl _) rfl
  recast _ h _ := h.quiet (.refl _) rfl
  sub _ h _ := h.quiet (.refl _) rfl
  log h he := h.quiet (.cons (apart_of_ordinary he) (.refl _)) rfl
  soft_reset _ := JustReset.dialogue ⟨rfl, rfl, rfl⟩
  renumber _ h := h.quiet (.refl _) rfl
  forget h := h.quiet (.refl _) rfl

theorem negotiate_cap_dialogue (h : Dialogue kept c) : Dialogue kept (fusb_state_src_negotiate_cap c) := by
  unfold fusb_state_src_negotiate_cap
  dsimp only
  split
  all_goals exact h.quiet (.cons (e := Entry.asked _ _) trivial (.refl _)) rfl

theorem build_request_dialogue (h : Dialogue kept c) : Dialogue kept (build_mesg c DMT_REQUEST true) := by
  refine h.quiet ?_ (by simp)
  rw [build_request_log]
  exact .cons (e := Entry.requested _ _ _) trivial (.cons (e := Entry.mesg _ _) trivial (.refl _))

theorem evaluate_caps_dialogue (h : Dialogue kept c) : Dialogue kept (fusb_state_snk_evaluate_caps c) := by
  obtain ⟨_, _, _, _, _, hd, _, hl, _⟩ := @evaluate_caps_frame c
  exact h.quiet (.of_eq hl) hd

/-! ## The message in hand -/

/-- Entries that record nothing received. -/
def Entry.unheard (e : Entry) : Prop := e.heard = none

theorem unheard_of_own {e : Entry} (h : e.own) : e.unheard := by
  cases e <;> first | rfl | exact h.elim

theorem unheard_of_ordinary {e : Entry} (h : e.ordinary = true) : e.unheard := by
  cases e <;> first | rfl | cases h

theorem Heard.quiet (h : Heard c) (hl : Trace.Added Entry.unheard c.log c'.log) (hr : c'.toRx = c.toRx) : Heard c' := by
  have he : heard c'.log = heard c.log := hl.findSome?_eq fun _ => id
  have hh : c'.rec_head = c.rec_head := congrArg Rx.rec_head hr
  have hw : c'.rec_load = c.rec_load := congrArg Rx.rec_load hr
  constructor
  · rw [hh, he]
    exact h.head
  · rw [hw, he]
    exact h.load

theorem heard_ordinary : Ordinary Heard where
  view := by
    intro c c' h hv
    simp only [Chip.view, View.mk.injEq] at hv
    obtain ⟨_, _, _, hr, _, _, _, _, hl⟩ := hv
    exact h.quiet (.of_eq hl) hr
  move h _ := h.quiet (.refl _) rfl
  recast _ h _ := h.quiet (.refl _) rfl
  sub _ h _ := h.quiet (.refl _) rfl
  log h he := h.quiet (.cons (unheard_of_ordinary he) (.refl _)) rfl
  soft_reset h := h.quiet (.cons rfl (.cons rfl (.refl _))) rfl
  renumber _ h := h.quiet (.refl _) rfl
  forget h := h.quiet (.refl _) rfl

theorem get_message_heard (h : Heard c) (fifo : List PdMsg) : Heard (get_message c fifo) := by
  induction fifo generalizing c with
  | nil => exact h
  | cons m fifo ih =>
    unfold get_message
    split
    · -- a GoodCRC carries no object
      rename_i hg
      apply ih
      refine ⟨fun hn => absurd ?_ hn, h.load⟩
      exact beq_iff_eq.1 (Bool.and_eq_true_iff.1 hg).1
    · refine ⟨fun _ => ⟨m, rfl, rfl⟩, ?_⟩
      intro m' hm i hi
      cases hm
      exact if_pos hi

theorem hard_reset_heard (h : Heard c) : Heard (pd_execute_hard_reset c) := by
  unfold pd_execute_hard_reset
  dsimp only
  split
  all_goals exact h.quiet (.cons (e := Entry.stage _) rfl (.refl _)) rfl

theorem dispatch_heard (h : Heard chip) : Heard (dispatch chip evt) := by
  have negotiate : ∀ {c}, Heard c → Heard (fusb_state_src_negotiate_cap c) := by
    intro c hc
    refine hc.quiet ((negotiate_cap_log c).mono fun _ => unheard_of_own) ?_
    unfold fusb_state_src_negotiate_cap
    dsimp only
    split <;> rfl
  have build : ∀ {c}, Heard c → Heard (build_mesg c DMT_REQUEST true) := fun hc =>
    hc.quiet (.cons rfl (.cons rfl (.refl _))) rfl
  have evaluate : Heard (fusb_state_snk_evaluate_caps chip) := by
    obtain ⟨_, _, _, _, hr, _, _, hl, _⟩ := @evaluate_caps_frame chip
    exact h.quiet (.of_eq hl) hr
  exact heard_ordinary.serves.switch h {
    offer := fun _ _ _ => negotiate
    negotiate := fun _ => negotiate h
    evaluate := fun _ => build evaluate
    select := fun _ _ => build h
    vdm := fun _ _ => h.quiet ((process_vdm_msg_talks chip).mono fun _ he => unheard_of_own (Entry.own_of_talk he))
      (process_vdm_msg_kept chip).2.2.1
    auto := fun _ hr _ => hr.quiet ((auto_vdm_machine_talks _ evt).mono fun _ he => unheard_of_own (Entry.own_of_talk he))
      (auto_vdm_machine_kept _ evt).2.2.1 }

/-! ## Acknowledgements -/

/-- The message in `rec_head` and `rec_load`. -/
def Chip.in_hand (chip : Chip) : PdMsg := ⟨chip.rec_head, chip.rec_load⟩

/-- An acknowledgement of `cmd` gives pins for another SVID, after the discovery
and before the last command is built. -/
def diverts (chip : Chip) (cmd : Nat) : Prop :=
  cmd = VDM_DISCOVERY_MODES ∧ late chip ∧ chip.in_hand.has_pins = true ∧ chip.in_hand.svid ≠ DP_SVID

theorem has_pins_iff {m : PdMsg} : m.has_pins = true ↔
    PD_HEADER_CNT m.head > 1 ∧ ¬((m.load 1 >>> 8) &&& 0x3f#32 = 0#32 ∧ (m.load 1 >>> 16) &&& 0x3f#32 = 0#32) := by
  unfold PdMsg.has_pins
  rw [Bool.and_eq_true_iff, decide_eq_true_iff, Bool.not_eq_true', decide_eq_false_iff_not]

/-- The message received last, as far as the registers hold it. -/
theorem Heard.in_hand (h : Heard c) (hc : PD_HEADER_CNT c.rec_head ≠ 0) :
    ∃ m, heard c.log = some m ∧ m.has_pins = c.in_hand.has_pins ∧ m.svid = c.in_hand.svid ∧
      (m.has_pins = true → m.load 1 = c.rec_load 1) := by
  obtain ⟨m, hm, hh⟩ := h.head hc
  have hload := h.load m hm
  rw [← hh] at hload
  have hone : PD_HEADER_CNT c.rec_head > 1 → m.load 1 = c.rec_load 1 := fun h1 => (hload 1 h1).symm
  refine ⟨m, hm, ?_, ?_, ?_⟩
  · unfold PdMsg.has_pins Chip.in_hand
    dsimp only
    rw [← hh]
    by_cases h1 : PD_HEADER_CNT c.rec_head > 1
    · rw [hone h1]
    · rw [decide_eq_false h1, Bool.false_and, Bool.false_and]
  · unfold PdMsg.svid Chip.in_hand
    dsimp only
    rw [hload 0 (Nat.pos_of_ne_zero hc)]
  · intro hp
    refine hone ?_
    rw [hh]
    exact (has_pins_iff.1 hp).1

theorem svids_dialogue (h : Dialogue kept chip) : Dialogue kept (store_svids (chip.emit (.ack VDM_DISCOVERY_SVIDS)) 6) := by
  obtain ⟨_, _, hs, hk, _, _, hl⟩ := store_svids_frame (chip.emit (.ack VDM_DISCOVERY_SVIDS)) 6
  generalize store_svids (chip.emit (.ack VDM_DISCOVERY_SVIDS)) 6 = c at *
  have ha : asked c → asked chip := by
    unfold asked
    rw [hs, hk]
    exact id
  have hla : late c → late chip := by
    unfold Fusb302.late
    rw [hs, hk]
    exact id
  have hmode : mode_of c.log = mode_of chip.log := by
    rw [hl]
    rfl
  constructor
  · intro hx
    obtain ⟨hr, hm⟩ := Bool.and_eq_true_iff.1 (h.late (hla hx))
    rw [for_display_port, hmode, hm, Bool.and_true, hl]
    change (_ || reports chip.log) = true
    rw [hr, Bool.or_true]
  · rw [hmode]
    exact fun hx => h.held (hx.imp ha hla)

theorem store_mode_pins (h : chip.in_hand.has_pins = true) :
    store_mode chip = { chip with
      notify.dp_caps := chip.rec_load 1
      notify.pin_assignment_def := 0#32
      notify.pin_assignment_support := PD_DP_PIN_CAPS (chip.rec_load 1)
      val_tmp := chip.val_tmp ||| 1#8 } := by
  obtain ⟨hc, hp⟩ := has_pins_iff.1 h
  unfold store_mode
  exact (if_pos hc).trans (if_neg hp)

theorem store_mode_bare (h : chip.in_hand.has_pins = false) :
    store_mode chip =
      { chip with val_tmp := if PD_HEADER_CNT chip.rec_head > 1 then chip.val_tmp ||| 1#8 else chip.val_tmp } := by
  unfold store_mode
  by_cases hc : PD_HEADER_CNT chip.rec_head > 1
  · rw [if_pos hc, if_pos hc]
    refine if_pos (Classical.byContradiction fun hp => ?_)
    exact Bool.false_ne_true (h.symm.trans (has_pins_iff.2 ⟨hc, hp⟩))
  · rw [if_neg hc, if_neg hc]

/-- The mode of an answer that is not mistaken is kept. -/
theorem pins_dialogue (h : Dialogue kept chip) {m : PdMsg} (hm : heard chip.log = some m) (hp : m.has_pins = true)
    (h1 : m.load 1 = chip.rec_load 1) (hc : m.svid = chip.in_hand.svid) (hp' : chip.in_hand.has_pins = true)
    (hx : ¬diverts chip VDM_DISCOVERY_MODES) :
    Dialogue (store_mode (chip.emit (.ack VDM_DISCOVERY_MODES))).mode (store_mode (chip.emit (.ack VDM_DISCOVERY_MODES))) := by
  have hmode : mode_of (.ack VDM_DISCOVERY_MODES :: chip.log) = some m := by
    rw [mode_of, if_pos rfl, hm, Option.filter_some, if_pos hp, Option.some_or]
  rw [@store_mode_pins (chip.emit (.ack VDM_DISCOVERY_MODES)) hp']
  constructor
  · intro hla
    have hsvid : m.svid = DP_SVID := by
      rw [hc]
      exact Classical.byContradiction fun hne => hx ⟨rfl, hla, hp', hne⟩
    change (reports chip.log && (mode_of (.ack VDM_DISCOVERY_MODES :: chip.log)).any fun m => m.svid == DP_SVID) = true
    rw [hmode, (Bool.and_eq_true_iff.1 (h.late hla)).1, Option.any_some, hsvid]
    rfl
  · intro _ m' hm'
    cases hmode.symm.trans hm'
    rw [h1]
    rfl

/-- An answer without pins leaves the mode that is kept. -/
theorem bare_dialogue (h : Dialogue kept chip) {m : PdMsg} (hm : heard chip.log = some m) (hp : m.has_pins = false)
    (hp' : chip.in_hand.has_pins = false) : Dialogue kept (store_mode (chip.emit (.ack VDM_DISCOVERY_MODES))) := by
  have hl : SamePartner (.ack VDM_DISCOVERY_MODES :: chip.log) chip.log := by
    refine ⟨rfl, ?_⟩
    rw [mode_of, if_pos rfl, hm, Option.filter_some, if_neg (by rw [hp]; decide), Option.none_or]
  rw [@store_mode_bare (chip.emit (.ack VDM_DISCOVERY_MODES)) hp']
  exact h.stay hl rfl

theorem process_vdm_ack_dialogue (h : Dialogue chip.mode chip) (hh : Heard chip)
    (hc : PD_HEADER_CNT chip.rec_head ≠ 0) (hx : ¬diverts chip cmd) :
    Dialogue (process_vdm_ack (chip.emit (.ack cmd)) cmd).mode (process_vdm_ack (chip.emit (.ack cmd)) cmd) := by
  obtain ⟨m, hm, hpins, hsvid, h1⟩ := hh.in_hand hc
  -- the other commands change nothing the dialogue is about
  have other : ∀ {c'}, cmd ≠ VDM_DISCOVERY_SVIDS → cmd ≠ VDM_DISCOVERY_MODES →
      Trace.Added Entry.apart (.ack cmd :: chip.log) c'.log → c'.toVdm = chip.toVdm → Dialogue chip.mode c' := by
    intro c' hns hnm hl hv
    exact h.quiet ((Trace.Added.cons (e := Entry.ack cmd) ⟨hns, hnm⟩ (.refl _)).trans hl) hv
  unfold process_vdm_ack
  split
  · rename_i hi
    subst hi
    have ha : Dialogue chip.mode (chip.emit (.ack VDM_DISCOVERY_ID)) :=
      h.quiet (.cons (e := Entry.ack _) ⟨by decide, by decide⟩ (.refl _)) rfl
    exact ⟨ha.late, ha.held⟩
  · split
    · rename_i hs
      subst hs
      have hk : (store_svids (chip.emit (.ack VDM_DISCOVERY_SVIDS)) 6).mode = chip.mode := by
        obtain ⟨_, _, _, _, _, hnot, _⟩ := store_svids_frame (chip.emit (.ack VDM_DISCOVERY_SVIDS)) 6
        unfold Chip.mode
        rw [hnot]
        rfl
      rw [hk]
      exact svids_dialogue h
    · split
      · rename_i hmd
        subst hmd
        cases hp : m.has_pins with
        | true => exact pins_dialogue h hm hp (h1 hp) hsvid (hpins ▸ hp) hx
        | false =>
          have hp' : chip.in_hand.has_pins = false := hpins ▸ hp
          have hk : (store_mode (chip.emit (.ack VDM_DISCOVERY_MODES))).mode = chip.mode := by
            rw [@store_mode_bare (chip.emit (.ack VDM_DISCOVERY_MODES)) hp']
            rfl
          rw [hk]
          exact bare_dialogue h hm hp hp'
      · rename_i hns hnm
        repeat' split
        · exact other hns hnm (.refl _) rfl
        · exact other hns hnm (.refl _) rfl
        · exact other hns hnm (.cons (e := Entry.enter_mode) trivial (.refl _)) rfl
        · exact other hns hnm (.refl _) rfl

/-- The message in hand is such an acknowledgement. -/
def diverting_msg (chip : Chip) : Prop :=
  GET_VDMHEAD_STRUCT_TYPE (chip.rec_obj 0) ≠ 0 ∧ GET_VDMHEAD_CMD_TYPE (chip.rec_obj 0) = VDM_TYPE_ACK ∧
    diverts chip (GET_VDMHEAD_CMD (chip.rec_obj 0))

theorem process_vdm_msg_dialogue (h : Dialogue chip.mode chip) (hh : Heard chip)
    (hc : PD_HEADER_CNT chip.rec_head ≠ 0) (hx : ¬diverting_msg chip) :
    Dialogue (process_vdm_msg chip).mode (process_vdm_msg chip) := by
  unfold process_vdm_msg
  dsimp only
  split
  · exact h
  · rename_i ht
    split
    · split
      · exact h.quiet (.of_eq (by simp)) (by simp)
      · exact h
    · split
      · rename_i hack
        exact process_vdm_ack_dialogue h hh hc fun hd => hx ⟨ht, hack, hd⟩
      · split
        · exact dialogue_over (Or.inr (Or.inr rfl))
        · exact h

/-! ## The discovery machine -/

/-- `AUTO_VDM_HANDLE` of a result keeps the dialogue. -/
def Goes (kept : BitVec 32 × BitVec 32) (r : Chip × VdmRet) : Prop :=
  match r.2 with
  | .zero => Dialogue kept (set_vdm_state r.1 r.1.vdm_state.next)
  | _ => Dialogue kept r.1

theorem auto_vdm_handle_dialogue {func : Chip → Evt → Chip × VdmRet} (h : Goes kept (func chip evt)) :
    Dialogue kept (AUTO_VDM_HANDLE func chip evt) := by
  unfold AUTO_VDM_HANDLE Goes at *
  dsimp only
  cases hr : (func chip evt).2 <;> rw [hr] at h
  · exact h.quiet (.refl _) rfl
  · exact dialogue_over (Or.inr (Or.inr rfl))
  · exact dialogue_over (Or.inr (Or.inr rfl))
  · exact h

/-- The stage waits for its command, which it has sent. -/
structure Talking (kept : BitVec 32 × BitVec 32) (s : VdmState) (chip : Chip) : Prop extends Dialogue kept chip where
  state : chip.vdm_state = s
  sending : chip.vdm_send_state ≠ 0
  dfp : chip.notify.data_role = .DFP

theorem talking_waits {s : VdmState} : Waits (Talking kept s) (Goes kept) where
  send {c} h := by
    refine ⟨(dialogue_ordinary kept).serves.send h.toDialogue, ?_, ?_, ?_⟩
    · simpa using h.state
    · simpa using h.sending
    · simpa using h.dfp
  sent {c} h := by
    refine ⟨h.toDialogue.send rfl ?_ ?_, h.state, (by decide : (2 : Nat) ≠ 0), h.dfp⟩
    · rintro (⟨hx, -⟩ | hx)
      · exact Or.inl ⟨hx, h.sending⟩
      · exact Or.inr hx
    · rintro (hx | hx | ⟨-, hx⟩)
      · exact Or.inl hx
      · exact Or.inr (Or.inl hx)
      · cases hx
  failed _ := dialogue_over (Or.inr (Or.inr rfl))
  timeout _ := dialogue_over (Or.inr (Or.inr rfl))
  waiting h := h.toDialogue

variable {acks : Chip → Bool} {begin : Chip → Chip} {finish : Chip → Chip × VdmRet} {mode : Nat}

theorem Dialogue.build (h : Dialogue kept chip) (hc : cmd ≠ VDM_DISCOVERY_SVIDS) :
    Dialogue kept (set_vdm_mesg chip cmd VDM_TYPE_INIT mode) := by
  obtain ⟨_, hv, _⟩ := set_vdm_mesg_frame chip cmd VDM_TYPE_INIT mode
  refine h.quiet ?_ hv
  rw [set_vdm_mesg_log]
  exact .cons (e := Entry.vdm cmd) hc (.refl _)

/-- A stage builds its command, not the request for SVIDs, and sends it. -/
theorem begin_talking {s : VdmState} (h : Dialogue kept chip) (hs : chip.vdm_state = s) (hd : chip.notify.data_role = .DFP)
    (hc : cmd ≠ VDM_DISCOVERY_SVIDS) (hv : s ≠ .DISCOVERY_SVID)
    (hb : ∀ c, ∃ v b, begin c = { c with vdm_id := v, notify.is_enter_mode := b }) :
    Talking kept s (policy_send_data
      { begin (set_vdm_mesg chip cmd VDM_TYPE_INIT mode) with tx_state := .tx_idle, vdm_send_state := 1 }) := by
  obtain ⟨v, b, he⟩ := hb (set_vdm_mesg chip cmd VDM_TYPE_INIT mode)
  have hm : Dialogue kept (set_vdm_mesg chip cmd VDM_TYPE_INIT mode) := h.build hc
  obtain ⟨_, hk, hr, _⟩ := set_vdm_mesg_frame chip cmd VDM_TYPE_INIT mode
  have hst : (set_vdm_mesg chip cmd VDM_TYPE_INIT mode).vdm_state = s := by rw [hk, hs]
  rw [he]
  refine talking_waits.send ⟨hm.send rfl ?_ ?_, hst, (by decide : (1 : Nat) ≠ 0), hr.trans hd⟩
  · rintro (⟨hx, -⟩ | hx)
    · exact absurd (hst.symm.trans hx) hv
    · exact Or.inr hx
  · rintro (hx | hx | ⟨-, hx⟩)
    · exact Or.inl hx
    · exact Or.inr (Or.inl hx)
    · cases hx

theorem discoveryid_goes (h : Dialogue kept chip) (hs : chip.vdm_state = .DISCOVERY_ID)
    (hd : chip.notify.data_role = .DFP) : Goes kept (vdm_send_discoveryid chip evt) := by
  refine talking_waits.vdm_send (fun _ => ?_) (fun hn => ⟨h, hs, hn, hd⟩) ?_
  · exact begin_talking h hs hd (by decide) (by decide) fun c => ⟨_, c.notify.is_enter_mode, rfl⟩
  · intro c hw _
    have hnext : (set_vdm_state { c with vdm_send_state := 0 } c.vdm_state.next).vdm_state = .DISCOVERY_SVID := by
      rw [hw.state]
      rfl
    exact dialogue_early (Or.inr ⟨hnext, rfl⟩)

theorem discoverysvid_goes (h : Dialogue kept chip) (hs : chip.vdm_state = .DISCOVERY_SVID)
    (hd : chip.notify.data_role = .DFP) : Goes kept (vdm_send_discoverysvid chip evt) := by
  refine talking_waits.vdm_send (fun _ => ?_) (fun hn => ⟨h, hs, hn, hd⟩) ?_
  · -- what was reported is forgotten
    refine talking_waits.send ⟨⟨?_, ?_⟩, hs, (by decide : (1 : Nat) ≠ 0), hd⟩
    · rintro (hx | hx | ⟨hx, -⟩) <;> cases hs.symm.trans hx
    · intro _ m hm
      cases hm
  · intro c hw _
    have hask : asked c := Or.inl ⟨hw.state, hw.sending⟩
    have hnext : c.vdm_state.next = .DISCOVERY_MODES := by
      rw [hw.state]
      rfl
    refine ⟨?_, fun _ => hw.held (Or.inl hask)⟩
    rintro (hx | hx | ⟨hx, -⟩) <;> cases hnext.symm.trans hx

/-- Every mode query is answered. -/
def all_queried (chip : Chip) : Prop :=
  chip.vdm_state = .DISCOVERY_MODES ∧ (chip.val_tmp >>> 1).toNat = chip.vdm_svid_num

theorem discoverymodes_goes (h : Dialogue kept chip) (hs : chip.vdm_state = .DISCOVERY_MODES)
    (hd : chip.notify.data_role = .DFP) (hx : all_queried chip → for_display_port chip.log = true) :
    Goes kept (vdm_send_discoverymodes chip evt) := by
  unfold vdm_send_discoverymodes
  split
  · refine talking_waits.vdm_send (fun _ => ?_) (fun hn => ⟨h, hs, hn, hd⟩) ?_
    · exact begin_talking h hs hd (by decide) (by decide) fun c => ⟨c.vdm_id, c.notify.is_enter_mode, rfl⟩
    · intro c hw _
      refine ⟨?_, fun _ => hw.held (Or.inl (Or.inr hw.state))⟩
      rintro (hx | hx | ⟨hx, -⟩) <;> cases hw.state.symm.trans hx
  · rename_i heq
    exact ⟨fun _ => hx ⟨hs, Classical.not_not.1 heq⟩, fun _ => h.held (Or.inl (Or.inr hs))⟩

/-- The last three stages. -/
theorem send_val_goes {s : VdmState} (h : Dialogue kept chip) (hs : chip.vdm_state = s) (hd : chip.notify.data_role = .DFP)
    (hlate : s = .ENTER_MODE ∨ s = .UPDATE_STATUS ∨ s = .DP_CONFIG) (hc : cmd ≠ VDM_DISCOVERY_SVIDS)
    (hb : ∀ c, ∃ b, begin c = { c with notify.is_enter_mode := b }) : Goes kept (vdm_send_val cmd mode begin chip evt) := by
  have hne : s ≠ .DISCOVERY_SVID := by
    rcases hlate with rfl | rfl | rfl <;> decide
  refine talking_waits.vdm_send (fun _ => ?_) (fun hn => ⟨h, hs, hn, hd⟩) ?_
  · refine begin_talking h hs hd hc hne fun c => ?_
    obtain ⟨b, he⟩ := hb c
    exact ⟨c.vdm_id, b, he⟩
  · intro c hw _
    have hnext : c.vdm_state.next = s.next := by rw [hw.state]
    change Dialogue kept (set_vdm_state { c with vdm_send_state := 0, val_tmp := 0#8 } c.vdm_state.next)
    rw [hnext]
    rcases hlate with rfl | rfl | rfl
    · have hla : late c := Or.inl hw.state
      exact ⟨fun _ => hw.late hla, fun _ => hw.held (Or.inr hla)⟩
    · have hla : late c := Or.inr (Or.inl hw.state)
      exact ⟨fun _ => hw.late hla, fun _ => hw.held (Or.inr hla)⟩
    · exact dialogue_over (Or.inl rfl)

theorem auto_vdm_machine_dialogue (h : Dialogue kept chip) (hd : chip.notify.data_role = .DFP)
    (hx : all_queried chip → for_display_port chip.log = true) : Dialogue kept (auto_vdm_machine chip evt) := by
  unfold auto_vdm_machine
  split
  · exact auto_vdm_handle_dialogue (discoveryid_goes h ‹_› hd)
  · exact auto_vdm_handle_dialogue (discoverysvid_goes h ‹_› hd)
  · exact auto_vdm_handle_dialogue (discoverymodes_goes h ‹_› hd hx)
  · exact auto_vdm_handle_dialogue (send_val_goes h ‹_› hd (Or.inl rfl) (by decide) fun c => ⟨_, rfl⟩)
  · exact auto_vdm_handle_dialogue
      (send_val_goes h ‹_› hd (Or.inr (Or.inl rfl)) (by decide) fun c => ⟨c.notify.is_enter_mode, rfl⟩)
  · exact auto_vdm_handle_dialogue
      (send_val_goes h ‹_› hd (Or.inr (Or.inr rfl)) (by decide) fun c => ⟨c.notify.is_enter_mode, rfl⟩)
  · exact dialogue_over (Or.inr (Or.inl rfl))
  · exact h

end Fusb302
