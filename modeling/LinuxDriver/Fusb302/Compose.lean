import LinuxDriver.Fusb302.Standing
import LinuxDriver.Lib.Fields
/-!
# What a built message says

`set_mesg` and `set_vdm_mesg` assemble a header and up to two words from shifted
values. The layout below lists the values with the places the header file gives
them. Every message is built to its layout but a REQUEST: its quantity is
masked after the shift, not before, and is lost.
-/

namespace Fusb302

open Fields

/-! ## The calls -/

/-- A call of `set_mesg`, or of `set_vdm_mesg`, whose `type` is always `VDM_TYPE_INIT`. -/
inductive Call
  | mesg (cmd : Nat) (is_DMT : Bool)
  | vdm (cmd mode : Nat)
  deriving DecidableEq

/-- The message that a call builds. -/
def Call.build (chip : Chip) : Call → Chip
  | .mesg cmd is_DMT => set_mesg chip cmd is_DMT
  | .vdm cmd mode => set_vdm_mesg chip cmd VDM_TYPE_INIT mode

/-- The calls of the source. -/
def calls : List Call :=
  [.mesg DMT_SOURCECAPABILITIES true, .mesg DMT_REQUEST true, .mesg CMT_ACCEPT false, .mesg CMT_REJECT false,
    .mesg CMT_PS_RDY false, .mesg CMT_GETSINKCAP false, .mesg CMT_DR_SWAP false, .mesg CMT_PR_SWAP false,
    .mesg CMT_VCONN_SWAP false, .mesg CMT_SOFTRESET false, .vdm VDM_DISCOVERY_ID 0, .vdm VDM_DISCOVERY_SVIDS 0,
    .vdm VDM_DISCOVERY_MODES 0, .vdm VDM_ENTER_MODE 1, .vdm VDM_DP_STATUS_UPDATE 1, .vdm VDM_DP_CONFIG 0]

/-- The message type of the header. -/
def Call.type : Call → Nat
  | .mesg cmd _ => cmd
  | .vdm .. => DMT_VENDERDEFINED

/-- The call determines word `i`, whatever was in it. -/
def Call.fills (call : Call) (chip : Chip) (i : Fin 7) : Prop :=
  ∀ load, (call.build { chip with send_load := load }).send_load i = (call.build chip).send_load i

/-! ## The layout -/

/-- What `fusb30x_probe` sets once and for all. -/
structure AsProbed (chip : Chip) : Prop where
  n_caps_used : chip.n_caps_used = 1
  pd_cap_info :
    chip.pd_cap_info = { dual_role_power := 1#32, data_role_swap := 1#32, externally_powered := 1#32 }
  voltage : chip.source_power_supply 0 = 0x64#32
  current : chip.source_max_current 0 = 0x96#32

/-- They stay so in every run. -/
theorem ran_as_probed (board : Board) (acts : List Act) : AsProbed (ran board acts) := by
  have h := ran_offers board acts
  simp only [Chip.offers, Prod.mk.injEq] at h
  obtain ⟨hn, hv, hc, hi⟩ := h
  exact ⟨hn.trans rfl, hi.trans rfl, (congrFun hv 0).trans rfl, (congrFun hc 0).trans rfl⟩

/-- The first object of SOURCE_CAPABILITIES, the only one used. -/
def source_cap_slots (chip : Chip) : List (Slot 32) :=
  [⟨30, 2, chip.pd_cap_info.supply_type⟩, ⟨29, 1, chip.pd_cap_info.dual_role_power⟩,
    ⟨28, 1, chip.pd_cap_info.usb_suspend_support⟩, ⟨27, 1, chip.pd_cap_info.externally_powered⟩,
    ⟨26, 1, chip.pd_cap_info.usb_communications_cap⟩, ⟨25, 1, chip.pd_cap_info.data_role_swap⟩,
    ⟨20, 2, chip.pd_cap_info.peak_current⟩, ⟨10, 10, chip.source_power_supply 0⟩,
    ⟨0, 10, chip.source_max_current 0⟩]

/-- The object a REQUEST asks for. -/
def chosen (chip : Chip) : BitVec 32 := chip.rec_obj ((chip.pos_power : Int) - 1)

/-- Its quantity and its current, of a fixed or a battery supply. -/
def chosen_slots (chip : Chip) : List (Slot 32) :=
  match CAP_POWER_TYPE (chosen chip) with
  | 0 => [⟨10, 10, CAP_FPDO_VOLTAGE (chosen chip)⟩, ⟨0, 10, CAP_FPDO_CURRENT (chosen chip)⟩]
  | 1 => [⟨10, 10, CAP_VPDO_VOLTAGE (chosen chip)⟩, ⟨0, 10, CAP_VPDO_CURRENT (chosen chip)⟩]
  | _ => []

/-- The fields of a REQUEST. -/
def request_slots (chip : Chip) : List (Slot 32) :=
  [⟨28, 3, BitVec.ofNat 32 chip.pos_power⟩, ⟨27, 1, 0#32⟩, ⟨26, 1, 1#32⟩, ⟨25, 1, 0#32⟩, ⟨24, 1, 0#32⟩] ++
    chosen_slots chip

/-- A structured VDM header: command, command type, object position and SVID. -/
def vdm_slots (cmd : Nat) (pos : BitVec 32) (svid : BitVec 16) : List (Slot 32) :=
  [⟨15, 1, 1#32⟩, ⟨13, 2, 0#32⟩, ⟨6, 2, BitVec.ofNat 32 VDM_TYPE_INIT⟩, ⟨0, 5, BitVec.ofNat 32 cmd⟩, ⟨8, 3, pos⟩,
    ⟨16, 16, svid.setWidth 32⟩]

/-- The pins, the signalling and the DFP_D configuration of DP_CONFIG. -/
def dp_config_slots (chip : Chip) : List (Slot 32) :=
  [⟨8, 8, pd_dfp_dp_get_pin_assignment chip.notify.dp_caps chip.notify.dp_status⟩, ⟨2, 4, 1#32⟩, ⟨0, 2, 2#32⟩]

/-- The words of a message. -/
def Call.words (chip : Chip) : Call → List (List (Slot 32))
  | .mesg cmd is_DMT =>
    if is_DMT && cmd == DMT_SOURCECAPABILITIES then [source_cap_slots chip]
    else if is_DMT && cmd == DMT_REQUEST then [request_slots chip]
    else []
  | .vdm cmd mode =>
    if cmd = VDM_DISCOVERY_ID ∨ cmd = VDM_DISCOVERY_SVIDS then [vdm_slots cmd 0#32 0xff00#16]
    else if cmd = VDM_DISCOVERY_MODES then [vdm_slots cmd 0#32 (chip.svid_at (chip.val_tmp >>> 1).toNat)]
    else if cmd = VDM_ENTER_MODE then [vdm_slots cmd (BitVec.ofNat 32 mode) 0xff01#16]
    else if cmd = VDM_DP_STATUS_UPDATE then [vdm_slots cmd 1#32 0xff01#16, [⟨0, 8, 5#32⟩]]
    else if cmd = VDM_DP_CONFIG then [vdm_slots cmd 1#32 0xff01#16, dp_config_slots chip]
    else []

/-- The message is read back as it was meant: its header by the macros of the
header file, every value from its place, and no two places overlap. -/
structure Decodes (chip : Chip) (call : Call) : Prop where
  type : PD_HEADER_TYPE (call.build chip).send_head = call.type
  id : PD_HEADER_ID (call.build chip).send_head = chip.msg_id % 8
  filled : ∀ i : Fin 7, call.fills chip i ↔ i.val < PD_HEADER_CNT (call.build chip).send_head
  words : (call.words chip).length = PD_HEADER_CNT (call.build chip).send_head
  tidy : ∀ slots ∈ call.words chip, Tidy slots
  reads : ∀ (i : Fin 7) (h : i.val < (call.words chip).length), ∀ s ∈ (call.words chip)[i.val],
    field ((call.build chip).send_load i) s.lo s.len = s.value.toNat

/-- The quantity `set_mesg` masks away. -/
def quantity (chip : Chip) : BitVec 32 :=
  match CAP_POWER_TYPE (chosen chip) with
  | 0 => CAP_FPDO_VOLTAGE (chosen chip)
  | 1 => CAP_VPDO_VOLTAGE (chosen chip)
  | _ => 0#32

variable {chip : Chip} {call : Call}

/-! ## Headers -/

/-- The header of a message with so many words. -/
def head_slots (chip : Chip) (cnt type : BitVec 16) : List (Slot 16) :=
  [⟨9, 3, BitVec.ofNat 16 chip.msg_id &&& 7#16⟩, ⟨8, 1, chip.notify.power_role.toBit &&& 1#16⟩, ⟨6, 2, 1#16⟩,
    ⟨5, 1, chip.notify.data_role.toBit &&& 1#16⟩, ⟨12, 3, cnt⟩, ⟨0, 4, type⟩]

theorem pack_head (chip : Chip) (cnt type : BitVec 16) :
    pack (head_slots chip cnt type) = base_head chip ||| (cnt <<< 12) ||| type := by
  simp [head_slots, base_head, Slot.bits, BitVec.or_assoc]

theorem head_tidy (chip : Chip) {cnt type : BitVec 16} (hc : cnt.toNat < 8) (ht : type.toNat < 16) :
    Tidy (head_slots chip cnt type) where
  fits := by
    have hm := and_mask (BitVec.ofNat 16 chip.msg_id) 3
    have hp := and_mask chip.notify.power_role.toBit 1
    have hd := and_mask chip.notify.data_role.toBit 1
    simp only [head_slots, List.forall_mem_cons, List.not_mem_nil, false_implies, implies_true, and_true]
    refine ⟨⟨?_, by simp⟩, ⟨?_, by simp⟩, ⟨by decide, by decide⟩, ⟨?_, by simp⟩, ⟨hc, by simp⟩, ⟨ht, by simp⟩⟩
    · exact hm ▸ Nat.mod_lt _ (by decide)
    · exact hp ▸ Nat.mod_lt _ (by decide)
    · exact hd ▸ Nat.mod_lt _ (by decide)
  apart := by simp [head_slots, Slot.Apart]

/-- The macros read the header. -/
theorem read_head {head cnt type : BitVec 16} (h : head = base_head chip ||| (cnt <<< 12) ||| type)
    (hc : cnt.toNat < 8) (ht : type.toNat < 16) :
    PD_HEADER_CNT head = cnt.toNat ∧ PD_HEADER_ID head = chip.msg_id % 8 ∧ PD_HEADER_TYPE head = type.toNat := by
  have hx := head_tidy chip hc ht
  rw [← pack_head] at h
  refine ⟨?_, ?_, ?_⟩
  · have hr := hx.field_pack (s := ⟨12, 3, cnt⟩) (by simp [head_slots])
    rw [← h] at hr
    exact (and_mask (head >>> 12) 3).trans hr
  · have hr := hx.field_pack (s := ⟨9, 3, BitVec.ofNat 16 chip.msg_id &&& 7#16⟩) (by simp [head_slots])
    rw [← h] at hr
    refine (and_mask (head >>> 9) 3).trans (hr.trans ((and_mask (BitVec.ofNat 16 chip.msg_id) 3).trans ?_))
    rw [BitVec.toNat_ofNat]
    omega
  · have hr := hx.field_pack (s := ⟨0, 4, type⟩) (by simp [head_slots])
    rw [← h] at hr
    exact (and_mask head 4).trans hr

/-! ## Words -/

theorem fills_iff {n : Nat} {word : Fin 7 → BitVec 32}
    (h : ∀ load i, (call.build { chip with send_load := load }).send_load i = if i.val < n then word i else load i)
    (i : Fin 7) : call.fills chip i ↔ i.val < n := by
  have hb : (call.build chip).send_load i = if i.val < n then word i else chip.send_load i := h chip.send_load i
  by_cases hi : i.val < n
  · refine ⟨fun _ => hi, ?_⟩
    intro _ load
    rw [h, hb, if_pos hi, if_pos hi]
  · refine ⟨?_, fun hn => absurd hn hi⟩
    intro hf
    have hx := hf fun _ => ~~~chip.send_load i
    rw [h, hb, if_neg hi, if_neg hi] at hx
    simp at hx

/-- A call whose header is assembled so, and whose words are packed to the layout. -/
theorem decodes_of {n : Nat} {t : BitVec 16} {f : Fin 7 → BitVec 32}
    (hh : (call.build chip).send_head = base_head chip ||| (BitVec.ofNat 16 n <<< 12) ||| t)
    (hn : n < 8) (ht : t.toNat < 16) (hc : t.toNat = call.type)
    (hl : ∀ load i, (call.build { chip with send_load := load }).send_load i = if i.val < n then f i else load i)
    (hw : (call.words chip).length = n) (hp : ∀ slots ∈ call.words chip, Tidy slots)
    (hs : ∀ (i : Fin 7) (h : i.val < (call.words chip).length), f i = pack (call.words chip)[i.val]) :
    Decodes chip call := by
  have hm : (BitVec.ofNat 16 n).toNat = n := by
    rw [BitVec.toNat_ofNat]
    omega
  obtain ⟨hcnt, hid, htype⟩ := read_head hh (by rw [hm]; exact hn) ht
  rw [hm] at hcnt
  refine ⟨htype.trans hc, hid, ?_, by rw [hcnt, hw], hp, ?_⟩
  · intro i
    rw [hcnt]
    exact fills_iff hl i
  · intro i hi s hmem
    have hb : (call.build chip).send_load i = if i.val < n then f i else chip.send_load i := hl chip.send_load i
    rw [hb, if_pos (hw ▸ hi), hs i hi]
    exact (hp _ (List.getElem_mem hi)).field_pack hmem

/-! ## REQUEST -/

/-- The position and the flags. -/
def request_head (chip : Chip) : List (Slot 32) :=
  [⟨28, 3, BitVec.ofNat 32 chip.pos_power⟩, ⟨27, 1, 0#32⟩, ⟨26, 1, 1#32⟩, ⟨25, 1, 0#32⟩, ⟨24, 1, 0#32⟩]

/-- A fixed or a battery supply is described by a quantity and a current of ten
bits; another one is not described. The word that is built has no quantity. -/
theorem chosen_cases (chip : Chip) :
    (∃ c : BitVec 32, c.toNat < 2 ^ 10 ∧ (quantity chip).toNat < 2 ^ 10 ∧
      chosen_slots chip = [⟨10, 10, quantity chip⟩, ⟨0, 10, c⟩] ∧
      request_load chip = pack (request_head chip ++ [⟨0, 10, c⟩])) ∨
      quantity chip = 0#32 ∧ chosen_slots chip = [] ∧ request_load chip = pack (request_head chip) := by
  have hlt : ∀ x : BitVec 32, (x &&& 0x3ff#32).toNat < 2 ^ 10 := fun x => and_mask x 10 ▸ Nat.mod_lt _ (by decide)
  have hq : ∀ q : BitVec 32, (q <<< 10) &&& 0x3ff#32 = 0#32 := fun q => shift_and_mask q 10
  have hm : ∀ x : BitVec 32, x &&& 0x3ff#32 &&& 0x3ff#32 = x &&& 0x3ff#32 := by
    intro x
    rw [BitVec.and_assoc, BitVec.and_self]
  unfold quantity chosen_slots request_load
  dsimp only
  rw [show chip.rec_obj ((chip.pos_power : Int) - 1) = chosen chip from rfl]
  generalize chosen chip = pdo
  match CAP_POWER_TYPE pdo with
  | 0 =>
    refine Or.inl ⟨CAP_FPDO_CURRENT pdo, hlt _, hlt _, rfl, ?_⟩
    simp [request_head, Slot.bits, hq, CAP_FPDO_CURRENT, hm, BitVec.or_assoc]
  | 1 =>
    refine Or.inl ⟨CAP_VPDO_CURRENT pdo, hlt _, hlt _, rfl, ?_⟩
    simp [request_head, Slot.bits, hq, CAP_VPDO_CURRENT, hm, BitVec.or_assoc]
  | n + 2 =>
    refine Or.inr ⟨rfl, rfl, ?_⟩
    simp [request_head, Slot.bits]

theorem request_head_tidy (chip : Chip) {q c : BitVec 32} (hp : chip.pos_power ≤ 7) (hq : q.toNat < 2 ^ 10) (hc : c.toNat < 2 ^ 10) :
    Tidy (request_head chip ++ [⟨10, 10, q⟩, ⟨0, 10, c⟩]) where
  fits := by
    have hpos : (BitVec.ofNat 32 chip.pos_power).toNat < 2 ^ 3 := by
      rw [BitVec.toNat_ofNat]
      omega
    simp only [request_head, List.cons_append, List.nil_append, List.forall_mem_cons, List.not_mem_nil, false_implies,
      implies_true, and_true]
    exact ⟨⟨hpos, by simp⟩, ⟨by decide, by decide⟩, ⟨by decide, by decide⟩, ⟨by decide, by decide⟩,
      ⟨by decide, by decide⟩, ⟨hq, by simp⟩, ⟨hc, by simp⟩⟩
  apart := by simp [request_head, Slot.Apart]

/-- The bits of the quantity are empty. -/
theorem request_load_quantity (hp : chip.pos_power ≤ 7) : field (request_load chip) 10 10 = 0 := by
  rcases chosen_cases chip with ⟨c, hc, _, _, he⟩ | ⟨_, _, he⟩
  · have ht := request_head_tidy chip (q := 0#32) hp (by decide) hc
    rw [he]
    refine field_pack_apart (fun s hs => ht.fits s ?_) ?_
    · simp only [List.mem_append, List.mem_cons] at hs ⊢
      tauto
    · simp [request_head]
  · have ht := request_head_tidy chip (q := 0#32) (c := 0#32) hp (by decide) (by decide)
    rw [he]
    refine field_pack_apart (fun s hs => ht.fits s (List.mem_append_left _ hs)) ?_
    simp [request_head]

theorem request_decodes (hp : chip.pos_power ≤ 7) :
    Decodes chip (.mesg DMT_REQUEST true) ↔ quantity chip = 0#32 := by
  have hwords : (Call.mesg DMT_REQUEST true).words chip = [request_head chip ++ chosen_slots chip] := rfl
  have hload := request_load_quantity hp
  refine ⟨?_, ?_⟩
  · intro h
    rcases chosen_cases chip with ⟨c, _, _, hs, _⟩ | ⟨h0, _, _⟩
    · have hr := h.reads 0 (by simp [hwords]) ⟨10, 10, quantity chip⟩ (by simp [hwords, hs])
      exact BitVec.eq_of_toNat_eq (hr.symm.trans hload)
    · exact h0
  · intro h0
    have hslots : Tidy (request_head chip ++ chosen_slots chip) ∧
        request_load chip = pack (request_head chip ++ chosen_slots chip) := by
      rcases chosen_cases chip with ⟨c, hc, hq, hs, he⟩ | ⟨_, hs, he⟩ <;> rw [hs]
      · refine ⟨request_head_tidy chip hp hq hc, ?_⟩
        rw [he, h0]
        simp [request_head, Slot.bits]
      · refine ⟨(request_head_tidy chip (q := 0#32) (c := 0#32) hp (by decide) (by decide)).sublist
          (List.append_nil _ ▸ List.sublist_append_left _ _), ?_⟩
        · rw [he, List.append_nil]
    refine decodes_of (n := 1) (t := BitVec.ofNat 16 DMT_REQUEST &&& 0xf#16) (f := fun _ => request_load chip) ?_ (by decide) (by decide) rfl ?_ rfl
      ?_ ?_
    · exact (BitVec.or_assoc ..).symm
    · intro load i
      have hi : i = 0 ↔ i.val < 1 := by omega
      simp only [Call.build, set_mesg, ← hi]
      rfl
    · simpa [hwords] using hslots.1
    · intro i hi
      simpa [hwords] using hslots.2

/-! ## The other messages -/

theorem source_capabilities_decodes (hp : AsProbed chip) : Decodes chip (.mesg DMT_SOURCECAPABILITIES true) := by
  have hslots : source_cap_slots chip =
      [⟨30, 2, 0#32⟩, ⟨29, 1, 1#32⟩, ⟨28, 1, 0#32⟩, ⟨27, 1, 1#32⟩, ⟨26, 1, 0#32⟩, ⟨25, 1, 1#32⟩, ⟨20, 2, 0#32⟩,
        ⟨10, 10, 0x64#32⟩, ⟨0, 10, 0x96#32⟩] := by
    simp [source_cap_slots, hp.pd_cap_info, hp.voltage, hp.current]
  refine decodes_of (n := 1) (t := BitVec.ofNat 16 DMT_SOURCECAPABILITIES &&& 0xf#16) (f := source_cap chip) ?_ (by decide) (by decide) rfl ?_ rfl ?_ ?_
  · simp [Call.build, set_mesg, hp.n_caps_used]
  · intro load i
    simp [Call.build, set_mesg, hp.n_caps_used]
    rfl
  · intro slots hs
    rw [List.mem_singleton.1 hs, hslots]
    exact ⟨by simp [Slot.fits_iff], by simp [Slot.Apart]⟩
  · intro i hi
    have h0 : i = 0 := by
      have hi' : i.val < 1 := hi
      omega
    subst h0
    simp [Call.words, source_cap_slots, source_cap, Slot.bits, BitVec.or_assoc]

theorem control_decodes {cmd : Nat} (h : cmd < 16) : Decodes chip (.mesg cmd false) := by
  have hc : (BitVec.ofNat 16 cmd).toNat = cmd := by
    rw [BitVec.toNat_ofNat]
    omega
  have hm : BitVec.ofNat 16 cmd &&& 0xf#16 = BitVec.ofNat 16 cmd := by
    apply BitVec.eq_of_toNat_eq
    refine (and_mask _ 4).trans ?_
    omega
  refine decodes_of (n := 0) (t := BitVec.ofNat 16 cmd) (f := fun _ => 0#32) ?_ (by decide) (by omega) hc ?_ rfl ?_ ?_
  · simp [Call.build, set_mesg, hm]
  · intro load i
    simp [Call.build, set_mesg]
  · intro slots hs
    cases hs
  · intro i hi
    cases hi

/-! ## VDMs -/

/-- The chosen pin configuration fits its byte. -/
theorem pin_assignment_lt (caps status : BitVec 32) : (pd_dfp_dp_get_pin_assignment caps status).toNat < 2 ^ 8 := by
  have hcaps : (PD_DP_PIN_CAPS caps).toNat < 2 ^ 6 := by
    unfold PD_DP_PIN_CAPS
    split
    · exact and_mask (caps >>> 16) 6 ▸ Nat.mod_lt _ (by decide)
    · exact and_mask (caps >>> 8) 6 ▸ Nat.mod_lt _ (by decide)
  have hmask : ∀ x m : BitVec 32, x.toNat < 2 ^ 6 → (x &&& m).toNat < 2 ^ 6 := by
    intro x m hx
    rw [BitVec.toNat_and]
    exact Nat.lt_of_le_of_lt Nat.and_le_left hx
  have hshift : ∀ n < 6, (1#32 <<< n).toNat < 2 ^ 8 := by decide
  have hpin : ∀ x : BitVec 32, x.toNat < 2 ^ 6 →
      (if x = 0#32 then 0#32 else 1#32 <<< Nat.log2 x.toNat).toNat < 2 ^ 8 := by
    intro x hx
    split
    · decide
    · rename_i hne
      have hlog : Nat.log2 x.toNat < 6 := (Nat.log2_lt fun h0 => hne (BitVec.eq_of_toNat_eq h0)).2 hx
      exact hshift _ hlog
  unfold pd_dfp_dp_get_pin_assignment
  dsimp only
  apply hpin
  repeat' first | apply hmask | exact hcaps | split

/-- The word every VDM starts with. -/
theorem vdm_slots_tidy {cmd : Nat} {pos : BitVec 32} (svid : BitVec 16) (hc : cmd < 32) (hp : pos.toNat < 8) :
    Tidy (vdm_slots cmd pos svid) where
  fits := by
    have hcmd : (BitVec.ofNat 32 cmd).toNat < 2 ^ 5 := by
      rw [BitVec.toNat_ofNat]
      omega
    have hsvid : (svid.setWidth 32).toNat < 2 ^ 16 := by
      rw [BitVec.toNat_setWidth]
      omega
    simp only [vdm_slots, List.forall_mem_cons, List.not_mem_nil, false_implies, implies_true, and_true]
    exact ⟨⟨by decide, by decide⟩, ⟨by decide, by decide⟩, ⟨by decide, by decide⟩, ⟨hcmd, by simp⟩, ⟨hp, by simp⟩,
      ⟨hsvid, by simp⟩⟩
  apart := by simp [vdm_slots, Slot.Apart]

/-- The first word without its position and SVID, as `set_vdm_mesg` starts it. -/
def vdm_load (cmd : Nat) : BitVec 32 :=
  (1#32 <<< 15) ||| (0#32 <<< 13) ||| (BitVec.ofNat 32 VDM_TYPE_INIT <<< 6) ||| BitVec.ofNat 32 cmd

theorem pack_vdm (cmd : Nat) (pos : BitVec 32) (svid : BitVec 16) :
    pack (vdm_slots cmd pos svid) = vdm_load cmd ||| (pos <<< 8) ||| (svid.setWidth 32 <<< 16) := by
  simp [vdm_slots, vdm_load, Slot.bits, BitVec.or_assoc]

/-- A VDM is its first word and those that follow. -/
theorem vdm_decodes {cmd mode : Nat} {p : BitVec 32} {v : BitVec 16} {m : List (List (Slot 32))}
    (hc : cmd < 32) (hp : p.toNat < 8) (hn : m.length < 7) (hm : ∀ slots ∈ m, Tidy slots)
    (hh : (set_vdm_mesg chip cmd VDM_TYPE_INIT mode).send_head =
      base_head chip ||| (BitVec.ofNat 16 (m.length + 1) <<< 12) ||| BitVec.ofNat 16 DMT_VENDERDEFINED)
    (hl : ∀ load (i : Fin 7), (set_vdm_mesg { chip with send_load := load } cmd VDM_TYPE_INIT mode).send_load i =
      if i.val < m.length + 1 then pack ((vdm_slots cmd p v :: m).getD i.val []) else load i)
    (hw : (Call.vdm cmd mode).words chip = vdm_slots cmd p v :: m) : Decodes chip (.vdm cmd mode) := by
  refine decodes_of (f := fun i => pack ((vdm_slots cmd p v :: m).getD i.val [])) hh (by omega) (by decide) rfl
    hl ?_ ?_ ?_
  · rw [hw, List.length_cons]
  · intro slots hs
    rw [hw] at hs
    rcases List.mem_cons.1 hs with rfl | hs
    · exact vdm_slots_tidy v hc hp
    · exact hm slots hs
  · intro i hi
    simp only [hw] at hi ⊢
    rw [List.getD_eq_getElem?_getD, List.getElem?_eq_getElem hi, Option.getD_some]

theorem vdm_head (head cnt : BitVec 16) : head ||| (BitVec.ofNat 16 DMT_VENDERDEFINED &&& 0xf#16) ||| (cnt <<< 12) =
    head ||| (cnt <<< 12) ||| BitVec.ofNat 16 DMT_VENDERDEFINED := by
  rw [BitVec.or_assoc, BitVec.or_assoc, BitVec.or_comm (cnt <<< 12)]
  rfl

theorem one_word {first : List (Slot 32)} {x : BitVec 32} {load : Fin 7 → BitVec 32} (h : x = pack first) (i : Fin 7) :
    (if i = 0 then x else if i = 1 then load 1 else load i) = if i.val < 1 then pack ([first].getD i.val []) else load i := by
  by_cases h0 : i = 0
  · simp [h0, h]
  · by_cases h1 : i = 1
    · simp [h1]
    · simp [h0, h1, show ¬i.val < 1 by omega]

theorem two_words {first second : List (Slot 32)} {x y : BitVec 32} {load : Fin 7 → BitVec 32} (h : x = pack first)
    (h' : y = pack second) (i : Fin 7) :
    (if i = 0 then x else if i = 1 then y else load i) =
      if i.val < 2 then pack ([first, second].getD i.val []) else load i := by
  by_cases h0 : i = 0
  · simp [h0, h]
  · by_cases h1 : i = 1
    · simp [h1, h']
    · simp [h0, h1, show ¬i.val < 2 by omega]

section Commands

variable {cmd mode : Nat} {p x y : BitVec 32} {v : BitVec 16} {l : List (Slot 32)}

/-- A command of one word, as `set_vdm_mesg` leaves it. -/
theorem vdm_decodes_one (hc : cmd < 32) (hp : p.toNat < 8)
    (hh : (set_vdm_mesg chip cmd VDM_TYPE_INIT mode).send_head =
      base_head chip ||| (BitVec.ofNat 16 DMT_VENDERDEFINED &&& 0xf#16) ||| (1#16 <<< 12))
    (hl : ∀ load, (set_vdm_mesg { chip with send_load := load } cmd VDM_TYPE_INIT mode).send_load =
      fun i => if i = 0 then x else if i = 1 then load 1 else load i)
    (hx : x = pack (vdm_slots cmd p v))
    (hw : (Call.vdm cmd mode).words chip = [vdm_slots cmd p v]) : Decodes chip (.vdm cmd mode) := by
  refine vdm_decodes (m := []) hc hp (by decide) (by simp) (hh.trans (vdm_head (base_head chip) 1#16)) ?_ hw
  intro load i
  rw [hl]
  exact one_word hx i

/-- A command of two words. -/
theorem vdm_decodes_two (hc : cmd < 32) (hp : p.toNat < 8) (hs : Tidy l)
    (hh : (set_vdm_mesg chip cmd VDM_TYPE_INIT mode).send_head =
      base_head chip ||| (BitVec.ofNat 16 DMT_VENDERDEFINED &&& 0xf#16) ||| (2#16 <<< 12))
    (hl : ∀ load, (set_vdm_mesg { chip with send_load := load } cmd VDM_TYPE_INIT mode).send_load =
      fun i => if i = 0 then x else if i = 1 then y else load i)
    (hx : x = pack (vdm_slots cmd p v)) (hy : y = pack l)
    (hw : (Call.vdm cmd mode).words chip = [vdm_slots cmd p v, l]) : Decodes chip (.vdm cmd mode) := by
  refine vdm_decodes (m := [l]) hc hp (by simp) (by simpa using hs)
    (hh.trans (vdm_head (base_head chip) 2#16)) ?_ hw
  intro load i
  rw [hl]
  exact two_words hx hy i

end Commands

theorem vdm_calls_decode {cmd mode : Nat} (h : .vdm cmd mode ∈ calls) : Decodes chip (.vdm cmd mode) := by
  simp only [calls, List.mem_cons, Call.vdm.injEq, reduceCtorEq, false_or, List.not_mem_nil, or_false] at h
  have hload : ∀ (cmd : Nat) (svid : BitVec 16), vdm_load cmd ||| (svid.setWidth 32 <<< 16) = pack (vdm_slots cmd 0#32 svid) := by
    intro cmd svid
    rw [pack_vdm, BitVec.zero_shiftLeft, BitVec.or_zero]
  rcases h with ⟨rfl, rfl⟩ | ⟨rfl, rfl⟩ | ⟨rfl, rfl⟩ | ⟨rfl, rfl⟩ | ⟨rfl, rfl⟩ | ⟨rfl, rfl⟩
  · exact vdm_decodes_one (p := 0#32) (by decide) (by decide) rfl (fun _ => rfl) (hload _ 0xff00#16) rfl
  · exact vdm_decodes_one (p := 0#32) (by decide) (by decide) rfl (fun _ => rfl) (hload _ 0xff00#16) rfl
  · exact vdm_decodes_one (p := 0#32) (by decide) (by decide) rfl (fun _ => rfl) (hload _ _) rfl
  · exact vdm_decodes_one (p := 1#32) (by decide) (by decide) rfl (fun _ => rfl) (pack_vdm _ 1#32 0xff01#16).symm rfl
  · exact vdm_decodes_two (p := 1#32) (y := 5#32) (by decide) (by decide) ⟨by simp [Slot.fits_iff], by simp⟩ rfl
      (fun _ => rfl) (pack_vdm _ 1#32 0xff01#16).symm rfl rfl
  · have hpin := pin_assignment_lt chip.notify.dp_caps chip.notify.dp_status
    refine vdm_decodes_two (p := 1#32) (l := dp_config_slots chip) (y := (pd_dfp_dp_get_pin_assignment chip.notify.dp_caps chip.notify.dp_status <<< 8) ||| (1#32 <<< 2) ||| 2#32) (by decide) (by decide)
      ⟨?_, ?_⟩ rfl
      (fun _ => rfl) (pack_vdm _ 1#32 0xff01#16).symm ?_ rfl
    · simpa [dp_config_slots, Slot.fits_iff] using hpin
    · simp [dp_config_slots, Slot.Apart]
    · simp [dp_config_slots, Slot.bits, BitVec.or_assoc]

/-! ## Every message -/

/-- The call drops a value: a REQUEST for a fixed or battery supply whose quantity is not 0. -/
def drops (chip : Chip) (call : Call) : Prop := call = .mesg DMT_REQUEST true ∧ quantity chip ≠ 0#32

/-- Every message can be decoded, unless a quantity is dropped. -/
theorem calls_decode_iff (chip : Chip) (hp : AsProbed chip) (hpos : 1 ≤ chip.pos_power ∧ chip.pos_power ≤ 7) (call : Call)
    (hc : call ∈ calls) : Decodes chip call ↔ ¬drops chip call := by
  by_cases hr : call = .mesg DMT_REQUEST true
  · subst hr
    rw [request_decodes hpos.2, drops]
    simp
  · refine ⟨fun _ hd => hr hd.1, fun _ => ?_⟩
    cases call with
    | vdm cmd mode => exact vdm_calls_decode hc
    | mesg cmd is_DMT =>
      simp only [calls, List.mem_cons, Call.mesg.injEq, reduceCtorEq, List.not_mem_nil, or_false] at hc hr
      rcases hc with ⟨rfl, rfl⟩ | hc | hc
      · exact source_capabilities_decodes hp
      · exact absurd hc hr
      · have h16 : is_DMT = false ∧ cmd < 16 := by
          rcases hc with ⟨rfl, rfl⟩ | ⟨rfl, rfl⟩ | ⟨rfl, rfl⟩ | ⟨rfl, rfl⟩ | ⟨rfl, rfl⟩ | ⟨rfl, rfl⟩ | ⟨rfl, rfl⟩ |
            ⟨rfl, rfl⟩ <;> decide
        obtain ⟨rfl, h⟩ := h16
        exact control_decodes h

/-- A sink that has just asked for the only object offered, 5 V at 1.5 A. -/
def requesting : Chip :=
  ran try_source (attach_sink ++ [received (data DMT_SOURCECAPABILITIES [0x00019096#32]), idle])

theorem calls_decode_iff_requesting :
    (1 ≤ requesting.pos_power ∧ requesting.pos_power ≤ 7) ∧
      (Decodes requesting (.mesg DMT_REQUEST true) ↔ ¬drops requesting (.mesg DMT_REQUEST true)) :=
  ⟨by decide +kernel, calls_decode_iff requesting (ran_as_probed ..) (by decide +kernel) (.mesg DMT_REQUEST true) (by decide)⟩

/-- Its REQUEST does not say 5 V. -/
theorem request_lacks_voltage :
    ¬∀ chip : Chip, AsProbed chip → 1 ≤ chip.pos_power ∧ chip.pos_power ≤ 7 → ∀ call ∈ calls, Decodes chip call := by
  intro h
  have hq : quantity requesting = 100#32 := by decide +kernel
  have hd := h requesting (ran_as_probed ..) (by decide +kernel) (.mesg DMT_REQUEST true) (by decide)
  rw [request_decodes (by decide +kernel), hq] at hd
  exact absurd hd (by decide)

end Fusb302
