import LinuxDriver.Fusb302.Svids
/-!
# What a vendor-defined message carries

`tcpm_get_message` overwrites only the words of `rec_load` that were received;
behind them stand words of earlier messages. Two ports that differ only there
have received the same message, so `process_vdm_msg` should do the same to both.
-/

namespace Fusb302

/-- Another content of the receive buffer; the log is not part of the driver's state. -/
def Chip.with_words (chip : Chip) (load : Fin 7 → BitVec 32) (log : List Entry) : Chip :=
  { chip with rec_load := load, log := log }

/-- The ports are equal except for words that the message did not carry. -/
structure SameMessage (chip c : Chip) : Prop where
  state : c.with_words chip.rec_load chip.log = chip
  words : ∀ i : Fin 7, i.val < PD_HEADER_CNT chip.rec_head → c.rec_load i = chip.rec_load i

/-- The message is interpreted from its own contents. -/
def OwnContents (chip : Chip) : Prop := ∀ c, SameMessage chip c → SameMessage (process_vdm_msg chip) (process_vdm_msg c)

/-- One of the two SVIDs in the word is zero. -/
def ends_list (word : BitVec 32) : Prop := (word >>> 16).setWidth 16 = 0#16 ∨ word.setWidth 16 = 0#16

/-- A zero among the words from word `first` on that the message carries ends the list of SVIDs, or it carries all seven. -/
def list_carried (chip : Chip) (first : Nat) : Prop :=
  PD_HEADER_CNT chip.rec_head = 7 ∨
    ∃ i : Fin 7, first ≤ i.val ∧ i.val < PD_HEADER_CNT chip.rec_head ∧ ends_list (chip.rec_load i)

/-- Every word that the driver looks at was carried. -/
def carried (chip : Chip) : Prop :=
  let vdm_header := chip.rec_obj 0
  0 < PD_HEADER_CNT chip.rec_head ∧
    (GET_VDMHEAD_STRUCT_TYPE vdm_header ≠ 0 →
      (GET_VDMHEAD_CMD_TYPE vdm_header = VDM_TYPE_INIT → GET_VDMHEAD_CMD vdm_header = VDM_ATTENTION →
        1 < PD_HEADER_CNT chip.rec_head) ∧
      (GET_VDMHEAD_CMD_TYPE vdm_header = VDM_TYPE_ACK →
        (GET_VDMHEAD_CMD vdm_header = VDM_DISCOVERY_ID ∨ GET_VDMHEAD_CMD vdm_header = VDM_DP_STATUS_UPDATE →
          1 < PD_HEADER_CNT chip.rec_head) ∧
        (GET_VDMHEAD_CMD vdm_header = VDM_DISCOVERY_SVIDS → list_carried chip 1)))

variable {chip c : Chip}

theorem same_with_words (load : Fin 7 → BitVec 32) (log : List Entry)
    (h : ∀ i : Fin 7, i.val < PD_HEADER_CNT chip.rec_head → load i = chip.rec_load i) :
    SameMessage chip (chip.with_words load log) := ⟨rfl, h⟩

theorem SameMessage.eq (h : SameMessage chip c) : c = chip.with_words c.rec_load c.log :=
  calc
    c = (c.with_words chip.rec_load chip.log).with_words c.rec_load c.log := rfl
    _ = chip.with_words c.rec_load c.log := by rw [h.state]

theorem SameMessage.head (h : SameMessage chip c) : c.rec_head = chip.rec_head := by
  rw [h.eq]
  rfl

theorem SameMessage.obj (h : SameMessage chip c) {i : Int} (hi : 0 ≤ i ∧ i < PD_HEADER_CNT chip.rec_head) :
    c.rec_obj i = chip.rec_obj i := by
  have := cnt_le_seven chip.rec_head
  unfold Chip.rec_obj
  rw [dif_pos (by omega), dif_pos (by omega)]
  exact h.words _ (by dsimp only; omega)

theorem SameMessage.ite {p : Prop} [Decidable p] {a a' b b' : Chip} (ha : p → SameMessage a a') (hb : ¬p → SameMessage b b') :
    SameMessage (if p then a else b) (if p then a' else b') := by
  by_cases hp : p
  · rw [if_pos hp, if_pos hp]
    exact ha hp
  · rw [if_neg hp, if_neg hp]
    exact hb hp

/-! ## The loop over the SVIDs -/

/-- The list goes on behind a word without a zero. -/
theorem list_carried_next (first : Fin 7) (h : list_carried chip first) (hw : ¬ends_list (chip.rec_load first)) :
    list_carried chip (first + 1) := by
  rcases h with h7 | ⟨i, h1, h2, hi⟩
  · exact .inl h7
  · refine .inr ⟨i, ?_, h2, hi⟩
    have hne : i ≠ first := by
      rintro rfl
      exact hw hi
    have := Fin.val_ne_of_ne hne
    omega

/-- Slot `j` gets the SVID. -/
def Chip.store_svid (chip : Chip) (j : Nat) (svid : BitVec 32) : Chip :=
  { chip with
    vdm_svid := fun i => if i.val = j then svid.setWidth 16 else chip.vdm_svid i
    vdm_svid_num := chip.vdm_svid_num + 1 }

/-- One iteration reads one word. -/
theorem store_svids_succ (chip : Chip) (k : Nat) {word : BitVec 32} (hw : chip.rec_obj (5 - k + 1 : Nat) = word) :
    store_svids chip (k + 1) =
      let upper := chip.store_svid ((5 - k) * 2) ((word >>> 16) &&& 0xffff#32)
      if (word >>> 16) &&& 0xffff#32 = 0#32 then chip
      else if word &&& 0xffff#32 = 0#32 then upper
      else store_svids (upper.store_svid ((5 - k) * 2 + 1) (word &&& 0xffff#32)) k := by
  subst hw
  rfl

theorem SameMessage.store_svid (h : SameMessage chip c) (j : Nat) (svid : BitVec 32) :
    SameMessage (chip.store_svid j svid) (c.store_svid j svid) := by
  obtain ⟨load, log, rfl⟩ : ∃ load log, c = chip.with_words load log := ⟨_, _, h.eq⟩
  exact ⟨rfl, h.words⟩

/-- The loop stays within the words that were carried. -/
theorem store_svids_same (k : Nat) (hk : k ≤ 6) :
    ∀ {chip c : Chip}, SameMessage chip c → list_carried chip (7 - k) → SameMessage (store_svids chip k) (store_svids c k) := by
  induction k with
  | zero => exact fun h _ => h
  | succ k ih =>
    intro chip c h hl
    have hin : 5 - k + 1 < PD_HEADER_CNT chip.rec_head := by
      rcases hl with h7 | ⟨i, h1, h2, _⟩ <;> omega
    have hat : chip.rec_obj (5 - k + 1 : Nat) = chip.rec_load ⟨6 - k, by omega⟩ := by
      unfold Chip.rec_obj
      rw [dif_pos (by omega)]
      congr 1
      apply Fin.ext
      dsimp only
      omega
    have hw : c.rec_obj (5 - k + 1 : Nat) = chip.rec_load ⟨6 - k, by omega⟩ := (h.obj (by omega)).trans hat
    rw [store_svids_succ chip k hat, store_svids_succ c k hw]
    apply SameMessage.ite
    · exact fun _ => h
    intro hu
    apply SameMessage.ite
    · exact fun _ => h.store_svid _ _
    intro hlow
    refine ih (by omega) ((h.store_svid _ _).store_svid _ _) ?_
    have hnot : ¬ends_list (chip.rec_load ⟨6 - k, by omega⟩) := by
      rintro (h0 | h0)
      · rw [← (low_half _).2] at h0
        exact hu h0
      · rw [← (low_half _).2] at h0
        exact hlow h0
    have hl : list_carried chip (6 - k) := by
      have h7 : 7 - (k + 1) = 6 - k := by omega
      rwa [h7] at hl
    have hnext := list_carried_next ⟨6 - k, by omega⟩ hl hnot
    have h7 : 6 - k + 1 = 7 - k := by omega
    dsimp only at hnext
    rwa [h7] at hnext

/-! ## A message whose words are carried -/

theorem SameMessage.emit (h : SameMessage chip c) (e : Entry) : SameMessage (chip.emit e) (c.emit e) := by
  obtain ⟨load, log, rfl⟩ : ∃ load log, c = chip.with_words load log := ⟨_, _, h.eq⟩
  exact ⟨rfl, h.words⟩

theorem store_mode_same (h : SameMessage chip c) : SameMessage (store_mode chip) (store_mode c) := by
  unfold store_mode
  rw [h.head]
  refine SameMessage.ite (fun hcnt => ?_) fun _ => h
  have hw : c.rec_obj 1 = chip.rec_obj 1 := h.obj (by omega)
  obtain ⟨load, log, rfl⟩ : ∃ load log, c = chip.with_words load log := ⟨_, _, h.eq⟩
  dsimp only
  rw [hw]
  apply SameMessage.ite
  · exact fun _ => ⟨rfl, h.words⟩
  · exact fun _ => ⟨rfl, h.words⟩

theorem process_vdm_ack_same (h : SameMessage chip c) {cmd : Nat}
    (h1 : cmd = VDM_DISCOVERY_ID ∨ cmd = VDM_DP_STATUS_UPDATE → 1 < PD_HEADER_CNT chip.rec_head)
    (hl : cmd = VDM_DISCOVERY_SVIDS → list_carried chip 1) :
    SameMessage (process_vdm_ack chip cmd) (process_vdm_ack c cmd) := by
  have hw : 1 < PD_HEADER_CNT chip.rec_head → c.rec_obj 1 = chip.rec_obj 1 := fun h1 => h.obj (by omega)
  have hmode := store_mode_same h
  have hsvids : list_carried chip 1 → SameMessage (store_svids chip 6) (store_svids c 6) :=
    store_svids_same 6 (Nat.le_refl 6) h
  obtain ⟨load, log, rfl⟩ : ∃ load log, c = chip.with_words load log := ⟨_, _, h.eq⟩
  unfold process_vdm_ack
  apply SameMessage.ite
  · intro hc
    rw [hw (h1 (.inl hc))]
    exact ⟨rfl, h.words⟩
  intro _
  apply SameMessage.ite
  · exact fun hc => hsvids (hl hc)
  intro _
  apply SameMessage.ite
  · exact fun _ => hmode
  intro _
  apply SameMessage.ite
  · exact fun _ => ⟨rfl, h.words⟩
  intro _
  apply SameMessage.ite
  · intro hc
    rw [hw (h1 (.inr hc))]
    exact ⟨rfl, h.words⟩
  intro _
  apply SameMessage.ite
  · exact fun _ => ⟨rfl, h.words⟩
  · exact fun _ => h

theorem own_of_carried (hc : carried chip) : OwnContents chip := by
  intro c h
  obtain ⟨h0, hstruct⟩ := hc
  have hw0 : c.rec_obj 0 = chip.rec_obj 0 := h.obj (by omega)
  unfold process_vdm_msg
  dsimp only
  rw [hw0]
  refine SameMessage.ite (fun _ => h) fun hs => ?_
  obtain ⟨hinit, hack⟩ := hstruct hs
  refine SameMessage.ite (fun ht => ?_) fun _ => ?_
  · refine SameMessage.ite (fun hcmd => ?_) fun _ => h
    have hw : c.rec_obj 1 = chip.rec_obj 1 := h.obj (by have := hinit ht hcmd; omega)
    obtain ⟨load, log, rfl⟩ : ∃ load log, c = chip.with_words load log := ⟨_, _, h.eq⟩
    rw [hw]
    exact ⟨rfl, h.words⟩
  refine SameMessage.ite (fun ht => ?_) fun _ => ?_
  · obtain ⟨h1, hl⟩ := hack ht
    exact process_vdm_ack_same (h.emit _) h1 hl
  refine SameMessage.ite (fun _ => ?_) fun _ => h
  obtain ⟨load, log, rfl⟩ : ∃ load log, c = chip.with_words load log := ⟨_, _, h.eq⟩
  exact ⟨rfl, h.words⟩

/-! ## A message that is completed by other words -/

/-- The words that were carried, and others behind them. -/
def Chip.completed (chip : Chip) (load : Fin 7 → BitVec 32) : Chip :=
  chip.with_words (fun i => if i.val < PD_HEADER_CNT chip.rec_head then chip.rec_load i else load i) chip.log

/-- Whatever stands behind the message, a field gets the same value. -/
theorem OwnContents.same {β : Type} (h : OwnContents chip) (f : Chip → β)
    (hf : ∀ c load log, f (Chip.with_words c load log) = f c) (load load' : Fin 7 → BitVec 32) :
    f (process_vdm_msg (chip.completed load)) = f (process_vdm_msg (chip.completed load')) := by
  have main : ∀ load, f (process_vdm_msg (chip.completed load)) = f (process_vdm_msg chip) := by
    intro load
    have hs := h (chip.completed load) (same_with_words _ _ fun i hi => if_pos hi)
    rw [← hs.state, hf]
  rw [main, main]

theorem completed_carried (chip : Chip) (load : Fin 7 → BitVec 32) {i : Int} (hi : 0 ≤ i ∧ i < PD_HEADER_CNT chip.rec_head) :
    (chip.completed load).rec_obj i = chip.rec_obj i :=
  (same_with_words _ _ fun _ hj => if_pos hj).obj hi

theorem completed_left (chip : Chip) (load : Fin 7 → BitVec 32) (i : Fin 7) (hi : PD_HEADER_CNT chip.rec_head ≤ i.val) :
    (chip.completed load).rec_obj (i.val : Nat) = load i := by
  unfold Chip.rec_obj Chip.completed Chip.with_words
  have hin : 0 ≤ ((i.val : Nat) : Int) ∧ ((i.val : Nat) : Int) < 7 := by omega
  rw [dif_pos hin]
  exact if_neg (Nat.not_lt.2 hi)

/-- The driver takes word 1 of an acknowledged identity as it stands. -/
theorem ack_id (hs : GET_VDMHEAD_STRUCT_TYPE (c.rec_obj 0) ≠ 0) (ht : GET_VDMHEAD_CMD_TYPE (c.rec_obj 0) = VDM_TYPE_ACK)
    (hc : GET_VDMHEAD_CMD (c.rec_obj 0) = VDM_DISCOVERY_ID) : (process_vdm_msg c).vdm_id = c.rec_obj 1 := by
  unfold process_vdm_msg
  dsimp only
  rw [if_neg hs, if_neg (by rw [ht]; decide), if_pos ht, hc]
  rfl

theorem ack_status (hs : GET_VDMHEAD_STRUCT_TYPE (c.rec_obj 0) ≠ 0) (ht : GET_VDMHEAD_CMD_TYPE (c.rec_obj 0) = VDM_TYPE_ACK)
    (hc : GET_VDMHEAD_CMD (c.rec_obj 0) = VDM_DP_STATUS_UPDATE) :
    (process_vdm_msg c).notify.dp_status = GET_DP_STATUS (c.rec_obj 1) := by
  unfold process_vdm_msg
  dsimp only
  rw [if_neg hs, if_neg (by rw [ht]; decide), if_pos ht, hc]
  rfl

theorem attention_status (hs : GET_VDMHEAD_STRUCT_TYPE (c.rec_obj 0) ≠ 0)
    (ht : GET_VDMHEAD_CMD_TYPE (c.rec_obj 0) = VDM_TYPE_INIT) (hc : GET_VDMHEAD_CMD (c.rec_obj 0) = VDM_ATTENTION) :
    (process_vdm_msg c).notify.dp_status = GET_DP_STATUS (c.rec_obj 1) := by
  unfold process_vdm_msg
  dsimp only
  rw [if_neg hs, if_pos ht, if_pos hc]
  rfl

theorem ack_svids (hs : GET_VDMHEAD_STRUCT_TYPE (c.rec_obj 0) ≠ 0) (ht : GET_VDMHEAD_CMD_TYPE (c.rec_obj 0) = VDM_TYPE_ACK)
    (hc : GET_VDMHEAD_CMD (c.rec_obj 0) = VDM_DISCOVERY_SVIDS) :
    (process_vdm_msg c).vdm_svid_num = c.vdm_svid_num + (svids c.rec_load).length := by
  unfold process_vdm_msg
  dsimp only
  rw [if_neg hs, if_neg (by rw [ht]; decide), if_pos ht, hc]
  exact (store_svids_eq (c.emit (.ack VDM_DISCOVERY_SVIDS)) 6 (Nat.le_refl 6)).1

/-! The words behind a message: an acknowledged identity, word 1 of which is 0 or 1. -/

/-- An acknowledgement of DISCOVERY_ID, and `word` in every place behind it. -/
def ack_behind (word : BitVec 32) : Fin 7 → BitVec 32 := fun i => if i.val = 0 then 0x8041#32 else word

/-- Where word 1 is not carried, it can be 0 or 1. -/
theorem word_one_behind (chip : Chip) (h : ¬1 < PD_HEADER_CNT chip.rec_head) (word : BitVec 32) :
    (chip.completed (ack_behind word)).rec_obj 1 = word :=
  completed_left chip (ack_behind word) 1 (Nat.not_lt.1 h)

/-- A field that shows word 1 is its own only if the word was carried. -/
theorem OwnContents.word_one {β : Type} (h : OwnContents chip) (f : Chip → β)
    (hf : ∀ c load log, f (Chip.with_words c load log) = f c) {g : BitVec 32 → β} (hg : g 0#32 ≠ g 1#32)
    (hshown : ∀ word, f (process_vdm_msg (chip.completed (ack_behind word))) = g ((chip.completed (ack_behind word)).rec_obj 1)) :
    1 < PD_HEADER_CNT chip.rec_head := by
  refine Nat.lt_of_not_le fun hle => hg ?_
  have hsame := h.same f hf (ack_behind 0#32) (ack_behind 1#32)
  rwa [hshown, hshown, word_one_behind chip (Nat.not_lt.2 hle), word_one_behind chip (Nat.not_lt.2 hle)] at hsame

theorem header_carried (h : OwnContents chip) : 0 < PD_HEADER_CNT chip.rec_head := by
  refine Nat.pos_of_ne_zero fun h0 => ?_
  have hw : ∀ word, (chip.completed (ack_behind word)).rec_obj 0 = 0x8041#32 := fun word =>
    completed_left chip (ack_behind word) 0 (Nat.le_of_eq h0)
  have h1 := h.word_one (fun c => c.vdm_id) (fun _ _ _ => rfl) (g := id) (by decide) fun word =>
    ack_id (by rw [hw]; decide) (by rw [hw]; decide) (by rw [hw]; decide)
  omega

/-- The loop counts two SVIDs a word exactly when it meets no zero. -/
theorem halves_length (words : Fin 7 → BitVec 32) (k : Nat) (hk : k ≤ 6) :
    ((halves words k).takeWhile (· != 0#16)).length = 2 * k ↔ ∀ i : Fin 7, 7 - k ≤ i.val → ¬ends_list (words i) := by
  induction k with
  | zero =>
    refine ⟨fun _ i hi => ?_, fun _ => rfl⟩
    have := i.isLt
    omega
  | succ k ih =>
    rw [halves]
    by_cases hu : (words ⟨6 - k, by omega⟩ >>> 16).setWidth 16 = 0#16
    · rw [List.takeWhile_cons_of_neg (by simp [hu])]
      constructor
      · intro h
        simp at h
      · intro h
        exact absurd (Or.inl hu) (h ⟨6 - k, by omega⟩ (by dsimp only; omega))
    by_cases hl : (words ⟨6 - k, by omega⟩).setWidth 16 = 0#16
    · rw [List.takeWhile_cons_of_pos (by simpa using hu), List.takeWhile_cons_of_neg (by simp [hl])]
      constructor
      · intro h
        simp at h
        omega
      · intro h
        exact absurd (Or.inr hl) (h ⟨6 - k, by omega⟩ (by dsimp only; omega))
    rw [List.takeWhile_cons_of_pos (by simpa using hu), List.takeWhile_cons_of_pos (by simpa using hl)]
    have hlen : ∀ n : Nat, n + 1 + 1 = 2 * (k + 1) ↔ n = 2 * k := by omega
    rw [List.length_cons, List.length_cons, hlen, ih (by omega)]
    constructor
    · intro h i hi
      by_cases hik : i.val = 6 - k
      · have : i = ⟨6 - k, by omega⟩ := Fin.ext hik
        rw [this]
        exact fun he => he.elim hu hl
      · exact h i (by omega)
    · exact fun h i hi => h i (by omega)

/-- Behind carried words without a zero the list can go on or end. -/
theorem list_carried_of_own (h : OwnContents chip) (hs : GET_VDMHEAD_STRUCT_TYPE (chip.rec_obj 0) ≠ 0)
    (ht : GET_VDMHEAD_CMD_TYPE (chip.rec_obj 0) = VDM_TYPE_ACK)
    (hc : GET_VDMHEAD_CMD (chip.rec_obj 0) = VDM_DISCOVERY_SVIDS) : list_carried chip 1 := by
  have h0 := header_carried h
  have h7 := cnt_le_seven chip.rec_head
  refine Classical.byContradiction fun hl => ?_
  have hn7 : PD_HEADER_CNT chip.rec_head ≠ 7 := fun h7 => hl (.inl h7)
  have hno : ∀ i : Fin 7, 1 ≤ i.val → i.val < PD_HEADER_CNT chip.rec_head → ¬ends_list (chip.rec_load i) :=
    fun i h1 h2 he => hl (.inr ⟨i, h1, h2, he⟩)
  have hnum : ∀ load, (process_vdm_msg (chip.completed load)).vdm_svid_num =
      chip.vdm_svid_num + (svids (chip.completed load).rec_load).length := by
    intro load
    have hw := completed_carried chip load (i := 0) (by omega)
    exact ack_svids (by rw [hw]; exact hs) (by rw [hw]; exact ht) (by rw [hw]; exact hc)
  have hsame := h.same (fun c => c.vdm_svid_num) (fun _ _ _ => rfl) (fun _ => 0#32) (fun _ => 0x10001#32)
  rw [hnum, hnum] at hsame
  -- all twelve SVIDs in one case, fewer in the other
  have hall : (svids (chip.completed fun _ => 0x10001#32).rec_load).length = 12 := by
    refine (halves_length _ 6 (Nat.le_refl 6)).2 fun i hi => ?_
    by_cases hcar : i.val < PD_HEADER_CNT chip.rec_head
    · have hi' : (chip.completed fun _ => 0x10001#32).rec_load i = chip.rec_load i := if_pos hcar
      rw [hi']
      exact hno i hi hcar
    · have hi' : (chip.completed fun _ => 0x10001#32).rec_load i = 0x10001#32 := if_neg hcar
      rw [hi']
      unfold ends_list
      decide
  have hfew : (svids (chip.completed fun _ => 0#32).rec_load).length ≠ 12 := by
    intro h12
    have hi' : (chip.completed fun _ => 0#32).rec_load ⟨PD_HEADER_CNT chip.rec_head, by omega⟩ = 0#32 :=
      if_neg (Nat.lt_irrefl _)
    have hend := (halves_length _ 6 (Nat.le_refl 6)).1 h12 ⟨PD_HEADER_CNT chip.rec_head, by omega⟩ h0
    rw [hi'] at hend
    exact hend (.inl rfl)
  omega

theorem carried_of_own (h : OwnContents chip) : carried chip := by
  have h0 := header_carried h
  have hw : ∀ load, (chip.completed load).rec_obj 0 = chip.rec_obj 0 := fun load => completed_carried chip load (by omega)
  refine ⟨h0, fun hs => ⟨fun ht hc => ?_, fun ht => ⟨fun hc => ?_, list_carried_of_own h hs ht⟩⟩⟩
  · exact h.word_one (fun c => c.notify.dp_status) (fun _ _ _ => rfl) (by decide) fun word =>
      attention_status (by rw [hw]; exact hs) (by rw [hw]; exact ht) (by rw [hw]; exact hc)
  · rcases hc with hc | hc
    · exact h.word_one (fun c => c.vdm_id) (fun _ _ _ => rfl) (g := id) (by decide) fun word =>
        ack_id (by rw [hw]; exact hs) (by rw [hw]; exact ht) (by rw [hw]; exact hc)
    · exact h.word_one (fun c => c.notify.dp_status) (fun _ _ _ => rfl) (by decide) fun word =>
        ack_status (by rw [hw]; exact hs) (by rw [hw]; exact ht) (by rw [hw]; exact hc)

/-- A message is interpreted from its own contents exactly when every word that the driver looks at was carried. -/
theorem own_contents_iff (chip : Chip) : OwnContents chip ↔ carried chip := ⟨carried_of_own, own_of_carried⟩

/-- An acknowledged identity without its word. -/
def bare_ack : Chip := { kzalloc {} with rec_head := 0x100f#16, rec_load := ack_behind 0#32 }

theorem identity_from_leftover : ¬OwnContents bare_ack := by
  intro h
  have hsame := h.same (fun c => c.vdm_id) (fun _ _ _ => rfl) (ack_behind 0#32) (ack_behind 1#32)
  exact absurd hsame (by decide)

end Fusb302
