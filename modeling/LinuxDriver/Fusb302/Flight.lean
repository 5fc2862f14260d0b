import LinuxDriver.Fusb302.Ordinary
/-!
# The frame in flight

A frame is in flight from the moment it is written into the transmit FIFO until
the chip reports its outcome or is reset. The driver keeps no record of it but
the policy position: the states that send stay in one sub-state until
`tx_state` says that the frame is sent or failed.
-/

namespace Fusb302

/-! ## What the log says -/

/-- The frame in flight, with the state it was written in. -/
def flight : List Entry → Option (List Byte × ConnState)
  | [] => none
  | .fifo data state :: _ => some (data, state)
  | .sent :: _ | .retryfail :: _ | .pd_reset :: _ => none
  | _ :: l => flight l

/-- The last report, `true` for TXSENT, with the state its frame was written in;
none once another frame is written. -/
def report : List Entry → Option (Bool × ConnState)
  | [] => none
  | .sent :: l => (flight l).map fun f => (true, f.2)
  | .retryfail :: l => (flight l).map fun f => (false, f.2)
  | .fifo .. :: _ | .pd_reset :: _ => none
  | _ :: l => report l

/-- The frame last reported sent since a soft or hard reset. -/
def last_sent : List Entry → Option (List Byte)
  | [] => none
  | .sent :: l => (flight l).map Prod.fst
  | .soft_reset :: _ | .hardrst :: _ | .pd_reset :: _ => none
  | _ :: l => last_sent l

/-- The MessageID in the header of a frame. -/
def frame_id (data : List Byte) : Nat :=
  PD_HEADER_ID ((data.getD 5 0#8).setWidth 16 ||| ((data.getD 6 0#8).setWidth 16 <<< 8))

/-- A frame is written with none in flight. -/
def Alone : Entry → List Entry → Prop
  | .fifo .., l => flight l = none
  | _, _ => True

/-- A frame reported sent follows the one before it. -/
def Numbered : Entry → List Entry → Prop
  | .sent, l => ∀ f ∈ flight l, ∀ data ∈ last_sent l, frame_id f.1 = (frame_id data + 1) % 8
  | _, _ => True

instance (e : Entry) (l : List Entry) : Decidable (Alone e l) :=
  match e with
  | .fifo .. => inferInstanceAs (Decidable (_ = _))
  | .recv _ | .mesg .. | .requested .. | .asked .. | .vdm _ | .sent | .retryfail | .hardrst | .pd_reset | .soft_reset
  | .ack _ | .stage _ | .query | .enter_mode => inferInstanceAs (Decidable True)

/-! ## Who looks at the outcome -/

/-- The sub-states in which a handler goes by the outcome of the frame it has written. -/
def ConnState.awaits (state : ConnState) (sub_state : Nat) : Bool :=
  match state with
  | .policy_src_send_caps | .policy_src_get_sink_caps | .policy_src_send_softrst | .policy_snk_send_softrst
  | .policy_snk_select_cap | .policy_snk_prs_accept | .policy_src_prs_accept | .policy_snk_prs_reject
  | .policy_src_prs_reject | .policy_vcs_ufp_reject | .policy_drs_dfp_reject | .policy_drs_ufp_reject
  | .policy_src_prs_source_off | .policy_snk_prs_send_swap | .policy_src_prs_send_swap | .policy_vcs_ufp_accept
  | .policy_vcs_ufp_send_ps_rdy | .policy_vcs_dfp_send_ps_rdy | .policy_vcs_dfp_send_swap | .policy_drs_dfp_accept
  | .policy_drs_ufp_accept | .policy_drs_ufp_send_swap | .policy_drs_dfp_send_swap => sub_state == 1
  | .policy_src_transition_supply => sub_state != 0 && sub_state != 2
  | .policy_src_cap_response | .policy_src_softrst | .policy_snk_softrst => sub_state != 0
  | .policy_snk_prs_source_on => sub_state == 2
  | _ => false

/-- A state in which vendor messages are dealt with. -/
def ConnState.ready : ConnState → Bool
  | .policy_src_ready | .policy_snk_ready => true
  | _ => false

/-- The states to which a frame without a report does no harm: they send
nothing, and `error_recovery` resets the chip. -/
def ConnState.indifferent : ConnState → Bool
  | .disabled | .error_recovery | .policy_snk_wait_caps => true
  | _ => false

/-- The stages of the discovery that send a command. -/
def VdmState.sends : VdmState → Bool
  | .DISCOVERY_ID | .DISCOVERY_SVID | .DISCOVERY_MODES | .ENTER_MODE | .UPDATE_STATUS | .DP_CONFIG => true
  | _ => false

/-- The discovery waits for the outcome of its command. -/
def vdm_waits (chip : Chip) : Bool := chip.vdm_send_state == 1 && chip.vdm_state.sends

/-- So does the ready state that runs it. -/
def vdm_reads (chip : Chip) : Bool := chip.conn_state.ready && chip.notify.data_role == .DFP && vdm_waits chip

/-- The handler of the current state goes by the outcome of a frame. -/
def reads (chip : Chip) : Bool := chip.conn_state.awaits chip.sub_state || vdm_reads chip

/-! ## The invariant -/

variable {r : Bool} {chip c c' : Chip} {evt : Evt} {l l' : List Entry} {cmd : Nat} {is_DMT : Bool}

/-- What `tx_state` says of a port that goes by the outcome of a frame. -/
inductive Known (chip : Chip) : Prop
  | in_flight (ht : chip.tx_state = .tx_busy) (hf : flight chip.log ≠ none)
  | sent (ht : chip.tx_state = .tx_success) (hr : report chip.log = some (true, chip.conn_state))
  | failed (ht : chip.tx_state = .tx_failed) (hr : report chip.log = some (false, chip.conn_state))
  | built (ht : chip.tx_state = .tx_idle) (hf : flight chip.log = none) (hi : PD_HEADER_ID chip.send_head = chip.msg_id % 8)

/-- The log is right so far, and the next frame will have the next number. -/
structure Counted (chip : Chip) : Prop where
  alone : Trace.Each Alone chip.log
  numbered : Trace.Each Numbered chip.log
  next : ∀ data ∈ last_sent chip.log, (frame_id data + 1) % 8 = chip.msg_id % 8

/-- `r` says whether the port goes by the outcome of a frame. One that does has
written the frame in flight itself, the others have none in flight, unless they
do not care. -/
structure Flies (r : Bool) (chip : Chip) : Prop extends Counted chip where
  id : ∀ f ∈ flight chip.log, frame_id f.1 = chip.msg_id % 8
  own : r = true → ∀ f ∈ flight chip.log, f.2 = chip.conn_state
  none : r = false → chip.conn_state.indifferent = false → flight chip.log = none
  known : r = true → Known chip

/-- None is in flight. -/
structure Ground (chip : Chip) : Prop extends Counted chip where
  flight : flight chip.log = none

/-- Only the policy messages are considered; the discovery's are of the ready states. -/
abbrev Sends (chip : Chip) : Prop := Flies (chip.conn_state.awaits chip.sub_state) chip

/-! ## The log -/

/-- Entries without a bearing on frames. -/
def Entry.unrelated : Entry → Prop
  | .fifo .. | .sent | .retryfail | .hardrst | .pd_reset | .soft_reset => False
  | _ => True

theorem unrelated_flight (h : Trace.Added Entry.unrelated l l') :
    flight l' = flight l ∧ report l' = report l ∧ last_sent l' = last_sent l := by
  refine h.induct (R := fun l' => flight l' = flight l ∧ report l' = report l ∧ last_sent l' = last_sent l) ?_
    ⟨rfl, rfl, rfl⟩
  rintro e l'' he ⟨hf, hr, hs⟩
  cases e <;> first | exact ⟨hf, hr, hs⟩ | exact he.elim

theorem flight_of_report {x : Bool × ConnState} (h : report l = some x) : flight l = none := by
  induction l with
  | nil => rfl
  | cons e l ih =>
    cases e with
    | sent => rfl
    | retryfail => rfl
    | fifo data state => cases h
    | pd_reset => rfl
    | _ => exact ih h

theorem Counted.keep (h : Counted c) (hl : Trace.Added Entry.unrelated c.log c'.log) (hm : c'.msg_id = c.msg_id) :
    Counted c' := by
  refine ⟨hl.each ?_ h.alone, hl.each ?_ h.numbered, ?_⟩
  · intro e l he
    cases e <;> trivial
  · intro e l he
    cases e <;> trivial
  · rw [(unrelated_flight hl).2.2, hm]
    exact h.next

theorem Ground.add (h : Ground c) (hl : Trace.Added Entry.unrelated c.log c'.log) (hm : c'.msg_id = c.msg_id) :
    Ground c' :=
  ⟨h.toCounted.keep hl hm, (unrelated_flight hl).1.trans h.flight⟩

theorem Ground.keep (h : Ground c) (hl : c'.log = c.log) (hm : c'.msg_id = c.msg_id) : Ground c' := h.add (.of_eq hl) hm

/-- After a reset of the chip nothing is in flight, and the numbers start anew. -/
theorem Counted.pd_reset (h : Counted c) (hl : c'.log = .pd_reset :: c.log) : Ground c' := by
  refine ⟨⟨?_, ?_, ?_⟩, ?_⟩ <;> rw [hl]
  · exact ⟨trivial, h.alone⟩
  · exact ⟨trivial, h.numbered⟩
  · rintro data ⟨⟩
  · rfl

theorem Ground.soft_reset (h : Ground c) : Ground (fusb_soft_reset_parameter c) := by
  refine ⟨⟨⟨trivial, trivial, h.alone⟩, ⟨trivial, trivial, h.numbered⟩, ?_⟩, h.flight⟩
  rintro data ⟨⟩

theorem Ground.hardrst (h : Ground c) (hl : c'.log = .hardrst :: c.log) : Ground c' := by
  refine ⟨⟨?_, ?_, ?_⟩, ?_⟩ <;> rw [hl]
  · exact ⟨trivial, h.alone⟩
  · exact ⟨trivial, h.numbered⟩
  · rintro data ⟨⟩
  · exact h.flight

/-- With nothing in flight, only an outcome that is waited for matters. -/
theorem Ground.knows (h : Ground c) (hk : r = true → Known c) : Flies r c where
  toCounted := h.toCounted
  id := by
    rw [h.flight]
    rintro f ⟨⟩
  own _ := by
    rw [h.flight]
    rintro f ⟨⟩
  none _ _ := h.flight
  known := hk

theorem Ground.flies (h : Ground c) (hr : r = false) : Flies r c :=
  h.knows fun ht => absurd ht (by rw [hr]; decide)

/-- What the invariant looks at is left alone. -/
theorem Flies.keep (h : Flies r c) (hl : Trace.Added Entry.unrelated c.log c'.log) (hs : c'.conn_state = c.conn_state)
    (ht : c'.tx_state = c.tx_state) (hh : c'.send_head = c.send_head) (hm : c'.msg_id = c.msg_id) : Flies r c' := by
  obtain ⟨hf, hr, _⟩ := unrelated_flight hl
  refine ⟨h.toCounted.keep hl hm, ?_, ?_, ?_, ?_⟩
  · rw [hf, hm]
    exact h.id
  · rw [hf, hs]
    exact h.own
  · rw [hf, hs]
    exact h.none
  · intro hw
    cases h.known hw with
    | in_flight hb hy => exact .in_flight (ht.trans hb) (by rwa [hf])
    | sent hb hy => exact .sent (ht.trans hb) (by rwa [hr, hs])
    | failed hb hy => exact .failed (ht.trans hb) (by rwa [hr, hs])
    | built hb hy hi => exact .built (ht.trans hb) (by rwa [hf]) (by rwa [hh, hm])

theorem Flies.ground (h : Flies r c) (hr : r = false) (hw : c.conn_state.indifferent = false) : Ground c :=
  ⟨h.toCounted, h.none hr hw⟩

theorem Flies.grounded (h : Flies r c) (hf : Fusb302.flight c.log = .none) : Ground c := ⟨h.toCounted, hf⟩

/-! ## Message numbers -/

section Header

variable {x y m : BitVec 16} {n : Nat}

/-- No bit of the MessageID is set. -/
abbrev Clear (x : BitVec 16) : Prop := (x >>> 9) &&& 7#16 = 0#16

theorem id_bits_or (x y : BitVec 16) : ((x ||| y) >>> 9) &&& 7#16 = (x >>> 9) &&& 7#16 ||| (y >>> 9) &&& 7#16 := by
  rw [BitVec.ushiftRight_or_distrib, BitVec.and_or_distrib_right]

theorem id_or (h : Clear y) : PD_HEADER_ID (x ||| y) = PD_HEADER_ID x := by
  rw [PD_HEADER_ID, id_bits_or, h, BitVec.or_zero, PD_HEADER_ID]

theorem clear_or (hx : Clear x) (hy : Clear y) : Clear (x ||| y) := by
  rw [Clear, id_bits_or, hx, hy, BitVec.or_zero]

theorem clear_and (h : Clear m) : Clear (x &&& m) := by
  rw [Clear, BitVec.ushiftRight_and_distrib, BitVec.and_assoc, h, BitVec.and_zero]

theorem seven_bits : ∀ i < 16, (7#16).getLsbD i = decide (i < 3) := by decide

theorem clear_shift (x : BitVec 16) : Clear (x <<< 12) := by
  apply BitVec.eq_of_getLsbD_eq
  intro i hi
  rw [BitVec.getLsbD_and, seven_bits i hi, BitVec.getLsbD_ushiftRight, BitVec.getLsbD_shiftLeft, BitVec.getLsbD_zero]
  by_cases h3 : i < 3
  · simp [show 9 + i < 12 by omega]
  · simp [h3]

theorem shift_back (x : BitVec 16) : (((x &&& 7#16) <<< 9) >>> 9) &&& 7#16 = x &&& 7#16 := by
  apply BitVec.eq_of_getLsbD_eq
  intro i hi
  rw [BitVec.getLsbD_and, BitVec.getLsbD_ushiftRight, BitVec.getLsbD_shiftLeft, Nat.add_sub_cancel_left,
    BitVec.getLsbD_and, seven_bits i hi]
  by_cases h3 : i < 3
  · simp [h3, show 9 + i < 16 by omega]
  · simp [h3]

theorem base_head_id (chip : Chip) : PD_HEADER_ID (base_head chip) = chip.msg_id % 8 := by
  have hp : Clear ((chip.notify.power_role.toBit &&& 1#16) <<< 8) := by
    cases chip.notify.power_role <;> decide
  have hd : Clear ((chip.notify.data_role.toBit &&& 1#16) <<< 5) := by
    cases chip.notify.data_role <;> decide
  have h6 : Clear (1#16 <<< 6) := by decide
  unfold base_head
  rw [id_or hd, id_or h6, id_or hp, PD_HEADER_ID, shift_back, BitVec.toNat_and, BitVec.toNat_ofNat]
  change chip.msg_id % 2 ^ 16 &&& 2 ^ 3 - 1 = _
  rw [Nat.and_two_pow_sub_one_eq_mod]
  omega

theorem set_mesg_id (chip : Chip) (cmd : Nat) (is_DMT : Bool) :
    PD_HEADER_ID (set_mesg chip cmd is_DMT).send_head = chip.msg_id % 8 := by
  have hc : Clear (BitVec.ofNat 16 cmd &&& 0xf#16) := clear_and (by decide)
  unfold set_mesg
  dsimp only
  repeat' split
  · rw [id_or hc, id_or (clear_shift _), base_head_id]
  · rw [id_or (clear_or (clear_shift _) hc), base_head_id]
  · exact base_head_id chip
  · rw [id_or hc, base_head_id]

theorem set_vdm_mesg_id (chip : Chip) (cmd type mode : Nat) :
    PD_HEADER_ID (set_vdm_mesg chip cmd type mode).send_head = chip.msg_id % 8 := by
  have hv : Clear (BitVec.ofNat 16 DMT_VENDERDEFINED &&& 0xf#16) := by decide
  obtain ⟨cnt, load, pin, he⟩ := set_vdm_mesg_builds chip cmd type mode
  rw [he, id_or (clear_shift _), id_or hv, base_head_id]

theorem frame_id_senddata (chip : Chip) : frame_id (senddata chip) = PD_HEADER_ID chip.send_head := by
  have hb : ∀ h : BitVec 16, (((h &&& 0xff#16).setWidth 8).setWidth 16 |||
      ((((h >>> 8) &&& 0xff#16).setWidth 8).setWidth 16 <<< 8) : BitVec 16) = h := by
    intro h
    have hff : ∀ i < 16, (0xff#16).getLsbD i = decide (i < 8) := by decide
    apply BitVec.eq_of_getLsbD_eq
    intro i hi
    by_cases h8 : i < 8
    · simp [h8, hi, hff i hi]
    · simp [h8, hi, hff (i - 8) (by omega), show i - 8 < 8 by omega, show i - 8 < 16 by omega, show 8 + (i - 8) = i by omega]
  exact congrArg PD_HEADER_ID (hb chip.send_head)

end Header

/-! ## Sending -/

theorem Ground.write (h : Ground c) (ht : c.tx_state = .tx_idle) (hi : PD_HEADER_ID c.send_head = c.msg_id % 8)
    (hr : r = true ∨ c.conn_state.indifferent = true) : Flies r (policy_send_data c) := by
  rw [policy_send_data_idle _ ht]
  refine ⟨⟨⟨h.flight, h.alone⟩, ⟨trivial, h.numbered⟩, h.next⟩, ?_, ?_, ?_, ?_⟩
  · rintro f ⟨⟩
    exact (frame_id_senddata c).trans hi
  · rintro _ f ⟨⟩
    rfl
  · intro hf hi
    rcases hr with ht | ht
    · rw [hf] at ht
      cases ht
    · exact absurd ht (by rw [hi]; decide)
  · intro _
    exact .in_flight rfl (Option.some_ne_none _)

theorem Ground.mesg (h : Ground c) : Ground (set_mesg c cmd is_DMT) := by
  refine h.add ?_ rfl
  unfold set_mesg
  dsimp only
  split
  · exact .cons trivial (.cons trivial (.refl _))
  · exact .cons trivial (.refl _)

/-- A handler builds its message. -/
theorem Ground.build (h : Ground c) : Sends (build_mesg c cmd is_DMT) := by
  have hb : Ground (build_mesg c cmd is_DMT) := h.mesg.keep rfl rfl
  exact hb.knows fun _ => .built rfl hb.flight (set_mesg_id c cmd is_DMT)

/-- And writes it. -/
theorem Ground.send_build (h : Ground c) (hr : c.conn_state.awaits 1 = true ∨ c.conn_state.indifferent = true) :
    Sends (policy_send_data (build_mesg c cmd is_DMT)) := by
  have hb : Ground (build_mesg c cmd is_DMT) := h.mesg.keep rfl rfl
  have hw : Flies (c.conn_state.awaits 1) (policy_send_data (build_mesg c cmd is_DMT)) :=
    hb.write rfl (set_mesg_id c cmd is_DMT) hr
  unfold Sends
  rw [(policy_send_data_frame _).1]
  exact hw

/-- A handler that goes by the outcome: it has none in hand and waits, or
nothing is in flight. A message built but not written is written. -/
theorem Flies.cases (h : Flies r c) (hr : r = true) :
    (c.tx_state = .tx_busy ∧ policy_send_data c = c) ∨ (c.tx_state = .tx_success ∧ Ground c) ∨
      (c.tx_state = .tx_failed ∧ Ground c) ∨ (c.tx_state = .tx_idle ∧ Flies r (policy_send_data c)) := by
  cases h.known hr with
  | in_flight ht _ => exact Or.inl ⟨ht, policy_send_data_of_ne_idle c (by rw [ht]; decide)⟩
  | sent ht ho => exact Or.inr (Or.inl ⟨ht, h.grounded (flight_of_report ho)⟩)
  | failed ht ho => exact Or.inr (Or.inr (Or.inl ⟨ht, h.grounded (flight_of_report ho)⟩))
  | built ht hf hi => exact Or.inr (Or.inr (Or.inr ⟨ht, (h.grounded hf).write ht hi (Or.inl hr)⟩))

theorem Sends.send_data (h : Sends c) (hr : c.conn_state.awaits c.sub_state = true) :
    (c.tx_state = .tx_busy ∧ policy_send_data c = c) ∨ (c.tx_state = .tx_success ∧ Ground c) ∨
      (c.tx_state = .tx_failed ∧ Ground c) ∨ (c.tx_state = .tx_idle ∧ Sends (policy_send_data c)) := by
  have hk : (policy_send_data c).conn_state.awaits (policy_send_data c).sub_state = c.conn_state.awaits c.sub_state := by
    rw [(policy_send_data_frame c).1]
  unfold Sends
  rw [hk]
  exact Flies.cases h hr

theorem Sends.send_then (h : Sends c) (hr : c.conn_state.awaits c.sub_state = true) {success failed : Chip → Chip}
    (hs : Ground c → Sends (success c)) (hf : Ground c → Sends (failed c)) : Sends (send_then c success failed) := by
  unfold Fusb302.send_then
  rcases Sends.send_data h hr with ⟨ht, he⟩ | ⟨ht, hg⟩ | ⟨ht, hg⟩ | ⟨ht, hw⟩
  · rw [he]
    simp only [ht]
    exact h
  · rw [policy_send_data_of_ne_idle c (by rw [ht]; decide)]
    simp only [ht]
    exact hs hg
  · rw [policy_send_data_of_ne_idle c (by rw [ht]; decide)]
    simp only [ht]
    exact hf hg
  · have hb : (policy_send_data c).tx_state = .tx_busy := by simp [ht]
    simp only [hb]
    exact hw

/-! ## Staying and leaving -/

theorem awaits_zero (s : ConnState) : s.awaits 0 = false := by
  cases s <;> rfl

theorem indifferent_awaits {s : ConnState} (h : s.indifferent = true) (n : Nat) : s.awaits n = false := by
  cases s <;> first | rfl | cases h

/-- A handler that starts has nothing in flight. -/
theorem Sends.start {s : ConnState} (h : Sends c) (hc : c.conn_state = s) (hi : s.indifferent = false) (h0 : c.sub_state = 0) :
    Ground c := by
  refine Flies.ground h ?_ (by rw [hc, hi])
  rw [h0]
  exact awaits_zero _

/-- Nor has a state that goes by no outcome in this sub-state. -/
theorem Sends.rested {s : ConnState} (h : Sends c) (hc : c.conn_state = s) (hi : s.indifferent = false)
    (ha : s.awaits c.sub_state = false) : Ground c := by
  refine Flies.ground h ?_ (by rw [hc, hi])
  rw [hc]
  exact ha

/-- A frame without a report may be left to the states that do not care. -/
theorem Flies.left {r : Bool} (h : Flies r c) (hl : c'.log = c.log) (hm : c'.msg_id = c.msg_id)
    (hi : c'.conn_state.indifferent = true) : Sends c' where
  toCounted := h.toCounted.keep (.of_eq hl) hm
  id := by
    rw [hl, hm]
    exact h.id
  own ht := absurd ht (by rw [indifferent_awaits hi]; decide)
  none _ hf := absurd hf (by rw [hi]; decide)
  known ht := absurd ht (by rw [indifferent_awaits hi]; decide)

/-- The port moves to another state. -/
theorem Ground.move (h : Ground c) (hl : c'.log = c.log) (hm : c'.msg_id = c.msg_id) (hs : c'.sub_state = 0) : Sends c' := by
  refine (h.keep hl hm).flies ?_
  rw [hs]
  exact awaits_zero _

/-- It stays in one that goes by no outcome at all. -/
theorem Ground.stay {s : ConnState} (h : Ground c) (hl : c'.log = c.log) (hm : c'.msg_id = c.msg_id)
    (hs : c'.conn_state = s) (ha : ∀ n, s.awaits n = false) : Sends c' := by
  refine (h.keep hl hm).flies ?_
  rw [hs]
  exact ha _

/-- It stays in a sub-state that goes by none. -/
theorem Ground.rest {s : ConnState} {n : Nat} (h : Ground c) (hl : c'.log = c.log) (hm : c'.msg_id = c.msg_id)
    (hs : c'.conn_state = s) (hn : c'.sub_state = n) (ha : s.awaits n = false) : Sends c' := by
  refine (h.keep hl hm).flies ?_
  rw [hs, hn]
  exact ha

end Fusb302
