import LinuxDriver.Fusb302.Discovery
/-!
# One frame in flight

A frame is written only when the one before it is reported or discarded, a
handler sees the outcome of its own message, and the numbers go up by one. This
holds in every run in which the chip reports what was written, and no event
takes a port away from a frame that has no report.
-/

namespace Fusb302

variable {chip c c' : Chip} {evt : Evt} {env : Env}

/-! ## The alerts -/

/-- The chip reports a frame that is not in flight, or both outcomes of one, or
a hard reset a second time when frames were sent since. -/
def misreported (chip : Chip) (env : Env) : Bool :=
  !hard_reset_reported chip env &&
    (bit env.interrupta INTERRUPTA_TXSENT && (bit env.interrupta INTERRUPTA_RETRYFAIL || (flight chip.log).isNone) ||
      bit env.interrupta INTERRUPTA_RETRYFAIL && (flight chip.log).isNone ||
      bit env.interrupta INTERRUPTA_HARDSENT && (reads chip || (flight chip.log).isSome || (last_sent chip.log).isSome))

/-- The invariant with the report of this invocation counted, as it will be before the switch. -/
def Told (chip : Chip) (evt : Evt) : Prop := Flies (reads chip) (count_sent chip evt)

theorem count_sent_frame (chip : Chip) (evt : Evt) :
    let chip' := count_sent chip evt
    chip'.toPolicy = chip.toPolicy ∧ chip'.toVdm = chip.toVdm ∧ chip'.notify = chip.notify ∧ chip'.log = chip.log ∧
      chip'.tx_state = chip.tx_state ∧ chip'.send_head = chip.send_head ∧
      chip'.msg_id = if evt.tx && decide (chip.tx_state = .tx_success) then chip.msg_id + 1 else chip.msg_id := by
  unfold count_sent
  split
  · exact ⟨rfl, rfl, rfl, rfl, rfl, rfl, rfl⟩
  · exact ⟨rfl, rfl, rfl, rfl, rfl, rfl, rfl⟩

theorem Told.keep {evt' : Evt} (h : Told c evt) (hl : Trace.Added Entry.unrelated c.log c'.log)
    (hc : c'.conn_state = c.conn_state) (hs : c'.sub_state = c.sub_state) (hx : c'.toTx = c.toTx) (hv : c'.toVdm = c.toVdm)
    (hd : c'.notify.data_role = c.notify.data_role) (he : evt'.tx = evt.tx) : Told c' evt' := by
  obtain ⟨hp₁, _, _, hl₁, ht₁, hh₁, hm₁⟩ := count_sent_frame c evt
  obtain ⟨hp₂, _, _, hl₂, ht₂, hh₂, hm₂⟩ := count_sent_frame c' evt'
  have hr := reads_congr hc hs hv hd
  have ht : c'.tx_state = c.tx_state := congrArg Tx.tx_state hx
  unfold Told
  rw [hr]
  refine Flies.keep h ?_ ?_ ?_ ?_ ?_
  · rwa [hl₁, hl₂]
  · rw [hp₁, hp₂, hc]
  · rw [ht₁, ht₂, ht]
  · rw [hh₁, hh₂]
    exact congrArg Tx.send_head hx
  · rw [hm₁, hm₂, ht, he, show c'.msg_id = c.msg_id from congrArg Tx.msg_id hx]

/-- Just after a reset of the chip: nothing is in flight or numbered, and nobody waits. -/
structure Anew (chip : Chip) : Prop where
  alone : Trace.Each Alone chip.log
  numbered : Trace.Each Numbered chip.log
  flight : flight chip.log = none
  last : last_sent chip.log = none
  unread : reads chip = false

theorem Anew.told (h : Anew c) : Told c evt := by
  obtain ⟨_, _, _, hl, _⟩ := count_sent_frame c evt
  have hg : Ground (count_sent c evt) := by
    refine ⟨⟨?_, ?_, ?_⟩, ?_⟩ <;> rw [hl]
    · exact h.alone
    · exact h.numbered
    · rw [h.last]
      rintro data ⟨⟩
    · exact h.flight
  exact hg.flies h.unread

/-- The log is right so far, whatever is in flight. -/
def Sound (l : List Entry) : Prop := Trace.Each Alone l ∧ Trace.Each Numbered l

theorem hard_reset_anew (h : Sound c.log) : Anew (pd_execute_hard_reset (fusb302_pd_reset c)) := by
  unfold pd_execute_hard_reset
  dsimp only
  split
  · exact ⟨⟨trivial, trivial, h.1⟩, ⟨trivial, trivial, h.2⟩, rfl, rfl, rfl⟩
  · exact ⟨⟨trivial, trivial, h.1⟩, ⟨trivial, trivial, h.2⟩, rfl, rfl, rfl⟩

theorem unattached_told (h : Sound c.log) : Told (set_state_unattached c) evt := by
  obtain ⟨hc, _⟩ := @set_state_unattached_frame c
  have hl : (set_state_unattached c).log = .pd_reset :: c.log := by simp [set_state_unattached, set_state]
  refine Anew.told ⟨?_, ?_, ?_, ?_, ?_⟩
  · rw [hl]
    exact ⟨trivial, h.1⟩
  · rw [hl]
    exact ⟨trivial, h.2⟩
  · rw [hl]
    rfl
  · rw [hl]
    rfl
  · rw [reads, vdm_reads, hc]
    rfl

theorem Told.sound (h : Told c evt) : Sound c.log := by
  obtain ⟨_, _, _, hl, _⟩ := count_sent_frame c evt
  rw [← hl]
  exact ⟨h.alone, h.numbered⟩

/-- With nothing counted yet. -/
theorem told_iff (ht : evt.tx = false) : Told c evt ↔ Flies (reads c) c := by
  unfold Told count_sent
  rw [ht, Bool.false_and, if_neg (by decide)]

theorem txsent_sound {a : Chip × Evt} (h : Flies (reads a.1) a.1) : Sound (alert_txsent env a).1.log := by
  unfold alert_txsent
  split
  · refine ⟨⟨trivial, h.alone⟩, ⟨?_, h.numbered⟩⟩
    intro f hf data hd
    rw [h.id f hf, h.next data hd]
  · exact ⟨h.alone, h.numbered⟩

/-- The frame in flight is reported sent. -/
theorem txsent_told {a : Chip × Evt} (h : Flies (reads a.1) a.1) (hf : flight a.1.log ≠ none) (ht : a.2.tx = false) :
    Told (alert_txsent env a).1 (alert_txsent env a).2 := by
  have hs : Sound (alert_txsent env a).1.log := txsent_sound h
  unfold alert_txsent at hs ⊢
  split
  · rename_i hb
    rw [if_pos hb] at hs
    obtain ⟨f, hf⟩ := Option.ne_none_iff_exists'.1 hf
    change Flies (reads a.1) { a.1 with tx_state := .tx_success, log := .sent :: a.1.log, msg_id := a.1.msg_id + 1 }
    have hg : Ground { a.1 with tx_state := .tx_success, log := .sent :: a.1.log, msg_id := a.1.msg_id + 1 } := by
      refine ⟨⟨hs.1, hs.2, ?_⟩, rfl⟩
      intro data hd
      simp only [last_sent, hf, Option.map_some, Option.mem_some] at hd
      have hi := h.id f hf
      rw [hd] at hi
      dsimp only
      omega
    refine hg.knows fun hr => .sent rfl ?_
    simp [report, hf, h.own hr f hf]
  · exact (told_iff ht).2 h

/-- The frame in flight is reported lost. -/
theorem retryfail_told {a : Chip × Evt} (h : Flies (reads a.1) a.1) (hf : flight a.1.log ≠ none) :
    Told { a.1 with tx_state := .tx_failed, log := .retryfail :: a.1.log } { a.2 with tx := true } := by
  obtain ⟨f, hf⟩ := Option.ne_none_iff_exists'.1 hf
  change Flies (reads a.1) { a.1 with tx_state := .tx_failed, log := .retryfail :: a.1.log }
  have hg : Ground { a.1 with tx_state := .tx_failed, log := .retryfail :: a.1.log } :=
    ⟨⟨⟨trivial, h.alone⟩, ⟨trivial, h.numbered⟩, h.next⟩, rfl⟩
  refine hg.knows fun hr => .failed rfl ?_
  simp [report, hf, h.own hr f hf]

theorem retryfail_sound {a : Chip × Evt} (h : Sound a.1.log) : Sound (alert_retryfail env a).1.log := by
  unfold alert_retryfail
  split
  · exact ⟨⟨trivial, h.1⟩, ⟨trivial, h.2⟩⟩
  · exact h

theorem retryfail_anew {a : Chip × Evt} (h : Anew a.1) : Anew (alert_retryfail env a).1 := by
  unfold alert_retryfail
  split
  · exact ⟨⟨trivial, h.alone⟩, ⟨trivial, h.numbered⟩, rfl, h.last, h.unread⟩
  · exact h

theorem hardsent_anew {a : Chip × Evt} (h : Anew a.1) : Anew (alert_hardsent env a).1 := by
  unfold alert_hardsent
  repeat' split
  · exact hard_reset_anew ⟨h.alone, h.numbered⟩
  · exact ⟨h.alone, h.numbered, h.flight, h.last, h.unread⟩
  · exact h

/-- A reset among the reports discards whatever they say of frames. -/
theorem hardrst_anew {a : Chip × Evt} (h : Sound a.1.log) (hb : bit env.interrupta INTERRUPTA_HARDRST = true) :
    Anew (alert_hardrst env a).1 := by
  unfold alert_hardrst
  rw [if_pos hb]
  exact hard_reset_anew h

/-- From TXSENT on. -/
theorem alert_reports_told {a : Chip × Evt} (h : Flies (reads a.1) a.1) (ht : a.2.tx = false)
    (hm : misreported a.1 env = false) :
    let a' := alert_hardsent env (alert_retryfail env (alert_hardrst env (alert_gcrcsent env (alert_txsent env a))))
    Told a'.1 a'.2 := by
  have hs : Sound (alert_gcrcsent env (alert_txsent env a)).1.log := by
    unfold alert_gcrcsent
    split <;> exact txsent_sound h
  have hy : (alert_gcrcsent env (alert_txsent env a)).1.retry = a.1.retry := by
    unfold alert_gcrcsent alert_txsent
    repeat' split
    all_goals rfl
  cases hr : bit env.interrupta INTERRUPTA_HARDRST
  case true => exact (hardsent_anew (retryfail_anew (hardrst_anew hs hr))).told
  -- no reset from the partner: does HARDSENT report one of the port's own?
  rw [show alert_hardrst env (alert_gcrcsent env (alert_txsent env a)) = alert_gcrcsent env (alert_txsent env a) by
    rw [alert_hardrst, if_neg (by rw [hr]; decide)]]
  cases hh : bit env.interrupta INTERRUPTA_HARDSENT && !a.1.retry
  case true =>
    obtain ⟨hb, hn⟩ := Bool.and_eq_true_iff.1 hh
    have hs : Sound (alert_retryfail env (alert_gcrcsent env (alert_txsent env a))).1.log := retryfail_sound hs
    have hk : (alert_retryfail env (alert_gcrcsent env (alert_txsent env a))).1.retry = a.1.retry := by
      rw [← hy]
      unfold alert_retryfail
      split <;> rfl
    refine Anew.told ?_
    unfold alert_hardsent
    rw [if_pos hb, hk, if_pos hn]
    exact hard_reset_anew (c := { (alert_retryfail env (alert_gcrcsent env (alert_txsent env a))).1 with retry := true }) hs
  have hx : hard_reset_reported a.1 env = false := by rw [hard_reset_reported, hr, hh]; rfl
  simp only [misreported, hx, Bool.not_false, Bool.true_and, Bool.or_eq_false_iff] at hm
  obtain ⟨⟨hsent, hfail⟩, hhard⟩ := hm
  -- the reports that are left must be of a frame in flight, and agree
  have sent : bit env.interrupta INTERRUPTA_TXSENT = true → flight a.1.log ≠ none := by
    intro hb hf
    simp [hb, hf] at hsent
  have fail : bit env.interrupta INTERRUPTA_RETRYFAIL = true → flight a.1.log ≠ none := by
    intro hb hf
    simp [hb, hf] at hfail
  have unsent : bit env.interrupta INTERRUPTA_TXSENT = false → alert_txsent env a = a := by
    intro hb
    rw [alert_txsent, if_neg (by rw [hb]; decide)]
  have lost : bit env.interrupta INTERRUPTA_RETRYFAIL = false → ∀ a, alert_retryfail env a = a := by
    intro hb a
    rw [alert_retryfail, if_neg (by rw [hb]; decide)]
  have gcrc : ∀ {a : Chip × Evt}, Told a.1 a.2 → Told (alert_gcrcsent env a).1 (alert_gcrcsent env a).2 := by
    intro a ha
    unfold alert_gcrcsent
    split
    · exact ha
    · exact ha
  cases hb : bit env.interrupta INTERRUPTA_HARDSENT
  · rw [alert_hardsent, if_neg (by rw [hb]; decide)]
    cases hf : bit env.interrupta INTERRUPTA_RETRYFAIL
    · rw [lost hf]
      cases hx : bit env.interrupta INTERRUPTA_TXSENT
      · rw [unsent hx]
        exact gcrc ((told_iff ht).2 h)
      · exact gcrc (txsent_told h (sent hx) ht)
    · -- a frame is not reported sent and lost at once
      have hx : bit env.interrupta INTERRUPTA_TXSENT = false := by
        refine eq_false_of_ne_true fun hx => ?_
        simp [hx, hf] at hsent
      rw [unsent hx, alert_retryfail, if_pos hf]
      unfold alert_gcrcsent
      split
      · exact retryfail_told h (fail hf)
      · exact retryfail_told h (fail hf)
  · -- the second HARDSENT of a hard reset, before any frame
    simp only [hb, Bool.true_and, Bool.or_eq_false_iff, Option.isSome_eq_false_iff, Option.isNone_iff_eq_none] at hhard hh
    obtain ⟨⟨hu, hg⟩, hw⟩ := hhard
    have hx : bit env.interrupta INTERRUPTA_TXSENT = false := eq_false_of_ne_true fun hx => sent hx hg
    have hf : bit env.interrupta INTERRUPTA_RETRYFAIL = false := eq_false_of_ne_true fun hf => fail hf hg
    have hn : Anew (alert_gcrcsent env a).1 := by
      unfold alert_gcrcsent
      split <;> exact ⟨h.alone, h.numbered, hg, hw, hu⟩
    rw [unsent hx, lost hf]
    exact (hardsent_anew hn).told

theorem tcpc_alert_told (h : Flies (reads chip) chip) (hm : misreported chip env = false) :
    Told (tcpc_alert (observe chip env) env).1 (tcpc_alert (observe chip env) env).2 := by
  obtain ⟨⟨hf, hl, hr⟩, hy, ht⟩ :
      (Flies (reads (alert_before_txsent chip env).1) (alert_before_txsent chip env).1 ∧
        (alert_before_txsent chip env).1.log = chip.log ∧ reads (alert_before_txsent chip env).1 = reads chip) ∧
      (alert_before_txsent chip env).1.retry = chip.retry ∧ (alert_before_txsent chip env).2.tx = false := by
    apply before_txsent_keeps (P := fun c => Flies (reads c) c ∧ c.log = chip.log ∧ reads c = reads chip)
    · exact ⟨h.keep (.refl _) rfl rfl rfl rfl, rfl, rfl⟩
    · rintro c c' ⟨hp, _, hx, _, _, hv, hn, hl', _⟩ _ ⟨hf, hl, hr⟩
      have he := reads_congr (congrArg Policy.conn_state hp) (congrArg Policy.sub_state hp) hv (by rw [hn])
      refine ⟨?_, hl'.trans hl, he.trans hr⟩
      rw [he]
      exact hf.keep (.of_eq hl') (congrArg Policy.conn_state hp) (congrArg Tx.tx_state hx) (congrArg Tx.send_head hx)
        (congrArg Tx.msg_id hx)
  have hk : misreported (alert_before_txsent chip env).1 env = misreported chip env := by
    unfold misreported hard_reset_reported
    rw [hl, hr, hy]
  exact alert_reports_told (a := alert_before_txsent chip env) hf ht (hk.trans hm)

theorem alerts_told (h : Flies (reads chip) chip) (hm : misreported chip env = false) :
    Told (alerts chip env).1 (events chip env) := by
  have ht := tcpc_alert_told h hm
  unfold events alerts mux_alert
  dsimp only
  generalize tcpc_alert (observe chip env) env = a at ht ⊢
  by_cases hx : a.1.timer_mux = 0 <;> by_cases hs : a.1.timer_state = 0
  all_goals
    simp only [hx, hs, if_true, if_false]
    exact ht.keep (.refl _) rfl rfl rfl rfl rfl rfl

/-! ## Up to the switch -/

theorem detach_told (h : Told chip evt) : Told (detach chip evt) evt := by
  unfold detach
  split
  · rcases @fusb_try_detach_cases chip with ⟨c, hk, _, he | he⟩ | he <;> rw [he]
    · obtain ⟨hp, _, hx, _, _, hv, hn, hl, _⟩ := hk
      exact h.keep (.of_eq hl) (congrArg Policy.conn_state hp) (congrArg Policy.sub_state hp) hx hv (by rw [hn]) rfl
    · obtain ⟨_, _, _, _, _, _, _, hl, _⟩ := hk
      refine unattached_told ?_
      rw [hl]
      exact h.sound
    · exact h.keep (.refl _) rfl rfl rfl rfl rfl rfl
  · exact h

theorem get_message_told (h : Told chip evt) : Told (tcpm_get_message chip) evt := by
  obtain ⟨_, _, hp, _, hx, _, hv, _, hn, _⟩ := tcpm_get_message_frame chip
  refine h.keep ?_ (congrArg Policy.conn_state hp) (congrArg Policy.sub_state hp) hx hv (by rw [hn]) rfl
  unfold tcpm_get_message
  rcases get_message_log chip chip.fifo with hl | ⟨m, hl⟩
  · exact .of_eq hl
  · rw [hl]
    exact .cons trivial (.refl _)

/-- A SOFTRESET must find nothing in flight. -/
theorem receive_told (h : Told chip evt)
    (hs : evt.rx = true → PACKET_IS_CONTROL_MSG (tcpm_get_message chip).rec_head CMT_SOFTRESET = true →
      flight (receive chip evt).log = none) : Told (receive chip evt) evt := by
  have hm := get_message_told h
  -- the reset state starts without a frame, so it may wait for none
  have softrst : ∀ {c s}, Told c evt → flight c.log = none → s.ready = false → Told (set_state c s) evt := by
    intro c s hc hf hr
    have hg : Ground (count_sent c evt) := by
      obtain ⟨_, _, _, hl, _⟩ := count_sent_frame c evt
      exact ⟨hc.toCounted, by rw [hl, hf]⟩
    have hk : Ground (count_sent (set_state c s) evt) := by
      obtain ⟨_, _, _, hl₁, _, _, hm₁⟩ := count_sent_frame c evt
      obtain ⟨_, _, _, hl₂, _, _, hm₂⟩ := count_sent_frame (set_state c s) evt
      exact hg.keep (hl₂.trans hl₁.symm) (hm₂.trans hm₁.symm)
    refine hk.flies ?_
    unfold reads vdm_reads
    rw [show (set_state c s).conn_state = s from rfl, show (set_state c s).sub_state = 0 from rfl, awaits_zero, hr]
    rfl
  unfold receive at hs ⊢
  dsimp only at hs ⊢
  split
  · rename_i hx
    rw [if_pos hx] at hs
    split
    · rename_i hp
      have hf := hs hx hp
      rw [if_pos hp] at hf
      split
      · rename_i hr
        rw [if_pos hr] at hf
        exact softrst hm hf rfl
      · rename_i hr
        rw [if_neg hr] at hf
        exact softrst hm hf rfl
    · exact hm
  · exact h

theorem attended_passes (env : Env) : Passes chip env Attended where
  observe _ h := h.keep rfl rfl rfl rfl
  phy c c' hk _ h := by
    obtain ⟨hp, _, _, _, hs, hv, hn, _⟩ := hk
    exact h.keep (congrArg Policy.conn_state hp) (congrArg Supply.partner_cap hs) hv (by rw [hn])
  sent _ h := h.keep rfl rfl rfl rfl
  retryfail _ h := h.keep rfl rfl rfl rfl
  hard_reset _ c _ _ := by
    refine Or.inr ?_
    unfold pd_execute_hard_reset
    dsimp only
    split <;> rfl
  hardsent _ h := h.keep rfl rfl rfl rfl
  expire _ _ h := h.keep rfl rfl rfl rfl
  collect _ _ _ h := h.keep rfl rfl rfl rfl
  unattached c _ _ := by
    obtain ⟨hc, _⟩ := @set_state_unattached_frame c
    exact Or.inr (by rw [hc]; rfl)
  message c h := by
    obtain ⟨_, _, hp, _, _, hs, hv, _, hn, _⟩ := tcpm_get_message_frame c
    exact h.keep (congrArg Policy.conn_state hp) (congrArg Supply.partner_cap hs) hv (by rw [hn])
  softrst _ c _ _ := by
    refine Or.inr ?_
    split <;> rfl
  count _ h := h.keep rfl rfl rfl rfl

/-- The port stays aloft up to the switch. -/
theorem at_switch_aloft (h : Aloft chip) (hm : misreported chip env = false)
    (hs : soft_reset_received chip env = true → flight (at_switch chip env).log = none) : Aloft (at_switch chip env) := by
  refine ⟨?_, at_switch_keeps (attended_passes env) h.attended⟩
  have hd : Told (detach (alerts chip env).1 (events chip env)) (events chip env) := detach_told (alerts_told h.flies hm)
  obtain ⟨hp, hv, hn, hl, _⟩ :=
    count_sent_frame (receive (detach (alerts chip env).1 (events chip env)) (events chip env)) (events chip env)
  have hr := receive_told hd (by
    intro hx hp
    rw [← hl]
    exact hs (by rw [soft_reset_received, hx, hp]; rfl))
  have he := reads_congr (congrArg Policy.conn_state hp) (congrArg Policy.sub_state hp) hv (by rw [hn])
  unfold at_switch before_switch
  rw [he]
  exact hr

/-! ## Runs -/

/-- The invocation takes the port away from a frame that has no report: the chip
misreports it, a SOFTRESET comes in between, or the handler gives it up. -/
def overtakes (chip : Chip) : Act → Prop
  | .work env =>
    misreported chip env = true ∨ (soft_reset_received chip env = true ∧ flight (at_switch chip env).log ≠ none) ∨
      ((events chip env).any = true ∧ gives_up (at_switch chip env) (events chip env) = true)
  | _ => False

instance (act : Act) : Decidable (overtakes chip act) :=
  match act with
  | .work _ => inferInstanceAs (Decidable (_ ∨ _))
  | .timer_state | .timer_mux => inferInstanceAs (Decidable False)

/-- What a handler takes for the outcome of its message is that. -/
def SeesOwn (chip : Chip) : Prop :=
  reads chip = true → (chip.tx_state = .tx_success → report chip.log = some (true, chip.conn_state)) ∧
    (chip.tx_state = .tx_failed → report chip.log = some (false, chip.conn_state))

/-- One step: every frame so far was written with none in flight and numbered in
order, and the handler sees the outcome of its own. -/
structure OneInFlight (chip : Chip) (act : Act) : Prop where
  alone : Trace.Each Alone (step chip act).log
  numbered : Trace.Each Numbered (step chip act).log
  own : ∀ env, act = .work env → SeesOwn (at_switch chip env)

theorem Aloft.sees_own (h : Aloft chip) : SeesOwn chip := by
  intro hr
  have other : ∀ {s t : TxState}, chip.tx_state = s → s ≠ t → ∀ {p : Prop}, chip.tx_state = t → p := by
    intro s t hs hn p ht
    exact absurd (hs.symm.trans ht) hn
  cases h.flies.known hr with
  | in_flight ht _ => exact ⟨other ht (by decide), other ht (by decide)⟩
  | sent ht ho => exact ⟨fun _ => ho, other ht (by decide)⟩
  | failed ht ho => exact ⟨other ht (by decide), fun _ => ho⟩
  | built ht _ _ => exact ⟨other ht (by decide), other ht (by decide)⟩

theorem at_switch_of_not_overtakes (h : Aloft chip) (hx : ¬overtakes chip (.work env)) : Aloft (at_switch chip env) := by
  simp only [overtakes, not_or, not_and, not_not] at hx
  exact at_switch_aloft h (eq_false_of_ne_true hx.1) hx.2.1

theorem step_aloft (h : Aloft chip) {act : Act} (hx : ¬overtakes chip act) : Aloft (step chip act) := by
  have ht : Aloft (fusb_timer_handler chip act) := by
    obtain ⟨t, he⟩ := fusb_timer_handler_eq chip act
    rw [he]
    exact ⟨h.flies.keep (.refl _) rfl rfl rfl rfl, h.attended⟩
  cases act with
  | work env =>
    have ha := at_switch_of_not_overtakes h hx
    rw [step_work]
    split
    · rename_i hany
      refine dispatch_aloft ha (eq_false_of_ne_true fun hg => hx ?_)
      exact Or.inr (Or.inr ⟨hany, hg⟩)
    · exact ha
  | timer_state => exact ht
  | timer_mux => exact ht

theorem probe_aloft (board : Board) : Aloft (fusb30x_probe board) := by
  have hl := probe_log board
  have hg : Ground (fusb30x_probe board) := by
    refine ⟨⟨?_, ?_, ?_⟩, ?_⟩ <;> rw [hl]
    · exact ⟨trivial, trivial⟩
    · exact ⟨trivial, trivial⟩
    · rintro data ⟨⟩
    · rfl
  refine aloft_quiet (hg.flies ?_) (not_waits ?_)
  · simp [fusb30x_probe, ConnState.awaits]
  · simp [fusb30x_probe, kzalloc]

/-- In a run in which the chip reports what was written, and the port is not
taken away from a frame that has no report, frames are written one at a time and
numbered in order, and every handler sees the outcome of its own message. -/
theorem one_in_flight (board : Board) (acts : List Act)
    (h : Runs.Meets step (fun chip act => ¬overtakes chip act) (fusb30x_probe board) acts) :
    Runs.Meets step OneInFlight (fusb30x_probe board) acts := by
  refine h.imp (I := Aloft) ?_ ?_ (probe_aloft board)
  · intro chip act ha hx
    exact step_aloft ha hx
  · intro chip act ha hx
    have hs := step_aloft ha hx
    refine ⟨hs.flies.alone, hs.flies.numbered, ?_⟩
    rintro env rfl
    exact (at_switch_of_not_overtakes ha hx).sees_own

theorem not_alone_last {board : Board} {acts : List Act} {act : Act}
    (h : ¬Trace.Each Alone (step (ran board acts) act).log) :
    ¬Runs.Meets step OneInFlight (fusb30x_probe board) (acts ++ [act]) := by
  intro hm
  exact h (meets_last hm).alone

theorem contract_in_turn : Runs.Meets step OneInFlight (fusb30x_probe {}) (attach_source ++ contract ++ [txsent]) :=
  one_in_flight _ _ (by decide +kernel)

/-- A SOFTRESET arrives while SOURCE_CAPABILITIES is on the wire: the ACCEPT is written over it. -/
theorem softreset_overwrites :
    ¬Runs.Meets step OneInFlight (fusb30x_probe {}) (attach_source ++ [received (control CMT_SOFTRESET)]) := by
  apply not_alone_last
  decide +kernel

end Fusb302
