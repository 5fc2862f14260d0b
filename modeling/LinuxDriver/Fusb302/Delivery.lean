import LinuxDriver.Fusb302.Special
/-!
# Received messages

The chip keeps what it receives in a FIFO and announces it by GCRCSENT, one
flag of INTERRUPTB that reading the register clears. The worker takes one
message out of the FIFO in each invocation that finds the flag set, and messages
may arrive between the parts of an invocation. Resetting the PD logic, and
enabling the receiver, empties the FIFO.

No message is left behind as long as a message finds none before it waiting for
its flag, and the FIFO is emptied only when nothing waits in it.
-/

namespace Fusb302.Delivery

/-! ## The port and its FIFO -/

/-- Where `state_machine_typec` is. -/
inductive Worker
  | idle
  /-- `tcpc_alert` and `mux_alert` returned these events. -/
  | alerted (evt : Evt)
  /-- The message is in hand, the switch is next. -/
  | fetched (evt : Evt)

/-- `fifo` is the receive FIFO, oldest message first, `gcrcsent` the flag,
`work` says whether the work item is queued. `received` is read by theorems
only: the messages other than GoodCRC that arrived, oldest first. -/
structure Port where
  chip : Chip
  fifo : List PdMsg
  gcrcsent : Bool
  work : Bool
  worker : Worker
  received : List PdMsg

/-- A GOODCRC is an acknowledgement by hardware, not a message. -/
def goodcrc (m : PdMsg) : Bool := PACKET_IS_CONTROL_MSG m.head CMT_GOODCRC

/-- The messages for the driver among those in the FIFO. -/
def undelivered (fifo : List PdMsg) : List PdMsg := fifo.filter fun m => !goodcrc m

/-- What `tcpm_get_message` leaves in the FIFO. -/
def unread : List PdMsg → List PdMsg
  | [] => []
  | m :: fifo => if goodcrc m then unread fifo else fifo

/-- RX_FLUSH clears itself. -/
def settle (chip : Chip) : Chip := regmap_update_bits chip .CONTROL1 CONTROL1_RX_FLUSH 0#8

/-- How often the protocol layer was reset. -/
def pd_resets (chip : Chip) : Nat := chip.log.countP fun | .pd_reset => true | _ => false

/-- The chip was reset on the way from `chip` to `chip'`, or RX_FLUSH written. -/
def emptied (chip chip' : Chip) : Bool :=
  decide (pd_resets chip < pd_resets chip') || bit (chip'.regs .CONTROL1) CONTROL1_RX_FLUSH

/-- The worker leaves the chip as `chip'`. -/
def Port.becomes (port : Port) (chip' : Chip) : Port :=
  { port with chip := settle chip', fifo := if emptied port.chip chip' then [] else port.fifo }

/-! ## Events -/

/-- The worker is to run. -/
def queue_work (port : Port) : Port := { port with work := true }

/-- What the chip shows: INTERRUPTB holds the flag. -/
def Port.shows (port : Port) (env : Env) : Env :=
  { env with interruptb := if port.gcrcsent then INTERRUPTB_GCRCSENT else 0#8, fifo := port.fifo }

/-- From the label `BACK` on; INT_N is left to `interrupt`. -/
def Port.back (port : Port) : Port :=
  { port with work := port.work || port.chip.work_continue || port.chip.delay_cc, worker := .idle }

/-- The next part of `state_machine_typec`; `env` is what the other registers hold. -/
def fusb302_work_func (port : Port) (env : Env) : Port :=
  match port.worker with
  | .idle =>
    if port.work then
      let a := alerts port.chip (port.shows env)
      let port := { port.becomes a.1 with gcrcsent := false, work := false }
      if !a.2.any then port.back else { port with worker := .alerted a.2 }
    else port
  | .alerted evt =>
    let port := port.becomes (detach port.chip evt)
    { port with
      chip := count_sent (receive { port.chip with fifo := port.fifo } evt) evt
      fifo := if evt.rx then unread port.fifo else port.fifo
      worker := .fetched evt }
  | .fetched evt => (port.becomes (dispatch port.chip evt)).back

/-- `reception` is the end of a message on the line. It sets the flag; a GoodCRC
sets it when `acked` says so. -/
inductive Event
  | reception (m : PdMsg) (acked : Bool)
  | interrupt
  | timer_state
  | timer_mux
  | worker (env : Env)

/-- One event of the receiver, the interrupt or the worker. -/
def step (port : Port) : Event → Port
  | .reception m acked =>
    { port with
      fifo := port.fifo ++ [m]
      gcrcsent := port.gcrcsent || !goodcrc m || acked
      received := port.received ++ undelivered [m] }
  | .interrupt => queue_work port
  | .timer_state => queue_work { port with chip := fusb_timer_handler port.chip .timer_state }
  | .timer_mux => queue_work { port with chip := fusb_timer_handler port.chip .timer_mux }
  | .worker env => fusb302_work_func port env

/-- A probed port with nothing received. -/
def fusb30x_probe (board : Board) : Port where
  chip := settle (Fusb302.fusb30x_probe board)
  fifo := []
  gcrcsent := false
  work := false
  worker := .idle
  received := []

/-! ## The property -/

/-- The message that was handed over. -/
def Entry.message : Entry → Option PdMsg
  | .recv m => some m
  | _ => none

/-- The messages fetched, oldest first. The switch of the invocation that
fetches a message runs a handler on it. -/
def handed (chip : Chip) : List PdMsg := (chip.log.filterMap Entry.message).reverse

/-- The claim on a state: what was received has been handed over, once and in order, or waits with the worker on its
way. -/
structure NoneLeft (port : Port) : Prop where
  /-- Each message is handed over once and in order, or waits. -/
  in_order : handed port.chip ++ undelivered port.fifo = port.received
  /-- With nothing to wake the worker, none waits. -/
  quiet : port.gcrcsent = false → port.work = false → port.worker = .idle → undelivered port.fifo = []

/-! ## The condition -/

/-- The messages the running invocation has yet to fetch. -/
def Worker.fetches : Worker → Nat
  | .alerted evt => evt.rx.toNat
  | _ => 0

/-- The next part of the invocation empties the FIFO: the chip reports a hard
reset, the port is found detached, or the handler resets the chip or enables
the receiver. -/
def empties (port : Port) (env : Env) : Bool :=
  match port.worker with
  | .idle => port.work && hard_reset_reported port.chip env
  | .alerted evt => detaches port.chip evt
  | .fetched evt => discards port.chip evt

/-- A message arrives behind one whose flag it shares, or the FIFO is emptied of one. -/
def loses (port : Port) : Event → Prop
  | .reception m _ => goodcrc m = false ∧ port.worker.fetches < (undelivered port.fifo).length
  | .worker env => empties port env = true ∧ undelivered port.fifo ≠ []
  | _ => False

instance (port : Port) (event : Event) : Decidable (loses port event) := by
  unfold loses
  cases event <;> infer_instance

variable {port : Port} {chip c c' : Chip} {evt : Evt} {env : Env}

/-! ## What the worker hands over -/

theorem handed_added (h : Trace.Added (fun e => Entry.message e = none) c.log c'.log) : handed c' = handed c := by
  refine h.induct (R := fun l => (l.filterMap Entry.message).reverse = handed c) ?_ rfl
  rintro e l he hl
  rw [List.filterMap_cons, he]
  exact hl

/-- Whatever a handler does, it fetches nothing. -/
theorem handed_ordinary (ms : List PdMsg) : Ordinary fun c => handed c = ms where
  view {c c'} h hv := by
    have hl : c'.log = c.log := congrArg View.log hv
    rw [← h, handed, hl, handed]
  move h _ := h
  recast _ h _ := h
  sub _ h _ := h
  log {c e} h he := by
    refine (handed_added (.cons ?_ (.refl _))).trans h
    cases e <;> first | rfl | cases he
  soft_reset h := h
  renumber _ h := h
  forget h := h

theorem dispatch_handed (chip : Chip) (evt : Evt) : handed (dispatch chip evt) = handed chip := by
  have k := (handed_ordinary (handed chip)).serves
  refine k.dispatch_own rfl (fun _ => k.toResets) fun hc hl _ => (handed_added (hl.mono ?_)).trans hc
  intro e he
  cases e <;> first | rfl | exact he.elim

theorem detach_handed (chip : Chip) (evt : Evt) : handed (detach chip evt) = handed chip := by
  have k := (handed_ordinary (handed chip)).serves
  exact k.detach rfl fun _ => k.toResets

theorem hard_reset_handed (chip : Chip) : handed (pd_execute_hard_reset chip) = handed chip := by
  unfold pd_execute_hard_reset
  dsimp only
  split <;> rfl

theorem alerts_handed (chip : Chip) (env : Env) : handed (alerts chip env).1 = handed chip := by
  have k := (handed_ordinary (handed chip)).serves
  refine alerts_keep (k.collects fun _ c hc => ?_) rfl
  rw [hard_reset_handed]
  exact k.pd_reset hc

theorem handed_recv {m : PdMsg} (h : c'.log = .recv m :: c.log) : handed c' = handed c ++ [m] := by
  unfold handed
  rw [h, List.filterMap_cons, ← List.reverse_cons]
  rfl

theorem undelivered_goodcrc {m : PdMsg} (h : goodcrc m = true) (fifo : List PdMsg) :
    undelivered (m :: fifo) = undelivered fifo := List.filter_cons_of_neg (by rw [h]; decide)

theorem undelivered_cons {m : PdMsg} (h : goodcrc m = false) (fifo : List PdMsg) :
    undelivered (m :: fifo) = m :: undelivered fifo := List.filter_cons_of_pos (by rw [h]; rfl)

/-- The first message for the driver moves from the FIFO to the log. -/
theorem get_message_handed (chip : Chip) (fifo : List PdMsg) :
    handed (get_message chip fifo) ++ undelivered (unread fifo) = handed chip ++ undelivered fifo := by
  induction fifo generalizing chip with
  | nil => rfl
  | cons m fifo ih =>
    unfold get_message unread
    cases hg : goodcrc m
    · have hp : ¬PACKET_IS_CONTROL_MSG m.head CMT_GOODCRC = true := Bool.eq_false_iff.1 hg
      rw [if_neg hp, if_neg Bool.false_ne_true, undelivered_cons hg, handed_recv rfl,
        List.append_assoc]
      rfl
    · have hp : PACKET_IS_CONTROL_MSG m.head CMT_GOODCRC = true := hg
      rw [if_pos hp, if_pos rfl, undelivered_goodcrc hg]
      exact ih _

theorem receive_log : (receive chip evt).log = (if evt.rx then tcpm_get_message chip else chip).log := by
  unfold receive
  dsimp only
  repeat' split
  all_goals rfl

theorem count_sent_log : (count_sent chip evt).log = chip.log := by
  unfold count_sent
  split <;> rfl

theorem unread_length (fifo : List PdMsg) : (undelivered (unread fifo)).length = (undelivered fifo).length - 1 := by
  induction fifo with
  | nil => rfl
  | cons m fifo ih =>
    unfold unread
    cases hg : goodcrc m
    · rw [undelivered_cons hg]
      rfl
    · rw [undelivered_goodcrc hg]
      exact ih

/-! ## When the FIFO is kept -/

/-- Neither reset nor flushed since `start`. -/
structure Undisturbed (start chip : Chip) : Prop where
  resets : pd_resets chip = pd_resets start
  control1 : chip.regs .CONTROL1 = start.regs .CONTROL1

theorem undisturbed_added (h : Undisturbed chip c) (hl : Trace.Added Entry.own c.log c'.log)
    (hc : c'.regs .CONTROL1 = c.regs .CONTROL1) : Undisturbed chip c' := by
  refine ⟨Eq.trans ?_ h.resets, hc.trans h.control1⟩
  refine hl.induct (R := fun l => l.countP _ = pd_resets c) ?_ rfl
  rintro e l he ih
  rw [List.countP_cons, ih]
  cases e <;> first | rfl | exact he.elim

theorem undisturbed_works (start : Chip) : Works (Undisturbed start) where
  view h hv hw := undisturbed_added h (.of_eq (congrArg View.log hv)) (congrArg Wires.control1 hw)
  polarity _ h := ⟨h.resets, h.control1⟩
  vconn _ h := ⟨h.resets, h.control1⟩
  move h _ := ⟨h.resets, h.control1⟩
  recast _ h _ := ⟨h.resets, h.control1⟩
  forget h := ⟨h.resets, h.control1⟩
  sub _ h _ := ⟨h.resets, h.control1⟩
  log {c e} h he := by
    refine undisturbed_added h (.cons ?_ (.refl _)) rfl
    cases e <;> trivial
  soft_reset h := undisturbed_added h (.cons trivial (.cons trivial (.refl _))) rfl
  renumber _ h := ⟨h.resets, h.control1⟩

theorem Undisturbed.not_emptied (h : Undisturbed chip c) (hc : bit (chip.regs .CONTROL1) CONTROL1_RX_FLUSH = false) :
    emptied chip c = false := by
  unfold emptied
  rw [h.resets, h.control1, hc, decide_eq_false (Nat.lt_irrefl _)]
  rfl

theorem alerts_undisturbed (h : hard_reset_reported chip env = false) : Undisturbed chip (alerts chip env).1 := by
  refine alerts_keep ((undisturbed_works chip).collects fun hr => ?_) ⟨rfl, rfl⟩
  rw [h] at hr
  cases hr

theorem detach_undisturbed (h : detaches chip evt = false) : Undisturbed chip (detach chip evt) := by
  refine (undisturbed_works chip).detach ⟨rfl, rfl⟩ fun hd => ?_
  rw [h] at hd
  cases hd

theorem dispatch_undisturbed (h : discards chip evt = false) : Undisturbed chip (dispatch chip evt) := by
  refine (undisturbed_works chip).dispatch_own ⟨rfl, rfl⟩ (fun hd => ?_) fun hc hl hw =>
    undisturbed_added hc hl (congrArg Wires.control1 hw)
  rw [h] at hd
  cases hd

/-! ## The invariant -/

/-- No more waits than the flag and the running invocation announce. -/
structure Kept (port : Port) : Prop where
  in_order : handed port.chip ++ undelivered port.fifo = port.received
  announced : (undelivered port.fifo).length ≤ port.gcrcsent.toNat + port.worker.fetches
  flushed : bit (port.chip.regs .CONTROL1) CONTROL1_RX_FLUSH = false

theorem Kept.none_left (h : Kept port) : NoneLeft port := by
  refine ⟨h.in_order, ?_⟩
  intro hg _ hw
  have ha := h.announced
  rw [hg, hw] at ha
  exact List.eq_nil_of_length_eq_zero (Nat.le_zero.1 ha)

theorem settle_flushed (chip : Chip) : bit ((settle chip).regs .CONTROL1) CONTROL1_RX_FLUSH = false := by
  have h : (settle chip).regs .CONTROL1 &&& CONTROL1_RX_FLUSH = 0#8 &&& CONTROL1_RX_FLUSH := update_inside _ _ (by decide)
  rw [bit, h]
  rfl

/-- A part of the invocation that does not reset or flush keeps the FIFO, and one that does finds it empty. -/
theorem becomes_undelivered {empties : Bool} (h : Kept port) (hu : empties = false → Undisturbed port.chip c)
    (hx : ¬(empties = true ∧ undelivered port.fifo ≠ [])) :
    undelivered (port.becomes c).fifo = undelivered port.fifo := by
  unfold Port.becomes
  dsimp only
  cases he : empties
  · rw [(hu he).not_emptied h.flushed]
    rfl
  · have hn : undelivered port.fifo = [] := not_not.1 fun hn => hx ⟨he, hn⟩
    split
    · exact hn.symm
    · rfl

/-- EVENT_RX is the flag. -/
theorem alerts_rx (chip : Chip) (env : Env) : (alerts chip env).2.rx = bit env.interruptb INTERRUPTB_GCRCSENT := by
  have comp : ∀ a, (alert_comp_chng env a).2.rx = a.2.rx := by
    intro a
    unfold alert_comp_chng
    split <;> rfl
  have vbusok : ∀ a, (alert_vbusok env a).2.rx = a.2.rx := by
    intro a
    unfold alert_vbusok
    split <;> rfl
  have togdone : ∀ a, (alert_togdone env a).2.rx = a.2.rx := by
    intro a
    unfold alert_togdone
    split <;> rfl
  have txsent : ∀ a, (alert_txsent env a).2.rx = a.2.rx := by
    intro a
    unfold alert_txsent
    split <;> rfl
  have gcrcsent : ∀ a, (alert_gcrcsent env a).2.rx = (bit env.interruptb INTERRUPTB_GCRCSENT || a.2.rx) := by
    intro a
    unfold alert_gcrcsent
    split
    · rename_i hb
      rw [hb]
      rfl
    · rename_i hb
      rw [Bool.eq_false_iff.2 hb]
      rfl
  have hardrst : ∀ a, (alert_hardrst env a).2.rx = a.2.rx := by
    intro a
    unfold alert_hardrst
    split <;> rfl
  have retryfail : ∀ a, (alert_retryfail env a).2.rx = a.2.rx := by
    intro a
    unfold alert_retryfail
    split <;> rfl
  have hardsent : ∀ a, (alert_hardsent env a).2.rx = a.2.rx := by
    intro a
    unfold alert_hardsent
    split
    · split <;> rfl
    · rfl
  have mux : ∀ c evt, (mux_alert c evt).2.rx = evt.rx := by
    intro c evt
    unfold mux_alert
    dsimp only
    split <;> split <;> rfl
  unfold alerts tcpc_alert
  rw [mux, hardsent, retryfail, hardrst, gcrcsent, txsent, togdone, vbusok, comp, Bool.or_false]

theorem fetch_handed (chip : Chip) (fifo : List PdMsg) (evt : Evt) :
    handed (count_sent (receive { chip with fifo := fifo } evt) evt) ++ undelivered (if evt.rx then unread fifo else fifo) =
      handed chip ++ undelivered fifo := by
  have hl : handed (count_sent (receive { chip with fifo := fifo } evt) evt) =
      handed (if evt.rx then get_message { chip with fifo := fifo } fifo else { chip with fifo := fifo }) := by
    rw [handed, count_sent_log, receive_log]
    rfl
  rw [hl]
  cases evt.rx
  · rfl
  · exact get_message_handed _ fifo

theorem fetch_wires (chip : Chip) (evt : Evt) : (count_sent (receive chip evt) evt).wires = chip.wires := by
  have hr : (receive chip evt).wires = chip.wires := by
    unfold receive
    dsimp only
    repeat' split
    all_goals first | rfl | exact get_message_wires chip chip.fifo
  unfold count_sent
  split
  · exact hr
  · exact hr

theorem becomes_handed (port : Port) (c : Chip) : handed (port.becomes c).chip = handed c := rfl

/-- The end of an invocation changes nothing that `Kept` looks at, but that it has nothing to fetch. -/
theorem Kept.back (hi : handed port.chip ++ undelivered port.fifo = port.received)
    (ha : (undelivered port.fifo).length ≤ port.gcrcsent.toNat)
    (hf : bit (port.chip.regs .CONTROL1) CONTROL1_RX_FLUSH = false) : Kept port.back := ⟨hi, ha, hf⟩

theorem reception_kept (h : Kept port) (m : PdMsg) (acked : Bool) (hx : ¬loses port (.reception m acked)) :
    Kept (step port (.reception m acked)) := by
  obtain ⟨hi, ha, hf⟩ := h
  have hu : undelivered (port.fifo ++ [m]) = undelivered port.fifo ++ undelivered [m] := List.filter_append ..
  refine ⟨?_, ?_, hf⟩
  · change handed port.chip ++ undelivered (port.fifo ++ [m]) = port.received ++ undelivered [m]
    rw [hu, ← List.append_assoc, hi]
  · change (undelivered (port.fifo ++ [m])).length ≤ (port.gcrcsent || !goodcrc m || acked).toNat + port.worker.fetches
    rw [hu, List.length_append]
    cases hg : goodcrc m
    · have hl : ¬port.worker.fetches < (undelivered port.fifo).length := fun hl => hx ⟨hg, hl⟩
      rw [undelivered_cons hg, Bool.not_false, Bool.or_true, Bool.true_or, Bool.toNat_true]
      change (undelivered port.fifo).length + 1 ≤ _
      omega
    · rw [undelivered_goodcrc hg]
      have hb : port.gcrcsent.toNat ≤ (port.gcrcsent || !true || acked).toNat := by
        cases port.gcrcsent <;> cases acked <;> decide
      change (undelivered port.fifo).length ≤ _
      omega

theorem worker_kept (h : Kept port) (env : Env) (hx : ¬loses port (.worker env)) : Kept (fusb302_work_func port env) := by
  obtain ⟨hi, ha, hf⟩ := id h
  unfold loses empties at hx
  unfold fusb302_work_func
  cases hw : port.worker with
  | idle =>
    -- the alerts are read: a message acknowledged now is fetched in the next stage
    rw [hw] at hx ha
    dsimp only at hx ⊢
    split
    · rename_i hq
      rw [hq, Bool.true_and] at hx
      have hu : undelivered (port.becomes (alerts port.chip (port.shows env)).1).fifo = undelivered port.fifo :=
        becomes_undelivered h alerts_undisturbed hx
      have hm : handed (port.becomes (alerts port.chip (port.shows env)).1).chip ++
          undelivered (port.becomes (alerts port.chip (port.shows env)).1).fifo = port.received := by
        rw [hu, becomes_handed, alerts_handed, hi]
      have hrx : (alerts port.chip (port.shows env)).2.rx = port.gcrcsent := by
        rw [alerts_rx]
        change bit (if port.gcrcsent then INTERRUPTB_GCRCSENT else 0#8) INTERRUPTB_GCRCSENT = port.gcrcsent
        cases port.gcrcsent <;> decide
      split
      · rename_i hn
        refine Kept.back hm ?_ (settle_flushed _)
        have hg : port.gcrcsent = false := by
          rw [← hrx]
          rw [Bool.not_eq_true'] at hn
          simp only [Evt.any, Bool.or_eq_false_iff] at hn
          exact hn.1.1.1.1.1.1.2
        rw [hg] at ha
        exact Nat.le_trans (Nat.le_of_eq (congrArg List.length hu)) ha
      · refine ⟨hm, ?_, settle_flushed _⟩
        change _ ≤ 0 + (alerts port.chip (port.shows env)).2.rx.toNat
        rw [hrx, Nat.zero_add]
        exact Nat.le_trans (Nat.le_of_eq (congrArg List.length hu)) ha
    · exact h
  | alerted evt =>
    -- the one message that EVENT_RX stands for leaves the FIFO
    rw [hw] at hx ha
    dsimp only at hx ⊢
    have hu := becomes_undelivered h detach_undisturbed hx
    refine ⟨?_, ?_, ?_⟩
    · rw [fetch_handed, hu, becomes_handed, detach_handed]
      exact hi
    · change _ ≤ port.gcrcsent.toNat + 0
      change _ ≤ port.gcrcsent.toNat + evt.rx.toNat at ha
      rw [← hu] at ha
      cases hr : evt.rx
      · rw [hr] at ha
        exact ha
      · rw [hr, Bool.toNat_true] at ha
        rw [if_pos rfl, unread_length]
        omega
    · have hc := congrArg Wires.control1 (fetch_wires
        { (port.becomes (detach port.chip evt)).chip with fifo := (port.becomes (detach port.chip evt)).fifo } evt)
      exact (congrArg (bit · CONTROL1_RX_FLUSH) hc).trans (settle_flushed (detach port.chip evt))
  | fetched evt =>
    -- the handler takes no message itself, but may flush the FIFO
    rw [hw] at hx ha
    dsimp only at hx ⊢
    have hu := becomes_undelivered h dispatch_undisturbed hx
    refine Kept.back ?_ ?_ (settle_flushed _)
    · rw [hu, becomes_handed, dispatch_handed]
      exact hi
    · exact Nat.le_trans (Nat.le_of_eq (congrArg List.length hu)) ha

theorem step_kept (h : Kept port) {event : Event} (hx : ¬loses port event) : Kept (step port event) := by
  have timer : ∀ act, Kept (queue_work { port with chip := fusb_timer_handler port.chip act }) := by
    intro act
    obtain ⟨t, he⟩ := fusb_timer_handler_eq port.chip act
    unfold queue_work
    rw [he]
    exact ⟨h.in_order, h.announced, h.flushed⟩
  cases event with
  | reception m acked => exact reception_kept h m acked hx
  | interrupt => exact ⟨h.in_order, h.announced, h.flushed⟩
  | timer_state => exact timer .timer_state
  | timer_mux => exact timer .timer_mux
  | worker env => exact worker_kept h env hx

theorem probe_kept (board : Board) : Kept (fusb30x_probe board) := by
  refine ⟨?_, Nat.zero_le _, settle_flushed _⟩
  change ((Fusb302.fusb30x_probe board).log.filterMap Entry.message).reverse ++ [] = []
  rw [probe_log]
  rfl

/-- In a run in which no message arrives behind one whose flag it shares, and
the FIFO is emptied only when nothing waits in it, every message is handed over
once and in order, and none is left when nothing will wake the worker. -/
theorem no_message_left (board : Board) (events : List Event)
    (h : Runs.Meets step (fun port event => ¬loses port event) (fusb30x_probe board) events) :
    ∀ port ∈ Runs.visited step (fusb30x_probe board) events, NoneLeft port := by
  intro port hp
  exact (h.visited_inv (I := Kept) (fun _ _ hk hx => step_kept hk hx) (probe_kept board) port hp).none_left

/-- Nothing but GCRCSENT from the chip; VBUS is present. -/
def listening : Env := { status0 := fun _ => STATUS0_VBUSOK }

/-- A whole invocation. -/
def invocation (env : Env) : List Event := [.interrupt, .worker env, .worker env, .worker env]

/-- `attach_sink`, one act after the other. -/
def attach : List Event := attach_sink.flatMap fun
  | .work env => invocation env
  | .timer_state => [.timer_state]
  | .timer_mux => [.timer_mux]

def offer : PdMsg := data DMT_SOURCECAPABILITIES [0x00019096#32]

/-- The second message arrives between the two parts of the invocation that fetches the first. -/
def in_turn : List Event :=
  attach ++ [.reception offer true, .interrupt, .worker listening, .reception (control CMT_GETSINKCAP) true,
    .worker listening, .worker listening] ++ invocation listening

theorem none_left_of_two : NoneLeft (Runs.run step (fusb30x_probe try_source) in_turn) :=
  no_message_left try_source in_turn (by decide +kernel) _ (Runs.run_mem_visited _ _)

/-- Two messages arrive before the invocation that fetches the first. The
second, an offer of capabilities, waits for a flag that is not set again. -/
theorem offer_left_behind :
    ¬∀ port ∈ Runs.visited step (fusb30x_probe try_source) (attach ++
        [.reception (control CMT_GETSINKCAP) true, .reception offer true] ++ invocation listening ++ invocation listening),
      NoneLeft port := by
  intro h
  have hq := congrArg List.length ((h _ (Runs.run_mem_visited _ _)).quiet (by decide +kernel) (by decide +kernel) ?_)
  · revert hq
    decide +kernel
  · rfl

end Fusb302.Delivery
