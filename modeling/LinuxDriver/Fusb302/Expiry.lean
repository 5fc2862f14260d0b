import LinuxDriver.Fusb302.Ports
/-!
# Timeouts under the hrtimer callback

`timer_state` and `timer_mux` are at once the duration of a timeout, the mark
that it expired (0) and the flag that nobody waits for it (`T_DISABLED`). The
worker writes them before it starts the hrtimer and disables them without
cancelling it, while `fusb_timer_handler` tests and writes them on its own.
Here each of these accesses is a step.
-/

namespace Fusb302.Expiry

/-- Milliseconds in nanoseconds. -/
def FUSB_MS_TO_NS (x : Nat) : Nat := x * 1000 * 1000

/-- What the driver assigns before it starts a timer. -/
structure Duration where
  ms : Nat
  pos : 0 < ms
  lt : ms < T_DISABLED

/-! ## One timer -/

/-- An hrtimer in the queue: which start of the timer it is from, counted from 1, and when it expires. -/
structure Queued where
  start : Nat
  expires : Nat
  deriving DecidableEq

/-- How far `fusb_timer_handler` is with the expiry of a start. -/
inductive Handler
  | idle
  | entered (start : Nat)
  /-- The field was not `T_DISABLED`. -/
  | enabled (start : Nat)
  deriving DecidableEq

/-- A field of the port with its hrtimer. The last five are read by theorems only: how often the timer was started,
when the last start expires, whether the field was set to `T_DISABLED` since, the start whose expiry put the 0 into the
field, and the starts whose expiry was delivered. -/
structure Timer where
  field : Nat
  hrtimer : Option Queued
  handler : Handler
  starts : Nat
  expiry : Nat
  disabled : Bool
  mark : Nat
  delivered : List Nat

namespace Timer

/-- A timer that was never started. -/
def probe : Timer where
  field := T_DISABLED
  hrtimer := none
  handler := .idle
  starts := 0
  expiry := 0
  disabled := true
  mark := 0
  delivered := []

/-- A queued hrtimer expires; its callback does not run twice at a time. -/
def expire (x : Timer) (now : Nat) : Timer :=
  match x.hrtimer with
  | some q => if q.expires ≤ now ∧ x.handler = .idle then { x with hrtimer := none, handler := .entered q.start } else x
  | none => x

/-- The next access of `fusb_timer_handler`. -/
def fusb_timer_handler (x : Timer) : Timer :=
  match x.handler with
  | .idle => x
  | .entered n => { x with handler := if x.field ≠ T_DISABLED then .enabled n else .idle }
  | .enabled n => { x with field := 0, mark := n, handler := .idle }

/-- A duration is put into the field. -/
def assign (x : Timer) (d : Duration) : Timer := { x with field := d.ms }

/-- A queued hrtimer is queued anew. The driver passes the field itself as `ms`. -/
def fusb_timer_start (x : Timer) (now : Nat) : Timer :=
  let expiry := now + FUSB_MS_TO_NS x.field
  { x with
    hrtimer := some ⟨x.starts + 1, expiry⟩
    starts := x.starts + 1
    expiry := expiry
    disabled := false }

/-- The field is set to the value that stands for no timer. -/
def disable (x : Timer) : Timer := { x with field := T_DISABLED, disabled := true }

/-- `mux_alert` sets the event bit. -/
def deliver (x : Timer) : Timer := { x with delivered := x.mark :: x.delivered }

end Timer

/-! ## The port -/

/-- What the worker does next. -/
inductive Worker
  | idle
  /-- The field is assigned; `fusb_timer_start` comes next. -/
  | assigned (t : HrTimer)
  /-- `mux_alert` found the field 0 and has set the event bit; it disables the field next. -/
  | delivering (t : HrTimer)
  deriving DecidableEq

/-- The clock, the two timers and the worker. -/
structure Port where
  now : Nat
  timer : HrTimer → Timer
  worker : Worker

/-- Time passes, a timer expires, its handler goes on, or the worker does. -/
inductive Event
  | elapse (ns : Nat)
  | expire (t : HrTimer)
  | handler (t : HrTimer)
  | assign (t : HrTimer) (d : Duration)
  | disable (t : HrTimer)
  | mux_alert (t : HrTimer)
  /-- The worker goes on with what it began. -/
  | worker

namespace Port

/-- A port with both timers off. -/
def probe : Port where
  now := 0
  timer _ := .probe
  worker := .idle

/-- Timer `t` becomes `x`. -/
def set (port : Port) (t : HrTimer) (x : Timer) : Port := { port with timer := Function.update port.timer t x }

/-- The second half of what the worker began. -/
def go_on (port : Port) : Port :=
  match port.worker with
  | .idle => port
  | .assigned t => { port.set t ((port.timer t).fusb_timer_start port.now) with worker := .idle }
  | .delivering t => { port.set t (port.timer t).disable with worker := .idle }

/-- One event. -/
def step (port : Port) : Event → Port
  | .elapse ns => { port with now := port.now + ns }
  | .expire t => port.set t ((port.timer t).expire port.now)
  | .handler t => port.set t (port.timer t).fusb_timer_handler
  | .assign t d =>
    if port.worker = .idle then { port.set t ((port.timer t).assign d) with worker := .assigned t } else port
  | .disable t => if port.worker = .idle then port.set t (port.timer t).disable else port
  | .mux_alert t =>
    if port.worker = .idle ∧ (port.timer t).field = 0 then
      { port.set t (port.timer t).deliver with worker := .delivering t }
    else port
  | .worker => port.go_on

end Port

/-- The 0 in the field is from the last start, whose duration has elapsed and which nobody has disabled; and no event
of that start was delivered before. -/
structure Due (now : Nat) (x : Timer) : Prop where
  last : x.mark = x.starts
  elapsed : x.expiry ≤ now
  enabled : x.disabled = false
  once : x.mark ∉ x.delivered

instance (now : Nat) (x : Timer) : Decidable (Due now x) :=
  decidable_of_iff (x.mark = x.starts ∧ x.expiry ≤ now ∧ x.disabled = false ∧ x.mark ∉ x.delivered)
    ⟨fun ⟨hl, he, hd, ho⟩ => ⟨hl, he, hd, ho⟩, fun ⟨hl, he, hd, ho⟩ => ⟨hl, he, hd, ho⟩⟩

/-- An event that `mux_alert` delivers is due. -/
def Timely (port : Port) : Event → Prop
  | .mux_alert t => port.worker = .idle → (port.timer t).field = 0 → Due port.now (port.timer t)
  | _ => True

/-- `fusb_timer_handler` stores its 0 over `T_DISABLED`, over an assignment whose start is yet to come, or for an expiry
after which the timer was started again. -/
def overtaken (port : Port) : Event → Prop
  | .handler t =>
    match (port.timer t).handler with
    | .enabled n => (port.timer t).field = T_DISABLED ∨ port.worker = .assigned t ∨ n ≠ (port.timer t).starts
    | _ => False
  | _ => False

instance (port : Port) (e : Event) : Decidable (Timely port e) := by
  unfold Timely
  cases e <;> infer_instance

instance (port : Port) (e : Event) : Decidable (overtaken port e) := by
  unfold overtaken
  split
  · split <;> infer_instance
  · infer_instance

/-! ## One timer, whatever the worker does to the other -/

/-- What the worker is in the middle of, as one timer sees it. -/
inductive Phase
  | idle
  | assigned
  | delivering
  deriving DecidableEq

/-- What the worker is doing to timer `t`. -/
def Worker.phase : Worker → HrTimer → Phase
  | .idle, _ => .idle
  | .assigned u, t => if u = t then .assigned else .idle
  | .delivering u, t => if u = t then .delivering else .idle

/-- The start whose expiry is being handled. -/
def Handler.start : Handler → Option Nat
  | .idle => none
  | .entered n | .enabled n => some n

/-- The invariant of one timer: a start is handled once and not before it is due. -/
structure Kept (now : Nat) (phase : Phase) (x : Timer) : Prop where
  handled : ∀ n ∈ x.handler.start, n ≤ x.starts ∧ (n = x.starts → x.hrtimer = none ∧ x.expiry ≤ now ∧ x.starts ∉ x.delivered)
  queued : ∀ q ∈ x.hrtimer, q.start = x.starts ∧ q.expires = x.expiry ∧ x.starts ∉ x.delivered
  expired : x.field = 0 → x.hrtimer = none ∧ x.handler = .idle ∧ (phase = .idle → Due now x)
  assigned : phase = .assigned → 0 < x.field ∧ x.field < T_DISABLED
  delivering : phase = .delivering → x.field = 0
  disabled : x.disabled = true → phase = .assigned ∨ x.field = T_DISABLED
  unused : x.field = T_DISABLED → x.disabled = true
  delivered : ∀ n ∈ x.delivered, n ≤ x.starts

variable {now : Nat} {phase : Phase} {x : Timer}

theorem Due.elapse (h : Due now x) (ns : Nat) : Due (now + ns) x :=
  { h with elapsed := Nat.le_add_right_of_le h.elapsed }

namespace Kept

theorem probe : Kept 0 .idle .probe where
  handled := nofun
  queued := nofun
  expired h := by cases h
  assigned := nofun
  delivering := nofun
  disabled _ := .inr rfl
  unused _ := rfl
  delivered := nofun

theorem elapse (h : Kept now phase x) (ns : Nat) : Kept (now + ns) phase x :=
  { h with
    handled := by
      intro n hn
      obtain ⟨hle, hlast⟩ := h.handled n hn
      refine ⟨hle, fun he => ?_⟩
      obtain ⟨hq, hexp, hd⟩ := hlast he
      exact ⟨hq, Nat.le_add_right_of_le hexp, hd⟩
    expired := by
      intro h0
      obtain ⟨hq, hh, hdue⟩ := h.expired h0
      exact ⟨hq, hh, fun hp => (hdue hp).elapse ns⟩ }

theorem expire (h : Kept now phase x) : Kept now phase (x.expire now) := by
  unfold Timer.expire
  split
  · rename_i q hq
    split
    · rename_i hc
      obtain ⟨hs, he, hd⟩ := h.queued q hq
      exact
        { h with
          handled := by
            intro n hn
            obtain rfl : q.start = n := Option.some.inj hn
            exact ⟨Nat.le_of_eq hs, fun _ => ⟨rfl, by rw [← he]; exact hc.1, hd⟩⟩
          queued := nofun
          expired := by
            intro h0
            rw [(h.expired h0).1] at hq
            cases hq }
    · exact h
  · exact h

theorem fusb_timer_handler (h : Kept now phase x)
    (hn : ∀ n, x.handler = .enabled n → x.field ≠ T_DISABLED ∧ phase ≠ .assigned ∧ n = x.starts) :
    Kept now phase x.fusb_timer_handler := by
  unfold Timer.fusb_timer_handler
  split
  · exact h
  · rename_i n hh
    have hstart := h.handled n (by rw [hh]; rfl)
    refine { h with handled := ?_, expired := ?_ }
    · intro m hm
      dsimp only at hm
      split at hm
      · obtain rfl : n = m := Option.some.inj hm
        exact hstart
      · cases hm
    · intro h0
      rw [(h.expired h0).2.1] at hh
      cases hh
  · rename_i n hh
    obtain ⟨hf, hp, rfl⟩ := hn n hh
    obtain ⟨_, hlast⟩ := h.handled _ (by rw [hh]; rfl)
    obtain ⟨hq, hexp, hd⟩ := hlast rfl
    refine { h with handled := nofun, expired := fun _ => ⟨hq, rfl, fun _ => ⟨rfl, hexp, ?_, hd⟩⟩,
                    assigned := fun ha => absurd ha hp, delivering := fun _ => rfl, disabled := ?_, unused := nofun }
    · cases hdis : x.disabled with
      | false => rfl
      | true => exact absurd ((h.disabled hdis).resolve_left hp) hf
    · intro hdis
      exact absurd ((h.disabled hdis).resolve_left hp) hf

theorem assign (h : Kept now .idle x) (d : Duration) : Kept now .assigned (x.assign d) :=
  { h with
    expired := fun h0 => absurd h0 (Nat.ne_of_gt d.pos)
    assigned := fun _ => ⟨d.pos, d.lt⟩
    delivering := nofun
    disabled := fun _ => .inl rfl
    unused := fun h0 => absurd h0 (Nat.ne_of_lt d.lt) }

theorem fusb_timer_start (h : Kept now .assigned x) : Kept now .idle (x.fusb_timer_start now) := by
  obtain ⟨hpos, hlt⟩ := h.assigned rfl
  have hnew : x.starts + 1 ∉ x.delivered := fun hm => by
    have := h.delivered _ hm
    omega
  refine { handled := ?_, queued := ?_, expired := fun h0 => absurd h0 (Nat.ne_of_gt hpos), assigned := nofun, delivering := nofun,
           disabled := nofun, unused := fun h0 => absurd h0 (Nat.ne_of_lt hlt), delivered := ?_ }
  · intro n hn
    have hle := (h.handled n hn).1
    exact ⟨Nat.le_succ_of_le hle, fun he => absurd hle (by rw [he]; exact Nat.not_succ_le_self _)⟩
  · intro q hq
    obtain rfl := Option.some.inj hq
    exact ⟨rfl, rfl, hnew⟩
  · intro n hn
    exact Nat.le_succ_of_le (h.delivered n hn)

theorem disable (h : Kept now phase x) : Kept now .idle x.disable :=
  { h with
    expired := nofun
    assigned := nofun
    delivering := nofun
    disabled := fun _ => .inr rfl
    unused := fun _ => rfl }

theorem deliver (h : Kept now .idle x) (h0 : x.field = 0) : Kept now .delivering x.deliver := by
  obtain ⟨hq, hh, hdue⟩ := h.expired h0
  have hlast := (hdue rfl).last
  refine { h with handled := ?_, queued := ?_, expired := fun _ => ⟨hq, hh, nofun⟩, assigned := nofun,
                  delivering := fun _ => h0, disabled := ?_, delivered := ?_ }
  · intro n hn
    rw [show x.deliver.handler = .idle from hh] at hn
    cases hn
  · intro q hm
    rw [show x.deliver.hrtimer = none from hq] at hm
    cases hm
  · intro hd
    rw [show x.deliver.disabled = false from (hdue rfl).enabled] at hd
    cases hd
  · intro n hn
    rcases List.mem_cons.1 hn with rfl | hn
    · exact Nat.le_of_eq hlast
    · exact h.delivered n hn

end Kept

/-! ## Both timers -/

/-- The invariant of both timers. -/
def Sound (port : Port) : Prop := ∀ t, Kept port.now (port.worker.phase t) (port.timer t)

variable {port : Port} {t : HrTimer} {e : Event}

theorem phase_assigned_iff {w : Worker} : w.phase t = .assigned ↔ w = .assigned t := by
  unfold Worker.phase
  split
  · simp
  · simp
  · split <;> simp

/-- A step on one timer, with the worker between the same two steps of the other's. -/
theorem Sound.set (h : Sound port) {w : Worker} (hk : Kept port.now (w.phase t) x)
    (hw : ∀ u, t ≠ u → w.phase u = port.worker.phase u) : Sound { port.set t x with worker := w } := by
  intro u
  show Kept port.now (w.phase u) (Function.update port.timer t x u)
  by_cases hu : t = u
  · subst hu
    rw [Function.update_self]
    exact hk
  · rw [Function.update_of_ne (Ne.symm hu), hw u hu]
    exact h u

theorem Sound.set_same (h : Sound port) (hk : Kept port.now (port.worker.phase t) x) : Sound (port.set t x) :=
  h.set hk fun _ _ => rfl

theorem sound_probe : Sound .probe := fun _ => Kept.probe

theorem Sound.go_on (h : Sound port) : Sound port.go_on := by
  unfold Port.go_on
  split
  · exact h
  · rename_i t hw
    have hk := h t
    rw [hw, Worker.phase, if_pos rfl] at hk
    refine h.set hk.fusb_timer_start fun u hu => ?_
    rw [hw, Worker.phase, Worker.phase, if_neg hu]
  · rename_i t hw
    refine h.set (h t).disable fun u hu => ?_
    rw [hw, Worker.phase, Worker.phase, if_neg hu]

theorem overtaken_iff : overtaken port (.handler t) ↔ ∃ n, (port.timer t).handler = .enabled n ∧
    ((port.timer t).field = T_DISABLED ∨ port.worker = .assigned t ∨ n ≠ (port.timer t).starts) := by
  simp only [overtaken]
  split
  · rename_i n hh
    simp [hh]
  · rename_i hn
    exact ⟨False.elim, fun ⟨n, hh, _⟩ => hn n hh⟩

/-- A step that is not overtaken keeps both timers sound. -/
theorem Sound.step (h : Sound port) (hn : ¬overtaken port e) : Sound (port.step e) := by
  cases e with
  | elapse ns => exact fun t => (h t).elapse ns
  | expire t => exact h.set_same (h t).expire
  | handler t =>
    refine h.set_same ((h t).fusb_timer_handler fun n hh => ?_)
    refine ⟨fun hf => ?_, fun hp => ?_, Classical.not_not.1 fun hne => ?_⟩
    · exact hn (overtaken_iff.2 ⟨n, hh, .inl hf⟩)
    · exact hn (overtaken_iff.2 ⟨n, hh, .inr (.inl (phase_assigned_iff.1 hp))⟩)
    · exact hn (overtaken_iff.2 ⟨n, hh, .inr (.inr hne)⟩)
  | assign t d =>
    unfold Port.step
    dsimp only
    split
    · rename_i hw
      have hk := h t
      rw [hw] at hk
      refine h.set ?_ fun u hu => ?_
      · rw [Worker.phase, if_pos rfl]
        exact hk.assign d
      · rw [hw, Worker.phase, Worker.phase, if_neg hu]
    · exact h
  | disable t =>
    unfold Port.step
    dsimp only
    split
    · rename_i hw
      refine h.set_same ?_
      rw [hw]
      exact (h t).disable
    · exact h
  | mux_alert t =>
    unfold Port.step
    dsimp only
    split
    · rename_i hc
      have hk := h t
      rw [hc.1] at hk
      refine h.set ?_ fun u hu => ?_
      · rw [Worker.phase, if_pos rfl]
        exact hk.deliver hc.2
      · rw [hc.1, Worker.phase, Worker.phase, if_neg hu]
    · exact h
  | worker => exact h.go_on

theorem Sound.timely (h : Sound port) (e : Event) : Timely port e := by
  cases e with
  | mux_alert t =>
    intro hw h0
    obtain ⟨_, _, hdue⟩ := (h t).expired h0
    exact hdue (by rw [hw]; rfl)
  | elapse ns => trivial
  | expire t => trivial
  | handler t => trivial
  | assign t d => trivial
  | disable t => trivial
  | worker => trivial

/-- No store of the run is overtaken. -/
abbrev Clear : Port → List Event → Prop := Runs.Meets Port.step fun port e => ¬overtaken port e

theorem Sound.due {events : List Event} (h : Sound port) (hc : Clear port events) : Runs.Meets Port.step Timely port events :=
  Runs.Meets.imp (fun _ _ hs hn => hs.step hn) (fun _ e hs _ => hs.timely e) h hc

theorem Sound.run {events : List Event} (h : Sound port) (hc : Clear port events) : Sound (Runs.run Port.step port events) :=
  Runs.Meets.visited_inv (fun _ _ hs hn => hs.step hn) h hc _ (Runs.run_mem_visited _ _)

/-- As long as no store of `fusb_timer_handler` is overtaken, every event delivered is due. -/
theorem timeouts_due {events : List Event} (h : Clear .probe events) : Runs.Meets Port.step Timely .probe events :=
  sound_probe.due h

/-- A timeout of the source's startup, started, run out and delivered. -/
theorem timeouts_due_source_start :
    Runs.Meets Port.step Timely .probe
      [.assign .timer_state_machine ⟨T_PD_SWAP_SOURCE_START, by decide, by decide⟩, .worker,
        .elapse (FUSB_MS_TO_NS T_PD_SWAP_SOURCE_START), .expire .timer_state_machine, .handler .timer_state_machine,
        .handler .timer_state_machine, .mux_alert .timer_state_machine] :=
  timeouts_due (by decide)

/-- After a power role swap the sink disables `T_PD_SOURCE_ON`, which runs out when `fusb_state_snk_discovery` has
assigned `T_TYPEC_SINK_WAIT_CAP` and not yet started it: the source's capabilities time out at once. -/
theorem stale_timeout :
    ¬Runs.Meets Port.step Timely .probe
      [.assign .timer_state_machine ⟨T_PD_SOURCE_ON, by decide, by decide⟩, .worker,
        .elapse (FUSB_MS_TO_NS T_PD_SOURCE_ON), .disable .timer_state_machine,
        .assign .timer_state_machine ⟨T_TYPEC_SINK_WAIT_CAP, by decide, by decide⟩, .expire .timer_state_machine,
        .handler .timer_state_machine, .handler .timer_state_machine, .worker, .mux_alert .timer_state_machine] := by
  decide

/-! ## What an overtaken store leads to -/

theorem go_on_worker (port : Port) : port.go_on.worker = .idle := by
  unfold Port.go_on
  split <;> first | assumption | rfl

/-- The worker's second half leaves a timer alone which it is not starting or disabling. -/
theorem go_on_timer (ht : port.worker.phase t = .idle) : port.go_on.timer t = port.timer t := by
  unfold Port.go_on
  split
  · rfl
  · rename_i u hw
    refine Function.update_of_ne (fun hu => ?_) ..
    rw [hw, Worker.phase, if_pos hu.symm] at ht
    cases ht
  · rename_i u hw
    refine Function.update_of_ne (fun hu => ?_) ..
    rw [hw, Worker.phase, if_pos hu.symm] at ht
    cases ht

/-- After an overtaken store the worker can go on, call `mux_alert` and deliver an event that is not due. -/
theorem Sound.overtaken_breaks (h : Sound port) (ho : overtaken port (.handler t)) :
    ¬Runs.Meets Port.step Timely (port.step (.handler t)) [.worker, .mux_alert t] := by
  obtain ⟨n, hh, ho⟩ := overtaken_iff.1 ho
  have hk := h t
  have hle := (hk.handled n (by rw [hh]; rfl)).1
  have hne : (port.timer t).field ≠ 0 := fun h0 => by
    rw [(hk.expired h0).2.1] at hh
    cases hh
  have hs : (port.step (.handler t)).timer t = { port.timer t with field := 0, mark := n, handler := .idle } := by
    have hu : (port.step (.handler t)).timer t = (port.timer t).fusb_timer_handler := Function.update_self ..
    rw [hu, Timer.fusb_timer_handler, hh]
  have hw : (port.step (.handler t)).worker = port.worker := rfl
  rintro ⟨_, hd, _⟩
  replace hd := hd (go_on_worker _)
  generalize port.step (.handler t) = p at hs hw hd
  cases hp : p.worker.phase t with
  | idle =>
    rw [show p.step .worker = p.go_on from rfl, go_on_timer hp, hs] at hd
    have hdue := hd rfl
    rw [hw] at hp
    rcases ho with hf | ha | hn
    · have hdis := hk.unused hf
      rw [show (port.timer t).disabled = false from hdue.enabled] at hdis
      cases hdis
    · rw [phase_assigned_iff.2 ha] at hp
      cases hp
    · exact hn hdue.last
  | assigned =>
    have hg : (p.step .worker).timer t = (p.timer t).fusb_timer_start p.now := by
      rw [show p.step .worker = p.go_on from rfl, Port.go_on, phase_assigned_iff.1 hp]
      exact Function.update_self ..
    rw [hg, hs] at hd
    have hl : n = (port.timer t).starts + 1 := (hd rfl).last
    omega
  | delivering =>
    rw [hw] at hp
    exact hne (hk.delivering hp)

end Fusb302.Expiry
