import LinuxDriver.Fusb302.Rearm
/-!
# The state machine in single accesses

In the state machine an invocation and an expiry are one step each. Its runs
are runs of the single accesses, in which no store of `fusb_timer_handler` is
overtaken: a timeout that is not due takes a callback that runs beside the worker.
-/

namespace Fusb302.Expiry

variable {x y : Timers} {chip : Chip} {evt : Evt}

/-! ## One port, two views -/

/-- The field that a timer's duration is kept in. -/
def field (x : Timers) : HrTimer → Nat
  | .timer_state_machine => x.timer_state
  | .timer_mux_machine => x.timer_mux

/-- Whether a timer is armed. -/
def armed (x : Timers) : HrTimer → Bool
  | .timer_state_machine => x.timer_state_machine
  | .timer_mux_machine => x.timer_mux_machine

/-- An operation is on one timer. -/
theorem rearm_other (x : Timers) (o : TimerOp) {u : HrTimer} (hu : u ≠ o.timer) :
    field (rearm x o) u = field x u ∧ armed (rearm x o) u = armed x u := by
  cases o with
  | start t d => cases t <;> cases u <;> first | exact absurd rfl hu | exact ⟨rfl, rfl⟩
  | disable t => cases t <;> cases u <;> first | exact absurd rfl hu | exact ⟨rfl, rfl⟩

/-- The port between two steps of the state machine. -/
structure Shows (port : Port) (x : Timers) : Prop where
  worker : port.worker = .idle
  field : ∀ t, (port.timer t).field = field x t
  armed : ∀ t, (port.timer t).hrtimer.isSome = armed x t
  handler : ∀ t, (port.timer t).handler = .idle

variable {port : Port} {t : HrTimer}

/-- A change of one timer. -/
theorem Shows.set (h : Shows port x) {port' : Port} {v : Timer} (hw : port'.worker = .idle)
    (ht : port'.timer = Function.update port.timer t v) (hf : v.field = Expiry.field y t)
    (ha : v.hrtimer.isSome = Expiry.armed y t) (hh : v.handler = .idle)
    (ho : ∀ u, u ≠ t → Expiry.field y u = Expiry.field x u ∧ Expiry.armed y u = Expiry.armed x u) : Shows port' y := by
  refine ⟨hw, fun u => ?_, fun u => ?_, fun u => ?_⟩ <;> rw [ht] <;> by_cases hu : u = t
  · rw [hu, Function.update_self, hf]
  · rw [Function.update_of_ne hu, (ho u hu).1, h.field]
  · rw [hu, Function.update_self, ha]
  · rw [Function.update_of_ne hu, (ho u hu).2, h.armed]
  · rw [hu, Function.update_self, hh]
  · rw [Function.update_of_ne hu, h.handler]

theorem Shows.start (h : Shows port x) (t : HrTimer) (d : Duration) :
    Shows (Runs.run Port.step port [.assign t d, .worker]) (rearm x (.start t d)) := by
  have hs : Runs.run Port.step port [.assign t d, .worker] =
      { port.set t (((port.timer t).assign d).fusb_timer_start port.now) with worker := .idle } := by
    simp [Port.step, h.worker, Port.go_on, Port.set]
  rw [hs]
  refine h.set rfl rfl ?_ ?_ (h.handler t) fun u hu => rearm_other x _ hu
  · cases t <;> rfl
  · cases t <;> rfl

/-- Disabling, with whatever else leaves the hrtimer and its callback alone. -/
theorem Shows.disabled (h : Shows port x) {port' : Port} {v : Timer} (hw : port'.worker = .idle)
    (ht : port'.timer = Function.update port.timer t v) (hf : v.field = T_DISABLED)
    (hq : v.hrtimer = (port.timer t).hrtimer) (hh : v.handler = (port.timer t).handler) :
    Shows port' (rearm x (.disable t)) := by
  have ha := h.armed t
  refine h.set hw ht ?_ ?_ (hh.trans (h.handler t)) fun u hu => rearm_other x _ hu
  · cases t <;> exact hf
  · cases t <;> exact (congrArg Option.isSome hq).trans ha

theorem Shows.disable (h : Shows port x) (t : HrTimer) :
    Shows (Runs.run Port.step port [.disable t]) (rearm x (.disable t)) := by
  have hs : Runs.run Port.step port [.disable t] = port.set t (port.timer t).disable := by
    simp [Port.step, h.worker]
  rw [hs]
  exact h.disabled h.worker rfl rfl rfl rfl

/-- The worker's operations are runs of its single accesses. -/
theorem Shows.rearmed (h : Shows port x) (hr : Rearmed x y) :
    ∃ events, Clear port events ∧ Shows (Runs.run Port.step port events) y := by
  obtain ⟨ops, rfl⟩ := hr
  refine Runs.exists_meets_of_simulates (R := fun x port => Shows port x) (fun x port o h => ?_) ops h
  cases o with
  | start t d => exact ⟨[.assign t d, .worker], ⟨id, id, trivial⟩, h.start t d⟩
  | disable t => exact ⟨[.disable t], ⟨id, trivial⟩, h.disable t⟩

/-- `mux_alert` for one timer. -/
def take (x : Timers) (t : HrTimer) : Timers := if field x t = 0 then rearm x (.disable t) else x

/-- It delivers an event exactly when the field is 0. -/
theorem run_take (h : Shows port x) (t : HrTimer) :
    Runs.run Port.step port [.mux_alert t, .worker] =
      if field x t = 0 then { port.set t (port.timer t).deliver.disable with worker := .idle } else port := by
  by_cases h0 : field x t = 0
  · simp [Port.step, h.worker, h.field, h0, Port.go_on, Port.set]
  · simp [Port.step, h.worker, h.field, h0, Port.go_on]

theorem Shows.take (h : Shows port x) (t : HrTimer) :
    Shows (Runs.run Port.step port [.mux_alert t, .worker]) (Expiry.take x t) := by
  rw [run_take h, Expiry.take]
  split
  · exact h.disabled rfl rfl rfl rfl rfl
  · exact h

theorem mux_alert_timers (chip : Chip) (evt : Evt) :
    (mux_alert chip evt).1.toTimers = Expiry.take (Expiry.take chip.toTimers .timer_mux_machine) .timer_state_machine := by
  unfold mux_alert Expiry.take
  dsimp only [field, rearm]
  by_cases hm : chip.timer_mux = 0 <;> by_cases hs : chip.timer_state = 0 <;> simp [hm, hs]

theorem mux_alert_events (chip : Chip) (evt : Evt) :
    (mux_alert chip evt).2.timer_mux = (evt.timer_mux || field chip.toTimers .timer_mux_machine == 0) ∧
      (mux_alert chip evt).2.timer_state = (evt.timer_state || field chip.toTimers .timer_state_machine == 0) := by
  unfold mux_alert
  dsimp only [field]
  by_cases hm : chip.timer_mux = 0 <;> by_cases hs : chip.timer_state = 0 <;> simp [hm, hs]

/-! ## Steps and runs -/

/-- The event bit of a timer. -/
def timeout (evt : Evt) : HrTimer → Bool
  | .timer_state_machine => evt.timer_state
  | .timer_mux_machine => evt.timer_mux

/-- `mux_alert` in single accesses. -/
def mux_alerts : List Event :=
  [.mux_alert .timer_mux_machine, .worker, .mux_alert .timer_state_machine, .worker]

/-- An invocation is `mux_alert` with starts and disables around it, and its switch sees the timeouts `mux_alert`
delivers. -/
theorem Shows.work (h : Shows port chip.toTimers) (env : Env) : ∃ es fs, Clear port (es ++ mux_alerts ++ fs) ∧
    Shows (Runs.run Port.step port (es ++ mux_alerts ++ fs)) (step chip (.work env)).toTimers ∧
      ∀ t, timeout (events chip env) t = true ↔ ((Runs.run Port.step port es).timer t).field = 0 := by
  have h0 : Rearmed chip.toTimers (observe chip env).toTimers := .refl _
  obtain ⟨hb, hm, hs⟩ := tcpc_alert_alerted h0 env
  obtain ⟨es, hce, hes⟩ := h.rearmed hb
  have ht := (hes.take .timer_mux_machine).take .timer_state_machine
  rw [← mux_alert_timers _ (tcpc_alert (observe chip env) env).2, ← Runs.run_append, ← Runs.run_append] at ht
  have ha : Rearmed (alerts chip env).1.toTimers (step chip (.work env)).toTimers := by
    have hw : Rearmed (alerts chip env).1.toTimers (at_switch chip env).toTimers := before_switch_rearmed (.refl _)
    rw [step_work]
    split
    · exact dispatch_rearmed hw
    · exact hw
  obtain ⟨fs, hcf, hfs⟩ := ht.rearmed ha
  have hc : Clear port (es ++ mux_alerts) := Runs.Meets.append.2 ⟨hce, id, id, id, id, trivial⟩
  refine ⟨es, fs, Runs.Meets.append.2 ⟨hc, hcf⟩, by rwa [Runs.run_append], fun t => ?_⟩
  obtain ⟨hmux, hstate⟩ := mux_alert_events (tcpc_alert (observe chip env) env).1 (tcpc_alert (observe chip env) env).2
  rw [hes.field]
  cases t with
  | timer_state_machine =>
    rw [hs, Bool.false_or] at hstate
    exact (Bool.eq_iff_iff.1 hstate).trans beq_iff_eq
  | timer_mux_machine =>
    rw [hm, Bool.false_or] at hmux
    exact (Bool.eq_iff_iff.1 hmux).trans beq_iff_eq

/-- What the expiry of an armed hrtimer leaves. -/
def expired (x : Timers) : HrTimer → Timers
  | .timer_state_machine =>
    { x with timer_state_machine := false, timer_state := if x.timer_state ≠ T_DISABLED then 0 else x.timer_state }
  | .timer_mux_machine =>
    { x with timer_mux_machine := false, timer_mux := if x.timer_mux ≠ T_DISABLED then 0 else x.timer_mux }

theorem timer_handler_timers (chip : Chip) (t : HrTimer) :
    (fusb_timer_handler chip t.act).toTimers = if armed chip.toTimers t then expired chip.toTimers t else chip.toTimers := by
  cases t <;> exact apply_ite Chip.toTimers ..

/-- An hrtimer that has expired, with its callback about to run. -/
def Timer.popped (v : Timer) (n : Nat) : Timer := { v with hrtimer := none, handler := .entered n }

theorem Timer.popped_handler (v : Timer) (n : Nat) :
    (v.popped n).fusb_timer_handler = { v with hrtimer := none, handler := if v.field ≠ T_DISABLED then .enabled n else .idle } :=
  rfl

/-- The callback without the worker beside it. -/
theorem Timer.popped_through (v : Timer) (n : Nat) :
    let w := (v.popped n).fusb_timer_handler.fusb_timer_handler
    w.field = (if v.field ≠ T_DISABLED then 0 else v.field) ∧ w.hrtimer = none ∧ w.handler = .idle := by
  rw [popped_handler, Timer.fusb_timer_handler]
  by_cases hd : v.field = T_DISABLED
  · simp [hd]
  · simp [hd]

/-- With the worker idle, the callback of the last start is not overtaken. -/
theorem clear_popped {v : Timer} {n : Nat} (hw : port.worker = .idle) (hv : port.timer t = v.popped n) (hn : n = v.starts) :
    Clear port [.handler t, .handler t] := by
  have hs : (port.step (.handler t)).timer t = (v.popped n).fusb_timer_handler := by
    simp [Port.step, Port.set, hv]
  refine ⟨fun ho => ?_, fun ho => ?_, trivial⟩
  · obtain ⟨m, hh, _⟩ := overtaken_iff.1 ho
    rw [hv] at hh
    cases hh
  · obtain ⟨m, hh, ho⟩ := overtaken_iff.1 ho
    rw [hs, Timer.popped_handler] at hh ho
    dsimp only at hh
    split at hh
    · rename_i hd
      obtain rfl : n = m := Handler.enabled.inj hh
      rcases ho with hf | ha | hm
      · exact hd hf
      · rw [show (port.step (.handler t)).worker = .idle from hw] at ha
        cases ha
      · exact hm hn
    · cases hh

/-- An expiry in one go. -/
theorem Shows.expires (h : Shows port chip.toTimers) (hk : Sound port) (t : HrTimer) :
    ∃ events, Clear port events ∧ Shows (Runs.run Port.step port events) (fusb_timer_handler chip t.act).toTimers := by
  have ha := h.armed t
  rw [timer_handler_timers, ← ha]
  cases hq : (port.timer t).hrtimer with
  | none => exact ⟨[], trivial, h⟩
  | some q =>
    have hexp : (port.timer t).expire (port.now + (q.expires - port.now)) = (port.timer t).popped q.start := by
      have hle : q.expires ≤ port.now + (q.expires - port.now) := by omega
      simp [Timer.expire, hq, hle, h.handler, Timer.popped]
    have hp : ∃ p, p = Runs.run Port.step port [.elapse (q.expires - port.now), .expire t] ∧
        p.worker = .idle ∧ p.timer = Function.update port.timer t ((port.timer t).popped q.start) := by
      refine ⟨_, rfl, h.worker, ?_⟩
      simp [Port.step, Port.set, hexp]
    obtain ⟨p, hrun, hw, hp⟩ := hp
    refine ⟨[.elapse (q.expires - port.now), .expire t] ++ [.handler t, .handler t], ?_, ?_⟩
    · refine Runs.Meets.append.2 ⟨⟨id, id, trivial⟩, ?_⟩
      rw [← hrun]
      exact clear_popped hw (by rw [hp, Function.update_self]) ((hk t).queued q hq).1
    · obtain ⟨hf, hn, hh⟩ := (port.timer t).popped_through q.start
      rw [Runs.run_append, ← hrun]
      refine h.set (t := t) hw ?_ (hf.trans ?_) ((congrArg Option.isSome hn).trans ?_) hh fun u hu => ?_
      · simp [Port.step, Port.set, hp]
      · rw [h.field]
        cases t <;> rfl
      · cases t <;> rfl
      · cases t <;> cases u <;> first | exact absurd rfl hu | exact ⟨rfl, rfl⟩

/-- An invocation of the worker, or an expiry in one go. -/
theorem Shows.step (h : Shows port chip.toTimers) (hk : Sound port) (act : Act) :
    ∃ events, Clear port events ∧ Shows (Runs.run Port.step port events) (step chip act).toTimers := by
  cases act with
  | work env =>
    obtain ⟨es, fs, hc, hs, _⟩ := h.work env
    exact ⟨_, hc, hs⟩
  | timer_state => exact h.expires hk .timer_state_machine
  | timer_mux => exact h.expires hk .timer_mux_machine

theorem shows_probe (board : Board) : Shows .probe (fusb30x_probe board).toTimers := by
  have hp : (fusb30x_probe board).toTimers = ⟨T_DISABLED, T_DISABLED, false, false⟩ := by
    simp [fusb30x_probe, kzalloc]
  rw [hp]
  refine ⟨rfl, fun t => ?_, fun t => ?_, fun t => rfl⟩
  · cases t <;> rfl
  · cases t <;> rfl

/-- Whatever the state machine does from probe on, in single accesses no store is overtaken, so every timeout it takes
is due. -/
theorem ran_shows (board : Board) (acts : List Act) : ∃ events, Clear .probe events ∧
    Shows (Runs.run Port.step .probe events) (ran board acts).toTimers ∧ Runs.Meets Port.step Timely .probe events := by
  have hs : ∀ (chip : Chip) (port : Port) (act : Act), Shows port chip.toTimers ∧ Sound port →
      ∃ events, Clear port events ∧ Shows (Runs.run Port.step port events) (step chip act).toTimers ∧
        Sound (Runs.run Port.step port events) := by
    rintro chip port act ⟨h, hk⟩
    obtain ⟨events, hc, hs⟩ := h.step hk act
    exact ⟨events, hc, hs, hk.run hc⟩
  obtain ⟨events, hc, h, _⟩ := Runs.exists_meets_of_simulates hs acts ⟨shows_probe board, sound_probe⟩
  exact ⟨events, hc, h, sound_probe.due hc⟩

end Fusb302.Expiry
