import LinuxDriver.Fusb302.Retry
import Mathlib.Data.List.Induction
import Mathlib.Data.Nat.Bits
import Mathlib.Logic.Function.Basic
/-!
# Several ports

Every port has its own structure, but `tcpc_alert` keeps a static variable that
all of them share, and `fusb_timer_handler` looks up the port in a table.
-/

namespace Fusb302

variable {n : Nat}

/-! ## The driver -/

/-- The hrtimers of a port. -/
inductive HrTimer
  | timer_state_machine
  | timer_mux_machine
  deriving DecidableEq

/-- A work invocation of a port, or the expiry of an hrtimer, given by its address: a field of one port's structure. -/
inductive Event (n : Nat)
  | work (port : Fin n) (env : Env)
  | timer (t : Fin n × HrTimer)

/-- The expiry of a timer, seen by its port. -/
def HrTimer.act : HrTimer → Act
  | .timer_state_machine => .timer_state
  | .timer_mux_machine => .timer_mux

/-- The port it concerns. -/
def Event.port : Event n → Fin n
  | .work port _ => port
  | .timer t => t.1

/-- What it is to that port. -/
def Event.act : Event n → Act
  | .work _ env => .work env
  | .timer t => t.2.act

/-- What the module holds for its `n` ports: their table, and `retry` of `tcpc_alert`. -/
structure Driver (n : Nat) where
  fusb30x_port_info : Fin n → Chip
  retry : Bool

/-- The loop of `fusb_timer_handler` over the table: the port it stops at, and which of its tests held. -/
def scan (timer : Fin n × HrTimer) : Option (Fin n × Act) :=
  (List.finRange n).findSome? fun i =>
    if timer = (i, .timer_state_machine) then some (i, .timer_state)
    else if timer = (i, .timer_mux_machine) then some (i, .timer_mux)
    else none

/-- One event of the module. -/
def Driver.step (d : Driver n) : Event n → Driver n
  | .work port env =>
    let chip := state_machine_typec ((d.fusb30x_port_info port).with_retry d.retry) env
    { fusb30x_port_info := Function.update d.fusb30x_port_info port chip, retry := chip.retry }
  | .timer t =>
    match scan t with
    | some (i, act) =>
      { d with
        fusb30x_port_info := Function.update d.fusb30x_port_info i (fusb_timer_handler (d.fusb30x_port_info i) act) }
    | none => d

/-- Every port after its probe. -/
def Driver.probe (boards : Fin n → Board) : Driver n where
  fusb30x_port_info i := fusb30x_probe (boards i)
  retry := false

/-- The port's own structure. -/
def Chip.own (chip : Chip) : Chip := chip.with_retry false

/-- What the events are to port `i`. -/
def acts_of (i : Fin n) (events : List (Event n)) : List Act := (events.filter (·.port = i)).map Event.act

/-! ## One step -/

theorem scan_eq (timer : Fin n × HrTimer) : scan timer = some (timer.1, timer.2.act) := by
  obtain ⟨port, t⟩ := timer
  have hs : ∃ r, scan (port, t) = some r := by
    refine Option.isSome_iff_exists.1 (List.findSome?_isSome_iff.2 ⟨port, List.mem_finRange port, ?_⟩)
    cases t <;> simp
  obtain ⟨r, hr⟩ := hs
  obtain ⟨i, _, hi⟩ := List.exists_of_findSome?_eq_some hr
  rw [hr]
  cases t <;> simp [HrTimer.act] at hi ⊢ <;> grind

/-- Chips that differ in the static variable only, with the same value in it, are the same. -/
theorem with_retry_of_own {c c' : Chip} (h : c.own = c'.own) (r : Bool) : c.with_retry r = c'.with_retry r := by
  have h' := congrArg (Chip.with_retry · r) h
  exact h'

theorem own_step {c c' : Chip} {act : Act} (h : c.own = c'.own) (hr : act.hardsent = true → c.retry = c'.retry) :
    (step c act).own = (step c' act).own := by
  cases ha : act.hardsent with
  | false =>
    have hs := step_blind ha
    have hc : (step c act).own = step (c.own) act := hs c false
    have hc' : (step c' act).own = step (c'.own) act := hs c' false
    rw [hc, hc', h]
  | true =>
    have he := with_retry_of_own h c.retry
    rw [with_own_retry, hr ha, with_own_retry] at he
    rw [he]

theorem HrTimer.not_hardsent (t : HrTimer) : t.act.hardsent = false := by
  cases t <;> rfl

/-- The table leads an expiry to the port whose hrtimer it is. -/
theorem Driver.step_timer (d : Driver n) (t : Fin n × HrTimer) :
    d.step (.timer t) =
      { d with
        fusb30x_port_info := Function.update d.fusb30x_port_info t.1
          (fusb_timer_handler (d.fusb30x_port_info t.1) t.2.act) } := by
  simp only [Driver.step, scan_eq]

/-- A step of the driver is a step of one port, with the shared variable in it. -/
theorem step_self (d : Driver n) (e : Event n) :
    ((d.step e).fusb30x_port_info e.port).own = (step ((d.fusb30x_port_info e.port).with_retry d.retry) e.act).own := by
  cases e with
  | work port env => exact congrArg Chip.own (Function.update_self ..)
  | timer t =>
    rw [d.step_timer]
    refine (congrArg Chip.own (Function.update_self ..)).trans ?_
    have hs : step (d.fusb30x_port_info t.1) t.2.act = fusb_timer_handler (d.fusb30x_port_info t.1) t.2.act := by
      cases t.2 <;> rfl
    rw [← hs]
    exact own_step rfl fun h => absurd h (by rw [t.2.not_hardsent]; decide)

theorem step_other (d : Driver n) {e : Event n} {i : Fin n} (hi : i ≠ e.port) :
    (d.step e).fusb30x_port_info i = d.fusb30x_port_info i := by
  cases e with
  | work port env => exact Function.update_of_ne hi ..
  | timer t =>
    rw [d.step_timer]
    exact Function.update_of_ne hi ..

theorem step_shared (d : Driver n) (e : Event n) : (d.step e).retry = (d.retry != e.act.hardsent) := by
  cases e with
  | work port env => exact step_retry ((d.fusb30x_port_info port).with_retry d.retry) (.work env)
  | timer t =>
    rw [d.step_timer]
    change d.retry = (d.retry != t.2.act.hardsent)
    rw [t.2.not_hardsent, Bool.bne_false]

/-! ## Runs -/

/-- The HARDSENTs so far reported by the chips of other ports. -/
def others_hardsent (i : Fin n) (before : List (Event n)) : Nat :=
  before.countP fun e => e.act.hardsent && e.port ≠ i

/-- Whenever the chip of port `i` reports HARDSENT, those of the other ports have done so an even number of times. -/
def Undisturbed (i : Fin n) : List (Event n) → Prop :=
  Runs.Meets (fun before e => before ++ [e])
    (fun before e => e.port = i → e.act.hardsent = true → others_hardsent i before % 2 = 0) []

instance (i : Fin n) (events : List (Event n)) : Decidable (Undisturbed i events) := by
  unfold Undisturbed
  infer_instance

theorem run_history (before events : List (Event n)) :
    Runs.run (fun before e => before ++ [e]) before events = before ++ events := by
  induction events generalizing before with
  | nil => exact (List.append_nil _).symm
  | cons e events ih => rw [Runs.run_cons, ih, List.append_assoc, List.singleton_append]

theorem Undisturbed.append {i : Fin n} {events : List (Event n)} {e : Event n} (h : Undisturbed i (events ++ [e])) :
    Undisturbed i events ∧ (e.port = i → e.act.hardsent = true → others_hardsent i events % 2 = 0) := by
  obtain ⟨h, hl, _⟩ := Runs.Meets.append.1 h
  rw [run_history] at hl
  exact ⟨h, hl⟩

theorem Undisturbed.of_prefix {i : Fin n} {pre events : List (Event n)} (hp : pre <+: events) (h : Undisturbed i events) :
    Undisturbed i pre := by
  obtain ⟨post, rfl⟩ := hp
  exact (Runs.Meets.append.1 h).1

/-- The shared variable counts everybody's HARDSENTs. -/
theorem shared_parity (boards : Fin n → Board) (events : List (Event n)) :
    (Runs.run Driver.step (Driver.probe boards) events).retry = (events.countP (·.act.hardsent)).bodd := by
  induction events using List.reverseRecOn with
  | nil =>
    rw [List.countP_nil, Nat.bodd_zero]
    rfl
  | append_singleton events e ih =>
    rw [Runs.run_append, Runs.run_cons, Runs.run_nil, step_shared, ih, List.countP_append, Nat.bodd_add]
    cases h : e.act.hardsent <;> simp [h]

/-- That of a port on its own counts its own. -/
theorem own_parity (board : Board) (acts : List Act) : (ran board acts).retry = (acts.countP Act.hardsent).bodd := by
  induction acts using List.reverseRecOn with
  | nil =>
    rw [List.countP_nil, Nat.bodd_zero]
    exact ((tcpm_set_cc_blind _).kept _).trans rfl
  | append_singleton acts act ih =>
    rw [ran, Runs.run_append, Runs.run_cons, Runs.run_nil, step_retry, ← ran, ih, List.countP_append, Nat.bodd_add]
    cases h : act.hardsent <;> simp [h]

theorem count_split (i : Fin n) (events : List (Event n)) :
    events.countP (·.act.hardsent) = (acts_of i events).countP Act.hardsent + others_hardsent i events := by
  induction events with
  | nil => rfl
  | cons e events ih =>
    unfold acts_of others_hardsent at ih ⊢
    by_cases hi : e.port = i <;> cases hs : e.act.hardsent <;> simp [hi, hs, ih] <;> omega

theorem acts_of_self (pre : List (Event n)) (e : Event n) : acts_of e.port (pre ++ [e]) = acts_of e.port pre ++ [e.act] := by
  simp [acts_of]

theorem acts_of_other {i : Fin n} (pre : List (Event n)) {e : Event n} (hi : i ≠ e.port) :
    acts_of i (pre ++ [e]) = acts_of i pre := by
  simp [acts_of, hi.symm]

/-- In a run in which no other port is between its two HARDSENTs when port `i`
gets one, port `i` is after any of the events where its own events alone take it. -/
theorem port_alone (boards : Fin n → Board) (i : Fin n) (events : List (Event n)) (h : Undisturbed i events) :
    ∀ pre, pre <+: events →
      ((Runs.run Driver.step (Driver.probe boards) pre).fusb30x_port_info i).own =
        (ran (boards i) (acts_of i pre)).own := by
  intro pre hp
  have h := h.of_prefix hp
  clear hp
  induction pre using List.reverseRecOn with
  | nil => rfl
  | append_singleton pre e ih =>
    obtain ⟨hu, hl⟩ := h.append
    have ih := ih hu
    rw [Runs.run_append, Runs.run_cons, Runs.run_nil]
    by_cases hi : i = e.port
    · subst hi
      rw [step_self, acts_of_self, ran, Runs.run_append, Runs.run_cons, Runs.run_nil]
      refine own_step ih fun hs => ?_
      have he : (others_hardsent e.port pre).bodd = false := by
        have := Nat.mod_two_of_bodd (others_hardsent e.port pre)
        rw [hl rfl hs] at this
        cases hb : (others_hardsent e.port pre).bodd
        · rfl
        · rw [hb] at this
          cases this
      rw [with_retry_retry, shared_parity, ← ran, own_parity, count_split e.port, Nat.bodd_add, he, Bool.xor_false]
    · rw [step_other _ hi, ih, acts_of_other _ hi]

/-- HARDSENT is all the chip reports. -/
def reset_sent : Env := { interrupta := INTERRUPTA_HARDSENT, status0 := fun _ => STATUS0_VBUSOK }

/-- On one of two boards that try to be a source: it attaches as a sink, sees no
capabilities, gets no answer to its soft reset and writes a hard reset. -/
def hard_reset (i : Fin 2) : List (Event 2) :=
  (attach_sink ++ [.timer_state, idle, idle, txsent, .timer_state, idle, idle]).map fun
    | .work env => .work i env
    | .timer_state => .timer (i, .timer_state_machine)
    | .timer_mux => .timer (i, .timer_mux_machine)

/-- The second port's hard reset begins after the first port's second HARDSENT. -/
def in_turn : List (Event 2) :=
  hard_reset 0 ++ [.work 0 reset_sent, .work 0 reset_sent] ++ hard_reset 1 ++ [.work 1 reset_sent]

theorem second_port_alone :
    ((Runs.run Driver.step (Driver.probe fun _ => try_source) in_turn).fusb30x_port_info 1).own =
      (ran try_source (acts_of 1 in_turn)).own :=
  port_alone _ 1 in_turn (by decide +kernel) in_turn List.prefix_rfl

/-- Both hard resets are on the wire; the second port's first HARDSENT counts as its second. -/
theorem hard_reset_disturbs :
    ¬∀ pre, pre <+: hard_reset 0 ++ hard_reset 1 ++ [.work 0 reset_sent, .work 1 reset_sent] →
      ((Runs.run Driver.step (Driver.probe fun _ => try_source) pre).fusb30x_port_info 1).own =
        (ran try_source (acts_of 1 pre)).own := by
  intro h
  have hc := congrArg (fun c : Chip => c.hardrst_count) (h _ List.prefix_rfl)
  revert hc
  decide +kernel

end Fusb302
