import LinuxDriver.Fusb302.Machine
/-!
# The interrupt line and the work item

The interrupt handler, the hrtimers and the worker run concurrently. They
share the flag `enable_irq` and the work item; the chip pulls INT_N at any
time, and reading its interrupt registers releases it. A work item that is
queued may start at once on another CPU.

The line stays in somebody's care as long as the work item queued by the
handler has not already run to its end when the handler disables the line.
-/

namespace Fusb302.Wakeup

/-! ## The port and its threads -/

/-- Where `cc_interrupt_handler` is. The line is `IRQF_ONESHOT`: it is masked until the handler returns. -/
inductive Handler
  | idle
  /-- The interrupt was taken. -/
  | entered
  /-- `queue_work` has returned. -/
  | queued
  deriving DecidableEq

/-- Where `state_machine_typec` is. -/
inductive Worker
  | idle
  | started
  /-- `tcpc_alert` has read the registers. -/
  | alerted (env : Env)
  /-- At the label `BACK`. -/
  | back
  /-- `platform_get_device_irq_state` has returned this. -/
  | checked (asserted : Bool)

/-- `gpio_int` says whether the chip pulls INT_N, `work` whether the work item is queued. -/
structure Port where
  chip : Chip
  enable_irq : Bool
  gpio_int : Bool
  work : Bool
  handler : Handler
  worker : Worker

/-- The work function has been entered. -/
def Worker.running : Worker → Bool
  | .idle => false
  | _ => true

/-! ## What each thread does -/

/-- The work is pending from here on. -/
def queue_work (port : Port) : Port := { port with work := true }

/-- Masks the interrupt once. -/
def fusb_irq_disable (port : Port) : Port :=
  if port.enable_irq then { port with enable_irq := false } else port

/-- Unmasks the interrupt once. -/
def fusb_irq_enable (port : Port) : Port :=
  if !port.enable_irq then { port with enable_irq := true } else port

/-- The next step of `cc_interrupt_handler`. It is entered when the line is enabled and INT_N is pulled. -/
def cc_interrupt_handler (port : Port) : Port :=
  match port.handler with
  | .idle => if port.enable_irq && port.gpio_int then { port with handler := .entered } else port
  | .entered => { queue_work port with handler := .queued }
  | .queued => { fusb_irq_disable port with handler := .idle }

/-- The next step of the worker; `env` is what the registers hold when they are read. -/
def fusb302_work_func (port : Port) (env : Env) : Port :=
  match port.worker with
  | .idle => if port.work then { port with work := false, worker := .started } else port
  | .started => { port with gpio_int := false, worker := .alerted env }
  | .alerted env => { port with chip := state_machine_typec port.chip env, worker := .back }
  | .back =>
    if port.chip.work_continue || port.chip.delay_cc then { queue_work port with worker := .idle }
    else { port with worker := .checked port.gpio_int }
  | .checked asserted =>
    if !asserted then { fusb_irq_enable port with worker := .idle } else { queue_work port with worker := .idle }

/-- An hrtimer that is armed expires. -/
def timer_expires (port : Port) (act : Act) : Port :=
  queue_work { port with chip := fusb_timer_handler port.chip act }

/-- What can happen to a port. -/
inductive Event
  | interrupt_asserted
  | handler
  | worker (env : Env)
  | timer_state
  | timer_mux

/-- One event. -/
def step (port : Port) : Event → Port
  | .interrupt_asserted => { port with gpio_int := true }
  | .handler => cc_interrupt_handler port
  | .worker env => fusb302_work_func port env
  | .timer_state => if port.chip.timer_state_machine then timer_expires port .timer_state else port
  | .timer_mux => if port.chip.timer_mux_machine then timer_expires port .timer_mux else port

/-- A port after its probe. -/
def fusb30x_probe (board : Board) : Port where
  chip := Fusb302.fusb30x_probe board
  enable_irq := true
  gpio_int := false
  work := false
  handler := .idle
  worker := .idle

variable {port : Port}

/-! ## The port under the threads

Whatever the interleaving, the chip takes steps of the state machine. -/

theorem step_chip (port : Port) (event : Event) :
    ∃ acts, (step port event).chip = Runs.run Fusb302.step port.chip acts := by
  have same : ∀ {p : Port}, p.chip = port.chip → ∃ acts, p.chip = Runs.run Fusb302.step port.chip acts :=
    fun h => ⟨[], h⟩
  cases event with
  | interrupt_asserted => exact same rfl
  | handler =>
    unfold step cc_interrupt_handler fusb_irq_disable
    dsimp only
    repeat' split
    all_goals exact same rfl
  | worker env =>
    unfold step fusb302_work_func fusb_irq_enable
    dsimp only
    repeat' split
    -- one stage of the worker runs the state machine
    case h_3 env _ => exact ⟨[.work env], rfl⟩
    all_goals exact same rfl
  | timer_state =>
    unfold step
    dsimp only
    split
    · exact ⟨[.timer_state], rfl⟩
    · exact same rfl
  | timer_mux =>
    unfold step
    dsimp only
    split
    · exact ⟨[.timer_mux], rfl⟩
    · exact same rfl

/-- So every run shows a run of the state machine, and what holds of those holds here. -/
theorem run_chip (board : Board) (events : List Event) :
    ∃ acts, (Runs.run step (fusb30x_probe board) events).chip = ran board acts :=
  Runs.run_simulates step_chip (fusb30x_probe board) events

/-! ## No lost wake-up -/

/-- While the line is disabled the work item is queued or running, and an
execution ends by enabling the line or queueing the item. -/
structure Awake (port : Port) : Prop where
  due : port.enable_irq = false → port.work = true ∨ port.worker.running = true
  rearms : ∀ event, port.worker.running = true → (step port event).worker.running = false →
    (step port event).enable_irq = true ∨ (step port event).work = true

/-- The handler disables the line although nobody is there to enable it:
the item it queued has run, and found the line still enabled. -/
def deafens (port : Port) : Event → Prop
  | .handler => port.handler = .queued ∧ port.work = false ∧ port.worker.running = false
  | _ => False

instance (event : Event) : Decidable (deafens port event) := by
  unfold deafens
  cases event <;> infer_instance

/-- Only the worker ends its execution, and it has enabled the line or queued the item by then. -/
theorem worker_rearms (event : Event) (hr : port.worker.running = true)
    (hi : (step port event).worker.running = false) :
    (step port event).enable_irq = true ∨ (step port event).work = true := by
  have stays : (step port event).worker = port.worker → False := by
    intro he
    rw [he, hr] at hi
    cases hi
  cases event with
  | interrupt_asserted => exact (stays rfl).elim
  | handler =>
    refine (stays ?_).elim
    unfold step cc_interrupt_handler queue_work fusb_irq_disable
    dsimp only
    repeat' split
    all_goals rfl
  | worker env =>
    unfold step fusb302_work_func at hi ⊢
    dsimp only at hi ⊢
    cases hw : port.worker with
    | idle => rw [hw] at hr; cases hr
    | started => rw [hw] at hi; cases hi
    | alerted env => rw [hw] at hi; cases hi
    | back =>
      rw [hw] at hi
      dsimp only at hi ⊢
      split at hi
      · rename_i hc
        rw [if_pos hc]
        exact Or.inr rfl
      · cases hi
    | checked asserted =>
      -- the item is queued when INT_N was seen asserted, else the line is enabled
      cases asserted
      · left
        unfold fusb_irq_enable
        cases he : port.enable_irq <;> simp [he]
      · exact Or.inr rfl
  | timer_state =>
    refine (stays ?_).elim
    unfold step
    dsimp only
    split <;> rfl
  | timer_mux =>
    refine (stays ?_).elim
    unfold step
    dsimp only
    split <;> rfl

theorem awake_of_due (h : port.enable_irq = false → port.work = true ∨ port.worker.running = true) : Awake port :=
  ⟨h, worker_rearms⟩

/-- The handler is the only thread that disables the line. -/
theorem handler_awake (h : Awake port) (hx : ¬deafens port .handler) : Awake (cc_interrupt_handler port) := by
  apply awake_of_due
  unfold cc_interrupt_handler
  split
  · split
    · exact h.due
    · exact h.due
  · exact fun _ => Or.inl rfl
  · rename_i hq
    unfold fusb_irq_disable
    split
    · intro _
      dsimp only
      by_cases hw : port.work = true
      · exact Or.inl hw
      · by_cases hr : port.worker.running = true
        · exact Or.inr hr
        · exact absurd ⟨hq, eq_false_of_ne_true hw, eq_false_of_ne_true hr⟩ hx
    · exact h.due

theorem worker_awake (h : Awake port) (env : Env) : Awake (fusb302_work_func port env) := by
  apply awake_of_due
  unfold fusb302_work_func
  split
  · split
    · exact fun _ => Or.inr rfl
    · exact h.due
  · exact fun _ => Or.inr rfl
  · exact fun _ => Or.inr rfl
  · split
    · exact fun _ => Or.inl rfl
    · exact fun _ => Or.inr rfl
  · split
    · intro he
      unfold fusb_irq_enable at he
      cases hi : port.enable_irq <;> simp [hi] at he
    · exact fun _ => Or.inl rfl

theorem step_awake (h : Awake port) {event : Event} (hx : ¬deafens port event) : Awake (step port event) := by
  cases event with
  | interrupt_asserted => exact awake_of_due h.due
  | handler => exact handler_awake h hx
  | worker env => exact worker_awake h env
  | timer_state =>
    unfold step
    dsimp only
    split
    · exact awake_of_due fun _ => Or.inl rfl
    · exact h
  | timer_mux =>
    unfold step
    dsimp only
    split
    · exact awake_of_due fun _ => Or.inl rfl
    · exact h

/-- After such a step nobody is there. -/
theorem step_deaf {event : Event} (hx : deafens port event) : ¬Awake (step port event) := by
  cases event with
  | handler =>
    obtain ⟨hq, hw, hr⟩ := hx
    intro h
    have hd : (step port .handler).enable_irq = false ∧ (step port .handler).work = false ∧
        (step port .handler).worker = port.worker := by
      unfold step cc_interrupt_handler fusb_irq_disable
      cases he : port.enable_irq <;> simp [hq, hw, he]
    obtain ⟨he, hw', hr'⟩ := hd
    rcases h.due he with h | h
    · rw [hw'] at h
      cases h
    · rw [hr', hr] at h
      cases h
  | interrupt_asserted => exact hx.elim
  | worker env => exact hx.elim
  | timer_state => exact hx.elim
  | timer_mux => exact hx.elim

theorem probe_awake (board : Board) : Awake (fusb30x_probe board) :=
  awake_of_due fun h => by cases h

/-- No wake-up is lost exactly when the handler never disables the line after
the execution it asked for. -/
theorem awake_iff (board : Board) (events : List Event) :
    (∀ port ∈ Runs.visited step (fusb30x_probe board) events, Awake port) ↔
      Runs.Meets step (fun port event => ¬deafens port event) (fusb30x_probe board) events :=
  Runs.visited_iff_meets (I := Awake) (fun _ h => h) (fun _ _ h hx => step_awake h hx)
    (fun _ _ _ hx => step_deaf (not_not.1 hx)) events (probe_awake board)

/-- The work item runs to its end between the two calls of the handler. -/
theorem worker_overtakes_handler :
    ¬∀ port ∈ Runs.visited step (fusb30x_probe {})
        ([.interrupt_asserted, .handler, .handler, .worker {}, .worker {}, .worker {}, .worker {}, .worker {}] ++
          [.handler]),
      Awake port := by
  intro h
  refine step_deaf ?_ (h _ (Runs.step_mem_visited ..))
  decide +kernel

end Fusb302.Wakeup
