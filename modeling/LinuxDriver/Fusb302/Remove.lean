import LinuxDriver.Fusb302.Frames
import LinuxDriver.Fusb302.Wakeup
/-!
# Removing a port

The calls of `fusb30x_probe`, each of which may fail, and of `fusb30x_remove`,
with the interrupt thread, the hrtimers and the worker between them. `probe`
enters the chip in the table of ports before most of its calls; `remove` only
destroys the work queue.
-/

namespace Fusb302.Remove

/-- The call that is made next. -/
inductive Pc
  -- fusb30x_probe
  | kzalloc
  | port_num
  | regmap_init
  | initialize_gpio
  | setup
  | fwnode_get
  | role_switch_get
  | gpiod_to_irq
  | request_irq
  | IRQ_ERR
  /-- `probe` has failed before it took a port number. -/
  | refused
  /-- `probe` has failed with a port number. -/
  | failed
  /-- `probe` has returned 0. -/
  | bound
  /-- `destroy_workqueue` waits for the worker. -/
  | destroy_workqueue
  /-- `remove` has returned; the managed interrupt is released. -/
  | removed
  | released
  deriving DecidableEq

/-- Not there yet, taking work, refusing work from outside, gone. -/
inductive Workqueue
  | none
  | live
  | draining
  | destroyed
  deriving DecidableEq

/-- `fusb30x_port_info` lists the entries below `fusb30x_port_used`, a chip by its address. `irq` says whether the interrupt
is requested, and `late` counts the calls of `queue_work` on the destroyed queue. -/
structure Life where
  pc : Pc
  fusb30x_port_info : List Nat
  wq : Workqueue
  irq : Bool
  port : Wakeup.Port
  late : Nat

/-- Probe failed, or remove has returned. -/
def Pc.returned : Pc → Bool
  | .failed | .removed | .released => true
  | _ => false

/-- The worker has nothing to do. -/
def idle (port : Wakeup.Port) : Bool := !port.work && !port.worker.running

/-- Probe is called, and `ports` are there already. -/
def start (ports : List Nat) : Life where
  pc := .kzalloc
  fusb30x_port_info := ports
  wq := .none
  irq := false
  port := { Wakeup.fusb30x_probe {} with enable_irq := false }
  late := 0

variable (board : Board) (chip : Nat)

/-- The next call of `probe` or `remove`; `ok` says whether it succeeds, where it can fail. -/
def Life.next (s : Life) (ok : Bool) : Life :=
  match s.pc with
  | .kzalloc => if ok then { s with pc := .port_num } else { s with pc := .refused }
  | .port_num =>
    if s.fusb30x_port_info.length = 0xff then { s with pc := .refused }
    else { s with pc := .regmap_init, fusb30x_port_info := s.fusb30x_port_info ++ [chip] }
  | .regmap_init => if ok then { s with pc := .initialize_gpio } else { s with pc := .failed }
  | .initialize_gpio => if ok then { s with pc := .setup } else { s with pc := .failed }
  -- the timers, the work queue, the roles and the registers
  | .setup =>
    { s with pc := .fwnode_get, wq := .live, port := { Wakeup.fusb30x_probe board with enable_irq := false } }
  | .fwnode_get => if ok then { s with pc := .role_switch_get } else { s with pc := .failed }
  | .role_switch_get =>
    if ok then { s with pc := .gpiod_to_irq, port := { s.port with enable_irq := true } } else { s with pc := .failed }
  | .gpiod_to_irq => if ok then { s with pc := .request_irq } else { s with pc := .IRQ_ERR }
  | .request_irq => if ok then { s with pc := .bound, irq := true } else { s with pc := .IRQ_ERR }
  | .IRQ_ERR => { s with pc := .failed, wq := .destroyed }
  | .bound => { s with pc := .destroy_workqueue, wq := .draining }
  | .destroy_workqueue => if idle s.port then { s with pc := .removed, wq := .destroyed } else s
  | .removed => if s.port.handler = .idle then { s with pc := .released, irq := false } else s
  | .refused => s
  | .failed => s
  | .released => s

/-- `queue_work` by the interrupt thread or an hrtimer has led to `port`. A queue that is drained takes no work from
outside, one that is destroyed none at all. -/
def Life.queue_work (s : Life) (port : Wakeup.Port) : Life :=
  match s.wq with
  | .live => { s with port := port }
  | .none => { s with port := { port with work := s.port.work } }
  | .draining => { s with port := { port with work := s.port.work } }
  | .destroyed => { s with port := { port with work := s.port.work }, late := s.late + 1 }

/-- The interrupt thread runs, or goes on. -/
def Life.handler (s : Life) : Life :=
  if s.irq then
    if s.port.handler = .entered then s.queue_work (Wakeup.cc_interrupt_handler s.port)
    else { s with port := Wakeup.cc_interrupt_handler s.port }
  else s

/-- An armed hrtimer expires, and `fusb_timer_handler` looks for its chip in the table. -/
def Life.expire (s : Life) (act : Act) (disarmed : Chip) : Life :=
  if s.fusb30x_port_info.contains chip then s.queue_work (Wakeup.timer_expires s.port act)
  else { s with port := { s.port with chip := disarmed } }

/-- The thread in probe or remove goes on, or something else happens to the chip. -/
inductive Event
  | next (ok : Bool)
  /-- Another chip is probed. -/
  | other (chip : Nat)
  | interrupt_asserted
  | handler
  | worker (env : Env)
  | timer_state
  | timer_mux

/-- One event. -/
def Life.step (s : Life) : Event → Life
  | .next ok => s.next board chip ok
  | .other other =>
    if s.fusb30x_port_info.length = 0xff then s else { s with fusb30x_port_info := s.fusb30x_port_info ++ [other] }
  | .interrupt_asserted => { s with port := { s.port with gpio_int := true } }
  | .handler => s.handler
  | .worker env => { s with port := Wakeup.fusb302_work_func s.port env }
  | .timer_state =>
    if s.port.chip.timer_state_machine then
      s.expire chip .timer_state { s.port.chip with timer_state_machine := false }
    else s
  | .timer_mux =>
    if s.port.chip.timer_mux_machine then s.expire chip .timer_mux { s.port.chip with timer_mux_machine := false }
    else s

/-- An hrtimer of the chip is armed. -/
def Life.armed (s : Life) : Bool := s.port.chip.timer_state_machine || s.port.chip.timer_mux_machine

/-- Nothing of the chip is left where something could find it. -/
structure Gone (s : Life) : Prop where
  timers : s.armed = false
  queue : s.late = 0
  table : chip ∉ s.fusb30x_port_info

variable {board : Board} {chip : Nat} {s : Life}

/-! ## The table -/

/-- The port number is not taken yet. -/
def Pc.unnumbered : Pc → Bool
  | .kzalloc | .port_num | .refused => true
  | _ => false

theorem Pc.numbered_of_returned (pc : Pc) : pc.returned = true → pc.unnumbered = false := by
  cases pc <;> decide

/-- Once it has its number, the chip is in the table. -/
def Listed (chip : Nat) (s : Life) : Prop := s.pc.unnumbered = false → chip ∈ s.fusb30x_port_info

theorem queue_work_eq (s : Life) (port : Wakeup.Port) : ∃ p n, s.queue_work port = { s with port := p, late := n } := by
  unfold Life.queue_work
  split
  all_goals exact ⟨_, _, rfl⟩

theorem expire_eq (s : Life) (act : Act) (disarmed : Chip) :
    ∃ p n, s.expire chip act disarmed = { s with port := p, late := n } := by
  unfold Life.expire
  split
  · exact queue_work_eq ..
  · exact ⟨_, s.late, rfl⟩

/-- Whatever is not a call of `probe` or `remove` changes the port, and may enter another chip. -/
theorem step_cases (board : Board) (chip : Nat) (s : Life) (e : Event) :
    (∃ ok, e = .next ok) ∨ ∃ more p n, s.step board chip e =
      { s with fusb30x_port_info := s.fusb30x_port_info ++ more, port := p, late := n } := by
  have alone : (∃ p n, s.step board chip e = { s with port := p, late := n }) → ∃ more p n, s.step board chip e =
      { s with fusb30x_port_info := s.fusb30x_port_info ++ more, port := p, late := n } := by
    rintro ⟨p, n, h⟩
    exact ⟨[], p, n, by rw [h, List.append_nil]⟩
  cases e with
  | next ok => exact .inl ⟨ok, rfl⟩
  | other a =>
    right
    unfold Life.step
    dsimp only
    split
    · exact ⟨[], s.port, s.late, by rw [List.append_nil]⟩
    · exact ⟨[a], s.port, s.late, rfl⟩
  | interrupt_asserted => exact .inr (alone ⟨_, s.late, rfl⟩)
  | handler =>
    refine .inr (alone ?_)
    unfold Life.step Life.handler
    dsimp only
    split
    · split
      · exact queue_work_eq ..
      · exact ⟨_, s.late, rfl⟩
    · exact ⟨s.port, s.late, rfl⟩
  | worker env => exact .inr (alone ⟨_, s.late, rfl⟩)
  | timer_state | timer_mux =>
    refine .inr (alone ?_)
    unfold Life.step
    dsimp only
    split
    · exact expire_eq ..
    · exact ⟨s.port, s.late, rfl⟩

/-- No call takes an entry out of the table. -/
theorem next_table (ok : Bool) :
    (∀ a ∈ s.fusb30x_port_info, a ∈ (s.next board chip ok).fusb30x_port_info) ∧
      ((s.next board chip ok).pc.unnumbered = false → s.pc.unnumbered = false ∨ chip ∈ (s.next board chip ok).fusb30x_port_info) := by
  unfold Life.next
  split
  all_goals rename_i hpc
  case h_2 =>
    split
    · exact ⟨fun _ ha => ha, nofun⟩
    · exact ⟨fun _ ha => List.mem_append_left _ ha, fun _ => .inr (List.mem_append_right _ List.mem_cons_self)⟩
  case h_1 =>
    split
    · exact ⟨fun _ ha => ha, nofun⟩
    · exact ⟨fun _ ha => ha, nofun⟩
  case h_14 => exact ⟨fun _ ha => ha, fun h => .inl h⟩
  all_goals repeat' split
  all_goals exact ⟨fun _ ha => ha, fun _ => .inl (by rw [hpc]; rfl)⟩

theorem listed_step (s : Life) (e : Event) (h : Listed chip s) : Listed chip (s.step board chip e) := by
  rcases step_cases board chip s e with ⟨ok, rfl⟩ | ⟨more, p, n, he⟩
  · obtain ⟨hkeep, hnew⟩ := @next_table board chip s ok
    intro hn
    rcases hnew hn with hn | hin
    · exact hkeep chip (h hn)
    · exact hin
  · rw [he]
    exact fun hn => List.mem_append_left _ (h hn)

/-- Nothing is called after the return but the release of the interrupt. -/
theorem returned_step (s : Life) (e : Event) (h : s.pc.returned = true) : (s.step board chip e).pc.returned = true := by
  rcases step_cases board chip s e with ⟨ok, rfl⟩ | ⟨more, p, n, he⟩
  · unfold Life.step Life.next
    dsimp only
    split
    all_goals rename_i hpc
    all_goals rw [hpc] at h
    all_goals first | contradiction | skip
    · split
      · rfl
      · rw [hpc]
        rfl
    · rw [hpc]
      rfl
    · rw [hpc]
      rfl
  · rw [he]
    exact h

/-- A chip is gone only as long as neither `remove` nor a failing `probe` has returned: its entry is never taken out. -/
theorem gone_iff (board : Board) (chip : Nat) (ports : List Nat) (events : List Event) :
    (∀ s ∈ Runs.visited (Life.step board chip) (start ports) events, s.pc.returned = true → Gone chip s) ↔
      (Runs.run (Life.step board chip) (start ports) events).pc.returned = false := by
  constructor
  · intro h
    refine Bool.eq_false_iff.2 fun hr => ?_
    have hlisted : Listed chip (Runs.run (Life.step board chip) (start ports) events) :=
      Runs.visited_inv listed_step events (fun h => by cases h) _ (Runs.run_mem_visited _ _)
    exact (h _ (Runs.run_mem_visited _ _) hr).table (hlisted (Pc.numbered_of_returned _ hr))
  · intro h s hs hr
    have := Runs.run_of_visited (R := fun s => s.pc.returned = true) returned_step hs hr
    rw [h] at this
    cases this

/-- Every call of `probe` succeeds, and a source is plugged in. -/
def plugged : List Event :=
  let env : Env := { interrupta := INTERRUPTA_TOGDONE, status1a := 0x28#8, status0 := fun _ => STATUS0_VBUSOK }
  List.replicate 9 (.next true) ++ [.interrupt_asserted] ++ List.replicate 3 .handler ++ List.replicate 9 (.worker env)

/-- The debounce timer is armed when the port is removed, and expires. -/
theorem expires_after_removal :
    ¬∀ s ∈ Runs.visited (Life.step {} 7) (start []) (plugged ++ [.next true, .next true, .timer_mux]),
      s.pc.returned = true → Gone 7 s := by
  intro h
  have hgone := h _ (Runs.run_mem_visited _ _) (by decide)
  exact absurd hgone.queue (by decide)

/-! ## The destroyed queue -/

/-- The interrupt thread or an hrtimer calls `queue_work` on the destroyed queue. -/
def late_call (chip : Nat) (s : Life) (e : Event) : Bool :=
  decide (s.wq = .destroyed) &&
    match e with
    | .handler => s.irq && decide (s.port.handler = .entered)
    | .timer_state => s.port.chip.timer_state_machine && s.fusb30x_port_info.contains chip
    | .timer_mux => s.port.chip.timer_mux_machine && s.fusb30x_port_info.contains chip
    | _ => false

theorem queue_work_late (s : Life) (port : Wakeup.Port) :
    (s.queue_work port).late = s.late + (decide (s.wq = .destroyed)).toNat := by
  unfold Life.queue_work
  cases s.wq <;> rfl

theorem expire_late (s : Life) (act : Act) (disarmed : Chip) :
    (s.expire chip act disarmed).late = s.late + (decide (s.wq = .destroyed) && s.fusb30x_port_info.contains chip).toNat := by
  unfold Life.expire
  split
  · rename_i hc
    rw [queue_work_late, hc, Bool.and_true]
  · rename_i hc
    rw [Bool.eq_false_iff.2 hc, Bool.and_false]
    rfl

theorem next_late (ok : Bool) : (s.next board chip ok).late = s.late := by
  unfold Life.next
  split
  all_goals repeat' split
  all_goals rfl

theorem step_late (s : Life) (e : Event) : (s.step board chip e).late = s.late + (late_call chip s e).toNat := by
  cases e with
  | next ok => simpa [late_call, Life.step] using next_late ok
  | other a =>
    unfold Life.step
    dsimp only
    split <;> simp [late_call]
  | interrupt_asserted => simp [late_call, Life.step]
  | handler =>
    unfold Life.step Life.handler late_call
    dsimp only
    by_cases hi : s.irq = true
    · rw [if_pos hi, hi]
      by_cases he : s.port.handler = .entered
      · rw [if_pos he, queue_work_late]
        simp [he]
      · rw [if_neg he]
        simp [he]
    · rw [if_neg hi]
      simp [hi]
  | worker env => simp [late_call, Life.step]
  | timer_state | timer_mux =>
    unfold Life.step late_call
    dsimp only
    split
    · rename_i ha
      rw [expire_late, ha, Bool.true_and]
    · rename_i ha
      simp [ha]

/-- The destroyed queue is left alone exactly when no interrupt thread and no hrtimer comes late. -/
theorem late_iff (board : Board) (chip : Nat) (ports : List Nat) (events : List Event) :
    (∀ s ∈ Runs.visited (Life.step board chip) (start ports) events, s.late = 0) ↔
      Runs.Meets (Life.step board chip) (fun s e => late_call chip s e = false) (start ports) events := by
  refine Runs.visited_iff_meets (fun _ h => h) (fun s e h hc => ?_) (fun s e h hc => ?_) events rfl
  · rw [step_late, h, hc]
    rfl
  · rw [step_late, h, (Bool.not_eq_false _).mp hc]
    exact Nat.one_ne_zero

/-! ## The hrtimers -/

/-- The interrupt is not requested, or no longer. -/
def Pc.deaf : Pc → Bool
  | .bound | .destroy_workqueue | .removed => false
  | _ => true

/-- Only a bound port is at work. -/
structure Resting (s : Life) : Prop where
  irq : s.pc.deaf = true → s.irq = false
  wq : s.pc = .removed → s.wq = .destroyed
  rest : s.pc ≠ .bound → s.pc ≠ .destroy_workqueue → idle s.port = true ∧ s.armed = false

/-- `remove` returns while an hrtimer is armed. -/
def leaves_armed (s : Life) : Event → Bool
  | .next _ => decide (s.pc = .destroy_workqueue) && idle s.port && s.armed
  | _ => false

theorem probe_rests (board : Board) :
    (Fusb302.fusb30x_probe board).timer_state_machine = false ∧ (Fusb302.fusb30x_probe board).timer_mux_machine = false := by
  constructor <;> simp [Fusb302.fusb30x_probe, kzalloc]

theorem resting_start (ports : List Nat) : Resting (start ports) where
  irq _ := rfl
  wq h := by cases h
  rest _ _ := ⟨rfl, by simp [Life.armed, start, Wakeup.fusb30x_probe, probe_rests]⟩

/-- A port that is not bound stays at rest. -/
theorem Resting.keep {s' : Life} (h : Resting s) (hd : s.pc.deaf = true) (hirq : s'.irq = s.irq ∨ s'.pc.deaf = false)
    (hr : s'.pc ≠ .removed) (hi : idle s'.port = idle s.port) (ha : s'.armed = s.armed) : Resting s' where
  irq hd' := by
    rcases hirq with hirq | hirq
    · rw [hirq]
      exact h.irq hd
    · rw [hirq] at hd'
      cases hd'
  wq hr' := absurd hr' hr
  rest _ _ := by
    rw [hi, ha]
    refine h.rest ?_ ?_
    · intro hb
      rw [hb] at hd
      cases hd
    · intro hb
      rw [hb] at hd
      cases hd

theorem Resting.next (h : Resting s) {ok : Bool} (hn : leaves_armed s (.next ok) = false) :
    Resting (s.next board chip ok) := by
  unfold Life.next
  split
  all_goals rename_i hpc
  case h_5 =>
    -- the timers are initialised
    have hp := probe_rests board
    exact ⟨fun _ => h.irq (by rw [hpc]; rfl), nofun, fun _ _ => ⟨rfl, by simp [Life.armed, Wakeup.fusb30x_probe, hp]⟩⟩
  case h_11 => exact ⟨nofun, nofun, fun _ hd => absurd rfl hd⟩
  case h_12 =>
    split
    · rename_i hi
      have ha : s.armed = false := by simpa [leaves_armed, hpc, hi] using hn
      exact ⟨nofun, fun _ => rfl, fun _ _ => ⟨hi, ha⟩⟩
    · exact h
  case h_13 =>
    split
    · exact ⟨fun _ => rfl, nofun, fun _ _ => h.rest (by rw [hpc]; nofun) (by rw [hpc]; nofun)⟩
    · exact h
  all_goals have hd : s.pc.deaf = true := by rw [hpc]; rfl
  case h_9 =>
    split
    · exact h.keep hd (.inr rfl) nofun rfl rfl
    · exact h.keep hd (.inl rfl) nofun rfl rfl
  all_goals try split
  all_goals first | exact h | exact h.keep hd (.inl rfl) nofun rfl rfl

/-- The interrupt thread leaves the worker and the hrtimers alone. -/
theorem handler_rests (port : Wakeup.Port) :
    (Wakeup.cc_interrupt_handler port).worker = port.worker ∧ (Wakeup.cc_interrupt_handler port).chip = port.chip ∧
      (port.handler ≠ .entered → (Wakeup.cc_interrupt_handler port).work = port.work) := by
  unfold Wakeup.cc_interrupt_handler Wakeup.queue_work Wakeup.fusb_irq_disable
  split
  · split <;> exact ⟨rfl, rfl, fun _ => rfl⟩
  · rename_i he
    exact ⟨rfl, rfl, fun hn => absurd he hn⟩
  · split <;> exact ⟨rfl, rfl, fun _ => rfl⟩

/-- A worker without work does nothing. -/
theorem worker_rests {port : Wakeup.Port} (h : idle port = true) (env : Env) :
    Wakeup.fusb302_work_func port env = port := by
  unfold idle at h
  unfold Wakeup.fusb302_work_func
  cases hw : port.worker with
  | idle =>
    dsimp only
    split
    · rename_i hwork
      simp [hwork] at h
    · rfl
  | _ => simp [hw, Wakeup.Worker.running] at h

/-- A port at rest is not woken: the interrupt thread that is left finds the queue destroyed. -/
theorem rest_step (h : Resting s) {e : Event} (he : ∀ ok, e ≠ .next ok) (hb : s.pc ≠ .bound)
    (hd : s.pc ≠ .destroy_workqueue) :
    idle (s.step board chip e).port = true ∧ (s.step board chip e).armed = false := by
  obtain ⟨hi, ha⟩ := h.rest hb hd
  have hunarmed : s.port.chip.timer_state_machine = false ∧ s.port.chip.timer_mux_machine = false := by
    simpa [Life.armed] using ha
  cases e with
  | next ok => exact absurd rfl (he ok)
  | other a =>
    unfold Life.step
    dsimp only
    split <;> exact ⟨hi, ha⟩
  | interrupt_asserted => exact ⟨hi, ha⟩
  | worker env =>
    unfold Life.step
    dsimp only
    rw [worker_rests hi]
    exact ⟨hi, ha⟩
  | timer_state =>
    unfold Life.step
    dsimp only
    rw [hunarmed.1]
    exact ⟨hi, ha⟩
  | timer_mux =>
    unfold Life.step
    dsimp only
    rw [hunarmed.2]
    exact ⟨hi, ha⟩
  | handler =>
    obtain ⟨hw, hc, hwork⟩ := handler_rests s.port
    have main : ∀ port : Wakeup.Port, port.work = s.port.work → port.worker = s.port.worker → port.chip = s.port.chip →
        idle port = true ∧ (port.chip.timer_state_machine || port.chip.timer_mux_machine) = false := by
      intro port hwork hw hc
      unfold idle Life.armed at *
      rw [hwork, hw, hc]
      exact ⟨hi, ha⟩
    unfold Life.step Life.handler
    dsimp only
    split
    · rename_i hirq
      split
      · -- the interrupt is requested, so the port was removed
        have hr : s.pc = .removed := by
          have hdeaf : s.pc.deaf = false := by
            refine Bool.eq_false_iff.2 fun hd => ?_
            rw [h.irq hd] at hirq
            cases hirq
          cases hpc : s.pc
          all_goals rw [hpc] at hdeaf
          all_goals first | rfl | contradiction
        rw [Life.queue_work, h.wq hr]
        exact main _ rfl hw hc
      · rename_i hne
        exact main _ (hwork hne) hw hc
    · exact ⟨hi, ha⟩

theorem resting_step (s : Life) (e : Event) (h : Resting s) (hn : leaves_armed s e = false) : Resting (s.step board chip e) := by
  by_cases hnext : ∃ ok, e = .next ok
  · obtain ⟨ok, rfl⟩ := hnext
    exact h.next hn
  · have he : ∀ ok, e ≠ .next ok := fun ok h => hnext ⟨ok, h⟩
    have hrest := @rest_step board chip s h e he
    obtain ⟨more, p, n, heq⟩ := (step_cases board chip s e).resolve_left hnext
    rw [heq] at hrest ⊢
    exact ⟨h.irq, h.wq, hrest⟩

/-- The hrtimers are idle after the return exactly when none is armed where `remove` returns. -/
theorem armed_iff (board : Board) (chip : Nat) (ports : List Nat) (events : List Event) :
    (∀ s ∈ Runs.visited (Life.step board chip) (start ports) events, s.pc.returned = true → s.armed = false) ↔
      Runs.Meets (Life.step board chip) (fun s e => leaves_armed s e = false) (start ports) events := by
  refine Runs.visited_iff_meets (fun s h hr => ?_) resting_step (fun s e h hn => ?_) events (resting_start ports)
  · refine (h.rest ?_ ?_).2
    · intro hb
      rw [hb] at hr
      cases hr
    · intro hd
      rw [hd] at hr
      cases hr
  · cases e with
    | next ok =>
      simp only [leaves_armed, Bool.not_eq_false, Bool.and_eq_true, decide_eq_true_eq] at hn
      obtain ⟨⟨hpc, hi⟩, ha⟩ := hn
      intro hall
      have hstep : s.step board chip (.next ok) = { s with pc := .removed, wq := .destroyed } := by
        simp [Life.step, Life.next, hpc, hi]
      rw [hstep] at hall
      have := hall rfl
      rw [show Life.armed { s with pc := .removed, wq := .destroyed } = s.armed from rfl, ha] at this
      cases this
    | _ => exact absurd rfl hn

end Fusb302.Remove
