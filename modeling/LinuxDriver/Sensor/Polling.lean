import LinuxDriver.Lib.Runs
import LinuxDriver.Sensor.Sample
/-!
# Stopping a polled sensor

The timer of `34_ds18b20` and `35_dht11` queues the work item that samples the
sensor and arms itself again. Between them run the calls of `probe` and
`remove`. `del_timer` does not wait for a callback that runs, and `probe` does
not delete the timer where `misc_register` fails.
-/

namespace Sensor

/-- The call of `probe` or `remove` that is made next. -/
inductive Pc
  | request_gpio
  | add_timer
  | init_work
  | misc_register
  /-- `probe` has returned 0; next comes the first call of `remove`. -/
  | bound
  | misc_deregister
  | del_timer
  | cancel_work_sync
  /-- `cancel_work_sync` waits for the work item. -/
  | cancelling
  /-- `remove` has returned. -/
  | removed
  /-- `probe` has returned an error. -/
  | failed
  deriving DecidableEq

/-- How far the timer callback is. -/
inductive Callback
  | idle
  | started
  /-- `schedule_work` is done. -/
  | scheduled
  /-- `mod_timer` is done. -/
  | rearmed
  deriving DecidableEq

/-- `late` counts the accesses to the GPIO after `probe` or `remove` has returned. -/
structure Polled where
  pc : Pc
  pending : Bool
  callback : Callback
  queued : Bool
  running : Bool
  late : ℕ
  deriving DecidableEq

/-- No thread is in the driver any more. -/
def Pc.returned (pc : Pc) : Bool := pc == .removed || pc == .failed

namespace Polled

/-- Before `probe`. -/
def start : Polled where
  pc := .request_gpio
  pending := false
  callback := .idle
  queued := false
  running := false
  late := 0

/-- The next call of `probe` or `remove`; `ok` says whether it succeeds, where it can fail. `INIT_WORK` forgets an item
that was queued before it. -/
def next (driver : Driver) (s : Polled) (ok : Bool) : Polled :=
  match s.pc with
  | .request_gpio => if ok then { s with pc := .add_timer } else { s with pc := .failed }
  | .add_timer => { s with pc := .init_work, pending := true }
  | .init_work => { s with pc := .misc_register, queued := false }
  | .misc_register => if ok then { s with pc := .bound } else { s with pc := .failed }
  | .bound =>
    match driver with
    | .ds18b20 => { s with pc := .del_timer }
    -- dht11_remove sets the pin first
    | .dht11 => { s with pc := .misc_deregister }
  | .misc_deregister => { s with pc := .del_timer }
  | .del_timer => { s with pc := .cancel_work_sync, pending := false }
  | .cancel_work_sync => { s with pc := .cancelling, queued := false }
  | .cancelling => if s.running then s else { s with pc := .removed }
  | .removed => s
  | .failed => s

/-- The timer interrupt takes an armed timer whose callback is not running. -/
def expire (s : Polled) : Polled :=
  if s.pending && s.callback == .idle then { s with pending := false, callback := .started } else s

/-- The next call of the timer callback. An item that is being cancelled is not queued. -/
def timer_callback (s : Polled) : Polled :=
  match s.callback with
  | .idle => s
  | .started => { s with callback := .scheduled, queued := s.queued || s.pc != .cancelling }
  | .scheduled => { s with callback := .rearmed, pending := true }
  | .rearmed => { s with callback := .idle }

/-- The work queue takes the item. -/
def work_callback (s : Polled) : Polled :=
  if s.queued && !s.running && s.pc != .init_work then { s with queued := false, running := true } else s

/-- The work item accesses the GPIO. -/
def access (s : Polled) : Polled :=
  if s.running && s.pc.returned then { s with late := s.late + 1 } else s

/-- The work item returns. -/
def work_done (s : Polled) : Polled := { s with running := false }

end Polled

/-- The thread goes on, or the timer or the work item does. -/
inductive Poll
  | next (ok : Bool)
  | expire
  | timer_callback
  | work_callback
  | access
  | work_done
  deriving DecidableEq

/-- One event. -/
def Polled.step (driver : Driver) (s : Polled) : Poll → Polled
  | .next ok => s.next driver ok
  | .expire => s.expire
  | .timer_callback => s.timer_callback
  | .work_callback => s.work_callback
  | .access => s.access
  | .work_done => s.work_done

/-- Nothing is left that could run. -/
structure Polled.Quiet (s : Polled) : Prop where
  pending : s.pending = false
  callback : s.callback = .idle
  queued : s.queued = false
  running : s.running = false

/-- Once `remove` or a failing `probe` has returned, nothing runs and nothing has accessed the GPIO since. -/
def Stopped (s : Polled) : Prop := s.pc.returned = true → s.Quiet ∧ s.late = 0

/-! ## What runs at each call -/

/-- Nothing is started yet, or everything is stopped. -/
def Pc.still : Pc → Bool
  | .request_gpio | .add_timer | .removed | .failed => true
  | _ => false

/-- The timer is started and not deleted. -/
def Pc.timed : Pc → Bool
  | .init_work | .misc_register | .bound | .misc_deregister | .del_timer => true
  | _ => false

/-- The work item may be queued or run. -/
def Pc.working : Pc → Bool
  | .misc_register | .bound | .misc_deregister | .del_timer | .cancel_work_sync | .cancelling => true
  | _ => false

/-- The callback is at work and has not armed the timer again. -/
def Callback.unarmed : Callback → Bool
  | .started | .scheduled => true
  | _ => false

/-- The timer is pending, or its callback will see to it. -/
def Polled.armed (s : Polled) : Bool := s.pending || s.callback.unarmed

/-- `misc_register` fails, the timer is deleted before its callback has armed it again, or `remove` returns before a
callback that has. -/
def stray (s : Polled) : Poll → Prop
  | .next ok =>
    s.pc = .misc_register ∧ ok = false ∨ s.pc = .del_timer ∧ s.callback.unarmed = true ∨
      s.pc = .cancelling ∧ s.running = false ∧ s.callback = .rearmed
  | _ => False

instance (s : Polled) (e : Poll) : Decidable (stray s e) := by
  unfold stray
  cases e <;> infer_instance

/-- What can run follows from the call that is due. -/
structure Polled.Kept (s : Polled) : Prop where
  timed : s.pc.timed = true → s.armed = true
  untimed : s.pc.timed = false → s.pending = false ∧ s.callback.unarmed = false
  still : s.pc.still = true → s.Quiet
  cancelling : s.pc = .cancelling → s.queued = false
  idle : s.pc.working = false → s.running = false
  late : s.late = 0

/-- No call that is left deletes the timer. -/
def Pc.past : Pc → Bool
  | .cancel_work_sync | .cancelling | .removed | .failed => true
  | _ => false

theorem Pc.still_of_returned (pc : Pc) : pc.returned = true → pc.still = true := by
  cases pc <;> decide

theorem Pc.working_of_not_still (pc : Pc) : pc.still = false → pc ≠ .init_work → pc.working = true := by
  cases pc <;> decide

namespace Polled

variable {driver : Driver} {s : Polled}

theorem kept_start : start.Kept where
  timed h := by cases h
  untimed _ := ⟨rfl, rfl⟩
  still _ := ⟨rfl, rfl, rfl, rfl⟩
  cancelling h := by cases h
  idle _ := rfl
  late := rfl

/-- A call that starts and stops nothing. -/
theorem Kept.goto (h : s.Kept) {pc : Pc} (ht : pc.timed = s.pc.timed) (hs : pc.still = true → s.pc.still = true)
    (hc : pc ≠ .cancelling) (hw : pc.working = false → s.pc.working = false) : { s with pc := pc }.Kept where
  timed hpc := h.timed (ht ▸ hpc)
  untimed hpc := h.untimed (ht ▸ hpc)
  still hpc :=
    have hq := h.still (hs hpc)
    ⟨hq.pending, hq.callback, hq.queued, hq.running⟩
  cancelling hpc := absurd hpc hc
  idle hpc := h.idle (hw hpc)
  late := h.late

theorem Kept.next (h : s.Kept) {ok : Bool} (hn : ¬stray s (.next ok)) : (s.next driver ok).Kept := by
  unfold Polled.next
  split
  · -- request_gpio
    rename_i hpc
    split
    · exact h.goto (by rw [hpc]; rfl) (fun _ => by rw [hpc]; rfl) nofun (fun _ => by rw [hpc]; rfl)
    · exact h.goto (by rw [hpc]; rfl) (fun _ => by rw [hpc]; rfl) nofun (fun _ => by rw [hpc]; rfl)
  · -- add_timer
    rename_i hpc
    exact ⟨fun _ => rfl, nofun, nofun, nofun, fun _ => h.idle (by rw [hpc]; rfl), h.late⟩
  · -- init_work
    rename_i hpc
    exact ⟨fun _ => h.timed (by rw [hpc]; rfl), nofun, nofun, nofun, nofun, h.late⟩
  · -- misc_register
    rename_i hpc
    split
    · exact h.goto (by rw [hpc]; rfl) nofun nofun nofun
    · rename_i hok
      exact absurd (.inl ⟨hpc, Bool.eq_false_iff.2 hok⟩) hn
  · -- bound
    rename_i hpc
    cases driver with
    | ds18b20 => exact h.goto (by rw [hpc]; rfl) nofun nofun nofun
    | dht11 => exact h.goto (by rw [hpc]; rfl) nofun nofun nofun
  · -- misc_deregister
    rename_i hpc
    exact h.goto (by rw [hpc]; rfl) nofun nofun nofun
  · -- del_timer: the callback does not arm the timer after it
    rename_i hpc
    have hun : s.callback.unarmed = false := Bool.eq_false_iff.2 fun hu => hn (.inr (.inl ⟨hpc, hu⟩))
    exact ⟨nofun, fun _ => ⟨rfl, hun⟩, nofun, nofun, nofun, h.late⟩
  · -- cancel_work_sync
    rename_i hpc
    exact ⟨nofun, fun _ => h.untimed (by rw [hpc]; rfl), nofun, fun _ => rfl, nofun, h.late⟩
  · -- cancelling: the work item is done, and so is the callback
    rename_i hpc
    split
    · exact h
    · rename_i hr
      have hr : s.running = false := Bool.eq_false_iff.2 hr
      obtain ⟨hp, hun⟩ := h.untimed (by rw [hpc]; rfl)
      have hcb : s.callback = .idle := by
        cases hcb : s.callback with
        | idle => rfl
        | started => rw [hcb] at hun; cases hun
        | scheduled => rw [hcb] at hun; cases hun
        | rearmed => exact absurd (.inr (.inr ⟨hpc, hr, hcb⟩)) hn
      exact ⟨nofun, fun _ => ⟨hp, hun⟩, fun _ => ⟨hp, hcb, h.cancelling hpc, hr⟩, nofun, fun _ => hr, h.late⟩
  · exact h
  · exact h

/-- A timer that is pending, or a callback that runs, belongs to a driver that is not still. -/
theorem Kept.not_still (h : s.Kept) (hr : s.pending = true ∨ s.callback ≠ .idle ∨ s.queued = true ∨ s.running = true) :
    s.pc.still = false := by
  refine Bool.eq_false_iff.2 fun hs => ?_
  obtain ⟨hp, hc, hq, hw⟩ := h.still hs
  rcases hr with hr | hr | hr | hr
  · rw [hp] at hr
    cases hr
  · exact hr hc
  · rw [hq] at hr
    cases hr
  · rw [hw] at hr
    cases hr

theorem Kept.expire (h : s.Kept) : s.expire.Kept := by
  unfold Polled.expire
  split
  · rename_i hb
    simp only [Bool.and_eq_true, beq_iff_eq] at hb
    obtain ⟨hp, _⟩ := hb
    have hs := h.not_still (.inl hp)
    refine ⟨fun _ => rfl, fun ht => ?_, fun hs' => ?_, h.cancelling, h.idle, h.late⟩
    · obtain ⟨hp', _⟩ := h.untimed ht
      rw [hp] at hp'
      cases hp'
    · rw [hs] at hs'
      cases hs'
  · exact h

theorem Kept.timer_callback (h : s.Kept) : s.timer_callback.Kept := by
  unfold Polled.timer_callback
  split
  · exact h
  · rename_i hcb
    have hs := h.not_still (.inr (.inl (by rw [hcb]; nofun)))
    refine ⟨fun _ => by simp [armed, Callback.unarmed], fun ht => ?_, fun hs' => ?_, fun hpc => ?_, h.idle, h.late⟩
    · obtain ⟨_, hun⟩ := h.untimed ht
      rw [hcb] at hun
      cases hun
    · rw [hs] at hs'
      cases hs'
    · have hpc : s.pc = .cancelling := hpc
      simp [hpc, h.cancelling hpc]
  · rename_i hcb
    have hs := h.not_still (.inr (.inl (by rw [hcb]; nofun)))
    refine ⟨fun _ => rfl, fun ht => ?_, fun hs' => ?_, h.cancelling, h.idle, h.late⟩
    · obtain ⟨_, hun⟩ := h.untimed ht
      rw [hcb] at hun
      cases hun
    · rw [hs] at hs'
      cases hs'
  · rename_i hcb
    have hs := h.not_still (.inr (.inl (by rw [hcb]; nofun)))
    refine ⟨fun ht => ?_, fun ht => ⟨(h.untimed ht).1, rfl⟩, fun hs' => ?_, h.cancelling, h.idle, h.late⟩
    · have := h.timed ht
      simpa [armed, hcb, Callback.unarmed] using this
    · rw [hs] at hs'
      cases hs'

theorem Kept.work_callback (h : s.Kept) : s.work_callback.Kept := by
  unfold Polled.work_callback
  split
  · rename_i hb
    simp only [Bool.and_eq_true, bne_iff_ne] at hb
    obtain ⟨⟨hq, _⟩, hinit⟩ := hb
    have hs := h.not_still (.inr (.inr (.inl hq)))
    refine ⟨h.timed, h.untimed, fun hs' => ?_, fun _ => rfl, fun hw => ?_, h.late⟩
    · rw [hs] at hs'
      cases hs'
    · -- the item is initialised and not cancelled yet
      exact absurd (Pc.working_of_not_still s.pc hs hinit) (Bool.eq_false_iff.1 hw)
  · exact h

theorem Kept.access (h : s.Kept) : s.access.Kept := by
  unfold Polled.access
  split
  · rename_i hb
    simp only [Bool.and_eq_true] at hb
    obtain ⟨hr, hret⟩ := hb
    exact absurd (Pc.still_of_returned s.pc hret) (Bool.eq_false_iff.1 (h.not_still (.inr (.inr (.inr hr)))))
  · exact h

theorem Kept.work_done (h : s.Kept) : s.work_done.Kept :=
  ⟨h.timed, h.untimed, fun hs => ⟨(h.still hs).pending, (h.still hs).callback, (h.still hs).queued, rfl⟩, h.cancelling,
    fun _ => rfl, h.late⟩

theorem kept_step (s : Polled) (e : Poll) (h : s.Kept) (hn : ¬stray s e) : (s.step driver e).Kept := by
  cases e with
  | next ok => exact h.next hn
  | expire => exact h.expire
  | timer_callback => exact h.timer_callback
  | work_callback => exact h.work_callback
  | access => exact h.access
  | work_done => exact h.work_done

theorem Kept.stopped (h : s.Kept) : Stopped s :=
  fun hr => ⟨h.still (Pc.still_of_returned s.pc hr), h.late⟩

/-! ## What goes wrong otherwise -/

/-- The timer is armed for good, or `remove` has returned before the callback. -/
def Doomed (s : Polled) : Prop :=
  s.pc.past = true ∧ s.armed = true ∨ s.pc = .removed ∧ s.callback = .rearmed

theorem doomed_of_stray (driver : Driver) {e : Poll} (h : s.Kept) (hs : stray s e) : (s.step driver e).Doomed := by
  cases e with
  | next ok =>
    rcases hs with ⟨hpc, rfl⟩ | ⟨hpc, hun⟩ | ⟨hpc, hr, hcb⟩
    · have ha := h.timed (by rw [hpc]; rfl)
      have hn : s.next driver false = { s with pc := .failed } := by simp [Polled.next, hpc]
      exact .inl ⟨by rw [step, hn]; rfl, by rw [step, hn]; exact ha⟩
    · have hn : s.next driver ok = { s with pc := .cancel_work_sync, pending := false } := by simp [Polled.next, hpc]
      exact .inl ⟨by rw [step, hn]; rfl, by rw [step, hn]; exact hun⟩
    · exact .inr (by simp [step, Polled.next, hpc, hr, hcb])
  | expire | timer_callback | work_callback | access | work_done => exact absurd hs id

/-- Past `del_timer` the calls that are left do not touch the timer. -/
theorem next_past (driver : Driver) (hp : s.pc.past = true) (ok : Bool) :
    (s.next driver ok).pc.past = true ∧ (s.next driver ok).pending = s.pending ∧
      (s.next driver ok).callback = s.callback := by
  unfold Polled.next
  split
  all_goals rename_i hpc
  all_goals rw [hpc] at hp
  all_goals first | contradiction | skip
  · exact ⟨rfl, rfl, rfl⟩
  · split
    · exact ⟨by rw [hpc]; rfl, rfl, rfl⟩
    · exact ⟨rfl, rfl, rfl⟩
  · exact ⟨by rw [hpc]; rfl, rfl, rfl⟩
  · exact ⟨by rw [hpc]; rfl, rfl, rfl⟩

/-- The callback arms the timer again after every expiry. -/
theorem timer_callback_armed (h : s.armed = true) : s.timer_callback.armed = true := by
  unfold Polled.timer_callback
  split
  · exact h
  · simp [armed, Callback.unarmed]
  · rfl
  · rename_i hcb
    simpa [armed, hcb, Callback.unarmed] using h

theorem expire_armed (h : s.armed = true) : s.expire.armed = true := by
  unfold Polled.expire
  split
  · rfl
  · exact h

@[simp] theorem expire_pc : s.expire.pc = s.pc := by
  unfold Polled.expire
  split <;> rfl

@[simp] theorem timer_callback_pc : s.timer_callback.pc = s.pc := by
  unfold Polled.timer_callback
  split <;> rfl

@[simp] theorem work_callback_pc : s.work_callback.pc = s.pc := by
  unfold Polled.work_callback
  split <;> rfl

@[simp] theorem work_callback_armed : s.work_callback.armed = s.armed := by
  unfold Polled.work_callback
  split <;> rfl

@[simp] theorem access_pc : s.access.pc = s.pc := by
  unfold Polled.access
  split <;> rfl

@[simp] theorem access_armed : s.access.armed = s.armed := by
  unfold Polled.access
  split <;> rfl

theorem armed_step (e : Poll) (hp : s.pc.past = true) (h : s.armed = true) :
    (s.step driver e).pc.past = true ∧ (s.step driver e).armed = true := by
  cases e with
  | next ok =>
    obtain ⟨hpc, hpend, hcb⟩ := next_past driver hp ok
    refine ⟨hpc, ?_⟩
    unfold armed
    rw [step, hpend, hcb]
    exact h
  | expire => exact ⟨by simpa [step] using hp, expire_armed h⟩
  | timer_callback => exact ⟨by simpa [step] using hp, timer_callback_armed h⟩
  | work_callback => simpa [step] using And.intro hp h
  | access => simpa [step] using And.intro hp h
  | work_done => exact ⟨hp, h⟩

/-- A doomed run does not return in peace. -/
theorem Doomed.not_stopped (h : s.Doomed) (es : List Poll) (hr : (Runs.run (step driver) s es).pc.returned = true) :
    ∃ t ∈ Runs.visited (step driver) s es, ¬Stopped t := by
  rcases h with h | ⟨hpc, hcb⟩
  · have hend : (Runs.run (step driver) s es).pc.past = true ∧ (Runs.run (step driver) s es).armed = true :=
      Runs.visited_inv (I := fun s => s.pc.past = true ∧ s.armed = true)
        (fun s e h => armed_step e h.1 h.2) es h _ (Runs.run_mem_visited s es)
    refine ⟨_, Runs.run_mem_visited s es, fun hst => ?_⟩
    obtain ⟨hq, _⟩ := hst hr
    have ha := hend.2
    rw [armed, hq.pending, hq.callback] at ha
    cases ha
  · refine ⟨s, Runs.mem_visited_self s es, fun hst => ?_⟩
    obtain ⟨hq, _⟩ := hst (by rw [hpc]; rfl)
    rw [hq.callback] at hcb
    cases hcb

/-- Nothing is called after the return. -/
theorem returned_step (e : Poll) (h : s.pc.returned = true) : (s.step driver e).pc = s.pc := by
  cases e with
  | next ok =>
    unfold step Polled.next
    dsimp only
    split
    all_goals rename_i hpc
    all_goals rw [hpc] at h
    all_goals contradiction
  | expire => exact expire_pc
  | timer_callback => exact timer_callback_pc
  | work_callback => exact work_callback_pc
  | access => exact access_pc
  | work_done => rfl

end Polled

/-- A sensor is stopped exactly when `misc_register` did not fail, the callback was not before its `mod_timer` when the
timer was deleted, and `remove` did not overtake it. -/
theorem polling_stops (driver : Driver) (es : List Poll) :
    (∀ s ∈ Runs.visited (Polled.step driver) .start es, Stopped s) ↔
      ((Runs.run (Polled.step driver) .start es).pc.returned = true →
        Runs.Meets (Polled.step driver) (fun s e => ¬stray s e) .start es) := by
  constructor
  · intro h hr
    -- a stray step dooms the rest of the run
    refine Runs.Meets.of_end (Q := fun s es => ∀ t ∈ Runs.visited (Polled.step driver) s es, Stopped t)
      (R := fun s => s.pc.returned = true) (fun s e es h t ht => h t (List.mem_cons_of_mem _ ht))
      Polled.kept_step (fun s e es hk hn hr h => ?_) Polled.kept_start hr h
    obtain ⟨t, ht, hnot⟩ := (Polled.doomed_of_stray driver hk (not_not.1 hn)).not_stopped es hr
    exact hnot (h t (List.mem_cons_of_mem _ ht))
  · intro h s hs hr
    have hend := Runs.run_of_visited (R := fun s => s.pc.returned = true) (fun s e h => by
      rw [Polled.returned_step e h]
      exact h) hs hr
    exact ((h hend).visited_inv Polled.kept_step Polled.kept_start s hs).stopped hr

/-- The timer expires just before `ds18b20_remove` deletes it, and the callback arms it again. -/
theorem polled_after_removal :
    ¬∀ s ∈ Runs.visited (Polled.step .ds18b20) .start
        [.next true, .next true, .next true, .next true, .expire, .timer_callback,
          .next true, .next true, .next true, .next true, .timer_callback, .timer_callback,
          .expire, .timer_callback, .work_callback, .access],
      Stopped s := by
  intro h
  obtain ⟨_, hl⟩ := h _ (Runs.run_mem_visited _ _) rfl
  cases hl

end Sensor
