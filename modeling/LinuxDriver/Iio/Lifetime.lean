import LinuxDriver.Iio.Ap3216c
import LinuxDriver.Iio.Direct
/-!
# The life of the IIO drivers

`probe` and `remove` of the ICM20608 and the AP3216C, call by call, and user
processes that read and write attributes as long as the device is registered.
Every call of `probe` may fail. Both drivers register the device before they
initialise it, and take its register map away before they unregister it.
-/

namespace Iio.Lifetime

open Threads
open Icm20608 (Mask Reading)

/-! ## The programs -/

def ENOMEM : ℤ := 12

/-- The one error label of both drivers. -/
def err (ret : ℤ) : Run ℤ := do
  call .iio_device_unregister
  return ret

def ICM20_SMPLRT_DIV : ℤ := 0x19
def ICM20_CONFIG : ℤ := 0x1A
def ICM20_ACCEL_CONFIG2 : ℤ := 0x1D
def ICM20_LP_MODE_CFG : ℤ := 0x1E
def ICM20_PWR_MGMT_1 : ℤ := 0x6B
def ICM20_PWR_MGMT_2 : ℤ := 0x6C
def ICM20_WHO_AM_I : ℤ := 0x75

/-- One register; the result of the write is dropped. -/
def icm20608_write_onereg (reg : ℤ) (value : Byte) : Run Unit := do
  let _ ← regmap_write reg value

/-- Reset, identify and set up, one register after the other. -/
def icm20608_reginit : Run Unit := do
  icm20608_write_onereg ICM20_PWR_MGMT_1 0x80#8
  icm20608_write_onereg ICM20_PWR_MGMT_1 0x01#8
  let _ ← Icm20608.Direct.icm20608_read_onereg ICM20_WHO_AM_I
  icm20608_write_onereg ICM20_SMPLRT_DIV 0x00#8
  icm20608_write_onereg Icm20608.ICM20_GYRO_CONFIG 0x18#8
  icm20608_write_onereg Icm20608.ICM20_ACCEL_CONFIG 0x18#8
  icm20608_write_onereg ICM20_CONFIG 0x04#8
  icm20608_write_onereg ICM20_ACCEL_CONFIG2 0x04#8
  icm20608_write_onereg ICM20_PWR_MGMT_2 0x00#8
  icm20608_write_onereg ICM20_LP_MODE_CFG 0x00#8
  icm20608_write_onereg Icm20608.Direct.ICM20_INT_ENABLE 0x01#8

/-- Memory, register map, buffer, trigger, interrupt, registration, and then the set-up. The calls that are tested go on at `err`
if they fail. -/
def icm20608_probe : Run ℤ := do
  let indio_dev ← call (.setup .devm_iio_device_alloc)
  if indio_dev ≠ 0 then return -ENOMEM
  let ret ← call (.setup .regmap_init)
  if ret ≠ 0 then return ← err ret
  let _ ← call (.setup .devm_iio_triggered_buffer_setup)
  let trig ← call (.setup .devm_iio_trigger_alloc)
  if trig ≠ 0 then return ← err (-ENOMEM)
  let _ ← call (.setup .devm_iio_trigger_register)
  let _ ← call (.setup .devm_request_irq)
  let ret ← call (.setup .iio_device_register)
  if ret < 0 then return ← err ret
  let _ ← call (.setup .spi_setup)
  icm20608_reginit
  return 0

/-- The register map goes before the device is unregistered. -/
def icm20608_remove : Run ℤ := do
  call .regmap_exit
  call .iio_device_unregister
  return 0

/-- Memory, register map, registration, and then the set-up. -/
def ap3216c_probe : Run ℤ := do
  let indio_dev ← call (.setup .devm_iio_device_alloc)
  if indio_dev ≠ 0 then return -ENOMEM
  let ret ← call (.setup .regmap_init)
  if ret ≠ 0 then return ← err ret
  let ret ← call (.setup .iio_device_register)
  if ret < 0 then return ← err ret
  Ap3216c.ap3216c_reginit
  return 0

/-- The register map goes before the device is unregistered. -/
def ap3216c_remove : Run ℤ := do
  call .regmap_exit
  call .iio_device_unregister
  return 0

/-! ## The drivers -/

/-- The two IIO drivers. -/
inductive Driver
  | icm20608
  | ap3216c

/-- The channels of a driver. -/
def Driver.Chan : Driver → Type
  | icm20608 => Icm20608.Chan
  | ap3216c => Ap3216c.Chan

/-- The driver's `probe`. -/
def Driver.probe : Driver → Run ℤ
  | icm20608 => icm20608_probe
  | ap3216c => ap3216c_probe

/-- The driver's `remove`. -/
def Driver.remove : Driver → Run ℤ
  | icm20608 => icm20608_remove
  | ap3216c => ap3216c_remove

/-- The driver's `read_raw`. -/
def Driver.read_raw : (d : Driver) → d.Chan → Mask → Run (Except ℤ Reading)
  | icm20608 => Icm20608.Direct.icm20608_read_raw
  | ap3216c => Ap3216c.ap3216c_read_raw

/-- The driver's `write_raw`. -/
def Driver.write_raw : (d : Driver) → d.Chan → BitVec 32 → BitVec 32 → Mask → Run ℤ
  | icm20608 => Icm20608.Direct.icm20608_write_raw
  | ap3216c => Ap3216c.ap3216c_write_raw

/-- The last call of `probe`. -/
def Driver.last : Driver → Prim
  | icm20608 => .regmap_bulk_write Icm20608.Direct.ICM20_INT_ENABLE [0x01#8]
  | ap3216c => .regmap_bulk_write Ap3216c.AP3216C_PSLEDCONFIG [0x13#8]

/-- What a thread may be told to do. -/
inductive Job (d : Driver)
  | probe
  | remove
  | read_raw (chan : d.Chan) (mask : Mask)
  | write_raw (chan : d.Chan) (val val2 : BitVec 32) (mask : Mask)

variable {d : Driver}

/-- The job is a call through an attribute. -/
def Job.is_call : Job d → Bool
  | read_raw _ _ => true
  | write_raw _ _ _ _ => true
  | _ => false

/-- The calls a thread makes for it, and what it returns. -/
def Job.prog : Job d → Run ℤ
  | probe => d.probe
  | remove => d.remove
  | read_raw chan mask => do
    let ret ← d.read_raw chan mask
    return match ret with
      | .ok reading => reading.fmt.code
      | .error e => e
  | write_raw chan val val2 mask => d.write_raw chan val val2 mask

/-- The core binds a driver to a device that has none, and unbinds it where `probe` has succeeded. The attributes are there
while the device is registered. -/
def enter (s : Core) (i : ℕ) : Job d → Option Core
  | .probe => if s.phase = .unbound then some (Core.report { s with phase := .probing i } i false) else none
  | .remove => if s.phase = .bound then some (Core.report { s with phase := .removing i } i false) else none
  | _ => if s.registered then some (Core.report { s with calls := s.calls + 1 } i false) else none

/-- What the end of a job means for the life of the device. -/
def leave (s : Core) (_ : ℕ) : Job d → ℤ → Core
  | .probe, ret => { s with phase := if ret = 0 then .bound else .unbound }
  | .remove, _ => { s with phase := .unbound }
  | _, _ => { s with calls := s.calls - 1 }

/-- Any number of threads, let in as the kernel does. -/
abbrev life (d : Driver) : System Core ℕ Outcome (Job d) Prim Prim.Res ℤ where
  prog := Job.prog
  enter := enter
  exec := Core.exec
  leave := leave

/-- The device and what each thread has still to do. -/
abbrev State (d : Driver) := Pool Core ℕ (Job d) Prim Prim.Res ℤ

/-- A thread starts a job or makes its next call. -/
abbrev Act (d : Driver) := Threads.Act ℕ Outcome (Job d)

/-- No driver is bound and no thread has a job. -/
def start (regs : Regs) : State d := ⟨.fresh regs, fun _ => none⟩

/-! ## Balance -/

/-- The calls of the error label and of `remove`. -/
def releases : Prim → Bool
  | .iio_device_unregister => true
  | .regmap_exit => true
  | _ => false

/-- `probe` has made its last call and is to return 0. That the last register write may have failed does not matter to it. -/
def initialised (s : State d) : Bool :=
  match s.shared.phase with
  | .unbound => false
  | .probing i => (s.thread i).any fun t => match t.2 with
    | .ret ret => ret == 0
    | .call _ _ => false
  | .bound => true
  | .removing _ => true

/-- The program of a thread returns an error, or is `remove` and returns. -/
def ends (t : Job d × Run ℤ) : Bool :=
  match t with
  | (.probe, .ret ret) => ret != 0
  | (.remove, .ret _) => true
  | _ => false

/-- Only a registered device is unregistered; the register map is released once, by the end of a failing `probe` and of
`remove`; no call of `probe` follows one that failed, but those that release; and no attribute reaches the chip before it is
initialised or after its register map is gone. -/
def Balanced (s : State d) : Act d → Prop
  | .start _ _ => True
  | .go i _ => ∀ t ∈ s.thread i,
    (head t.2 = some .iio_device_unregister → s.shared.registered = true) ∧
    (head t.2 = some .regmap_exit → s.shared.regmap = true) ∧
    (ends t = true → s.shared.regmap = false) ∧
    (t.1.is_call = false → (head t.2).any (fun o => !releases o) = true → s.shared.failed i = false) ∧
    (t.1.is_call = true → (head t.2).any Prim.accesses = true → initialised s = true ∧ s.shared.regmap = true)

/-- Neither `probe` nor `remove` has anything to do with the device: `probe` has made all its calls, and `remove` none. -/
def undisturbed (s : State d) : Bool :=
  match s.shared.phase with
  | .unbound => false
  | .probing i => (s.thread i).any fun t => match t.2 with
    | .ret ret => ret == 0
    | .call _ _ => false
  | .bound => true
  | .removing i => (s.thread i).any fun t => head t.2 == some .regmap_exit

/-- The calls that report failure. -/
def fallible : Prim → Bool
  | .setup _ => true
  | .regmap_bulk_read _ _ => true
  | .regmap_bulk_write _ _ => true
  | _ => false

/-- No call of `probe` fails but the allocation and the last register write, and an attribute reaches the chip only while
`probe` and `remove` leave it alone. -/
def Sane (s : State d) : Act d → Prop
  | .start _ _ => True
  | .go i e => ∀ t ∈ s.thread i,
    (t.1.is_call = false → (head t.2).any fallible = true → e.ret = 0 ∨ head t.2 = some (.setup .devm_iio_device_alloc) ∨ head t.2 = some d.last) ∧
    (t.1.is_call = true → (head t.2).any Prim.accesses = true → undisturbed s = true)

instance (s : State d) (a : Act d) : Decidable (Balanced s a) :=
  match a with
  | .start _ _ => .isTrue trivial
  | .go i _ => inferInstanceAs (Decidable (∀ t ∈ s.thread i, _))

instance (s : State d) (a : Act d) : Decidable (Sane s a) :=
  match a with
  | .start _ _ => .isTrue trivial
  | .go i _ => inferInstanceAs (Decidable (∀ t ∈ s.thread i, _))

/-! ## What `probe` and `remove` keep -/

/-- What the thread that probes or removes knows of the device. -/
structure Known where
  registered : Bool
  regmap : Bool
  failed : Bool

/-- What thread `i` may know. -/
def known (s : Core) (i : ℕ) : Known := ⟨s.registered, s.regmap, s.failed i⟩

/-- What a call of `probe` that succeeds changes. -/
def Known.setup (g : Known) : Setup → Known
  | .regmap_init => { g with regmap := true }
  | .iio_device_register => { g with registered := true }
  | _ => g

/-- The calls of `probe` and `remove`, where only the allocation and the call `last` may fail. -/
def careful (last : Prim) : (o : Prim) → (o.Res → Known → Prop) → Known → Prop
  | .setup c, post, g => g.failed = false ∧ post (0 : ℤ) (g.setup c) ∧
    (c = .devm_iio_device_alloc → ∀ r : ℤ, r ≠ 0 → post r { g with failed := true })
  | .regmap_bulk_read _ _, post, g => g.failed = false ∧ ∀ data, post ((0 : ℤ), data) g
  | .regmap_bulk_write reg val, post, g => g.failed = false ∧ post (0 : ℤ) g ∧
    (last = .regmap_bulk_write reg val → ∀ r : ℤ, r ≠ 0 → post r { g with failed := true })
  | .iio_device_unregister, post, g => g.registered = true ∧ post () { g with registered := false, failed := false }
  | .regmap_exit, post, g => g.regmap = true ∧ post () { g with regmap := false, failed := false }
  | _, _, _ => False

/-- The device is registered and has its register map where the program returns with the device `bound`, and otherwise
neither. -/
def Careful {α : Type} (last : Prim) (bound : α → Bool) : Run α → Known → Prop :=
  Prog.Keeps (careful last) fun ret g => g.registered = bound ret ∧ g.regmap = bound ret

/-- What is known of a device that nobody has bound. -/
def Known.fresh : Known := ⟨false, false, false⟩

section
variable {last : Prim} {α : Type} {bound : α → Bool} {g : Known}

theorem careful_setup {c : Setup} {f : ℤ → Run α} (hc : c ≠ .devm_iio_device_alloc) (hg : g.failed = false)
    (h : Careful last bound (f 0) (g.setup c)) : Careful last bound (call (.setup c) >>= f) g :=
  ⟨hg, h, fun he => absurd he hc⟩

theorem careful_write {reg : ℤ} {val : Byte} {f : ℤ → Run α} (hne : last ≠ .regmap_bulk_write reg [val])
    (hg : g.failed = false) (h : Careful last bound (f 0) g) : Careful last bound (regmap_write reg val >>= f) g :=
  ⟨hg, h, fun he => absurd he hne⟩

/-- The last write may fail. -/
theorem careful_last {reg : ℤ} {val : Byte} {f : ℤ → Run α} (hg : g.failed = false)
    (h : ∀ ret failed, Careful last bound (f ret) { g with failed := failed }) :
    Careful last bound (regmap_write reg val >>= f) g := by
  obtain ⟨registered, regmap, failed⟩ := g
  subst hg
  exact ⟨rfl, h 0 false, fun _ ret _ => h ret true⟩

/-- So may the allocation. -/
theorem careful_alloc {f : ℤ → Run α} (hg : g.failed = false) (h : Careful last bound (f 0) g)
    (hnull : ∀ ret, ret ≠ 0 → Careful last bound (f ret) { g with failed := true }) :
    Careful last bound (call (.setup .devm_iio_device_alloc) >>= f) g :=
  ⟨hg, h, fun _ ret hret => hnull ret hret⟩

end

theorem icm20608_probe_careful : Careful Driver.icm20608.last (· == 0) icm20608_probe .fresh := by
  refine careful_alloc rfl ?_ ?_
  · refine careful_setup (c := .regmap_init) nofun rfl ?_
    refine careful_setup (c := .devm_iio_triggered_buffer_setup) nofun rfl ?_
    refine careful_setup (c := .devm_iio_trigger_alloc) nofun rfl ?_
    refine careful_setup (c := .devm_iio_trigger_register) nofun rfl ?_
    refine careful_setup (c := .devm_request_irq) nofun rfl ?_
    refine careful_setup (c := .iio_device_register) nofun rfl ?_
    refine careful_setup (c := .spi_setup) nofun rfl ?_
    -- icm20608_reginit
    refine careful_write (by decide) rfl ?_
    refine careful_write (by decide) rfl ?_
    refine ⟨rfl, fun _ => ?_⟩
    refine careful_write (by decide) rfl ?_
    refine careful_write (by decide) rfl ?_
    refine careful_write (by decide) rfl ?_
    refine careful_write (by decide) rfl ?_
    refine careful_write (by decide) rfl ?_
    refine careful_write (by decide) rfl ?_
    refine careful_write (by decide) rfl ?_
    exact careful_last rfl fun _ _ => ⟨rfl, rfl⟩
  · intro ret hret
    simp only [ne_eq, hret, not_false_eq_true, if_true]
    exact ⟨rfl, rfl⟩

theorem ap3216c_probe_careful : Careful Driver.ap3216c.last (· == 0) ap3216c_probe .fresh := by
  refine careful_alloc rfl ?_ ?_
  · refine careful_setup (c := .regmap_init) nofun rfl ?_
    refine careful_setup (c := .iio_device_register) nofun rfl ?_
    -- ap3216c_reginit
    refine careful_write (by decide) rfl ?_
    refine careful_write (by decide) rfl ?_
    refine careful_write (by decide) rfl ?_
    exact careful_last rfl fun _ _ => ⟨rfl, rfl⟩
  · intro ret hret
    simp only [ne_eq, hret, not_false_eq_true, if_true]
    exact ⟨rfl, rfl⟩

theorem remove_careful (d : Driver) : Careful d.last (fun _ => false) d.remove ⟨true, true, false⟩ := by
  cases d <;> exact ⟨rfl, rfl, rfl, rfl⟩

/-! ## What attributes leave alone -/

/-- The calls of an attribute. -/
def uses : Prim → Bool
  | .iio_device_claim_direct_mode => true
  | .iio_device_release_direct_mode => true
  | o => o.plain

theorem uses_of_calm {α : Type} {p : Run α} (h : Calm p) : p.All fun o => uses o = true := by
  refine Prog.All.mono (fun o ho => ?_) h
  cases o with
  | mutex_lock | mutex_unlock | regmap_bulk_read _ _ | regmap_bulk_write _ _ | iio_push_to_buffers_with_timestamp _ => rfl
  | _ => cases ho

/-- A claim, and what is done under it. -/
theorem uses_claimed {α β : Type} {body : Run α} {f : α → β} (h : Calm body) :
    (do
      let _ ← call .iio_device_claim_direct_mode
      let ret ← body
      call .iio_device_release_direct_mode
      return f ret : Run β).All fun o => uses o = true := by
  refine ⟨rfl, fun _ => ?_⟩
  refine Prog.all_bind (p := body) (uses_of_calm h) ?_
  exact fun _ => ⟨rfl, fun _ => trivial⟩

theorem calm_read_alsir_data (reg : ℤ) (chann2 : Ap3216c.Modifier) : Calm (Ap3216c.ap3216c_read_alsir_data reg chann2) := by
  cases chann2 with
  | IIO_NO_MOD => trivial
  | IIO_MOD_LIGHT_BOTH | IIO_MOD_LIGHT_IR =>
    apply Prog.all_bind (calm_call (.regmap_bulk_read _ _) rfl)
    intro r
    dsimp only
    split <;> trivial

theorem calm_write_als_scale (val : BitVec 32) (chann2 : Ap3216c.Modifier) :
    Calm (Ap3216c.ap3216c_write_als_scale val chann2) := by
  cases chann2 with
  | IIO_NO_MOD | IIO_MOD_LIGHT_IR => trivial
  | IIO_MOD_LIGHT_BOTH =>
    unfold Ap3216c.ap3216c_write_als_scale
    dsimp only
    generalize Ap3216c.als_scale_ap3216c.zipIdx = entries
    generalize (0 : ℤ) = ret
    induction entries generalizing ret with
    | nil => trivial
    | cons entry entries ih =>
      rw [List.foldlM_cons]
      refine Prog.all_bind ?_ ih
      split
      · exact calm_regmap_write _ _
      · trivial

theorem read_raw_uses (d : Driver) (chan : d.Chan) (mask : Mask) : (d.read_raw chan mask).All fun o => uses o = true := by
  cases d with
  | icm20608 =>
    by_cases hmask : mask = .RAW
    · subst hmask
      exact uses_claimed (calm_locked (Icm20608.Direct.calm_read_channel_data chan))
    · exact uses_of_calm (Icm20608.Direct.calm_read_raw chan hmask)
  | ap3216c =>
    refine uses_of_calm ?_
    obtain ⟨type, channel2, address⟩ := chan
    cases mask with
    | RAW =>
      refine Prog.all_bind (calm_locked ?_) fun _ => trivial
      cases type with
      | IIO_INTENSITY => exact calm_read_alsir_data _ _
      | IIO_PROXIMITY => exact ⟨rfl, fun _ => trivial⟩
    | SCALE =>
      cases type with
      | IIO_INTENSITY => exact Prog.all_bind (calm_locked ⟨rfl, fun _ => trivial⟩) fun _ => trivial
      | IIO_PROXIMITY => trivial
    | OFFSET | CALIBBIAS | other => trivial

theorem write_raw_uses (d : Driver) (chan : d.Chan) (val val2 : BitVec 32) (mask : Mask) :
    (d.write_raw chan val val2 mask).All fun o => uses o = true := by
  cases d with
  | icm20608 => exact uses_claimed (Icm20608.Direct.calm_write_switch chan val val2 mask)
  | ap3216c =>
    refine @uses_claimed _ _ (Ap3216c.write_switch chan val2 mask) id ?_
    obtain ⟨type, channel2, address⟩ := chan
    cases mask with
    | SCALE =>
      cases type with
      | IIO_INTENSITY => exact calm_locked (calm_write_als_scale _ _)
      | IIO_PROXIMITY => trivial
    | RAW | OFFSET | CALIBBIAS | other => trivial

theorem prog_uses (j : Job d) (hj : j.is_call = true) : j.prog.All fun o => uses o = true := by
  cases j with
  | probe | remove => cases hj
  | read_raw chan mask => exact Prog.all_bind (read_raw_uses d chan mask) fun _ => trivial
  | write_raw chan val val2 mask => exact write_raw_uses d chan val val2 mask

theorem exec_uses {s s' : Core} {i : ℕ} {e : Outcome} {o : Prim} {r : o.Res} (h : s.exec i e o = some (r, s'))
    (ho : uses o = true) : s'.registered = s.registered ∧ s'.regmap = s.regmap := by
  by_cases hp : o.plain = true
  · obtain ⟨-, -, -, -, hr, hm⟩ := Core.exec_plain h hp
    exact ⟨hr, hm⟩
  · cases o with
    | iio_device_claim_direct_mode =>
      simp only [Core.exec] at h
      split at h
      · cases h
      · split at h <;> cases h <;> exact ⟨rfl, rfl⟩
    | iio_device_release_direct_mode =>
      cases h
      exact ⟨rfl, rfl⟩
    | mutex_lock | mutex_unlock | regmap_bulk_read _ _ | regmap_bulk_write _ _ | iio_push_to_buffers_with_timestamp _ =>
      exact absurd rfl hp
    | _ => cases ho

/-- No call binds or unbinds the driver, and a call says of its own thread alone whether it failed. -/
theorem exec_others {s s' : Core} {i : ℕ} {e : Outcome} {o : Prim} {r : o.Res} (h : s.exec i e o = some (r, s')) :
    s'.phase = s.phase ∧ ∀ i' ≠ i, s'.failed i' = s.failed i' := by
  have hreport : ∀ (s : Core) failed, ∀ i' ≠ i, (s.report i failed).failed i' = s.failed i' :=
    fun s failed i' hi => Function.update_of_ne hi ..
  cases o with
  | iio_device_claim_direct_mode =>
    simp only [Core.exec] at h
    split at h
    · cases h
    · split at h <;> cases h <;> exact ⟨rfl, hreport _ _⟩
  | mutex_lock | mlock | iio_device_unregister =>
    simp only [Core.exec] at h
    split at h
    · cases h
    · cases h
      exact ⟨rfl, hreport _ _⟩
  | regmap_bulk_write _ _ =>
    cases h
    cases e <;> exact ⟨rfl, hreport _ _⟩
  | setup call =>
    cases h
    have hsetup : (s.setup call).phase = s.phase ∧ (s.setup call).failed = s.failed := by cases call <;> exact ⟨rfl, rfl⟩
    split
    · exact ⟨hsetup.1, fun i' hi => (hreport _ _ i' hi).trans (congrFun hsetup.2 i')⟩
    · exact ⟨rfl, hreport _ _⟩
  | _ =>
    cases h
    exact ⟨rfl, hreport _ _⟩

/-! ## Runs in which nothing fails -/

/-- A device is registered and has its register map exactly while a driver is bound. -/
def Settled (s : Core) : Prop :=
  (s.phase = .bound → s.registered = true ∧ s.regmap = true) ∧ (s.phase = .unbound → s.registered = false ∧ s.regmap = false)

/-- Thread `i` is neither in `probe` nor in `remove`. -/
def idle (s : Core) (i : ℕ) : Prop := s.phase ≠ .probing i ∧ s.phase ≠ .removing i

/-- What is true of thread `i`. -/
def Knows (s : Core) (i : ℕ) : Option (Job d × Run ℤ) → Prop
  | none => idle s i
  | some (.probe, p) => s.phase = .probing i ∧ Careful d.last (· == 0) p (known s i)
  | some (.remove, p) => s.phase = .removing i ∧ Careful d.last (fun _ => false) p (known s i)
  | some (_, p) => idle s i ∧ p.All fun o => uses o = true

theorem report_ok {e : Outcome} (h : e.ret = 0) : (e.ret != 0) = false := by simp [h]

theorem report_error {e : Outcome} (h : e.ret ≠ 0) : (e.ret != 0) = true := by simp [h]

theorem known_report (s : Core) (i : ℕ) (failed : Bool) : known (s.report i failed) i = ⟨s.registered, s.regmap, failed⟩ := by
  simp [known, Core.report]

/-- One call of a thread that probes or removes. -/
theorem careful_exec {α : Type} {bound : α → Bool} {s s' : Core} {i : ℕ} {e : Outcome} {o : Prim} {k : o.Res → Run α}
    {r : o.Res} (h : s.exec i e o = some (r, s')) (hc : Careful d.last bound (.call o k) (known s i))
    (he : fallible o = true → e.ret = 0 ∨ o = .setup .devm_iio_device_alloc ∨ o = d.last) : Careful d.last bound (k r) (known s' i) := by
  change careful d.last o (fun r => Careful d.last bound (k r)) (known s i) at hc
  cases o with
  | setup c =>
    obtain ⟨hfailed, hok, hnull⟩ := hc
    cases h
    by_cases hret : e.ret = 0
    · have hk : known ((s.setup c).report i false) i = (known s i).setup c := by
        rw [known_report, ← hfailed]
        cases c <;> rfl
      rw [if_pos hret, report_ok hret, hret, hk]
      exact hok
    · have hc : c = .devm_iio_device_alloc := by
        rcases he rfl with he | he | he
        · exact absurd he hret
        · exact Prim.setup.inj he
        · cases d <;> cases he
      rw [if_neg hret, report_error hret, known_report]
      exact hnull hc e.ret hret
  | regmap_bulk_read reg len =>
    obtain ⟨hfailed, hok⟩ := hc
    have hret : e.ret = 0 := by
      rcases he rfl with he | he | he
      · exact he
      · cases he
      · cases d <;> cases he
    cases h
    cases e with
    | error e left =>
      simp only [Outcome.ret] at hret
      omega
    | ok =>
      rw [report_ok hret, known_report, ← hfailed]
      exact hok _
  | regmap_bulk_write reg val =>
    obtain ⟨hfailed, hok, hlast⟩ := hc
    cases h
    by_cases hret : e.ret = 0
    · have hk : known ((s.bulk_write reg val e).report i false) i = known s i := by
        rw [known_report, ← hfailed]
        cases e <;> rfl
      rw [report_ok hret, hret, hk]
      exact hok
    · have hd : d.last = .regmap_bulk_write reg val := by
        rcases he rfl with he | he | he
        · exact absurd he hret
        · cases he
        · exact he.symm
      have hk : known ((s.bulk_write reg val e).report i true) i = { known s i with failed := true } := by
        rw [known_report]
        cases e <;> rfl
      rw [report_error hret, hk]
      exact hlast hd e.ret hret
  | iio_device_unregister =>
    simp only [Core.exec] at h
    split at h
    · cases h
    · cases h
      rw [known_report]
      exact hc.2
  | regmap_exit =>
    cases h
    rw [known_report]
    exact hc.2
  | _ => exact hc.elim

/-- The life of the device is settled, and each thread's remaining calls fit what it knows. -/
abbrev Tended : State d → Prop := System.Holds Settled Knows

theorem tended_start (regs : Regs) : Tended (start regs : State d) :=
  ⟨⟨nofun, fun _ => ⟨rfl, rfl⟩⟩, fun _ => ⟨nofun, nofun⟩⟩

/-- A thread that does not probe or remove does not look at the device. -/
theorem knows_idle {s s' : Core} {i : ℕ} {p : Option (Job d × Run ℤ)} (h : Knows s i p) (hi : idle s i) (hi' : idle s' i) :
    Knows s' i p := by
  match p, h with
  | none, _ => exact hi'
  | some (.probe, p), h => exact absurd h.1 hi.1
  | some (.remove, p), h => exact absurd h.1 hi.2
  | some (.read_raw _ _, p), h => exact ⟨hi', h.2⟩
  | some (.write_raw _ _ _ _, p), h => exact ⟨hi', h.2⟩

/-- What a thread knows depends on the device and on its own last call. -/
theorem knows_congr {s s' : Core} {i : ℕ} {p : Option (Job d × Run ℤ)} (h : Knows s i p) (hp : s'.phase = s.phase)
    (hk : known s' i = known s i) : Knows s' i p := by
  match p, h with
  | none, h => exact ⟨hp ▸ h.1, hp ▸ h.2⟩
  | some (.probe, p), h => exact ⟨hp.trans h.1, hk ▸ h.2⟩
  | some (.remove, p), h => exact ⟨hp.trans h.1, hk ▸ h.2⟩
  | some (.read_raw _ _, p), h => exact ⟨⟨hp ▸ h.1.1, hp ▸ h.1.2⟩, h.2⟩
  | some (.write_raw _ _ _ _, p), h => exact ⟨⟨hp ▸ h.1.1, hp ▸ h.1.2⟩, h.2⟩

theorem idle_of_other {s : Core} {i i' : ℕ} (h : s.phase = .probing i ∨ s.phase = .removing i) (hi : i' ≠ i) : idle s i' := by
  unfold idle
  rcases h with h | h <;> simp [h, hi.symm]

theorem idle_of_free {s : Core} (h : s.phase = .unbound ∨ s.phase = .bound) (i : ℕ) : idle s i := by
  unfold idle
  rcases h with h | h <;> simp [h]

theorem known_other {s : Core} {i i' : ℕ} (failed : Bool) (hi : i' ≠ i) : known (s.report i failed) i' = known s i' := by
  simp [known, Core.report, hi]

theorem tended_enter {s s' : Core} {i : ℕ} {j : Job d} (h : enter s i j = some s') (hs : Settled s) (hi : Knows s i (d := d) none) :
    Settled s' ∧ Knows s' i (some (j, j.prog)) ∧ ∀ i' ≠ i, ∀ p : Option (Job d × Run ℤ), Knows s i' p → Knows s' i' p := by
  have hcall : Settled ({ s with calls := s.calls + 1 }.report i false) ∧
      idle ({ s with calls := s.calls + 1 }.report i false) i ∧
      ∀ i' ≠ i, ∀ p : Option (Job d × Run ℤ), Knows s i' p → Knows ({ s with calls := s.calls + 1 }.report i false) i' p := by
    refine ⟨hs, hi, ?_⟩
    intro i' hne p hp
    exact knows_congr hp rfl (known_other false hne)
  cases j with
  | probe =>
    simp only [enter] at h
    split at h
    · rename_i hphase
      cases h
      obtain ⟨hr, hm⟩ := hs.2 hphase
      refine ⟨⟨nofun, nofun⟩, ⟨rfl, ?_⟩, ?_⟩
      · rw [known_report, hr, hm]
        cases d with
        | icm20608 => exact icm20608_probe_careful
        | ap3216c => exact ap3216c_probe_careful
      · intro i' hne p hp
        exact knows_idle hp (idle_of_free (.inl hphase) i') (idle_of_other (.inl rfl) hne)
    · cases h
  | remove =>
    simp only [enter] at h
    split at h
    · rename_i hphase
      cases h
      obtain ⟨hr, hm⟩ := hs.1 hphase
      refine ⟨⟨nofun, nofun⟩, ⟨rfl, ?_⟩, ?_⟩
      · rw [known_report, hr, hm]
        exact remove_careful d
      · intro i' hne p hp
        exact knows_idle hp (idle_of_free (.inr hphase) i') (idle_of_other (.inr rfl) hne)
    · cases h
  | read_raw chan mask =>
    simp only [enter] at h
    split at h
    · cases h
      obtain ⟨hs', hi', hothers⟩ := hcall
      exact ⟨hs', ⟨hi', prog_uses _ rfl⟩, hothers⟩
    · cases h
  | write_raw chan val val2 mask =>
    simp only [enter] at h
    split at h
    · cases h
      obtain ⟨hs', hi', hothers⟩ := hcall
      exact ⟨hs', ⟨hi', prog_uses _ rfl⟩, hothers⟩
    · cases h

theorem tended_leave {s : Core} {i : ℕ} {j : Job d} {ret : ℤ} (hs : Settled s) (hi : Knows s i (some (j, .ret ret))) :
    Settled (leave s i j ret) ∧ Knows (leave s i j ret) i (d := d) none ∧
      ∀ i' ≠ i, ∀ p : Option (Job d × Run ℤ), Knows s i' p → Knows (leave s i j ret) i' p := by
  cases j with
  | probe =>
    obtain ⟨hphase, hr, hm⟩ := hi
    have hr : s.registered = (ret == 0) := hr
    have hm : s.regmap = (ret == 0) := hm
    have hfree : (leave s i (.probe : Job d) ret).phase = .unbound ∨ (leave s i (.probe : Job d) ret).phase = .bound := by
      unfold leave
      dsimp only
      split
      · exact .inr rfl
      · exact .inl rfl
    refine ⟨?_, idle_of_free hfree i, ?_⟩
    · by_cases hret : ret = 0
      · simp [Settled, leave, hret, hr, hm]
      · simp [Settled, leave, hret, hr, hm]
    · intro i' hne p hp
      exact knows_idle hp (idle_of_other (.inl hphase) hne) (idle_of_free hfree i')
  | remove =>
    obtain ⟨hphase, hr, hm⟩ := hi
    refine ⟨⟨nofun, fun _ => ⟨hr, hm⟩⟩, idle_of_free (.inl rfl) i, ?_⟩
    intro i' hne p hp
    exact knows_idle hp (idle_of_other (.inr hphase) hne) (idle_of_free (.inl rfl) i')
  | read_raw | write_raw => exact ⟨hs, hi.1, fun i' _ p hp => knows_congr hp rfl rfl⟩

/-- A call leaves what the other threads know, and that a bound device is registered. -/
theorem tended_exec {s s' : Core} {i : ℕ} {e : Outcome} {j : Job d} {o : Prim} {k : o.Res → Run ℤ} {r : o.Res}
    (h : s.exec i e o = some (r, s')) (hs : Settled s) (hi : Knows s i (some (j, .call o k)))
    (he : j.is_call = false → fallible o = true → e.ret = 0 ∨ o = .setup .devm_iio_device_alloc ∨ o = d.last) :
    Settled s' ∧ Knows s' i (some (j, k r)) ∧ ∀ i' ≠ i, ∀ p : Option (Job d × Run ℤ), Knows s i' p → Knows s' i' p := by
  obtain ⟨hphase, hfailed⟩ := exec_others h
  -- a thread that probes or removes has the device to itself
  have halone : s.phase = .probing i ∨ s.phase = .removing i →
      Settled s' ∧ ∀ i' ≠ i, ∀ p : Option (Job d × Run ℤ), Knows s i' p → Knows s' i' p := by
    intro hmine
    refine ⟨?_, fun i' hne p hp => knows_idle hp (idle_of_other hmine hne) (idle_of_other (by rwa [hphase]) hne)⟩
    unfold Settled
    rw [hphase]
    rcases hmine with hmine | hmine <;> simp [hmine]
  -- and an attribute leaves it alone
  have hshared : idle s i → ((.call o k : Run ℤ).All fun o => uses o = true) →
      Settled s' ∧ (idle s' i ∧ (k r).All fun o => uses o = true) ∧
        ∀ i' ≠ i, ∀ p : Option (Job d × Run ℤ), Knows s i' p → Knows s' i' p := by
    rintro hidle ⟨ho, hall⟩
    obtain ⟨hr, hm⟩ := exec_uses h ho
    refine ⟨?_, ⟨?_, hall r⟩, ?_⟩
    · unfold Settled
      rw [hphase, hr, hm]
      exact hs
    · unfold idle
      rw [hphase]
      exact hidle
    · intro i' hne p hp
      refine knows_congr hp hphase ?_
      unfold known
      rw [hr, hm, hfailed i' hne]
  cases j with
  | probe =>
    obtain ⟨hmine, hc⟩ := hi
    obtain ⟨hs', hothers⟩ := halone (.inl hmine)
    exact ⟨hs', ⟨hphase.trans hmine, careful_exec h hc (he rfl)⟩, hothers⟩
  | remove =>
    obtain ⟨hmine, hc⟩ := hi
    obtain ⟨hs', hothers⟩ := halone (.inr hmine)
    exact ⟨hs', ⟨hphase.trans hmine, careful_exec h hc (he rfl)⟩, hothers⟩
  | read_raw chan mask => exact hshared hi.1 hi.2
  | write_raw chan val val2 mask => exact hshared hi.1 hi.2

theorem tended_step (s : State d) (a : Act d) (h : Tended s) (hsane : Sane s a) : Tended ((life d).step s a) := by
  refine (life d).holds_step (C := Sane) ?_ ?_ ?_ s a h hsane
  · exact fun sh i j sh' hin hs hi => tended_enter hin hs hi
  · intro s i e j o k r sh' hsane hthread hexec hholds
    have hi : Knows s.shared i (some (j, .call o k)) := hthread ▸ hholds.2 i
    refine tended_exec hexec hholds.1 hi fun hj ho => ?_
    have := (hsane _ hthread).1 hj ho
    simpa [head] using this
  · exact fun sh i j ret hs hi => tended_leave hs hi

theorem head_eq_some {α : Type} {p : Run α} {o : Prim} (h : head p = some o) : ∃ k, p = .call o k := by
  cases p with
  | ret a => cases h
  | call o' k =>
    obtain rfl := Option.some.inj h
    exact ⟨k, rfl⟩

/-- While `probe` and `remove` leave a device alone it is initialised and has its register map. -/
theorem live_of_undisturbed {s : State d} (h : Tended s) (hu : undisturbed s = true) :
    initialised s = true ∧ s.shared.regmap = true := by
  obtain ⟨hs, hT⟩ := h
  cases hphase : s.shared.phase with
  | unbound => simp [undisturbed, hphase] at hu
  | bound => exact ⟨by simp [initialised, hphase], (hs.1 hphase).2⟩
  | probing i =>
    simp only [undisturbed, hphase] at hu
    refine ⟨by simp only [initialised, hphase]; exact hu, ?_⟩
    obtain ⟨⟨j, p⟩, hthread, hp⟩ := Option.any_eq_true _ _ |>.1 hu
    have hi : Knows s.shared i (some (j, p)) := hthread ▸ hT i
    cases p with
    | call o k => cases hp
    | ret ret =>
      cases j with
      | probe =>
        have hm : s.shared.regmap = (ret == 0) := hi.2.2
        rw [hm]
        exact hp
      | remove =>
        have := hi.1
        rw [hphase] at this
        cases this
      | read_raw | write_raw => exact absurd hphase hi.1.1
  | removing i =>
    simp only [undisturbed, hphase] at hu
    refine ⟨by simp [initialised, hphase], ?_⟩
    obtain ⟨⟨j, p⟩, hthread, hp⟩ := Option.any_eq_true _ _ |>.1 hu
    have hi : Knows s.shared i (some (j, p)) := hthread ▸ hT i
    obtain ⟨k, rfl⟩ := head_eq_some (by simpa using hp)
    cases j with
    | probe =>
      have := hi.1
      rw [hphase] at this
      cases this
    | remove => exact hi.2.1
    | read_raw | write_raw => exact absurd hphase hi.1.2

/-- A thread that probes or removes. -/
theorem balanced_of_careful {bound : ℤ → Bool} {s : Core} {i : ℕ} {p : Run ℤ} (hc : Careful d.last bound p (known s i)) :
    (head p = some .iio_device_unregister → s.registered = true) ∧ (head p = some .regmap_exit → s.regmap = true) ∧
      ((head p).any (fun o => !releases o) = true → s.failed i = false) := by
  cases p with
  | ret ret => exact ⟨nofun, nofun, nofun⟩
  | call o k =>
    refine ⟨?_, ?_, ?_⟩
    · intro ho
      obtain rfl := Option.some.inj ho
      exact hc.1
    · intro ho
      obtain rfl := Option.some.inj ho
      exact hc.1
    · intro ho
      cases o with
      | setup _ | regmap_bulk_read _ _ | regmap_bulk_write _ _ => exact hc.1
      | iio_device_unregister | regmap_exit => cases ho
      | _ => exact hc.elim

theorem head_of_uses {p : Run ℤ} (h : p.All fun o => uses o = true) :
    head p ≠ some .iio_device_unregister ∧ head p ≠ some .regmap_exit := by
  constructor
  all_goals
    intro hp
    obtain ⟨k, rfl⟩ := head_eq_some hp
    cases h.1

theorem balanced_of_tended (s : State d) (a : Act d) (h : Tended s) (hsane : Sane s a) : Balanced s a := by
  cases a with
  | start i j => trivial
  | go i e =>
    rintro ⟨j, p⟩ hthread
    have hi : Knows s.shared i (some (j, p)) := hthread ▸ h.2 i
    have hreach := (hsane _ hthread).2
    cases j with
    | probe =>
      obtain ⟨hunregister, hexit, hfailed⟩ := balanced_of_careful hi.2
      refine ⟨hunregister, hexit, ?_, fun _ => hfailed, nofun⟩
      intro hends
      cases p with
      | call o k => cases hends
      | ret ret =>
        have hm : s.shared.regmap = (ret == 0) := hi.2.2
        have hne : (ret != 0) = true := hends
        rw [hm]
        simpa using hne
    | remove =>
      obtain ⟨hunregister, hexit, hfailed⟩ := balanced_of_careful hi.2
      refine ⟨hunregister, hexit, ?_, fun _ => hfailed, nofun⟩
      intro hends
      cases p with
      | call o k => cases hends
      | ret ret => exact hi.2.2
    | read_raw chan mask =>
      obtain ⟨hunregister, hexit⟩ := head_of_uses hi.2
      exact ⟨fun ho => absurd ho hunregister, fun ho => absurd ho hexit, nofun, nofun,
        fun hj ho => live_of_undisturbed h (hreach hj ho)⟩
    | write_raw chan val val2 mask =>
      obtain ⟨hunregister, hexit⟩ := head_of_uses hi.2
      exact ⟨fun ho => absurd ho hunregister, fun ho => absurd ho hexit, nofun, nofun,
        fun hj ho => live_of_undisturbed h (hreach hj ho)⟩

/-- Both drivers acquire and release in balance as long as no call of `probe` fails, but the allocation and the last
register write, and attributes reach the chip only while `probe` and `remove` leave it alone. -/
theorem lifetime_balanced (d : Driver) (regs : Regs) (as : List (Act d)) (h : Runs.Meets (life d).step Sane (start regs) as) :
    Runs.Meets (life d).step Balanced (start regs) as :=
  Runs.Meets.imp tended_step balanced_of_tended (tended_start regs) h

/-- The AP3216C is probed, its proximity is read, and it is removed. -/
theorem lifetime_balanced_read : Runs.Meets (life .ap3216c).step Balanced (start fun _ => 0#8)
    (.start 0 .probe :: List.replicate 8 (.go 0 .ok) ++
      .start 1 (.read_raw Ap3216c.ps_chan .RAW) :: List.replicate 4 (.go 1 .ok) ++
      .start 0 .remove :: List.replicate 3 (.go 0 .ok)) :=
  lifetime_balanced .ap3216c (fun _ => 0#8) _ (by decide)

/-- The register map of the ICM20608 cannot be made, and the device is unregistered that was not registered yet. -/
theorem unregistered_before_registered : ¬Runs.Meets (life .icm20608).step Balanced (start fun _ => 0#8)
    [.start 0 .probe, .go 0 .ok, .go 0 (.error 11 fun _ => 0#8), .go 0 .ok] := by
  decide

end Iio.Lifetime
