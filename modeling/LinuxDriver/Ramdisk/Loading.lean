import LinuxDriver.Lib.Ledger
import Mathlib.Data.Int.Notation
import Mathlib.Data.Nat.Notation
import Mathlib.Data.Prod.Basic
/-!
# Loading the ramdisk drivers

`ramdisk_init` acquires the device structure, the buffer, a major number, the
request queue and the gendisk, and `26_ramdisk_withrequest` a tag set for the
queue. A step that fails is to undo the ones before it. Here every call writes
down what it acquires, releases and uses; where it follows a pointer that is no
resource the kernel oopses.
-/

namespace Ramdisk.Loading

open Ledger

def ENOMEM : ℤ := 12

/-- What the two drivers acquire. -/
inductive Resource
  | dev
  | ramdiskbuf
  | major
  | tag_set
  | queue
  | gendisk
  deriving DecidableEq

/-- A pointer as the drivers test it: null, an error pointer, or one that points to something. -/
inductive Ptr
  | null
  | err
  | valid
  deriving DecidableEq

/-- A call that returns nothing has ended in an oops. -/
structure Call (α : Type) where
  entries : List (Entry Resource)
  ret : Option α

namespace Call

variable {α β : Type}

/-- Go on with `f`, unless the call has ended in an oops. -/
protected def bind (c : Call α) (f : α → Call β) : Call β :=
  match c.ret with
  | none => ⟨c.entries, none⟩
  | some a => ⟨c.entries ++ (f a).entries, (f a).ret⟩

instance : Monad Call where
  pure a := ⟨[], some a⟩
  bind := Call.bind

/-- An acquisition, which returns `failed` where it fails. -/
def alloc (r : Resource) (failed : Ptr) (ok : Bool) : Call Ptr := if ok then ⟨[.acquire r], some .valid⟩ else ⟨[], some failed⟩

/-- One resource is given back. -/
def release (r : Resource) : Call Unit := ⟨[.release r], some ()⟩

/-- A pointer to the resource is followed. -/
def use (r : Resource) (p : Ptr) : Call Unit := ⟨[.use r], if p = .valid then some () else none⟩

/-- `kfree` and `put_disk`. -/
def free (r : Resource) (p : Ptr) : Call Unit :=
  match p with
  | .null => pure ()
  | .err => ⟨[.release r], none⟩
  | .valid => release r

@[simp] theorem pure_entries (a : α) : (pure a : Call α).entries = [] := rfl
@[simp] theorem pure_ret (a : α) : (pure a : Call α).ret = some a := rfl
@[simp] theorem bind_some (es : List (Entry Resource)) (a : α) (f : α → Call β) :
    (⟨es, some a⟩ : Call α) >>= f = ⟨es ++ (f a).entries, (f a).ret⟩ := rfl
@[simp] theorem bind_none (es : List (Entry Resource)) (f : α → Call β) : (⟨es, none⟩ : Call α) >>= f = ⟨es, none⟩ := rfl
@[simp] theorem pure_bind (a : α) (f : α → Call β) : pure a >>= f = f a := rfl

end Call

/-- What the kernel answers to `ramdisk_init`: whether the pointers can be had,
and the numbers that are returned. -/
structure Answers where
  kzalloc : Bool
  kmalloc : Bool
  register_blkdev : ℤ
  blk_mq_alloc_tag_set : ℤ
  /-- `blk_mq_init_queue` or `blk_alloc_queue`. -/
  queue : Bool
  alloc_disk : Bool

/-- `struct ramdisk_dev`. -/
structure Dev where
  major : ℤ
  ramdiskbuf : Ptr
  gendisk : Ptr
  queue : Ptr

/-- The kernel's: negative if it fails. -/
def register_blkdev (ret : ℤ) : Call ℤ := if ret < 0 then pure ret else ⟨[.acquire .major], some ret⟩

/-- The kernel's: 0 if it succeeds. -/
def blk_mq_alloc_tag_set (ret : ℤ) : Call ℤ := if ret ≠ 0 then pure ret else ⟨[.acquire .tag_set], some ret⟩

/-- The kernel's: it looks into the queue before it gives it back. -/
def blk_cleanup_queue (q : Ptr) : Call Unit := do
  Call.use .queue q
  Call.release .queue

/-- `add_disk` opens the disk's queue. -/
def add_disk (dev : Dev) : Call Unit := do
  Call.use .gendisk dev.gendisk
  Call.use .queue dev.queue

/-! ## `ramdisk_init` in both drivers -/

/-- The last label of `ramdisk_init`: the buffer and the device are freed. -/
def register_blkdev_fail (dev : Dev) : Call (Except ℤ Dev) := do
  Call.free .ramdiskbuf dev.ramdiskbuf
  Call.release .dev
  return .error (-ENOMEM)

/-- The label before: the major number is given back too. -/
def create_queue_fail (dev : Dev) : Call (Except ℤ Dev) := do
  Call.release .major
  register_blkdev_fail dev

/-- The end of `ramdisk_init`, with what the label `create_gendisk_fail` does first. -/
def create_disk (create_req_queue : Call Ptr) (create_req_gendisk : Dev → Call (ℤ × Dev)) (create_gendisk_fail : Dev → Call Unit)
    (dev : Dev) : Call (Except ℤ Dev) := do
  let q ← create_req_queue
  let dev := { dev with queue := q }
  if dev.queue = .null then create_queue_fail dev
  else do
    let (ret, dev) ← create_req_gendisk dev
    if ret < 0 then do
      create_gendisk_fail dev
      create_queue_fail dev
    else return .ok dev

/-- The device is what `ramdisk` points to when 0 is returned. -/
def init_with (create_disk : Dev → Call (Except ℤ Dev)) (k : Answers) : Call (Except ℤ Dev) := do
  let p ← Call.alloc .dev .null k.kzalloc
  if p = .null then return .error (-ENOMEM)
  else do
    let buf ← Call.alloc .ramdiskbuf .null k.kmalloc
    if buf = .null then return .error (-ENOMEM)
    else do
      let major ← register_blkdev k.register_blkdev
      let dev : Dev := ⟨major, buf, .null, .null⟩
      if dev.major < 0 then register_blkdev_fail dev else create_disk dev

/-- A driver and what it holds while it is loaded. -/
structure Driver where
  resources : Resource → Bool
  ramdisk_init : Answers → Call (Except ℤ Dev)
  ramdisk_exit : Option Dev → Call Unit

/-! ## `26_ramdisk_withrequest` -/

namespace WithRequest

/-- The queue with its tag set; an error pointer if one of them fails. -/
def create_req_queue (k : Answers) : Call Ptr := do
  let ret ← blk_mq_alloc_tag_set k.blk_mq_alloc_tag_set
  if ret ≠ 0 then return .err
  else do
    let q ← Call.alloc .queue .err k.queue
    if q = .err then do
      Call.release .tag_set
      return q
    else return q

/-- The disk, set up and added. -/
def create_req_gendisk (k : Answers) (dev : Dev) : Call (ℤ × Dev) := do
  let disk ← Call.alloc .gendisk .null k.alloc_disk
  let dev := { dev with gendisk := disk }
  if dev.gendisk = .null then return (-ENOMEM, dev)
  else do
    Call.use .gendisk dev.gendisk
    add_disk dev
    return (0, dev)

/-- The label after a disk that could not be made. -/
def create_gendisk_fail (dev : Dev) : Call Unit := do
  blk_cleanup_queue dev.queue
  Call.release .tag_set

/-- `module_init` of the driver with a request queue. -/
def ramdisk_init (k : Answers) : Call (Except ℤ Dev) :=
  init_with (create_disk (create_req_queue k) (create_req_gendisk k) create_gendisk_fail) k

/-- `module_exit`, with what the global `ramdisk` points to. -/
def ramdisk_exit : Option Dev → Call Unit
  | none => pure ()
  | some dev => do
    if dev.gendisk ≠ .null then do
      Call.use .gendisk dev.gendisk
      Call.free .gendisk dev.gendisk
    if dev.queue ≠ .null then blk_cleanup_queue dev.queue
    Call.release .tag_set
    Call.release .major
    Call.free .ramdiskbuf dev.ramdiskbuf
    Call.release .dev

end WithRequest

/-- 26_ramdisk_withrequest. -/
def withrequest : Driver where
  resources _ := true
  ramdisk_init := WithRequest.ramdisk_init
  ramdisk_exit := WithRequest.ramdisk_exit

/-! ## `27_ramdisk_norequest` -/

namespace NoRequest

/-- The queue is given its function and its data before anybody looks whether there is one. -/
def create_req_queue (k : Answers) : Call Ptr := do
  let q ← Call.alloc .queue .null k.queue
  Call.use .queue q
  return q

/-- The test is on `dev`, which is not NULL. -/
def create_req_gendisk (k : Answers) (dev : Dev) : Call (ℤ × Dev) := do
  let disk ← Call.alloc .gendisk .null k.alloc_disk
  let dev := { dev with gendisk := disk }
  Call.use .gendisk dev.gendisk
  add_disk dev
  return (0, dev)

/-- The label here: there is no tag set. -/
def create_gendisk_fail (dev : Dev) : Call Unit := blk_cleanup_queue dev.queue

/-- `module_init` of the driver without a request queue. -/
def ramdisk_init (k : Answers) : Call (Except ℤ Dev) :=
  init_with (create_disk (create_req_queue k) (create_req_gendisk k) create_gendisk_fail) k

/-- `module_exit` here, which does not test the pointers. -/
def ramdisk_exit : Option Dev → Call Unit
  | none => ⟨[], none⟩
  | some dev => do
    Call.use .gendisk dev.gendisk
    Call.free .gendisk dev.gendisk
    blk_cleanup_queue dev.queue
    Call.release .major
    Call.free .ramdiskbuf dev.ramdiskbuf
    Call.release .dev

end NoRequest

/-- 27_ramdisk_norequest. -/
def norequest : Driver where
  resources r := decide (r ≠ .tag_set)
  ramdisk_init := NoRequest.ramdisk_init
  ramdisk_exit := NoRequest.ramdisk_exit

/-! ## The module -/

/-- Whether the module is loaded, as the how manieth, and what it keeps. -/
inductive Module
  | unloaded
  | loaded (load : ℕ) (ramdisk : Option Dev)
  /-- A call has ended in an oops. -/
  | stuck

/-- `held` says what the calls hold of each load, by its number. -/
structure System where
  loads : ℕ
  module : Module
  held : ℕ × Resource → Bool

/-- Before the first `insmod`. -/
def start : System := ⟨0, .unloaded, fun _ => false⟩

/-- The module is loaded, with what the kernel answers, or unloaded. -/
inductive Event
  | insmod (k : Answers)
  | rmmod

/-- The entries of a call of the load. -/
def Call.of {α : Type} (c : Call α) (load : ℕ) : List (Entry (ℕ × Resource)) := c.entries.map (Entry.map (Prod.mk load))

/-- A load that returns an error, or is unloaded, takes its variables with it. -/
def step (d : Driver) (s : System) : Event → System
  | .insmod k =>
    match s.module with
    | .unloaded =>
      let c := d.ramdisk_init k
      let module : Module := match c.ret with
        | none => .stuck
        | some (.error _) => .unloaded
        | some (.ok dev) => .loaded s.loads (some dev)
      ⟨s.loads + 1, module, settle s.held (c.of s.loads)⟩
    | _ => s
  | .rmmod =>
    match s.module with
    | .loaded load ramdisk =>
      let c := d.ramdisk_exit ramdisk
      ⟨s.loads, if c.ret.isSome then .unloaded else .stuck, settle s.held (c.of load)⟩
    | _ => s

/-- `ramdisk_init` returns, follows no failed pointer and releases nothing twice; then it holds nothing after an error and
everything after 0. -/
def Loads (d : Driver) (s : System) (k : Answers) : Prop :=
  let c := d.ramdisk_init k
  Balanced s.held (c.of s.loads) ∧
    match c.ret with
    | none => False
    | some (.error _) => ∀ r, (step d s (.insmod k)).held (s.loads, r) = false
    | some (.ok _) => ∀ r, (step d s (.insmod k)).held (s.loads, r) = d.resources r

/-- `ramdisk_exit` returns, and has released each resource of the load once. -/
def Unloads (d : Driver) (s : System) (load : ℕ) (ramdisk : Option Dev) : Prop :=
  let c := d.ramdisk_exit ramdisk
  Balanced s.held (c.of load) ∧ c.ret = some () ∧
    ∀ r, d.resources r = true → (c.of load).count (.release (load, r)) = 1 ∧ (step d s .rmmod).held (load, r) = false

/-- The claim on one event: a load is all or nothing, and an unload gives everything back. -/
def Right (d : Driver) (s : System) : Event → Prop
  | .insmod k => s.module = .unloaded → Loads d s k
  | .rmmod => ∀ load ramdisk, s.module = .loaded load ramdisk → Unloads d s load ramdisk

/-- The answers that `26_ramdisk_withrequest` copes with. -/
def WithRequest.Copes (k : Answers) : Prop :=
  k.kzalloc = true → k.kmalloc = true ∧ (0 ≤ k.register_blkdev → k.blk_mq_alloc_tag_set = 0 ∧ k.queue = true)

/-- The answers that `27_ramdisk_norequest` copes with. -/
def NoRequest.Copes (k : Answers) : Prop :=
  k.kzalloc = true → k.kmalloc = true ∧ (0 ≤ k.register_blkdev → k.queue = true ∧ k.alloc_disk = true)

/-! ## One load -/

/-- How `ramdisk_init` should end if it has come as far as to hold `held`. -/
def Ends (d : Driver) (held : Resource → Bool) (c : Call (Except ℤ Dev)) : Prop :=
  Balanced held c.entries ∧
    match c.ret with
    | none => False
    | some (.error _) => ∀ r, settle held c.entries r = false
    | some (.ok _) => ∀ r, settle held c.entries r = d.resources r

theorem ends_append (d : Driver) (held : Resource → Bool) (es : List (Entry Resource)) (c : Call (Except ℤ Dev)) :
    Ends d held ⟨es ++ c.entries, c.ret⟩ ↔ Balanced held es ∧ Ends d (settle held es) c := by
  have hbalanced : Balanced held (es ++ c.entries) ↔ Balanced held es ∧ Balanced (settle held es) c.entries :=
    Runs.Meets.append
  have hsettle : settle held (es ++ c.entries) = settle (settle held es) c.entries := Runs.run_append ..
  unfold Ends
  dsimp only
  rw [hbalanced, hsettle, and_assoc]

section
variable {create_disk : Dev → Call (Except ℤ Dev)} {k : Answers}

theorem init_no_dev (h : k.kzalloc = false) : init_with create_disk k = ⟨[], some (.error (-ENOMEM))⟩ := by
  simp [init_with, Call.alloc, h, pure]

theorem init_no_buf (h : k.kzalloc = true) (hb : k.kmalloc = false) :
    init_with create_disk k = ⟨[.acquire .dev], some (.error (-ENOMEM))⟩ := by
  simp [init_with, Call.alloc, h, hb]

theorem init_no_major (h : k.kzalloc = true) (hb : k.kmalloc = true) (hm : k.register_blkdev < 0) :
    init_with create_disk k =
      ⟨[.acquire .dev, .acquire .ramdiskbuf, .release .ramdiskbuf, .release .dev], some (.error (-ENOMEM))⟩ := by
  simp [init_with, Call.alloc, register_blkdev, register_blkdev_fail, Call.free, Call.release, h, hb, hm]

theorem init_major (h : k.kzalloc = true) (hb : k.kmalloc = true) (hm : 0 ≤ k.register_blkdev) :
    init_with create_disk k =
      ⟨[.acquire .dev, .acquire .ramdiskbuf, .acquire .major] ++ (create_disk ⟨k.register_blkdev, .valid, .null, .null⟩).entries,
        (create_disk ⟨k.register_blkdev, .valid, .null, .null⟩).ret⟩ := by
  simp [init_with, Call.alloc, register_blkdev, h, hb, Int.not_lt.2 hm]

end

/-- With a major number the structure, the buffer and the number are held. -/
def registered (r : Resource) : Bool := decide (r = .dev ∨ r = .ramdiskbuf ∨ r = .major)

theorem settle_registered : settle (fun _ => false) [.acquire .dev, .acquire .ramdiskbuf, .acquire .major] = registered := by
  funext r
  cases r <;> rfl

/-- The start of `ramdisk_init` loses the device structure where the buffer is refused. -/
theorem ends_init_with (d : Driver) (create_disk : Dev → Call (Except ℤ Dev)) (k : Answers) :
    Ends d (fun _ => false) (init_with create_disk k) ↔ (k.kzalloc = true → k.kmalloc = true ∧
      (0 ≤ k.register_blkdev → Ends d registered (create_disk ⟨k.register_blkdev, .valid, .null, .null⟩))) := by
  cases hd : k.kzalloc with
  | false =>
    rw [init_no_dev hd]
    exact iff_of_true ⟨by decide, fun _ => rfl⟩ nofun
  | true =>
    cases hb : k.kmalloc with
    | false =>
      rw [init_no_buf hd hb]
      constructor
      · intro h
        exact absurd (h.2 .dev) (by decide)
      · intro h
        exact absurd (h rfl).1 (by decide)
    | true =>
      by_cases hm : 0 ≤ k.register_blkdev
      · rw [init_major hd hb hm, ends_append, settle_registered]
        constructor
        · intro h _
          exact ⟨rfl, fun _ => h.2⟩
        · intro h
          exact ⟨by decide, (h rfl).2 hm⟩
      · rw [init_no_major hd hb (Int.not_le.1 hm)]
        refine iff_of_true ⟨by decide, ?_⟩ fun _ => ⟨rfl, fun h => absurd h hm⟩
        intro r
        cases r <;> rfl

theorem init_ok {create_disk : Dev → Call (Except ℤ Dev)} {k : Answers} {dev : Dev}
    (h : (init_with create_disk k).ret = some (.ok dev)) :
    (k.kzalloc = true ∧ k.kmalloc = true) ∧ (create_disk ⟨k.register_blkdev, .valid, .null, .null⟩).ret = some (.ok dev) := by
  cases hd : k.kzalloc with
  | false =>
    rw [init_no_dev hd] at h
    cases h
  | true =>
    cases hb : k.kmalloc with
    | false =>
      rw [init_no_buf hd hb] at h
      cases h
    | true =>
      by_cases hm : 0 ≤ k.register_blkdev
      · rw [init_major hd hb hm] at h
        exact ⟨⟨rfl, rfl⟩, h⟩
      · rw [init_no_major hd hb (Int.not_le.1 hm)] at h
        cases h

/-- The device once it is set up. -/
def Dev.ready (major : ℤ) : Dev := ⟨major, .valid, .valid, .valid⟩

theorem free_queue_err : blk_cleanup_queue .err = ⟨[.use .queue], none⟩ := rfl

theorem free_queue_valid : blk_cleanup_queue .valid = ⟨[.use .queue, .release .queue], some ()⟩ := rfl

namespace WithRequest

variable {k : Answers} (major : ℤ)

theorem create_req_queue_failed (h : ¬(k.blk_mq_alloc_tag_set = 0 ∧ k.queue = true)) :
    ∃ es, create_req_queue k = ⟨es, some .err⟩ := by
  by_cases ht : k.blk_mq_alloc_tag_set = 0
  · have hq : k.queue = false := Bool.eq_false_iff.2 fun hq => h ⟨ht, hq⟩
    exact ⟨_, by simp [create_req_queue, blk_mq_alloc_tag_set, Call.alloc, Call.release, ht, hq]; rfl⟩
  · exact ⟨_, by simp [create_req_queue, blk_mq_alloc_tag_set, ht]; rfl⟩

theorem create_req_queue_ok (ht : k.blk_mq_alloc_tag_set = 0) (hq : k.queue = true) :
    create_req_queue k = ⟨[.acquire .tag_set, .acquire .queue], some .valid⟩ := by
  simp [create_req_queue, blk_mq_alloc_tag_set, Call.alloc, ht, hq]

/-- An error pointer passes for a queue, and is followed with the gendisk or without it. -/
theorem create_disk_no_queue (h : ¬(k.blk_mq_alloc_tag_set = 0 ∧ k.queue = true)) :
    (create_disk (create_req_queue k) (create_req_gendisk k) create_gendisk_fail ⟨major, .valid, .null, .null⟩).ret = none := by
  obtain ⟨es, hes⟩ := create_req_queue_failed h
  have hpos : 0 < ENOMEM := by decide
  unfold create_disk
  rw [hes]
  cases hk : k.alloc_disk with
  | false => simp [create_req_gendisk, Call.alloc, create_gendisk_fail, free_queue_err, hk, hpos]
  | true => simp [create_req_gendisk, Call.alloc, Call.use, add_disk, hk]

theorem create_disk_no_disk (ht : k.blk_mq_alloc_tag_set = 0) (hq : k.queue = true) (hk : k.alloc_disk = false) :
    create_disk (create_req_queue k) (create_req_gendisk k) create_gendisk_fail ⟨major, .valid, .null, .null⟩ =
      ⟨[.acquire .tag_set, .acquire .queue, .use .queue, .release .queue, .release .tag_set, .release .major,
        .release .ramdiskbuf, .release .dev], some (.error (-ENOMEM))⟩ := by
  have hpos : 0 < ENOMEM := by decide
  unfold create_disk
  rw [create_req_queue_ok ht hq]
  simp [create_req_gendisk, Call.alloc, Call.free, Call.release, create_gendisk_fail, create_queue_fail, register_blkdev_fail,
    free_queue_valid, hk, hpos]

theorem create_disk_ready (ht : k.blk_mq_alloc_tag_set = 0) (hq : k.queue = true) (hk : k.alloc_disk = true) :
    create_disk (create_req_queue k) (create_req_gendisk k) create_gendisk_fail ⟨major, .valid, .null, .null⟩ =
      ⟨[.acquire .tag_set, .acquire .queue, .acquire .gendisk, .use .gendisk, .use .gendisk, .use .queue],
        some (.ok (Dev.ready major))⟩ := by
  unfold create_disk
  rw [create_req_queue_ok ht hq]
  simp [create_req_gendisk, Call.alloc, Call.use, add_disk, Dev.ready, hk]

theorem ends_create_disk : Ends withrequest registered
    (create_disk (create_req_queue k) (create_req_gendisk k) create_gendisk_fail ⟨major, .valid, .null, .null⟩) ↔
      k.blk_mq_alloc_tag_set = 0 ∧ k.queue = true := by
  by_cases h : k.blk_mq_alloc_tag_set = 0 ∧ k.queue = true
  · obtain ⟨ht, hq⟩ := h
    refine iff_of_true ?_ ⟨ht, hq⟩
    cases hk : k.alloc_disk with
    | false =>
      rw [create_disk_no_disk major ht hq hk]
      refine ⟨by decide, ?_⟩
      intro r
      cases r <;> rfl
    | true =>
      have hbalanced : Balanced registered
          [.acquire .tag_set, .acquire .queue, .acquire .gendisk, .use .gendisk, .use .gendisk, .use .queue] := by decide
      rw [create_disk_ready major ht hq hk]
      refine ⟨hbalanced, ?_⟩
      intro r
      cases r <;> rfl
  · refine iff_of_false (fun he => ?_) h
    have hret := he.2
    rw [create_disk_no_queue major h] at hret
    exact hret

theorem create_disk_ok {dev : Dev}
    (h : (create_disk (create_req_queue k) (create_req_gendisk k) create_gendisk_fail ⟨major, .valid, .null, .null⟩).ret =
      some (.ok dev)) : (k.blk_mq_alloc_tag_set = 0 ∧ k.queue = true) ∧ dev = Dev.ready major := by
  by_cases hc : k.blk_mq_alloc_tag_set = 0 ∧ k.queue = true
  · refine ⟨hc, ?_⟩
    cases hk : k.alloc_disk with
    | false =>
      rw [create_disk_no_disk major hc.1 hc.2 hk] at h
      cases h
    | true =>
      rw [create_disk_ready major hc.1 hc.2 hk] at h
      cases h
      rfl
  · rw [create_disk_no_queue major hc] at h
    cases h

end WithRequest

namespace NoRequest

variable {k : Answers} (major : ℤ)

/-- A queue or a gendisk that is NULL is followed. -/
theorem create_disk_failed (h : ¬(k.queue = true ∧ k.alloc_disk = true)) :
    (create_disk (create_req_queue k) (create_req_gendisk k) create_gendisk_fail ⟨major, .valid, .null, .null⟩).ret = none := by
  cases hq : k.queue with
  | false => simp [create_disk, create_req_queue, Call.alloc, Call.use, hq]
  | true =>
    have hk : k.alloc_disk = false := Bool.eq_false_iff.2 fun hk => h ⟨hq, hk⟩
    simp [create_disk, create_req_queue, create_req_gendisk, Call.alloc, Call.use, hq, hk]

theorem create_disk_ready (hq : k.queue = true) (hk : k.alloc_disk = true) :
    create_disk (create_req_queue k) (create_req_gendisk k) create_gendisk_fail ⟨major, .valid, .null, .null⟩ =
      ⟨[.acquire .queue, .use .queue, .acquire .gendisk, .use .gendisk, .use .gendisk, .use .queue],
        some (.ok (Dev.ready major))⟩ := by
  simp [create_disk, create_req_queue, create_req_gendisk, Call.alloc, Call.use, add_disk, Dev.ready, hq, hk]

theorem ends_create_disk : Ends norequest registered
    (create_disk (create_req_queue k) (create_req_gendisk k) create_gendisk_fail ⟨major, .valid, .null, .null⟩) ↔
      k.queue = true ∧ k.alloc_disk = true := by
  by_cases h : k.queue = true ∧ k.alloc_disk = true
  · obtain ⟨hq, hk⟩ := h
    refine iff_of_true ?_ ⟨hq, hk⟩
    have hbalanced : Balanced registered
        [.acquire .queue, .use .queue, .acquire .gendisk, .use .gendisk, .use .gendisk, .use .queue] := by decide
    rw [create_disk_ready major hq hk]
    refine ⟨hbalanced, ?_⟩
    intro r
    cases r <;> rfl
  · refine iff_of_false (fun he => ?_) h
    have hret := he.2
    rw [create_disk_failed major h] at hret
    exact hret

theorem create_disk_ok {dev : Dev}
    (h : (create_disk (create_req_queue k) (create_req_gendisk k) create_gendisk_fail ⟨major, .valid, .null, .null⟩).ret =
      some (.ok dev)) : (k.queue = true ∧ k.alloc_disk = true) ∧ dev = Dev.ready major := by
  by_cases hc : k.queue = true ∧ k.alloc_disk = true
  · refine ⟨hc, ?_⟩
    rw [create_disk_ready major hc.1 hc.2] at h
    cases h
    rfl
  · rw [create_disk_failed major hc] at h
    cases h

end NoRequest

/-- What the runs need of a driver. -/
structure Driver.Spec (d : Driver) (Copes : Answers → Prop) : Prop where
  load : ∀ k, Ends d (fun _ => false) (d.ramdisk_init k) ↔ Copes k
  ready : ∀ k dev, (d.ramdisk_init k).ret = some (.ok dev) → Copes k ∧ ∃ major, dev = Dev.ready major
  unload : ∀ major, let c := d.ramdisk_exit (some (Dev.ready major))
    Balanced d.resources c.entries ∧ c.ret = some () ∧ ∀ r, .acquire r ∉ c.entries ∧ settle d.resources c.entries r = false

theorem withrequest_spec : withrequest.Spec WithRequest.Copes where
  load k := by
    refine (ends_init_with ..).trans ?_
    unfold WithRequest.Copes
    rw [WithRequest.ends_create_disk]
  ready k dev h := by
    obtain ⟨hk, hdisk⟩ := init_ok h
    obtain ⟨hc, rfl⟩ := WithRequest.create_disk_ok _ hdisk
    exact ⟨fun _ => ⟨hk.2, fun _ => hc⟩, _, rfl⟩
  unload major := by
    have hentries : (withrequest.ramdisk_exit (some (Dev.ready major))).entries =
        [.use .gendisk, .release .gendisk, .use .queue, .release .queue, .release .tag_set, .release .major,
          .release .ramdiskbuf, .release .dev] := rfl
    dsimp only
    rw [hentries]
    refine ⟨by decide, rfl, fun r => ?_⟩
    cases r <;> decide

theorem norequest_spec : norequest.Spec NoRequest.Copes where
  load k := by
    refine (ends_init_with ..).trans ?_
    unfold NoRequest.Copes
    rw [NoRequest.ends_create_disk]
  ready k dev h := by
    obtain ⟨hk, hdisk⟩ := init_ok h
    obtain ⟨hc, rfl⟩ := NoRequest.create_disk_ok _ hdisk
    exact ⟨fun _ => ⟨hk.2, fun _ => hc⟩, _, rfl⟩
  unload major := by
    have hentries : (norequest.ramdisk_exit (some (Dev.ready major))).entries =
        [.use .gendisk, .release .gendisk, .use .queue, .release .queue, .release .major, .release .ramdiskbuf,
          .release .dev] := rfl
    dsimp only
    rw [hentries]
    refine ⟨by decide, rfl, fun r => ?_⟩
    cases r <;> decide

/-! ## Every run -/

/-- Later loads hold nothing yet, and the load that is in holds everything. -/
structure Kept (d : Driver) (s : System) : Prop where
  fresh : ∀ n, s.loads ≤ n → ∀ r, s.held (n, r) = false
  loaded : ∀ n ramdisk, s.module = .loaded n ramdisk →
    n < s.loads ∧ (∃ major, ramdisk = some (Dev.ready major)) ∧ ∀ r, s.held (n, r) = d.resources r

theorem kept_start (d : Driver) : Kept d start := ⟨fun _ _ _ => rfl, nofun⟩

variable {d : Driver} {Copes : Answers → Prop} {s : System}

theorem Kept.fresh_next (h : Kept d s) : (fun r => s.held (s.loads, r)) = fun _ => false := by
  funext r
  exact h.fresh s.loads (Nat.le_refl _) r

/-- A call settles the ledger of its load. -/
theorem settle_of {α : Type} (held : ℕ × Resource → Bool) (c : Call α) (n : ℕ) (r : Resource) :
    settle held (c.of n) (n, r) = settle (fun r => held (n, r)) c.entries r :=
  congrFun (settle_map (Prod.mk_right_injective n) held c.entries) r

theorem settle_of_ne {α : Type} (held : ℕ × Resource → Bool) (c : Call α) {n m : ℕ} (h : m ≠ n) (r : Resource) :
    settle held (c.of n) (m, r) = held (m, r) :=
  settle_outside held c.entries fun _ he => h (Prod.mk.inj he).1.symm

theorem balanced_of {α : Type} (held : ℕ × Resource → Bool) (c : Call α) (n : ℕ) :
    Balanced held (c.of n) ↔ Balanced (fun r => held (n, r)) c.entries :=
  balanced_map (Prod.mk_right_injective n) held c.entries

theorem Kept.insmod (hd : d.Spec Copes) (h : Kept d s) (k : Answers) : Kept d (step d s (.insmod k)) := by
  unfold step
  cases hm : s.module with
  | unloaded =>
    dsimp only
    constructor
    · intro n hn r
      have hlt : s.loads < n := hn
      exact (settle_of_ne _ _ (Nat.ne_of_gt hlt) r).trans (h.fresh n (Nat.le_of_lt hlt) r)
    · intro n ramdisk hl
      dsimp only at hl ⊢
      split at hl
      · cases hl
      · cases hl
      · rename_i dev hret
        cases hl
        obtain ⟨hc, hready⟩ := hd.ready k dev hret
        obtain ⟨hb, hends⟩ := (hd.load k).2 hc
        rw [hret] at hends
        refine ⟨Nat.lt_succ_self _, ?_, fun r => ?_⟩
        · obtain ⟨major, rfl⟩ := hready
          exact ⟨major, rfl⟩
        · rw [settle_of, h.fresh_next]
          exact hends r
  | loaded n ramdisk => exact h
  | stuck => exact h

theorem Kept.rmmod (h : Kept d s) : Kept d (step d s .rmmod) := by
  unfold step
  cases hm : s.module with
  | unloaded => exact h
  | loaded n ramdisk =>
    obtain ⟨hn, _, _⟩ := h.loaded n ramdisk hm
    dsimp only
    constructor
    · intro m hle r
      have hlt : n < m := Nat.lt_of_lt_of_le hn hle
      exact (settle_of_ne _ _ (Nat.ne_of_gt hlt) r).trans (h.fresh m hle r)
    · intro m ramdisk' hl
      dsimp only at hl
      split at hl <;> cases hl
  | stuck => exact h

theorem kept_step (hd : d.Spec Copes) (s : System) (e : Event) (h : Kept d s) : Kept d (step d s e) := by
  cases e with
  | insmod k => exact h.insmod hd k
  | rmmod => exact h.rmmod

/-- A module that is loaded gets answers the driver copes with. -/
def Managed (Copes : Answers → Prop) (s : System) : Event → Prop
  | .insmod k => s.module = .unloaded → Copes k
  | .rmmod => True

theorem Kept.loads_iff (h : Kept d s) (hm : s.module = .unloaded) (k : Answers) :
    Loads d s k ↔ Ends d (fun _ => false) (d.ramdisk_init k) := by
  have hheld : ∀ r, (step d s (.insmod k)).held (s.loads, r) =
      settle (fun _ => false) (d.ramdisk_init k).entries r := by
    intro r
    unfold step
    rw [hm, ← h.fresh_next]
    exact settle_of ..
  unfold Loads Ends
  dsimp only
  rw [balanced_of, h.fresh_next]
  simp only [hheld]

theorem Kept.unloads (hd : d.Spec Copes) (h : Kept d s) {n : ℕ} {ramdisk : Option Dev} (hm : s.module = .loaded n ramdisk) :
    Unloads d s n ramdisk := by
  obtain ⟨_, ⟨major, rfl⟩, hheld⟩ := h.loaded n ramdisk hm
  obtain ⟨hbalanced, hret, hends⟩ := hd.unload major
  have hpart : (fun r => s.held (n, r)) = d.resources := funext hheld
  have hb : Balanced s.held ((d.ramdisk_exit (some (Dev.ready major))).of n) := by
    rw [balanced_of, hpart]
    exact hbalanced
  refine ⟨hb, hret, fun r hr => ?_⟩
  have hafter : settle s.held ((d.ramdisk_exit (some (Dev.ready major))).of n) (n, r) = false := by
    rw [settle_of, hpart]
    exact (hends r).2
  constructor
  · refine hb.release_once ?_ ((hheld r).trans hr) hafter
    intro hmem
    obtain ⟨e, he, heq⟩ := List.mem_map.1 hmem
    cases e with
    | acquire r' =>
      cases heq
      exact (hends r).1 he
    | release r' => cases heq
    | use r' => cases heq
  · unfold step
    rw [hm]
    exact hafter

theorem right_iff (hd : d.Spec Copes) (h : Kept d s) (e : Event) : Right d s e ↔ Managed Copes s e := by
  cases e with
  | insmod k => exact forall_congr' fun hm => (h.loads_iff hm k).trans (hd.load k)
  | rmmod => exact iff_of_true (fun n ramdisk hm => h.unloads hd hm) trivial

theorem Driver.Spec.runs (hd : d.Spec Copes) (events : List Event) :
    Runs.Meets (step d) (Right d) start events ↔ Runs.Meets (step d) (Managed Copes) start events :=
  Runs.meets_congr_inv (kept_step hd) (fun _ e h => right_iff hd h e) events (kept_start d)

/-- The loads and unloads of either driver are all or nothing exactly when every load gets answers the driver copes with. -/
theorem loading_all_or_nothing (events : List Event) :
    (Runs.Meets (step withrequest) (Right withrequest) start events ↔
        Runs.Meets (step withrequest) (Managed WithRequest.Copes) start events) ∧
      (Runs.Meets (step norequest) (Right norequest) start events ↔
        Runs.Meets (step norequest) (Managed NoRequest.Copes) start events) :=
  ⟨withrequest_spec.runs events, norequest_spec.runs events⟩

/-- `blk_mq_init_queue` returns an error pointer, which `add_disk` follows. -/
theorem error_pointer_followed : ¬∀ events : List Event,
    Runs.Meets (step withrequest) (Right withrequest) start events ∧
      Runs.Meets (step norequest) (Right norequest) start events := by
  intro h
  obtain ⟨hload, -⟩ := (h [.insmod ⟨true, true, 254, 0, false, true⟩]).1
  exact (hload rfl).2

end Ramdisk.Loading
