import LinuxDriver.Ramdisk.Disk
import Mathlib.Algebra.Group.Nat.Defs
/-!
# The request-based ramdisk

`_queue_rq` of `26_ramdisk_withrequest/ramdisk.c`. The block layer merges
(`BLK_MQ_F_SHOULD_MERGE`), so a request carries a list of segments;
`bio_data` and `blk_rq_cur_bytes` describe the first of them, and
`blk_mq_end_request` completes all of them.
-/
open Mem Runs

namespace Ramdisk

/-- A request: a transfer with at least one segment. -/
structure Request extends Transfer where
  nonempty : segs ≠ []

/-- What one call of `_queue_rq` leaves behind. -/
structure Completion where
  ramdiskbuf : Int → Byte
  segs : List (List Byte)
  /-- The status handed to `blk_mq_end_request`. -/
  ret : Int

/-- `unsigned long` has 32 bits on this board. -/
def unsignedLong (n : Nat) : Nat := n % 2 ^ 32

/-- One copy between the disk and the first segment of a request. -/
def ramdisk_transfer (ramdiskbuf : Int → Byte) (req : Request) : Completion :=
  let start := unsignedLong (req.sector <<< 9)
  let buffer := req.segs.head req.nonempty
  let len := buffer.length
  match req.dir with
  | .READ => ⟨ramdiskbuf, read ramdiskbuf start len :: req.segs.tail, 0⟩
  | .WRITE => ⟨write ramdiskbuf start buffer, req.segs, 0⟩

/-- The entry point of the block layer. -/
def queue_rq (ramdiskbuf : Int → Byte) (req : Request) : Completion :=
  ramdisk_transfer ramdiskbuf req

/-- The buffer after one request. -/
def requestStep (ramdiskbuf : Int → Byte) (req : Request) : Int → Byte :=
  (queue_rq ramdiskbuf req).ramdiskbuf

theorem start_exact (t : Transfer) : (unsignedLong (t.sector <<< 9) : Int) = t.start := by
  have h := t.inside
  have e : t.sector <<< 9 = t.sector * 512 := by rw [Nat.shiftLeft_eq]
  simp only [RAMDISK_SIZE] at h
  rw [unsignedLong, e, Nat.mod_eq_of_lt (by omega), Transfer.start]
  omega

/-! ## When a completed request was really served -/

/-- If the request is reported complete without error, the disk did all of it. -/
def ServedRight (ramdiskbuf : Int → Byte) (req : Request) : Prop :=
  (queue_rq ramdiskbuf req).ret = 0 →
    ((queue_rq ramdiskbuf req).ramdiskbuf, (queue_rq ramdiskbuf req).segs) = serve ramdiskbuf req.toTransfer

/-- The segments after the first hold what the disk already holds at their addresses. -/
def TailOnDisk (ramdiskbuf : Int → Byte) (req : Request) : Prop :=
  read ramdiskbuf (req.start + (req.segs.head req.nonempty).length) req.segs.tail.flatten.length =
    req.segs.tail.flatten

theorem servedRight_iff (ramdiskbuf : Int → Byte) (req : Request) :
    ServedRight ramdiskbuf req ↔ TailOnDisk ramdiskbuf req := by
  obtain ⟨s, ss, hs⟩ := List.exists_cons_of_ne_nil req.nonempty
  have hst := start_exact req.toTransfer
  cases hd : req.dir
  · -- A read fills the first segment only; the others must already agree.
    simp only [ServedRight, TailOnDisk, queue_rq, ramdisk_transfer, serve, hd, hst, hs, fill, List.head_cons,
      List.tail_cons, forall_const, Prod.mk.injEq, true_and, List.cons.injEq]
    rw [eq_comm, fill_eq_self_iff]
  · -- A write is the whole write exactly when writing the rest changes nothing.
    simp only [ServedRight, TailOnDisk, queue_rq, ramdisk_transfer, serve, hd, hst, hs, List.head_cons,
      List.tail_cons, forall_const, Prod.mk.injEq, and_true, List.flatten_cons, write_append]
    rw [eq_comm, write_eq_self_iff, read_write_after]

/-- A request of one segment is always served. -/
theorem single_segment_tailOnDisk (ramdiskbuf : Int → Byte) (req : Request) (h : req.segs.tail = []) :
    TailOnDisk ramdiskbuf req := by
  simp [TailOnDisk, h]

/-- In every history, all completed requests were served exactly when each
request finds its later segments' bytes on the disk already. -/
theorem requests_served_iff (ramdiskbuf : Int → Byte) (reqs : List Request) :
    Meets requestStep ServedRight ramdiskbuf reqs ↔ Meets requestStep TailOnDisk ramdiskbuf reqs :=
  meets_congr (fun b r => servedRight_iff b r) ramdiskbuf reqs

/-- A write of two 512-byte segments at sector 1. -/
def twoSegments : Request where
  dir := .WRITE
  sector := 1
  segs := [List.replicate 512 1#8, List.replicate 512 2#8]
  inside := by decide +kernel
  nonempty := List.cons_ne_nil _ _

/-- The second segment of a merged write is reported stored and is not. -/
theorem merged_write_lost : ¬ ∀ ramdiskbuf reqs, Meets requestStep ServedRight ramdiskbuf reqs := by
  intro h
  have h1 : TailOnDisk (fun _ => 0#8) twoSegments := (servedRight_iff _ _).1 (h _ [twoSegments]).1
  -- The first byte of the second segment: 0 on the disk, 2 in the request.
  have h2 := congrArg (·[0]?) h1
  rw [read_getElem? _ _ (by decide +kernel)] at h2
  exact absurd h2 (by decide +kernel)

end Ramdisk
