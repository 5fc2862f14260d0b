import LinuxDriver.Lib.Runs
import LinuxDriver.Lib.Memory
/-!
# The disk both ramdisk drivers stand for

A ramdisk is a byte store: a transfer names a direction, a first byte address
and a list of segments, and moves every byte of every segment. `serve` says
what one transfer does; the drivers of `26_ramdisk_withrequest` and
`27_ramdisk_norequest` are compared with it.
-/
open Mem

namespace Ramdisk

/-- A byte of the disk. -/
abbrev Byte := BitVec 8

/-- The size of the disk in bytes. -/
def RAMDISK_SIZE : Nat := 2 * 1024 * 1024

/-- The direction of a transfer. -/
inductive Dir
  | READ
  | WRITE
  deriving DecidableEq

/-- A transfer the block layer hands down: it lies inside the disk. -/
structure Transfer where
  dir : Dir
  sector : Nat
  segs : List (List Byte)
  inside : sector * 512 + segs.flatten.length ≤ RAMDISK_SIZE

/-- The byte address of the transfer's first sector. -/
def Transfer.start (t : Transfer) : Int := t.sector * 512

/-- What a byte store does: the new contents and the segments handed back. -/
def serve (disk : Int → Byte) (t : Transfer) : (Int → Byte) × List (List Byte) :=
  match t.dir with
  | .READ => (disk, fill disk t.start t.segs)
  | .WRITE => (write disk t.start t.segs.flatten, t.segs)

/-- A write stores each byte at the start address plus its offset in the whole transfer. -/
theorem serve_stores (disk : Int → Byte) (t : Transfer) (h : t.dir = .WRITE) {k : Nat}
    (hk : k < t.segs.flatten.length) : (serve disk t).1 (t.start + k) = t.segs.flatten[k] := by
  simp only [serve, h]
  exact write_inside _ _ _ hk

/-- No transfer touches a byte outside its own range. -/
theorem serve_frame (disk : Int → Byte) (t : Transfer) {a : Int}
    (h : a < t.start ∨ t.start + t.segs.flatten.length ≤ a) : (serve disk t).1 a = disk a := by
  cases hd : t.dir <;> simp only [serve, hd]
  exact write_outside _ _ _ h

/-- A read hands back the bytes of its range, in segment order. -/
theorem serve_reads (disk : Int → Byte) (t : Transfer) (h : t.dir = .READ) :
    (serve disk t).2.flatten = read disk t.start t.segs.flatten.length := by
  simp only [serve, h]
  exact fill_flatten _ _ _

end Ramdisk
