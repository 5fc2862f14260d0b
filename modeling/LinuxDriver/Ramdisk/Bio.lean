import LinuxDriver.Ramdisk.Disk
import Mathlib.Algebra.Group.Nat.Defs
/-!
# The bio-based ramdisk

`ramdisk_make_request_fn` of `27_ramdisk_norequest/ramdisk.c`: one loop over
the segments of a bio, with a running `int offset`. Every access is recorded,
so that the bounds of the copies can be stated.
-/
open Mem Runs

namespace Ramdisk

/-- Conversion to `int`. -/
def int32 (n : Int) : Int := n.bmod (2 ^ 32)

/-- One `memcpy` between the disk and a segment. -/
structure Access where
  offset : Int
  len : Nat
  deriving DecidableEq

/-- What serving a bio leaves behind. -/
structure Served where
  ramdiskbuf : Int → Byte
  segs : List (List Byte)
  accesses : List Access
  offset : Int

/-- The body of `bio_for_each_segment`, for every segment in turn. -/
def eachSegment (dir : Dir) (ramdiskbuf : Int → Byte) (offset : Int) : List (List Byte) → Served
  | [] => ⟨ramdiskbuf, [], [], offset⟩
  | ptr :: rest =>
    let len := ptr.length
    let (ramdiskbuf', ptr') := match dir with
      | .READ => (ramdiskbuf, read ramdiskbuf offset len)
      | .WRITE => (write ramdiskbuf offset ptr, ptr)
    let r := eachSegment dir ramdiskbuf' (int32 (offset + len)) rest
    { r with segs := ptr' :: r.segs, accesses := ⟨offset, len⟩ :: r.accesses }

/-- All segments of a bio, from its sector on; the offset is an `int`. -/
def ramdisk_make_request_fn (ramdiskbuf : Int → Byte) (bio : Transfer) : Served :=
  eachSegment bio.dir ramdiskbuf (int32 ((bio.sector <<< 9) % 2 ^ 64 : Nat)) bio.segs

/-- The buffer after one bio. -/
def bioStep (ramdiskbuf : Int → Byte) (bio : Transfer) : Int → Byte :=
  (ramdisk_make_request_fn ramdiskbuf bio).ramdiskbuf

/-- The abstract array after one transfer. -/
def diskStep (disk : Int → Byte) (t : Transfer) : Int → Byte := (serve disk t).1

/-! ## The running offset -/

/-- The copies a transfer of these segments consists of, in exact arithmetic. -/
def exactAccesses (start : Int) : List (List Byte) → List Access
  | [] => []
  | s :: ss => ⟨start, s.length⟩ :: exactAccesses (start + s.length) ss

theorem int32_small {n : Int} (h0 : 0 ≤ n) (h : n ≤ RAMDISK_SIZE) : int32 n = n := by
  simp only [RAMDISK_SIZE] at h
  exact Int.bmod_eq_of_le (by omega) (by omega)

theorem exactAccesses_inside (start : Int) (ss : List (List Byte)) (h0 : 0 ≤ start)
    (h : start + ss.flatten.length ≤ RAMDISK_SIZE) :
    ∀ a ∈ exactAccesses start ss, 0 ≤ a.offset ∧ a.offset + a.len ≤ RAMDISK_SIZE := by
  induction ss generalizing start with
  | nil => simp [exactAccesses]
  | cons s ss ih =>
    simp only [List.flatten_cons, List.length_append, Int.natCast_add] at h
    intro a ha
    rcases List.mem_cons.1 ha with rfl | ha
    · exact ⟨h0, by simp only; omega⟩
    · exact ih (start + s.length) (by omega) (by omega) a ha

/-! ## The loop -/

/-- Inside the disk the loop is one transfer of the concatenated segments, and
the `int` offset is the exact one throughout. -/
theorem eachSegment_spec (dir : Dir) (m : Int → Byte) (start : Int) (ss : List (List Byte)) (h0 : 0 ≤ start)
    (h : start + ss.flatten.length ≤ RAMDISK_SIZE) :
    eachSegment dir m start ss =
      { ramdiskbuf := match dir with
          | .READ => m
          | .WRITE => write m start ss.flatten
        segs := match dir with
          | .READ => fill m start ss
          | .WRITE => ss
        accesses := exactAccesses start ss
        offset := start + ss.flatten.length } := by
  induction ss generalizing m start with
  | nil => cases dir <;> simp [eachSegment, exactAccesses, fill]
  | cons s ss ih =>
    simp only [List.flatten_cons, List.length_append, Int.natCast_add] at h
    have hs : int32 (start + s.length) = start + s.length := int32_small (by omega) (by omega)
    cases dir
    · simp only [eachSegment, hs, ih m (start + s.length) (by omega) (by omega), exactAccesses, fill,
        List.flatten_cons, List.length_append, Int.natCast_add, Int.add_assoc]
    · simp only [eachSegment, hs, ih (write m start s) (start + s.length) (by omega) (by omega), exactAccesses,
        List.flatten_cons, List.length_append, Int.natCast_add, Int.add_assoc, write_append]

theorem first_offset_exact (bio : Transfer) : int32 ((bio.sector <<< 9) % 2 ^ 64 : Nat) = bio.start := by
  have h := bio.inside
  have e : bio.sector <<< 9 = bio.sector * 512 := by rw [Nat.shiftLeft_eq]
  simp only [RAMDISK_SIZE] at h
  rw [e, Nat.mod_eq_of_lt (by omega), int32_small (by omega) (by simp only [RAMDISK_SIZE]; omega), Transfer.start]
  omega

/-- What one bio does, in exact arithmetic. -/
theorem make_request_spec (m : Int → Byte) (bio : Transfer) :
    ramdisk_make_request_fn m bio =
      { ramdiskbuf := (serve m bio).1
        segs := (serve m bio).2
        accesses := exactAccesses bio.start bio.segs
        offset := bio.start + bio.segs.flatten.length } := by
  have h := bio.inside
  rw [ramdisk_make_request_fn, first_offset_exact,
    eachSegment_spec _ _ _ _ (by simp only [Transfer.start]; omega) (by simp only [Transfer.start]; omega)]
  cases hd : bio.dir <;> simp only [serve, hd]

/-! ## Histories -/

/-- Serving one bio from contents `m`: the segments come back as the abstract
array has them, a read changes nothing, every copy lies inside the disk, and
the offset is the exact sum at every copy and at the end. -/
def BioRight (m : Int → Byte) (bio : Transfer) : Prop :=
  let r := ramdisk_make_request_fn m bio
  r.segs = (serve m bio).2 ∧
  (bio.dir = .READ → r.ramdiskbuf = m) ∧
  (∀ a ∈ r.accesses, 0 ≤ a.offset ∧ a.offset + a.len ≤ RAMDISK_SIZE) ∧
  r.accesses = exactAccesses (bio.sector * 512) bio.segs ∧
  r.offset = bio.sector * 512 + bio.segs.flatten.length

theorem bioRight (m : Int → Byte) (bio : Transfer) : BioRight m bio := by
  have h := bio.inside
  simp only [BioRight, make_request_spec]
  refine ⟨trivial, ?_, ?_, rfl, rfl⟩
  · intro hd; simp only [serve, hd]
  · exact exactAccesses_inside _ _ (by simp only [Transfer.start]; omega) (by simp only [Transfer.start]; omega)

theorem bioStep_eq : bioStep = diskStep := by
  funext m bio
  simp only [bioStep, diskStep, make_request_spec]

/-- The bio-based ramdisk is a byte store: over any history its buffer is, at
every moment, the abstract array the same transfers produce, and every bio is
served right from the array of that moment. -/
theorem bios_are_byte_store (m : Int → Byte) (bios : List Transfer) :
    visited bioStep m bios = visited diskStep m bios ∧ run bioStep m bios = run diskStep m bios ∧
      Meets diskStep BioRight m bios := by
  rw [bioStep_eq]
  exact ⟨rfl, rfl, meets_of_forall bioRight m bios⟩

end Ramdisk
