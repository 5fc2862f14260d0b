import LinuxDriver.Lib.Runs
import LinuxDriver.Sensor.Dht11
import Mathlib.Data.Fintype.Basic
import Mathlib.Logic.Function.Basic
/-!
# One sample a read

`34_ds18b20` and `35_dht11` keep the last sample in a buffer that the work
item stores byte by byte and `read` copies byte by byte, without a lock. A
read returns one sample as long as it does not overlap a commit.
-/

namespace Sensor

/-! ## The drivers -/

/-- The two sensors. -/
inductive Driver
  | ds18b20
  | dht11
  deriving DecidableEq

/-- The length of `data`. -/
def Driver.size : Driver → ℕ
  | .ds18b20 => 2
  | .dht11 => 5

/-- The sum is an `int`, so it does not wrap. -/
def checksum (buff : ℕ → Byte) : Bool :=
  (buff 0).toNat + (buff 1).toNat + (buff 2).toNat + (buff 3).toNat == (buff 4).toNat

/-- The test before the commit. -/
def Driver.admits (driver : Driver) (buff : ℕ → Byte) : Bool :=
  match driver with
  | .ds18b20 => true
  | .dht11 => checksum buff

def ENOMEM : ℤ := -12

/-- What `read` returns when so many bytes could not be copied. -/
def Driver.ret (driver : Driver) (uncopied : ℕ) : ℤ :=
  match driver with
  | .ds18b20 => if uncopied ≠ 0 then ENOMEM else 0
  | .dht11 => uncopied

/-- A byte, and the number of the sample it belongs to. -/
structure Cell where
  byte : Byte
  sample : ℕ
  deriving DecidableEq

/-- The work item between its test and its last store. -/
structure Commit where
  buff : ℕ → Byte
  sample : ℕ
  stored : ℕ

variable {ι : Type*} [DecidableEq ι]

/-- `samples` are the admitted ones, oldest first; number 0 is the zeroed
buffer. A reader is `some` while it has copied a part of the buffer, and
`returned` lists what `read` returned and copied. -/
structure Shared (ι : Type*) where
  data : ℕ → Cell
  samples : List (ℕ → Byte)
  work : Option Commit
  readers : ι → Option (List Cell)
  returned : List (ℤ × List Cell)

namespace Shared

/-- No sample but that of an empty device. -/
def start : Shared ι where
  data _ := ⟨0#8, 0⟩
  samples := [fun _ => 0#8]
  work := none
  readers _ := none
  returned := []

variable (driver : Driver)

/-- The work item as far as its first store. `present` says whether the sensor
answers; the DS18B20 sends its second byte only after the first is stored. -/
def work_callback (s : Shared ι) (present : Bool) (buff : ℕ → Byte) : Shared ι :=
  if s.work.isNone && present && driver.admits buff then
    { s with samples := s.samples ++ [buff], work := some ⟨buff, s.samples.length, 0⟩ }
  else s

/-- The next byte of `data` is stored. -/
def store (s : Shared ι) : Shared ι :=
  match s.work with
  | none => s
  | some c =>
    { s with
      data := Function.update s.data c.stored ⟨c.buff c.stored, c.sample⟩
      work := if c.stored + 1 < driver.size then some { c with stored := c.stored + 1 } else none }

/-- `copy_to_user` copies the next byte; a call begins with its first one. -/
def copy (s : Shared ι) (i : ι) : Shared ι :=
  let cells := (s.readers i).getD []
  let cells := cells ++ [s.data cells.length]
  if cells.length < driver.size then { s with readers := Function.update s.readers i (some cells) }
  else
    { s with readers := Function.update s.readers i none, returned := (driver.ret 0, cells) :: s.returned }

/-- `copy_to_user` meets a fault. -/
def fault (s : Shared ι) (i : ι) : Shared ι :=
  let cells := (s.readers i).getD []
  { s with
    readers := Function.update s.readers i none
    returned := (driver.ret (driver.size - cells.length), cells) :: s.returned }

end Shared

/-- The work item decodes, or stores its next byte; a reader copies its next byte or cannot. -/
inductive Act (ι : Type*)
  | work_callback (present : Bool) (buff : ℕ → Byte)
  | store
  | copy (i : ι)
  | fault (i : ι)

/-- One access. -/
def Shared.step (driver : Driver) (s : Shared ι) : Act ι → Shared ι
  | .work_callback present buff => s.work_callback driver present buff
  | .store => s.store driver
  | .copy i => s.copy driver i
  | .fault i => s.fault driver i

/-- The bytes are one sample, and it was admitted. -/
def OneSample (driver : Driver) (s : Shared ι) (cells : List Cell) : Prop :=
  ∃ n buff, s.samples[n]? = some buff ∧ driver.admits buff = true ∧
    cells = (List.range driver.size).map fun k => ⟨buff k, n⟩

/-- Every successful read returned one sample. -/
def Coherent (driver : Driver) (s : Shared ι) : Prop := ∀ r ∈ s.returned, r.1 = 0 → OneSample driver s r.2

/-! ## Reads that overlap no commit -/

/-- Some bytes of the new sample are stored. -/
def Shared.mixed (s : Shared ι) : Prop := ∃ c ∈ s.work, 0 < c.stored

/-- A byte is stored in the middle of a read, or a read begins in the middle of a commit. -/
def races (s : Shared ι) : Act ι → Prop
  | .store => s.work.isSome = true ∧ ∃ i, (s.readers i).isSome = true
  | .copy i => s.readers i = none ∧ s.mixed
  | _ => False

instance (s : Shared ι) : Decidable s.mixed := by
  unfold Shared.mixed
  infer_instance

instance [Fintype ι] (s : Shared ι) (a : Act ι) : Decidable (races s a) := by
  unfold races
  cases a <;> infer_instance

/-- The invariant: the samples are admissible, and each byte of the data is that of the sample it is numbered with. -/
structure Kept (driver : Driver) (s : Shared ι) : Prop where
  admitted : ∀ buff ∈ s.samples, driver.admits buff = true
  numbers : ∀ k < driver.size, (s.data k).sample < s.samples.length
  commit : ∀ c ∈ s.work, s.samples[c.sample]? = some c.buff ∧ c.stored < driver.size ∧
    (∀ k < c.stored, s.data k = ⟨c.buff k, c.sample⟩) ∧
      ∀ k, c.stored ≤ k → k < driver.size → (s.data k).sample < c.sample
  whole : ¬s.mixed → ∃ n buff, s.samples[n]? = some buff ∧ ∀ k < driver.size, s.data k = ⟨buff k, n⟩
  reading : ∀ i cells, s.readers i = some cells →
    ¬s.mixed ∧ cells ≠ [] ∧ cells.length < driver.size ∧ cells = (List.range cells.length).map s.data
  returned : Coherent driver s

variable {driver : Driver} {s s' : Shared ι}

theorem size_pos (driver : Driver) : 1 < driver.size := by
  cases driver <;> decide

omit [DecidableEq ι] in
/-- Samples that are added later do not matter. -/
theorem OneSample.mono {cells : List Cell} (h : OneSample driver s cells)
    (hs : ∀ (n : ℕ) (buff : ℕ → Byte), s.samples[n]? = some buff → s'.samples[n]? = some buff) :
    OneSample driver s' cells := by
  obtain ⟨n, buff, hn, ha, hc⟩ := h
  exact ⟨n, buff, hs n buff hn, ha, hc⟩

omit [DecidableEq ι] in
theorem kept_start : Kept driver (Shared.start : Shared ι) where
  admitted buff hb := by
    rw [List.mem_singleton.1 hb]
    cases driver <;> rfl
  numbers k _ := Nat.zero_lt_one
  commit c hc := by cases hc
  whole _ := ⟨0, fun _ => 0#8, rfl, fun _ _ => rfl⟩
  reading i cells hi := by cases hi
  returned r hr := by cases hr

omit [DecidableEq ι] in
theorem Kept.work_callback (h : Kept driver s) (present : Bool) (buff : ℕ → Byte) :
    Kept driver (s.work_callback driver present buff) := by
  unfold Shared.work_callback
  split
  · rename_i hb
    simp only [Bool.and_eq_true, Option.isNone_iff_eq_none] at hb
    obtain ⟨⟨hw, _⟩, ha⟩ := hb
    have older : ∀ (n : ℕ) (b : ℕ → Byte), s.samples[n]? = some b → (s.samples ++ [buff])[n]? = some b := by
      intro n b hn
      rw [List.getElem?_append_left (List.getElem?_eq_some_iff.1 hn).1]
      exact hn
    have hm : ¬s.mixed := by
      rintro ⟨c, hc, _⟩
      rw [hw] at hc
      cases hc
    constructor
    · intro b hb
      rcases List.mem_append.1 hb with hb | hb
      · exact h.admitted b hb
      · rw [List.mem_singleton.1 hb]
        exact ha
    · intro k hk
      have := h.numbers k hk
      simp
      omega
    · rintro c hc
      obtain rfl : _ = c := Option.mem_some_iff.1 hc
      exact ⟨by simp, Nat.lt_of_succ_lt (size_pos driver), fun k hk => absurd hk (Nat.not_lt_zero k),
        fun k _ hk => h.numbers k hk⟩
    · intro _
      obtain ⟨n, b, hn, hd⟩ := h.whole hm
      exact ⟨n, b, older n b hn, hd⟩
    · intro i cells hi
      obtain ⟨_, hc⟩ := h.reading i cells hi
      refine ⟨?_, hc⟩
      rintro ⟨c, hc, h0⟩
      obtain rfl : _ = c := Option.mem_some_iff.1 hc
      exact absurd h0 (Nat.lt_irrefl 0)
    · intro r hr hz
      exact (h.returned r hr hz).mono older
  · exact h

omit [DecidableEq ι] in
theorem Kept.store (h : Kept driver s) (hn : ¬races s .store) : Kept driver (s.store driver) := by
  unfold Shared.store
  split
  · exact h
  · rename_i c hw
    -- nobody reads while a byte is stored
    have idle : ∀ i, s.readers i = none := by
      intro i
      cases hi : s.readers i with
      | none => rfl
      | some cells => exact absurd ⟨by rw [hw]; rfl, i, by rw [hi]; rfl⟩ hn
    obtain ⟨hb, hlt, hnew, hold⟩ := h.commit c hw
    have hat : ∀ k, k < c.stored + 1 →
        Function.update s.data c.stored ⟨c.buff c.stored, c.sample⟩ k = ⟨c.buff k, c.sample⟩ := by
      intro k hk
      rw [Function.update_apply]
      split
      · rename_i hk
        rw [hk]
      · exact hnew k (by omega)
    constructor
    · exact h.admitted
    · intro k hk
      dsimp only
      rw [Function.update_apply]
      split
      · exact (List.getElem?_eq_some_iff.1 hb).1
      · exact h.numbers k hk
    · intro c' hc'
      dsimp only at hc'
      split at hc'
      · rename_i hlt'
        obtain rfl : _ = c' := Option.mem_some_iff.1 hc'
        refine ⟨hb, hlt', hat, fun k hk hk' => ?_⟩
        dsimp only at hk ⊢
        rw [Function.update_of_ne (by omega)]
        exact hold k (by omega) hk'
      · cases hc'
    · intro hm
      -- the last byte is stored
      have hlast : ¬c.stored + 1 < driver.size := by
        intro hlt'
        exact hm ⟨{ c with stored := c.stored + 1 }, if_pos hlt', Nat.succ_pos _⟩
      exact ⟨c.sample, c.buff, hb, fun k hk => hat k (by omega)⟩
    · intro i cells hi
      have hi : s.readers i = some cells := hi
      rw [idle i] at hi
      cases hi
    · exact h.returned

omit [DecidableEq ι] in
/-- The bytes copied so far are those that are in the buffer now. -/
theorem Kept.next (h : Kept driver s) {i : ι} (hn : ¬races s (.copy i)) :
    let cells := (s.readers i).getD []
    ¬s.mixed ∧ cells.length < driver.size ∧ cells = (List.range cells.length).map s.data := by
  cases hi : s.readers i with
  | none => exact ⟨fun hm => hn ⟨hi, hm⟩, by have := size_pos driver; simp; omega, rfl⟩
  | some cells =>
    obtain ⟨hm, _, hl, hc⟩ := h.reading i cells hi
    exact ⟨hm, hl, hc⟩

theorem Kept.copy (h : Kept driver s) {i : ι} (hn : ¬races s (.copy i)) : Kept driver (s.copy driver i) := by
  obtain ⟨hm, hl, hc⟩ := h.next hn
  unfold Shared.copy
  dsimp only
  generalize (s.readers i).getD [] = cells at hl hc
  have hc' : cells ++ [s.data cells.length] = (List.range (cells.length + 1)).map s.data := by
    rw [List.range_succ, List.map_append, ← hc]
    rfl
  split
  · rename_i hlt
    refine ⟨h.admitted, h.numbers, h.commit, h.whole, fun j cells' hj => ?_, h.returned⟩
    dsimp only at hj
    rw [Function.update_apply] at hj
    split at hj
    · obtain rfl := Option.some.inj hj
      refine ⟨hm, by simp, hlt, ?_⟩
      rw [List.length_append, List.length_singleton]
      exact hc'
    · exact h.reading j cells' hj
  · rename_i hge
    have hsize : cells.length + 1 = driver.size := by
      simp at hge
      omega
    refine ⟨h.admitted, h.numbers, h.commit, h.whole, fun j cells' hj => ?_, ?_⟩
    · dsimp only at hj
      rw [Function.update_apply] at hj
      split at hj
      · cases hj
      · exact h.reading j cells' hj
    · intro r hr hz
      rcases List.mem_cons.1 hr with rfl | hr
      · -- the buffer was one sample all the time
        obtain ⟨n, buff, hb, hd⟩ := h.whole hm
        refine ⟨n, buff, hb, h.admitted buff (List.mem_of_getElem? hb), ?_⟩
        dsimp only
        rw [hc', hsize]
        exact List.map_congr_left fun k hk => hd k (List.mem_range.1 hk)
      · exact h.returned r hr hz

theorem ret_ne_zero {n : ℕ} (h : 0 < n) : driver.ret n ≠ 0 := by
  cases driver
  · simp [Driver.ret, ENOMEM]
    omega
  · simp [Driver.ret]
    omega

theorem Kept.fault (h : Kept driver s) (i : ι) : Kept driver (s.fault driver i) := by
  refine ⟨h.admitted, h.numbers, h.commit, h.whole, fun j cells hj => ?_, ?_⟩
  · unfold Shared.fault at hj
    dsimp only at hj
    rw [Function.update_apply] at hj
    split at hj
    · cases hj
    · exact h.reading j cells hj
  · intro r hr hz
    rcases List.mem_cons.1 hr with rfl | hr
    · -- a read that is cut short is not a success
      refine absurd hz (ret_ne_zero ?_)
      cases hi : s.readers i with
      | none =>
        have := size_pos driver
        simp
        omega
      | some cells =>
        obtain ⟨_, _, hl, _⟩ := h.reading i cells hi
        simp
        omega
    · exact h.returned r hr hz

theorem kept_step (s : Shared ι) (a : Act ι) (h : Kept driver s) (hn : ¬races s a) : Kept driver (s.step driver a) := by
  cases a with
  | work_callback present buff => exact h.work_callback present buff
  | store => exact h.store hn
  | copy i => exact h.copy hn
  | fault i => exact h.fault i

/-- While no read overlaps a commit, every successful read returns one admitted sample. -/
theorem reads_coherent (driver : Driver) (acts : List (Act ι))
    (h : Runs.Meets (Shared.step driver) (fun s a => ¬races s a) (Shared.start : Shared ι) acts) :
    ∀ s ∈ Runs.visited (Shared.step driver) (Shared.start : Shared ι) acts, Coherent driver s :=
  fun s hs => (h.visited_inv kept_step kept_start s hs).returned

/-- The bytes of 25.0625 and of 26 degrees. -/
def warm : ℕ → Byte := fun k => if k = 0 then 0x91#8 else 0x01#8

/-- 26 degrees. -/
def warmer : ℕ → Byte := fun k => if k = 0 then 0xa0#8 else 0x01#8

/-- Two conversions, a read after each. -/
theorem quiet_reads_coherent :
    Coherent .ds18b20 (Runs.run (Shared.step .ds18b20) (Shared.start : Shared (Fin 1))
      [.work_callback true warm, .store, .store, .copy 0, .copy 0,
        .work_callback true warmer, .store, .store, .copy 0, .copy 0]) :=
  reads_coherent .ds18b20 _ (by decide) _ (Runs.run_mem_visited _ _)

omit [DecidableEq ι] in
/-- All bytes of one sample carry its number. -/
theorem OneSample.same {cells : List Cell} (h : OneSample driver s cells) {c c' : Cell} (hc : c ∈ cells)
    (hc' : c' ∈ cells) : c.sample = c'.sample := by
  obtain ⟨n, buff, _, _, rfl⟩ := h
  obtain ⟨k, _, rfl⟩ := List.mem_map.1 hc
  obtain ⟨k', _, rfl⟩ := List.mem_map.1 hc'
  rfl

/-- The whole commit falls between the two bytes of a read, which returns
the low byte of one conversion with the high byte of the next. -/
theorem torn_read :
    ¬∀ s ∈ Runs.visited (Shared.step .ds18b20) (Shared.start : Shared (Fin 1))
        [.work_callback true warm, .store, .store, .copy 0,
          .work_callback true warmer, .store, .store, .copy 0],
      Coherent .ds18b20 s := by
  intro h
  have hc := h _ (Runs.run_mem_visited _ _) (0, [⟨0x91#8, 1⟩, ⟨0x01#8, 2⟩]) (by decide) rfl
  have low : (⟨0x91#8, 1⟩ : Cell) ∈ [⟨0x91#8, 1⟩, (⟨0x01#8, 2⟩ : Cell)] := List.mem_cons_self
  have high : (⟨0x01#8, 2⟩ : Cell) ∈ [⟨0x91#8, 1⟩, (⟨0x01#8, 2⟩ : Cell)] := List.mem_cons_of_mem _ List.mem_cons_self
  cases hc.same low high

/-! ## Every overlap can go wrong -/

/-- `copy_to_user` runs to its end. -/
theorem run_copies (i : ι) (n : ℕ) : ∀ (s : Shared ι) (cells : List Cell), (s.readers i).getD [] = cells →
    cells.length + (n + 1) = driver.size →
      (driver.ret 0, cells ++ (List.range (n + 1)).map fun k => s.data (cells.length + k)) ∈
        (Runs.run (Shared.step driver) s (List.replicate (n + 1) (.copy i))).returned := by
  induction n with
  | zero =>
    intro s cells hc hn
    have hge : ¬cells.length + 1 < driver.size := by omega
    simp [Shared.step, Shared.copy, hc, hge]
  | succ n ih =>
    intro s cells hc hn
    have hlt : (cells ++ [s.data cells.length]).length < driver.size := by simp; omega
    have hstep : s.step driver (.copy i) =
        { s with readers := Function.update s.readers i (some (cells ++ [s.data cells.length])) } := by
      simp only [Shared.step, Shared.copy, hc, hlt, if_true]
    rw [List.replicate_succ, Runs.run_cons, hstep]
    have h := ih { s with readers := Function.update s.readers i (some (cells ++ [s.data cells.length])) }
      (cells ++ [s.data cells.length]) (by simp) (by simp; omega)
    rw [List.range_succ_eq_map (n := n + 1)]
    simpa [Nat.add_assoc, Nat.add_comm 1, Function.comp_def] using h

variable (driver) in
/-- A commit runs to its end. -/
theorem run_stores (n : ℕ) : ∀ (s : Shared ι) (c : Commit), s.work = some c → c.stored + n = driver.size →
    0 < n →
      let s' := Runs.run (Shared.step driver) s (List.replicate n .store)
      s'.readers = s.readers ∧ (s'.data (driver.size - 1)).sample = c.sample := by
  induction n with
  | zero =>
    intro _ _ _ _ h0
    exact absurd h0 (Nat.lt_irrefl 0)
  | succ n ih =>
    intro s c hw hn _
    have hstep : s.step driver .store = { s with
        data := Function.update s.data c.stored ⟨c.buff c.stored, c.sample⟩
        work := if c.stored + 1 < driver.size then some { c with stored := c.stored + 1 } else none } := by
      simp only [Shared.step, Shared.store, hw]
    rw [List.replicate_succ, Runs.run_cons, hstep]
    rcases Nat.eq_zero_or_pos n with rfl | hpos
    · have hlast : driver.size - 1 = c.stored := by omega
      simp [hlast]
    · exact ih _ { c with stored := c.stored + 1 } (if_pos (by omega)) (by dsimp only; omega) hpos

/-- A read that ends with a byte of another sample than it began with is not coherent. -/
theorem not_coherent_of_copies {i : ι} {cells : List Cell} {n : ℕ} (hc : (s.readers i).getD [] = cells)
    (hn : cells.length + (n + 1) = driver.size) {c : Cell}
    (hm : c ∈ cells ++ (List.range n).map fun k => s.data (cells.length + k))
    (hne : c.sample ≠ (s.data (driver.size - 1)).sample) :
    ¬Coherent driver (Runs.run (Shared.step driver) s (List.replicate (n + 1) (.copy i))) := by
  intro h
  have hret : driver.ret 0 = 0 := by cases driver <;> rfl
  have hone := h _ (run_copies i n s cells hc hn) hret
  have hlast : cells.length + n = driver.size - 1 := by omega
  refine hne (hone.same (c := c) ?_ ?_)
  · rw [List.range_succ, List.map_append, ← List.append_assoc]
    exact List.mem_append_left _ hm
  · rw [List.range_succ, List.map_append, ← List.append_assoc, ← hlast]
    exact List.mem_append_right _ List.mem_cons_self

/-- After an overlap the commit and the read only have to go on. -/
theorem race_breaks (h : Kept driver s) {a : Act ι} (hr : races s a) :
    ∃ acts, ¬Coherent driver (Runs.run (Shared.step driver) s (a :: acts)) := by
  have hsize := size_pos driver
  cases a with
  | work_callback => exact absurd hr id
  | fault => exact absurd hr id
  | store =>
    obtain ⟨hw, i, hi⟩ := hr
    obtain ⟨c, hw⟩ := Option.isSome_iff_exists.1 hw
    obtain ⟨cells, hi⟩ := Option.isSome_iff_exists.1 hi
    obtain ⟨_, hlt, _, hold⟩ := h.commit c hw
    obtain ⟨hm, hne, hl, hcells⟩ := h.reading i cells hi
    have h0 : c.stored = 0 := by
      by_contra h0
      exact hm ⟨c, hw, Nat.pos_of_ne_zero h0⟩
    obtain ⟨hreaders, hlast⟩ := run_stores driver driver.size s c hw (by omega) (by omega)
    -- the first byte copied is older than the commit
    have hfirst : s.data 0 ∈ cells := by
      rw [hcells]
      exact List.mem_map.2 ⟨0, List.mem_range.2 (List.length_pos_iff.2 hne), rfl⟩
    refine ⟨List.replicate (driver.size - 1) .store ++
      List.replicate (driver.size - cells.length - 1 + 1) (.copy i), ?_⟩
    rw [← List.cons_append, ← List.replicate_succ, Nat.sub_add_cancel (by omega), Runs.run_append]
    have hnext : ((Runs.run (Shared.step driver) s (List.replicate driver.size .store)).readers i).getD [] = cells := by
      rw [hreaders, hi]
      rfl
    refine not_coherent_of_copies (c := s.data 0) hnext (by omega) (List.mem_append_left _ hfirst) ?_
    rw [hlast]
    exact Nat.ne_of_lt (hold 0 (by omega) (by omega))
  | copy i =>
    obtain ⟨hi, c, hw, hpos⟩ := hr
    obtain ⟨_, hlt, hnew, hold⟩ := h.commit c hw
    refine ⟨List.replicate (driver.size - 1) (.copy i), ?_⟩
    rw [← List.replicate_succ]
    have hnone : (s.readers i).getD [] = [] := by
      rw [hi]
      rfl
    refine not_coherent_of_copies (c := s.data 0) hnone (by simp; omega) ?_ ?_
    · exact List.mem_append_right _ (List.mem_map.2 ⟨0, List.mem_range.2 (by omega), rfl⟩)
    · -- the first byte is stored, the last one is not
      rw [hnew 0 hpos]
      exact Nat.ne_of_gt (hold (driver.size - 1) (by omega) (by omega))

end Sensor
