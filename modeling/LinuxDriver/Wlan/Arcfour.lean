import LinuxDriver.Lib.Crc
import Mathlib.Logic.Equiv.Basic
import Mathlib.Tactic.Common
/-!
# The stream cipher and the check sum

`arcfour_*` and `getcrc32` of the wireless driver, which WEP and TKIP share.
-/

namespace Wlan

/-- The state of the cipher. -/
structure arc4context where
  x : Byte
  y : Byte
  state : Vector Byte 256

/-- An entry of the permutation. -/
def state_at (state : Vector Byte 256) (i : Byte) : Byte := state.get i.toFin

/-- The two entries change places. -/
def state_swap (state : Vector Byte 256) (i j : Byte) : Vector Byte 256 :=
  let t := state_at state i
  let u := state_at state j
  (state.set j.toFin t).set i.toFin u

/-- One turn of the second loop of `arcfour_init`: the state, `keyindex` and `stateindex`. -/
def arcfour_init_turn (key : List Byte) (key_len : ℕ) (s : Vector Byte 256 × ℕ × Byte) (counter : ℕ) :
    Vector Byte 256 × ℕ × Byte :=
  let c := BitVec.ofNat 8 counter
  let t := state_at s.1 c
  let stateindex := s.2.2 + key.getD s.2.1 0 + t
  let keyindex := if s.2.1 + 1 ≥ key_len then 0 else s.2.1 + 1
  (state_swap s.1 c stateindex, keyindex, stateindex)

/-- The key setup, from the identity. -/
def arcfour_init (key : List Byte) (key_len : ℕ) : arc4context :=
  let state : Vector Byte 256 := Vector.ofFn fun i => BitVec.ofFin i
  let s := (List.range 256).foldl (arcfour_init_turn key key_len) (state, 0, 0)
  { x := 0, y := 0, state := s.1 }

/-- One byte of the key stream. -/
def arcfour_byte (c : arc4context) : arc4context × Byte :=
  let x := c.x + 1
  let sx := state_at c.state x
  let y := sx + c.y
  let sy := state_at c.state y
  let state := state_swap c.state x y
  ({ x := x, y := y, state := state }, state_at state (sx + sy))

/-- The context after the bytes of `src`, and what is left at `dest`. -/
def arcfour_encrypt : arc4context → List Byte → arc4context × List Byte
  | c, [] => (c, [])
  | c, b :: src =>
    let r := arcfour_byte c
    let rest := arcfour_encrypt r.1 src
    (rest.1, (b ^^^ r.2) :: rest.2)

def CRC32_POLY : Word := 0x04c11db7

/-- The bits of a byte in the other order. -/
def crc32_reverseBit (data : Byte) : Byte :=
  ((data <<< 7) &&& (0x80 : Byte)) ||| ((data <<< 5) &&& (0x40 : Byte)) ||| ((data <<< 3) &&& (0x20 : Byte)) |||
  ((data <<< 1) &&& (0x10 : Byte)) ||| ((data >>> 1) &&& (0x08 : Byte)) ||| ((data >>> 3) &&& (0x04 : Byte)) |||
  ((data >>> 5) &&& (0x02 : Byte)) ||| ((data >>> 7) &&& (0x01 : Byte))

/-- The inner loop of `crc32_init`. -/
def crc32_shift : ℕ → Word → Word
  | 0, c => c
  | j + 1, c => crc32_shift j (if c &&& (0x80000000 : Word) ≠ 0 then (c <<< 1) ^^^ CRC32_POLY else c <<< 1)

/-- What `crc32_init` makes of an index: the bytes of `c` reversed, and their bits. -/
def crc32_entry (i : Byte) : Word :=
  let c := crc32_shift 8 ((crc32_reverseBit i).setWidth 32 <<< 24)
  Words.word (crc32_reverseBit (c.setWidth 8)) (crc32_reverseBit ((c >>> 8).setWidth 8))
    (crc32_reverseBit ((c >>> 16).setWidth 8)) (crc32_reverseBit ((c >>> 24).setWidth 8))

/-- The table that `crc32_init` fills. -/
def crc32_table : List Word := (List.range 256).map fun i => crc32_entry (BitVec.ofNat 8 i)

/-- The register after `buf`, before it is complemented. -/
def crc32_run (buf : List Byte) : Word :=
  buf.foldl (fun crc p => crc32_table.getD ((crc ^^^ p.setWidth 32) &&& (0xff : Word)).toNat 0 ^^^ (crc >>> 8)) 0xffffffff

/-- The check sum as it stands in memory, lowest byte first. -/
def getcrc32 (buf : List Byte) : List Byte :=
  let crc := ~~~ crc32_run buf
  [crc.setWidth 8, (crc >>> 8).setWidth 8, (crc >>> 16).setWidth 8, (crc >>> 24).setWidth 8]

/-! ## The state stays a permutation -/

theorem state_at_set (s : Vector Byte 256) (i : Byte) (v : Byte) (k : Byte) :
    state_at (s.set i.toFin v) k = if k = i then v else state_at s k := by
  have lt (b : Byte) : b.toFin.val < 256 := b.isLt
  refine (@Vector.getElem_set Byte 256 s i.toFin.val v (lt i) k.toFin.val (lt k)).trans ?_
  by_cases h : k = i
  · rw [if_pos h, if_pos (by rw [h])]
  · rw [if_neg h, if_neg fun e => h (BitVec.eq_of_toNat_eq e.symm)]
    rfl

theorem state_at_swap (s : Vector Byte 256) (i j k : Byte) :
    state_at (state_swap s i j) k = state_at s (Equiv.swap i j k) := by
  rw [state_swap, state_at_set, state_at_set, Equiv.swap_apply_def]
  split
  · rfl
  · split <;> rfl

/-- Every byte stands in the state once. -/
def Shuffled (s : Vector Byte 256) : Prop := Function.Injective (state_at s)

theorem Shuffled.swap {s : Vector Byte 256} (h : Shuffled s) (i j : Byte) : Shuffled (state_swap s i j) := by
  intro a b e
  rw [state_at_swap, state_at_swap] at e
  exact (Equiv.swap i j).injective (h e)

theorem arcfour_init_shuffled (key : List Byte) (key_len : ℕ) : Shuffled (arcfour_init key key_len).state := by
  have start : Shuffled (Vector.ofFn fun i : Fin 256 => (BitVec.ofFin i : Byte)) := by
    have at_self (a : Byte) : state_at (Vector.ofFn fun i : Fin 256 => (BitVec.ofFin i : Byte)) a = a := by
      exact Vector.getElem_ofFn a.isLt
    intro a b e
    rwa [at_self, at_self] at e
  have run (l : List ℕ) (s : Vector Byte 256 × ℕ × Byte) (h : Shuffled s.1) :
      Shuffled (l.foldl (arcfour_init_turn key key_len) s).1 := by
    induction l generalizing s with
    | nil => exact h
    | cons c l ih => exact ih _ (h.swap _ _)
  exact run _ _ start

theorem arcfour_encrypt_shuffled {c : arc4context} (h : Shuffled c.state) (src : List Byte) :
    Shuffled (arcfour_encrypt c src).1.state := by
  induction src generalizing c with
  | nil => exact h
  | cons b src ih => exact ih (h.swap _ _)

theorem arcfour_encrypt_x (c : arc4context) (src : List Byte) :
    (arcfour_encrypt c src).1.x = c.x + BitVec.ofNat 8 src.length := by
  induction src generalizing c with
  | nil => simp [arcfour_encrypt]
  | cons b src ih =>
    rw [arcfour_encrypt, ih, List.length_cons, BitVec.ofNat_add, BitVec.add_comm (BitVec.ofNat 8 src.length), ← BitVec.add_assoc]
    rfl

/-- Whatever the key and however much was ciphered, the state is a permutation of the bytes
and the first index counts the bytes ciphered. -/
theorem arcfour_permutation (key : List Byte) (key_len : ℕ) (src : List Byte) :
    Function.Injective (state_at (arcfour_encrypt (arcfour_init key key_len) src).1.state) ∧
    (arcfour_encrypt (arcfour_init key key_len) src).1.x = BitVec.ofNat 8 src.length := by
  refine ⟨arcfour_encrypt_shuffled (arcfour_init_shuffled key key_len) src, ?_⟩
  rw [arcfour_encrypt_x]
  exact BitVec.zero_add _

/-! ## The keystream -/

/-- The next `n` bytes of the keystream. -/
def arcfour_bytes : arc4context → ℕ → List Byte
  | _, 0 => []
  | c, n + 1 => (arcfour_byte c).2 :: arcfour_bytes (arcfour_byte c).1 n

@[simp] theorem length_arcfour_bytes (c : arc4context) (n : ℕ) : (arcfour_bytes c n).length = n := by
  induction n generalizing c with
  | zero => rfl
  | succ n ih => simp [arcfour_bytes, ih]

theorem arcfour_encrypt_eq (c : arc4context) (src : List Byte) :
    (arcfour_encrypt c src).2 = List.zipWith (· ^^^ ·) src (arcfour_bytes c src.length) := by
  induction src generalizing c with
  | nil => rfl
  | cons b src ih => rw [arcfour_encrypt, List.length_cons, arcfour_bytes, List.zipWith_cons_cons, ← ih]

@[simp] theorem length_arcfour_encrypt (c : arc4context) (src : List Byte) :
    (arcfour_encrypt c src).2.length = src.length := by
  simp [arcfour_encrypt_eq]

/-- Two calls in a row are one call on the two texts in a row. -/
theorem arcfour_encrypt_append (c : arc4context) (src more : List Byte) :
    (arcfour_encrypt c (src ++ more)).2 =
      (arcfour_encrypt c src).2 ++ (arcfour_encrypt (arcfour_encrypt c src).1 more).2 := by
  induction src generalizing c with
  | nil => rfl
  | cons b src ih =>
    rw [List.cons_append, arcfour_encrypt, arcfour_encrypt]
    exact congrArg _ (ih _)

theorem zipWith_xor_twice (l k : List Byte) (h : l.length = k.length) :
    List.zipWith (· ^^^ ·) (List.zipWith (· ^^^ ·) l k) k = l := by
  induction l generalizing k with
  | nil => rfl
  | cons b l ih =>
    cases k with
    | nil => cases h
    | cons a k =>
      rw [List.zipWith_cons_cons, List.zipWith_cons_cons, ih k (by simpa using h), BitVec.xor_assoc, BitVec.xor_self,
        BitVec.xor_zero]

/-- Ciphering twice from one context gives the text back. -/
theorem arcfour_encrypt_twice (c : arc4context) (src : List Byte) :
    (arcfour_encrypt c (arcfour_encrypt c src).2).2 = src := by
  rw [arcfour_encrypt_eq c (arcfour_encrypt c src).2, length_arcfour_encrypt, arcfour_encrypt_eq c src]
  exact zipWith_xor_twice _ _ (by simp)

/-- The context after a text tells its length only. -/
theorem arcfour_encrypt_context (c : arc4context) {src src' : List Byte} (h : src.length = src'.length) :
    (arcfour_encrypt c src).1 = (arcfour_encrypt c src').1 := by
  induction src generalizing c src' with
  | nil => rw [List.length_eq_zero_iff.1 h.symm]
  | cons b src ih =>
    cases src' with
    | nil => cases h
    | cons b' src' => exact ih _ (by simpa using h)

theorem arcfour_encrypt_inj {c : arc4context} {src src' : List Byte}
    (h : (arcfour_encrypt c src).2 = (arcfour_encrypt c src').2) : src = src' := by
  rw [← arcfour_encrypt_twice c src, h, arcfour_encrypt_twice]

/-! ## The check sum -/

/-- `CRC32_POLY` with its bits the other way round. -/
def reflected : Word := 0xedb88320

theorem crc32_entry_eq (i : Byte) : crc32_entry i = Crc.turn reflected (i.setWidth 32) := by
  have all : ∀ n : Fin 256, crc32_entry (BitVec.ofFin n) = Crc.turn reflected ((BitVec.ofFin n : Byte).setWidth 32) := by
    decide +kernel
  exact all i.toFin

/-- The table does what the polynomial does, one byte at a time. -/
theorem crc32_run_eq (buf : List Byte) : crc32_run buf = buf.foldl (Crc.feed reflected) 0xffffffff := by
  have step (crc : Word) (p : Byte) : crc32_table.getD ((crc ^^^ p.setWidth 32) &&& (0xff : Word)).toNat 0 ^^^ (crc >>> 8) =
      Crc.feed reflected crc p := by
    have entry : crc32_table.getD ((crc ^^^ p.setWidth 32) &&& (0xff : Word)).toNat 0 =
        crc32_entry ((crc ^^^ p.setWidth 32).setWidth 8) := by
      rw [Words.low_byte]
      have lt := ((crc ^^^ p.setWidth 32).setWidth 8).isLt
      simp only [crc32_table, List.getD_eq_getElem?_getD, List.getElem?_map, List.getElem?_range lt, Option.map_some,
        Option.getD_some, BitVec.ofNat_toNat, BitVec.setWidth_eq]
    have mask : ((crc ^^^ p.setWidth 32).setWidth 8).setWidth 32 = (crc ^^^ p.setWidth 32) &&& (0xff : Word) := by
      apply BitVec.eq_of_toNat_eq
      rw [Words.low_byte, BitVec.toNat_setWidth]
      exact Nat.mod_eq_of_lt (Nat.lt_of_lt_of_le ((crc ^^^ p.setWidth 32).setWidth 8).isLt (by decide))
    have high : (crc ^^^ p.setWidth 32) >>> 8 = crc >>> 8 := by
      apply BitVec.eq_of_getLsbD_eq
      intro i hi
      simp
    rw [entry, crc32_entry_eq, mask, Crc.feed, Crc.turn_eq reflected (crc ^^^ p.setWidth 32), high]
  rw [crc32_run]
  exact congrFun (congrFun (congrArg List.foldl (funext fun c => funext (step c))) _) buf

theorem pack_bytes (w : Word) :
    Crc.pack [w.setWidth 8, (w >>> 8).setWidth 8, (w >>> 16).setWidth 8, (w >>> 24).setWidth 8] = w := by
  apply BitVec.eq_of_getLsbD_eq
  intro i hi
  simp only [Crc.pack, BitVec.getLsbD_xor, BitVec.getLsbD_setWidth, BitVec.getLsbD_shiftLeft, BitVec.getLsbD_ushiftRight]
  grind

theorem reflected_top : reflected.getLsbD 31 = true := by decide

/-- A check sum is right exactly when it takes the register to one fixed value. -/
theorem getcrc32_eq_iff (body icv : List Byte) (h : icv.length = 4) :
    getcrc32 body = icv ↔
      (body ++ icv).foldl (Crc.feed reflected) 0xffffffff = (Crc.turn reflected)^[4] 0xffffffff := by
  rw [List.foldl_append, Crc.foldl_feed_eq _ icv (by omega), h, ← crc32_run_eq,
    ((Crc.turn_injective reflected_top).iterate 4).eq_iff]
  have ones : (0xffffffff : Word) = BitVec.allOnes 32 := by decide
  have flip : crc32_run body ^^^ Crc.pack icv = 0xffffffff ↔ Crc.pack icv = ~~~ crc32_run body := by
    rw [← BitVec.xor_right_inj (crc32_run body), ← BitVec.xor_assoc, BitVec.xor_self, BitVec.zero_xor, ones,
      BitVec.xor_allOnes]
  rw [flip]
  constructor
  · rintro rfl
    exact pack_bytes _
  · intro e
    refine (Crc.pack_injective (by omega) h ?_).symm
    rw [e]
    exact (pack_bytes _).symm

/-- What stands before its own check sum. -/
def checked (l : List Byte) : Prop := getcrc32 (l.take (l.length - 4)) = l.drop (l.length - 4)

theorem checked_iff {l : List Byte} (h : 4 ≤ l.length) :
    checked l ↔ l.foldl (Crc.feed reflected) 0xffffffff = (Crc.turn reflected)^[4] 0xffffffff := by
  rw [checked, getcrc32_eq_iff _ _ (by simp; omega), List.take_append_drop]

/-- Damage within four bytes, check sum included, is noticed. -/
theorem checked_burst {before x x' after : List Byte} (hx : x.length ≤ 4) (same : x.length = x'.length)
    (h4 : 4 ≤ (before ++ x ++ after).length) (h : checked (before ++ x ++ after)) (h' : checked (before ++ x' ++ after)) :
    x = x' := by
  rw [checked_iff h4] at h
  rw [checked_iff (by simp at h4 ⊢; omega)] at h'
  exact Crc.burst_shows reflected_top hx same (h.trans h'.symm)

end Wlan
