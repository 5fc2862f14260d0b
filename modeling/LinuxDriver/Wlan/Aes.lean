import LinuxDriver.Lib.Words
import Mathlib.Logic.Function.Basic
/-!
# The block cipher

The wireless driver has it twice: `aes128k128d`, byte by byte, for the frame
ciphers, and `rijndaelEncrypt`, by table, for the message authentication codes.
They agree for every key and every text.
-/

namespace Wlan

/-- Four bytes of a block. -/
abbrev Column := Vector Byte 4

/-- A block of AES. -/
abbrev Block := Vector Byte 16

/-- The source's table of the substitution. -/
def sbox_table : List Byte := [
  0x63, 0x7c, 0x77, 0x7b, 0xf2, 0x6b, 0x6f, 0xc5, 0x30, 0x01, 0x67, 0x2b, 0xfe, 0xd7, 0xab, 0x76,
  0xca, 0x82, 0xc9, 0x7d, 0xfa, 0x59, 0x47, 0xf0, 0xad, 0xd4, 0xa2, 0xaf, 0x9c, 0xa4, 0x72, 0xc0,
  0xb7, 0xfd, 0x93, 0x26, 0x36, 0x3f, 0xf7, 0xcc, 0x34, 0xa5, 0xe5, 0xf1, 0x71, 0xd8, 0x31, 0x15,
  0x04, 0xc7, 0x23, 0xc3, 0x18, 0x96, 0x05, 0x9a, 0x07, 0x12, 0x80, 0xe2, 0xeb, 0x27, 0xb2, 0x75,
  0x09, 0x83, 0x2c, 0x1a, 0x1b, 0x6e, 0x5a, 0xa0, 0x52, 0x3b, 0xd6, 0xb3, 0x29, 0xe3, 0x2f, 0x84,
  0x53, 0xd1, 0x00, 0xed, 0x20, 0xfc, 0xb1, 0x5b, 0x6a, 0xcb, 0xbe, 0x39, 0x4a, 0x4c, 0x58, 0xcf,
  0xd0, 0xef, 0xaa, 0xfb, 0x43, 0x4d, 0x33, 0x85, 0x45, 0xf9, 0x02, 0x7f, 0x50, 0x3c, 0x9f, 0xa8,
  0x51, 0xa3, 0x40, 0x8f, 0x92, 0x9d, 0x38, 0xf5, 0xbc, 0xb6, 0xda, 0x21, 0x10, 0xff, 0xf3, 0xd2,
  0xcd, 0x0c, 0x13, 0xec, 0x5f, 0x97, 0x44, 0x17, 0xc4, 0xa7, 0x7e, 0x3d, 0x64, 0x5d, 0x19, 0x73,
  0x60, 0x81, 0x4f, 0xdc, 0x22, 0x2a, 0x90, 0x88, 0x46, 0xee, 0xb8, 0x14, 0xde, 0x5e, 0x0b, 0xdb,
  0xe0, 0x32, 0x3a, 0x0a, 0x49, 0x06, 0x24, 0x5c, 0xc2, 0xd3, 0xac, 0x62, 0x91, 0x95, 0xe4, 0x79,
  0xe7, 0xc8, 0x37, 0x6d, 0x8d, 0xd5, 0x4e, 0xa9, 0x6c, 0x56, 0xf4, 0xea, 0x65, 0x7a, 0xae, 0x08,
  0xba, 0x78, 0x25, 0x2e, 0x1c, 0xa6, 0xb4, 0xc6, 0xe8, 0xdd, 0x74, 0x1f, 0x4b, 0xbd, 0x8b, 0x8a,
  0x70, 0x3e, 0xb5, 0x66, 0x48, 0x03, 0xf6, 0x0e, 0x61, 0x35, 0x57, 0xb9, 0x86, 0xc1, 0x1d, 0x9e,
  0xe1, 0xf8, 0x98, 0x11, 0x69, 0xd9, 0x8e, 0x94, 0x9b, 0x1e, 0x87, 0xe9, 0xce, 0x55, 0x28, 0xdf,
  0x8c, 0xa1, 0x89, 0x0d, 0xbf, 0xe6, 0x42, 0x68, 0x41, 0x99, 0x2d, 0x0f, 0xb0, 0x54, 0xbb, 0x16]

/-- The inverse of `sbox_table`, as the driver carries it. -/
def Td4s : List Byte := [
  0x52, 0x09, 0x6a, 0xd5, 0x30, 0x36, 0xa5, 0x38, 0xbf, 0x40, 0xa3, 0x9e, 0x81, 0xf3, 0xd7, 0xfb,
  0x7c, 0xe3, 0x39, 0x82, 0x9b, 0x2f, 0xff, 0x87, 0x34, 0x8e, 0x43, 0x44, 0xc4, 0xde, 0xe9, 0xcb,
  0x54, 0x7b, 0x94, 0x32, 0xa6, 0xc2, 0x23, 0x3d, 0xee, 0x4c, 0x95, 0x0b, 0x42, 0xfa, 0xc3, 0x4e,
  0x08, 0x2e, 0xa1, 0x66, 0x28, 0xd9, 0x24, 0xb2, 0x76, 0x5b, 0xa2, 0x49, 0x6d, 0x8b, 0xd1, 0x25,
  0x72, 0xf8, 0xf6, 0x64, 0x86, 0x68, 0x98, 0x16, 0xd4, 0xa4, 0x5c, 0xcc, 0x5d, 0x65, 0xb6, 0x92,
  0x6c, 0x70, 0x48, 0x50, 0xfd, 0xed, 0xb9, 0xda, 0x5e, 0x15, 0x46, 0x57, 0xa7, 0x8d, 0x9d, 0x84,
  0x90, 0xd8, 0xab, 0x00, 0x8c, 0xbc, 0xd3, 0x0a, 0xf7, 0xe4, 0x58, 0x05, 0xb8, 0xb3, 0x45, 0x06,
  0xd0, 0x2c, 0x1e, 0x8f, 0xca, 0x3f, 0x0f, 0x02, 0xc1, 0xaf, 0xbd, 0x03, 0x01, 0x13, 0x8a, 0x6b,
  0x3a, 0x91, 0x11, 0x41, 0x4f, 0x67, 0xdc, 0xea, 0x97, 0xf2, 0xcf, 0xce, 0xf0, 0xb4, 0xe6, 0x73,
  0x96, 0xac, 0x74, 0x22, 0xe7, 0xad, 0x35, 0x85, 0xe2, 0xf9, 0x37, 0xe8, 0x1c, 0x75, 0xdf, 0x6e,
  0x47, 0xf1, 0x1a, 0x71, 0x1d, 0x29, 0xc5, 0x89, 0x6f, 0xb7, 0x62, 0x0e, 0xaa, 0x18, 0xbe, 0x1b,
  0xfc, 0x56, 0x3e, 0x4b, 0xc6, 0xd2, 0x79, 0x20, 0x9a, 0xdb, 0xc0, 0xfe, 0x78, 0xcd, 0x5a, 0xf4,
  0x1f, 0xdd, 0xa8, 0x33, 0x88, 0x07, 0xc7, 0x31, 0xb1, 0x12, 0x10, 0x59, 0x27, 0x80, 0xec, 0x5f,
  0x60, 0x51, 0x7f, 0xa9, 0x19, 0xb5, 0x4a, 0x0d, 0x2d, 0xe5, 0x7a, 0x9f, 0x93, 0xc9, 0x9c, 0xef,
  0xa0, 0xe0, 0x3b, 0x4d, 0xae, 0x2a, 0xf5, 0xb0, 0xc8, 0xeb, 0xbb, 0x3c, 0x83, 0x53, 0x99, 0x61,
  0x17, 0x2b, 0x04, 0x7e, 0xba, 0x77, 0xd6, 0x26, 0xe1, 0x69, 0x14, 0x63, 0x55, 0x21, 0x0c, 0x7d]

/-- The substitution of one byte. -/
def sbox (a : Byte) : Byte := sbox_table.getD a.toNat 0

/-- Byte by byte. -/
def xor_128 (a b : Block) : Block := Vector.ofFn fun i => a[i] ^^^ b[i]

/-- Byte by byte. -/
def xor_32 (a b : Column) : Column := Vector.ofFn fun i => a[i] ^^^ b[i]

/-- The source's round constants. -/
def rcon_table : List Byte := [0x01, 0x02, 0x04, 0x08, 0x10, 0x20, 0x40, 0x80, 0x1b, 0x36, 0x36, 0x36]

/-- The four bytes from `&b[4 * i]` on. -/
def column (b : Block) (i : Fin 4) : Column := Vector.ofFn fun j => b[4 * i.val + j.val]

/-- The block with these columns. -/
def of_columns (c0 c1 c2 c3 : Column) : Block := #v[
  c0[0], c0[1], c0[2], c0[3], c1[0], c1[1], c1[2], c1[3],
  c2[0], c2[1], c2[2], c2[3], c3[0], c3[1], c3[2], c3[3]]

/-- The next round's key. -/
def next_key (key : Block) (round : ℕ) : Block :=
  let sbox_key : Column := #v[sbox key[13], sbox key[14], sbox key[15], sbox key[12]]
  let rcon := rcon_table.getD round 0
  let key0 := xor_32 (column key 0) sbox_key
  let key0 : Column := #v[key0[0] ^^^ rcon, key0[1], key0[2], key0[3]]
  let key4 := xor_32 (column key 1) key0
  let key8 := xor_32 (column key 2) key4
  let key12 := xor_32 (column key 3) key8
  of_columns key0 key4 key8 key12

/-- The substitution of every byte. -/
def byte_sub (b : Block) : Block := Vector.ofFn fun i => sbox b[i]

/-- Row `i` of the columns is turned by `i`. -/
def shift_row (b : Block) : Block := #v[
  b[0], b[5], b[10], b[15], b[4], b[9], b[14], b[3],
  b[8], b[13], b[2], b[7], b[12], b[1], b[6], b[11]]

/-- What the first loop of `mix_column` notes of a byte. -/
def add1b (a : Byte) : Byte := if a &&& 0x80 = 0x80 then 0x1b else 0x00

/-- A byte shifted left takes the top bit of the byte below. -/
def shift_in (below a : Byte) : Byte := if below &&& 0x80 = 0x80 then (a <<< 1) ||| 0x01 else a <<< 1

/-- The mixing of one column, by shifts, masks and rotations. -/
def mix_column (b : Column) : Column :=
  let add1b : Column := #v[add1b b[0], add1b b[1], add1b b[2], add1b b[3]]
  let swap_halfs : Column := #v[b[2], b[3], b[0], b[1]]
  let rotl : Column := #v[b[3], b[0], b[1], b[2]]
  let andf7 : Column := #v[b[0] &&& 0x7f, b[1] &&& 0x7f, b[2] &&& 0x7f, b[3] &&& 0x7f]
  let andf7 : Column := #v[(andf7[0] <<< 1) &&& 0xfe,
    shift_in andf7[0] andf7[1], shift_in andf7[1] andf7[2], shift_in andf7[2] andf7[3]]
  let add1bf7 := xor_32 add1b andf7
  let rotr := xor_32 b add1bf7
  let rotr : Column := #v[rotr[1], rotr[2], rotr[3], rotr[0]]
  let temp := xor_32 add1bf7 rotr
  let tempb := xor_32 swap_halfs rotl
  xor_32 temp tempb

/-- The four calls of `mix_column`. -/
def mix_columns (b : Block) : Block :=
  of_columns (mix_column (column b 0)) (mix_column (column b 1)) (mix_column (column b 2)) (mix_column (column b 3))

/-- One turn of the loop: the round key and the text so far. -/
def aes_round (data : Block) (s : Block × Block) (round : ℕ) : Block × Block :=
  let (round_key, ciphertext) := s
  if round = 0 then (next_key round_key round, xor_128 round_key data)
  else if round = 10 then (round_key, xor_128 (shift_row (byte_sub ciphertext)) round_key)
  else
    let ciphertext := xor_128 (mix_columns (shift_row (byte_sub ciphertext))) round_key
    (next_key round_key round, ciphertext)

/-- The eleven rounds on a key and a block. -/
def aes128k128d (key data : Block) : Block :=
  ((List.range 11).foldl (aes_round data) (key, data)).2

/-! ## One text for each ciphertext -/

theorem Td4s_sbox (a : Byte) : Td4s.getD (sbox a).toNat 0 = a := by
  have h : ∀ n : Fin 256, Td4s.getD (sbox (BitVec.ofFin n)).toNat 0 = BitVec.ofFin n := by decide +kernel
  exact h a.toFin

theorem sbox_injective : Function.Injective sbox := by
  intro a b h
  rw [← Td4s_sbox a, h, Td4s_sbox b]

@[simp] theorem getElem_xor_128 (a b : Block) (i : ℕ) (h : i < 16) : (xor_128 a b)[i] = a[i] ^^^ b[i] := by
  simp [xor_128]

@[simp] theorem getElem_xor_32 (a b : Column) (i : ℕ) (h : i < 4) : (xor_32 a b)[i] = a[i] ^^^ b[i] := by
  simp [xor_32]

@[simp] theorem getElem_byte_sub (b : Block) (i : ℕ) (h : i < 16) : (byte_sub b)[i] = sbox b[i] := by
  simp [byte_sub]

/-- Doubling a byte in the field of the cipher. -/
def xtime (a : Byte) : Byte := add1b a ^^^ (a <<< 1)

theorem shift_and (a : Byte) : (a &&& (0x7f : Byte)) <<< 1 = a <<< 1 := by
  have h : ∀ n : Fin 256, (BitVec.ofFin n &&& (0x7f : Byte)) <<< 1 = BitVec.ofFin n <<< 1 := by decide +kernel
  exact h a.toFin

theorem even_shift (a : Byte) : (a <<< 1) &&& (0xfe : Byte) = a <<< 1 := by
  have h : ∀ n : Fin 256, (BitVec.ofFin n <<< 1) &&& (0xfe : Byte) = BitVec.ofFin n <<< 1 := by decide +kernel
  exact h a.toFin

/-- No bit is carried from one byte into the next: the top bits are masked off first. -/
theorem shift_in_and (a b : Byte) : shift_in (a &&& (0x7f : Byte)) b = b <<< 1 := by
  rw [shift_in, BitVec.and_assoc]
  simp

/-- A byte of a mixed column: its own double, three times the next one, and the other two. -/
def mixed (a b c d : Byte) : Byte := xtime a ^^^ (b ^^^ xtime b) ^^^ (c ^^^ d)

theorem mix_column_eq (b : Column) : mix_column b = #v[mixed b[0] b[1] b[2] b[3], mixed b[1] b[2] b[3] b[0],
    mixed b[2] b[3] b[0] b[1], mixed b[3] b[0] b[1] b[2]] := by
  apply Vector.ext
  intro i hi
  have : i = 0 ∨ i = 1 ∨ i = 2 ∨ i = 3 := by omega
  rcases this with rfl | rfl | rfl | rfl <;>
    simp only [mix_column, getElem_xor_32, Vector.getElem_mk, List.getElem_toArray, List.getElem_cons_zero,
      List.getElem_cons_succ, shift_in_and, even_shift, shift_and, xtime, mixed]

theorem add1b_xor (a b : Byte) : add1b (a ^^^ b) = add1b a ^^^ add1b b := by
  have top : ∀ x : Byte, x &&& (0x80 : Byte) = 0x80 ∨ x &&& (0x80 : Byte) = 0 := by
    have h : ∀ n : Fin 256, BitVec.ofFin n &&& (0x80 : Byte) = 0x80 ∨ BitVec.ofFin n &&& (0x80 : Byte) = 0 := by
      decide +kernel
    exact fun x => h x.toFin
  have e : (a ^^^ b) &&& (0x80 : Byte) = (a &&& (0x80 : Byte)) ^^^ (b &&& (0x80 : Byte)) := by
    apply BitVec.eq_of_getLsbD_eq
    intro i hi
    simp only [BitVec.getLsbD_xor, BitVec.getLsbD_and]
    exact Bool.and_xor_distrib_right ..
  unfold add1b
  rw [e]
  rcases top a with ha | ha <;> rcases top b with hb | hb <;> rw [ha, hb] <;> rfl

theorem xtime_xor (a b : Byte) : xtime (a ^^^ b) = xtime a ^^^ xtime b := by
  rw [xtime, xtime, xtime, add1b_xor, BitVec.shiftLeft_xor_distrib]
  ac_rfl

theorem xor_cancel (a b : Byte) : a ^^^ (a ^^^ b) = b := by
  rw [← BitVec.xor_assoc, BitVec.xor_self, BitVec.zero_xor]

theorem xor_left_comm (a b c : Byte) : a ^^^ (b ^^^ c) = b ^^^ (a ^^^ c) := by
  ac_rfl

/-- Mixing twice leaves of each byte four times itself and the byte two apart, and the byte. -/
theorem mixed_twice (a b c d : Byte) :
    mixed (mixed a b c d) (mixed b c d a) (mixed c d a b) (mixed d a b c) = xtime (xtime (a ^^^ c)) ^^^ a := by
  simp only [mixed, xtime_xor]
  generalize xtime (xtime a) = a2
  generalize xtime (xtime b) = b2
  generalize xtime (xtime c) = c2
  generalize xtime (xtime d) = d2
  generalize xtime a = a1
  generalize xtime b = b1
  generalize xtime c = c1
  generalize xtime d = d1
  simp only [BitVec.xor_assoc, BitVec.xor_comm, xor_left_comm, xor_cancel, BitVec.xor_self, BitVec.xor_zero]

theorem mix_column_four (b : Column) : mix_column (mix_column (mix_column (mix_column b))) = b := by
  have twice (v : Column) : mix_column (mix_column v) = #v[xtime (xtime (v[0] ^^^ v[2])) ^^^ v[0],
      xtime (xtime (v[1] ^^^ v[3])) ^^^ v[1], xtime (xtime (v[2] ^^^ v[0])) ^^^ v[2],
      xtime (xtime (v[3] ^^^ v[1])) ^^^ v[3]] := by
    simp only [mix_column_eq, Vector.getElem_mk, List.getElem_toArray, List.getElem_cons_zero,
      List.getElem_cons_succ, mixed_twice]
  -- the doubled parts of two bytes two apart are the same, and cancel
  have back (x y : Byte) : xtime (xtime ((xtime (xtime (x ^^^ y)) ^^^ x) ^^^ (xtime (xtime (y ^^^ x)) ^^^ y))) ^^^
      (xtime (xtime (x ^^^ y)) ^^^ x) = x := by
    have same (t : Byte) : (t ^^^ x) ^^^ (t ^^^ y) = x ^^^ y := by
      rw [BitVec.xor_assoc, xor_left_comm x, xor_cancel]
    rw [BitVec.xor_comm y x, same, xor_cancel]
  rw [twice (mix_column (mix_column b)), twice b]
  apply Vector.ext
  intro i hi
  have : i = 0 ∨ i = 1 ∨ i = 2 ∨ i = 3 := by omega
  rcases this with rfl | rfl | rfl | rfl <;>
    simp only [Vector.getElem_mk, List.getElem_toArray, List.getElem_cons_zero, List.getElem_cons_succ, back]

theorem mix_column_injective : Function.Injective mix_column := by
  intro a b h
  rw [← mix_column_four a, h, mix_column_four b]

theorem column_of_columns (a b c d : Column) : column (of_columns a b c d) 0 = a ∧ column (of_columns a b c d) 1 = b ∧
    column (of_columns a b c d) 2 = c ∧ column (of_columns a b c d) 3 = d := by
  refine ⟨?_, ?_, ?_, ?_⟩ <;>
  · apply Vector.ext
    intro i hi
    have : i = 0 ∨ i = 1 ∨ i = 2 ∨ i = 3 := by omega
    rcases this with rfl | rfl | rfl | rfl <;> simp only [column, of_columns, Vector.getElem_ofFn] <;> rfl

theorem of_columns_column (b : Block) :
    of_columns (column b 0) (column b 1) (column b 2) (column b 3) = b := by
  apply Vector.ext
  intro i hi
  simp only [of_columns, column, Vector.getElem_ofFn]
  have : i = 0 ∨ i = 1 ∨ i = 2 ∨ i = 3 ∨ i = 4 ∨ i = 5 ∨ i = 6 ∨ i = 7 ∨ i = 8 ∨ i = 9 ∨ i = 10 ∨ i = 11 ∨ i = 12 ∨
    i = 13 ∨ i = 14 ∨ i = 15 := by omega
  rcases this with rfl | rfl | rfl | rfl | rfl | rfl | rfl | rfl | rfl | rfl | rfl | rfl | rfl | rfl | rfl | rfl <;> rfl

theorem mix_columns_injective : Function.Injective mix_columns := by
  intro a b h
  obtain ⟨a0, a1, a2, a3⟩ := column_of_columns (mix_column (column a 0)) (mix_column (column a 1))
    (mix_column (column a 2)) (mix_column (column a 3))
  obtain ⟨b0, b1, b2, b3⟩ := column_of_columns (mix_column (column b 0)) (mix_column (column b 1))
    (mix_column (column b 2)) (mix_column (column b 3))
  change column (mix_columns a) 0 = _ at a0
  change column (mix_columns a) 1 = _ at a1
  change column (mix_columns a) 2 = _ at a2
  change column (mix_columns a) 3 = _ at a3
  rw [h] at a0 a1 a2 a3
  rw [← of_columns_column a, ← mix_column_injective (b0.symm.trans a0), ← mix_column_injective (b1.symm.trans a1),
    ← mix_column_injective (b2.symm.trans a2), ← mix_column_injective (b3.symm.trans a3), of_columns_column]

theorem shift_row_four (b : Block) : shift_row (shift_row (shift_row (shift_row b))) = b := by
  rw [← of_columns_column b]
  rfl

theorem shift_row_injective : Function.Injective shift_row := by
  intro a b h
  rw [← shift_row_four a, h, shift_row_four b]

theorem xor_128_right_injective (a : Block) : Function.Injective (xor_128 a) := by
  intro b c h
  apply Vector.ext
  intro i hi
  have hi : (xor_128 a b)[i] = (xor_128 a c)[i] := by rw [h]
  simpa using hi

theorem xor_128_comm (a b : Block) : xor_128 a b = xor_128 b a := by
  apply Vector.ext
  intro i hi
  simp [BitVec.xor_comm]

theorem byte_sub_injective : Function.Injective byte_sub := by
  intro a b h
  apply Vector.ext
  intro i hi
  have hi : (byte_sub a)[i] = (byte_sub b)[i] := by rw [h]
  simp only [getElem_byte_sub] at hi
  exact sbox_injective hi

/-- The round key does not depend on the text, and no round maps two texts to one. -/
theorem aes_round_injective (data data' : Block) (key s s' : Block) {round : ℕ} (h : 0 < round) :
    (aes_round data (key, s) round).1 = (aes_round data' (key, s') round).1 ∧
    ((aes_round data (key, s) round).2 = (aes_round data' (key, s') round).2 → s = s') := by
  have h0 : round ≠ 0 := by omega
  simp only [aes_round, if_neg h0]
  split
  · refine ⟨rfl, fun e => ?_⟩
    simp only [xor_128_comm _ key] at e
    exact byte_sub_injective (shift_row_injective (xor_128_right_injective key e))
  · refine ⟨rfl, fun e => ?_⟩
    simp only [xor_128_comm _ key] at e
    exact byte_sub_injective (shift_row_injective (mix_columns_injective (xor_128_right_injective key e)))

theorem aes_rounds_injective (key data data' : Block) (n : ℕ) :
    ((List.range (n + 1)).foldl (aes_round data) (key, data)).1 =
      ((List.range (n + 1)).foldl (aes_round data') (key, data')).1 ∧
    (((List.range (n + 1)).foldl (aes_round data) (key, data)).2 =
      ((List.range (n + 1)).foldl (aes_round data') (key, data')).2 → data = data') := by
  induction n with
  | zero =>
    simp only [Nat.zero_add, List.range_one, List.foldl_cons, List.foldl_nil, aes_round, if_true, true_and]
    exact fun e => xor_128_right_injective key e
  | succ n ih =>
    obtain ⟨same, inj⟩ := ih
    rw [List.range_succ (n := n + 1)]
    simp only [List.foldl_append, List.foldl_cons, List.foldl_nil]
    generalize (List.range (n + 1)).foldl (aes_round data) (key, data) = s at same inj ⊢
    generalize (List.range (n + 1)).foldl (aes_round data') (key, data') = s' at same inj ⊢
    obtain ⟨k, t⟩ := s
    obtain ⟨k', t'⟩ := s'
    obtain rfl : k = k' := same
    obtain ⟨same', inj'⟩ := aes_round_injective data data' k t t' n.succ_pos
    exact ⟨same', fun e => inj (inj' e)⟩

/-- For every key the cipher is a permutation of the blocks: no two texts have one ciphertext. -/
theorem aes128k128d_injective (key : Block) : Function.Injective (aes128k128d key) :=
  fun data data' h => (aes_rounds_injective key data data' 10).2 h

/-! ## The cipher by table

Words in place of bytes, and one table that does the substitution and the
mixing of a column at once. -/

open Words

/-- The source's table: substitution and mixing of one byte. -/
def Te0 : List Word := [
  0xc66363a5, 0xf87c7c84, 0xee777799, 0xf67b7b8d, 0xfff2f20d, 0xd66b6bbd, 0xde6f6fb1, 0x91c5c554,
  0x60303050, 0x02010103, 0xce6767a9, 0x562b2b7d, 0xe7fefe19, 0xb5d7d762, 0x4dababe6, 0xec76769a,
  0x8fcaca45, 0x1f82829d, 0x89c9c940, 0xfa7d7d87, 0xeffafa15, 0xb25959eb, 0x8e4747c9, 0xfbf0f00b,
  0x41adadec, 0xb3d4d467, 0x5fa2a2fd, 0x45afafea, 0x239c9cbf, 0x53a4a4f7, 0xe4727296, 0x9bc0c05b,
  0x75b7b7c2, 0xe1fdfd1c, 0x3d9393ae, 0x4c26266a, 0x6c36365a, 0x7e3f3f41, 0xf5f7f702, 0x83cccc4f,
  0x6834345c, 0x51a5a5f4, 0xd1e5e534, 0xf9f1f108, 0xe2717193, 0xabd8d873, 0x62313153, 0x2a15153f,
  0x0804040c, 0x95c7c752, 0x46232365, 0x9dc3c35e, 0x30181828, 0x379696a1, 0x0a05050f, 0x2f9a9ab5,
  0x0e070709, 0x24121236, 0x1b80809b, 0xdfe2e23d, 0xcdebeb26, 0x4e272769, 0x7fb2b2cd, 0xea75759f,
  0x1209091b, 0x1d83839e, 0x582c2c74, 0x341a1a2e, 0x361b1b2d, 0xdc6e6eb2, 0xb45a5aee, 0x5ba0a0fb,
  0xa45252f6, 0x763b3b4d, 0xb7d6d661, 0x7db3b3ce, 0x5229297b, 0xdde3e33e, 0x5e2f2f71, 0x13848497,
  0xa65353f5, 0xb9d1d168, 0x00000000, 0xc1eded2c, 0x40202060, 0xe3fcfc1f, 0x79b1b1c8, 0xb65b5bed,
  0xd46a6abe, 0x8dcbcb46, 0x67bebed9, 0x7239394b, 0x944a4ade, 0x984c4cd4, 0xb05858e8, 0x85cfcf4a,
  0xbbd0d06b, 0xc5efef2a, 0x4faaaae5, 0xedfbfb16, 0x864343c5, 0x9a4d4dd7, 0x66333355, 0x11858594,
  0x8a4545cf, 0xe9f9f910, 0x04020206, 0xfe7f7f81, 0xa05050f0, 0x783c3c44, 0x259f9fba, 0x4ba8a8e3,
  0xa25151f3, 0x5da3a3fe, 0x804040c0, 0x058f8f8a, 0x3f9292ad, 0x219d9dbc, 0x70383848, 0xf1f5f504,
  0x63bcbcdf, 0x77b6b6c1, 0xafdada75, 0x42212163, 0x20101030, 0xe5ffff1a, 0xfdf3f30e, 0xbfd2d26d,
  0x81cdcd4c, 0x180c0c14, 0x26131335, 0xc3ecec2f, 0xbe5f5fe1, 0x359797a2, 0x884444cc, 0x2e171739,
  0x93c4c457, 0x55a7a7f2, 0xfc7e7e82, 0x7a3d3d47, 0xc86464ac, 0xba5d5de7, 0x3219192b, 0xe6737395,
  0xc06060a0, 0x19818198, 0x9e4f4fd1, 0xa3dcdc7f, 0x44222266, 0x542a2a7e, 0x3b9090ab, 0x0b888883,
  0x8c4646ca, 0xc7eeee29, 0x6bb8b8d3, 0x2814143c, 0xa7dede79, 0xbc5e5ee2, 0x160b0b1d, 0xaddbdb76,
  0xdbe0e03b, 0x64323256, 0x743a3a4e, 0x140a0a1e, 0x924949db, 0x0c06060a, 0x4824246c, 0xb85c5ce4,
  0x9fc2c25d, 0xbdd3d36e, 0x43acacef, 0xc46262a6, 0x399191a8, 0x319595a4, 0xd3e4e437, 0xf279798b,
  0xd5e7e732, 0x8bc8c843, 0x6e373759, 0xda6d6db7, 0x018d8d8c, 0xb1d5d564, 0x9c4e4ed2, 0x49a9a9e0,
  0xd86c6cb4, 0xac5656fa, 0xf3f4f407, 0xcfeaea25, 0xca6565af, 0xf47a7a8e, 0x47aeaee9, 0x10080818,
  0x6fbabad5, 0xf0787888, 0x4a25256f, 0x5c2e2e72, 0x381c1c24, 0x57a6a6f1, 0x73b4b4c7, 0x97c6c651,
  0xcbe8e823, 0xa1dddd7c, 0xe874749c, 0x3e1f1f21, 0x964b4bdd, 0x61bdbddc, 0x0d8b8b86, 0x0f8a8a85,
  0xe0707090, 0x7c3e3e42, 0x71b5b5c4, 0xcc6666aa, 0x904848d8, 0x06030305, 0xf7f6f601, 0x1c0e0e12,
  0xc26161a3, 0x6a35355f, 0xae5757f9, 0x69b9b9d0, 0x17868691, 0x99c1c158, 0x3a1d1d27, 0x279e9eb9,
  0xd9e1e138, 0xebf8f813, 0x2b9898b3, 0x22111133, 0xd26969bb, 0xa9d9d970, 0x078e8e89, 0x339494a7,
  0x2d9b9bb6, 0x3c1e1e22, 0x15878792, 0xc9e9e920, 0x87cece49, 0xaa5555ff, 0x50282878, 0xa5dfdf7a,
  0x038c8c8f, 0x59a1a1f8, 0x09898980, 0x1a0d0d17, 0x65bfbfda, 0xd7e6e631, 0x844242c6, 0xd06868b8,
  0x824141c3, 0x299999b0, 0x5a2d2d77, 0x1e0f0f11, 0x7bb0b0cb, 0xa85454fc, 0x6dbbbbd6, 0x2c16163a]

/-- A rotation to the right. -/
def rotr (val : Word) (bits : ℕ) : Word := (val >>> bits) ||| (val <<< (32 - bits))

/-- The high byte through the table. -/
def TE0 (i : Word) : Word := Te0.getD ((i >>> 24) &&& (0xff : Word)).toNat 0

/-- The next byte, turned by one. -/
def TE1 (i : Word) : Word := rotr (Te0.getD ((i >>> 16) &&& (0xff : Word)).toNat 0) 8

/-- The next byte, turned by two. -/
def TE2 (i : Word) : Word := rotr (Te0.getD ((i >>> 8) &&& (0xff : Word)).toNat 0) 16

/-- The low byte, turned by three. -/
def TE3 (i : Word) : Word := rotr (Te0.getD (i &&& (0xff : Word)).toNat 0) 24

/-- The substitution of the high byte, in its place. -/
def TE41 (i : Word) : Word := (Te0.getD ((i >>> 24) &&& (0xff : Word)).toNat 0 <<< 8) &&& (0xff000000 : Word)

/-- Of the next byte, in its place. -/
def TE42 (i : Word) : Word := Te0.getD ((i >>> 16) &&& (0xff : Word)).toNat 0 &&& (0x00ff0000 : Word)

/-- Of the next byte, in its place. -/
def TE43 (i : Word) : Word := Te0.getD ((i >>> 8) &&& (0xff : Word)).toNat 0 &&& (0x0000ff00 : Word)

/-- Of the low byte, in its place. -/
def TE44 (i : Word) : Word := (Te0.getD (i &&& (0xff : Word)).toNat 0 >>> 8) &&& (0x000000ff : Word)

/-- Of the second byte, in the first place. -/
def TE421 (i : Word) : Word := (Te0.getD ((i >>> 16) &&& (0xff : Word)).toNat 0 <<< 8) &&& (0xff000000 : Word)

/-- Of the third byte, in the second place. -/
def TE432 (i : Word) : Word := Te0.getD ((i >>> 8) &&& (0xff : Word)).toNat 0 &&& (0x00ff0000 : Word)

/-- Of the last byte, in the third place. -/
def TE443 (i : Word) : Word := Te0.getD (i &&& (0xff : Word)).toNat 0 &&& (0x0000ff00 : Word)

/-- Of the first byte, in the last place. -/
def TE414 (i : Word) : Word := (Te0.getD ((i >>> 24) &&& (0xff : Word)).toNat 0 >>> 8) &&& (0x000000ff : Word)

/-- The source's round constants, once more. -/
def rcons : List Byte := [0x01, 0x02, 0x04, 0x08, 0x10, 0x20, 0x40, 0x80, 0x1B, 0x36]

/-- A round constant in the high byte. -/
def RCON (i : ℕ) : Word := (rcons.getD i 0).setWidth 32 <<< 24

/-- The word at the address of a column, its first byte on top. -/
def GETU32 (pt : Column) : Word :=
  (pt[0].setWidth 32 <<< 24) ^^^ (pt[1].setWidth 32 <<< 16) ^^^ (pt[2].setWidth 32 <<< 8) ^^^ pt[3].setWidth 32

/-- A word as four bytes, the high one first. -/
def PUTU32 (st : Word) : Column :=
  #v[(st >>> 24).setWidth 8, (st >>> 16).setWidth 8, (st >>> 8).setWidth 8, st.setWidth 8]

/-- The 44 words behind `rk`. -/
abbrev Schedule := Vector Word 44

/-- A word of the schedule. -/
def rk_at (rk : Schedule) (k : ℕ) : Word := rk[k]?.getD 0

/-- A turn of the key setup. `rk` has moved by four words at each turn before. -/
def key_setup_step (rk : Schedule) (i : ℕ) : Schedule :=
  let p := 4 * i
  let temp := rk_at rk (p + 3)
  let rk := rk.setIfInBounds (p + 4)
    (rk_at rk p ^^^ TE421 temp ^^^ TE432 temp ^^^ TE443 temp ^^^ TE414 temp ^^^ RCON i)
  let rk := rk.setIfInBounds (p + 5) (rk_at rk (p + 1) ^^^ rk_at rk (p + 4))
  let rk := rk.setIfInBounds (p + 6) (rk_at rk (p + 2) ^^^ rk_at rk (p + 5))
  rk.setIfInBounds (p + 7) (rk_at rk (p + 3) ^^^ rk_at rk (p + 6))

/-- The key schedule, written over whatever `rk` held. -/
def rijndaelKeySetupEnc (rk : Schedule) (cipherKey : Block) : Schedule :=
  let rk := rk.setIfInBounds 0 (GETU32 (column cipherKey 0))
  let rk := rk.setIfInBounds 1 (GETU32 (column cipherKey 1))
  let rk := rk.setIfInBounds 2 (GETU32 (column cipherKey 2))
  let rk := rk.setIfInBounds 3 (GETU32 (column cipherKey 3))
  (List.range 10).foldl key_setup_step rk

/-- The four words of the state. -/
abbrev State := Word × Word × Word × Word

/-- `ROUND(i, d, s)`, with `rk` moved to `p`. -/
def ROUND (rk : Schedule) (p i : ℕ) : State → State := fun (s0, s1, s2, s3) =>
  (TE0 s0 ^^^ TE1 s1 ^^^ TE2 s2 ^^^ TE3 s3 ^^^ rk_at rk (p + 4 * i),
   TE0 s1 ^^^ TE1 s2 ^^^ TE2 s3 ^^^ TE3 s0 ^^^ rk_at rk (p + (4 * i + 1)),
   TE0 s2 ^^^ TE1 s3 ^^^ TE2 s0 ^^^ TE3 s1 ^^^ rk_at rk (p + (4 * i + 2)),
   TE0 s3 ^^^ TE1 s0 ^^^ TE2 s1 ^^^ TE3 s2 ^^^ rk_at rk (p + (4 * i + 3)))

/-- The loop over the full rounds, two in a turn; the last turn leaves after its first. -/
def full_rounds (rk : Schedule) : ℕ → ℕ → State → ℕ × State
  | 0, p, s => (p, s)
  | r + 1, p, s =>
    let t := ROUND rk p 1 s
    let p := p + 8
    if r = 0 then (p, t) else full_rounds rk r p (ROUND rk p 0 t)

/-- The last round, with `rk` moved to `p`. -/
def last_round (rk : Schedule) (p : ℕ) : State → Block := fun (t0, t1, t2, t3) =>
  let s0 := TE41 t0 ^^^ TE42 t1 ^^^ TE43 t2 ^^^ TE44 t3 ^^^ rk_at rk p
  let s1 := TE41 t1 ^^^ TE42 t2 ^^^ TE43 t3 ^^^ TE44 t0 ^^^ rk_at rk (p + 1)
  let s2 := TE41 t2 ^^^ TE42 t3 ^^^ TE43 t0 ^^^ TE44 t1 ^^^ rk_at rk (p + 2)
  let s3 := TE41 t3 ^^^ TE42 t0 ^^^ TE43 t1 ^^^ TE44 t2 ^^^ rk_at rk (p + 3)
  of_columns (PUTU32 s0) (PUTU32 s1) (PUTU32 s2) (PUTU32 s3)

/-- The ten rounds, two at a time, and the last one without mixing. -/
def rijndaelEncrypt (rk : Schedule) (pt : Block) : Block :=
  let Nr := 10
  let s : State := (GETU32 (column pt 0) ^^^ rk_at rk 0, GETU32 (column pt 1) ^^^ rk_at rk 1,
    GETU32 (column pt 2) ^^^ rk_at rk 2, GETU32 (column pt 3) ^^^ rk_at rk 3)
  let r := full_rounds rk (Nr >>> 1) 0 s
  last_round rk r.1 r.2

/-! ## Words and columns -/

/-- A column as a word. -/
def col (v : Column) : Word := word v[0] v[1] v[2] v[3]

theorem GETU32_eq (c : Column) : GETU32 c = col c := by
  apply BitVec.eq_of_getLsbD_eq
  intro i hi
  simp only [GETU32, col, getLsbD_word, BitVec.getLsbD_xor, BitVec.getLsbD_shiftLeft, BitVec.getLsbD_setWidth]
  grind

theorem column_ext {v w : Column} (h0 : v[0] = w[0]) (h1 : v[1] = w[1]) (h2 : v[2] = w[2]) (h3 : v[3] = w[3]) : v = w := by
  apply Vector.ext
  intro i hi
  have : i = 0 ∨ i = 1 ∨ i = 2 ∨ i = 3 := by omega
  rcases this with rfl | rfl | rfl | rfl <;> assumption

@[simp] theorem PUTU32_col (c : Column) : PUTU32 (col c) = c := by
  apply column_ext <;> simp [PUTU32, col]

theorem col_xor (c d : Column) : col c ^^^ col d = col (xor_32 c d) := by
  simp [col]

theorem rotr_word (a b c d : Byte) : rotr (word a b c d) 8 = word d a b c ∧ rotr (word a b c d) 16 = word c d a b ∧
    rotr (word a b c d) 24 = word b c d a := by
  refine ⟨?_, ?_, ?_⟩ <;>
  · apply BitVec.eq_of_getLsbD_eq
    intro i hi
    simp only [rotr, BitVec.getLsbD_or, BitVec.getLsbD_ushiftRight, BitVec.getLsbD_shiftLeft, getLsbD_word]
    grind

/-! ## The table -/

theorem Te0_eq (a : Byte) :
    Te0.getD a.toNat 0 = word (xtime (sbox a)) (sbox a) (sbox a) (sbox a ^^^ xtime (sbox a)) := by
  have h : ∀ n : Fin 256, Te0.getD (BitVec.ofFin n : Byte).toNat 0 = word (xtime (sbox (BitVec.ofFin n)))
      (sbox (BitVec.ofFin n)) (sbox (BitVec.ofFin n)) (sbox (BitVec.ofFin n) ^^^ xtime (sbox (BitVec.ofFin n))) := by
    decide +kernel
  exact h a.toFin

/-- What the four lookups of a full round add up to. -/
theorem TE_mix (t u v w : Column) : TE0 (col t) ^^^ TE1 (col u) ^^^ TE2 (col v) ^^^ TE3 (col w) =
    col (mix_column #v[sbox t[0], sbox u[1], sbox v[2], sbox w[3]]) := by
  simp only [TE0, TE1, TE2, TE3, col, low_byte, byte_word_0, byte_word_1, byte_word_2, byte_word_3, Te0_eq,
    rotr_word, word_xor, mix_column_eq, mixed, Vector.getElem_mk, List.getElem_toArray, List.getElem_cons_zero,
    List.getElem_cons_succ]
  congr 1 <;> ac_rfl

theorem mask_word (a b c d : Byte) : word a b c d &&& (0xff000000 : Word) = word a 0 0 0 ∧
    word a b c d &&& (0x00ff0000 : Word) = word 0 b 0 0 ∧ word a b c d &&& (0x0000ff00 : Word) = word 0 0 c 0 ∧
    word a b c d &&& (0x000000ff : Word) = word 0 0 0 d := by
  have h0 : (0xff000000 : Word) = word 0xff 0 0 0 := by decide
  have h1 : (0x00ff0000 : Word) = word 0 0xff 0 0 := by decide
  have h2 : (0x0000ff00 : Word) = word 0 0 0xff 0 := by decide
  have h3 : (0x000000ff : Word) = word 0 0 0 0xff := by decide
  have full (x : Byte) : x &&& (0xff : Byte) = x := BitVec.and_allOnes
  have none (x : Byte) : x &&& (0 : Byte) = 0 := BitVec.and_zero
  rw [h0, h1, h2, h3]
  simp only [word_and, full, none, and_self]

/-- The lookups of the last round substitute only. -/
theorem TE4_sub (t u v w : Column) : TE41 (col t) ^^^ TE42 (col u) ^^^ TE43 (col v) ^^^ TE44 (col w) =
    col #v[sbox t[0], sbox u[1], sbox v[2], sbox w[3]] := by
  simp only [TE41, TE42, TE43, TE44, col, low_byte, byte_word_0, byte_word_1, byte_word_2, byte_word_3, Te0_eq]
  simp only [word_shiftLeft, word_shiftRight, mask_word]
  simp

theorem TE4_key (a : Column) : TE421 (col a) ^^^ TE432 (col a) ^^^ TE443 (col a) ^^^ TE414 (col a) =
    col #v[sbox a[1], sbox a[2], sbox a[3], sbox a[0]] := by
  simp only [TE421, TE432, TE443, TE414, col, low_byte, byte_word_0, byte_word_1, byte_word_2, byte_word_3, Te0_eq]
  simp only [word_shiftLeft, word_shiftRight, mask_word]
  simp

/-! ## Blocks and key schedules -/

/-- A block as four words. -/
def cols (b : Block) : State := (col (column b 0), col (column b 1), col (column b 2), col (column b 3))

theorem column_xor_128 (a b : Block) (k : Fin 4) : column (xor_128 a b) k = xor_32 (column a k) (column b k) := by
  apply Vector.ext
  intro i hi
  simp [column]

theorem getElem_column_byte_sub (b : Block) (k : Fin 4) (i : ℕ) (h : i < 4) :
    (column (byte_sub b) k)[i] = sbox (column b k)[i] := by
  simp [column]

theorem column_shift_row (b : Block) :
    column (shift_row b) 0 = #v[(column b 0)[0], (column b 1)[1], (column b 2)[2], (column b 3)[3]] ∧
    column (shift_row b) 1 = #v[(column b 1)[0], (column b 2)[1], (column b 3)[2], (column b 0)[3]] ∧
    column (shift_row b) 2 = #v[(column b 2)[0], (column b 3)[1], (column b 0)[2], (column b 1)[3]] ∧
    column (shift_row b) 3 = #v[(column b 3)[0], (column b 0)[1], (column b 1)[2], (column b 2)[3]] :=
  ⟨rfl, rfl, rfl, rfl⟩

theorem column_mix_columns (b : Block) :
    column (mix_columns b) 0 = mix_column (column b 0) ∧ column (mix_columns b) 1 = mix_column (column b 1) ∧
    column (mix_columns b) 2 = mix_column (column b 2) ∧ column (mix_columns b) 3 = mix_column (column b 3) :=
  column_of_columns _ _ _ _

/-- The round keys, one after the other. -/
def round_key (key : Block) : ℕ → Block
  | 0 => key
  | n + 1 => next_key (round_key key n) n

/-- The text after the full rounds so far. -/
def text (key data : Block) : ℕ → Block
  | 0 => xor_128 key data
  | n + 1 => xor_128 (mix_columns (shift_row (byte_sub (text key data n)))) (round_key key (n + 1))

theorem text_succ (key data : Block) (n : ℕ) : text key data (n + 1) =
    xor_128 (mix_columns (shift_row (byte_sub (text key data n)))) (round_key key (n + 1)) := rfl

theorem aes128k128d_eq (key data : Block) :
    aes128k128d key data = xor_128 (shift_row (byte_sub (text key data 9))) (round_key key 10) := by
  have run (n : ℕ) (hn : n ≤ 9) : (List.range (n + 1)).foldl (aes_round data) (key, data) =
      (round_key key (n + 1), text key data n) := by
    induction n with
    | zero => rfl
    | succ n ih =>
      rw [List.range_succ (n := n + 1), List.foldl_append, ih (by omega)]
      have h0 : n + 1 ≠ 0 := by omega
      have h10 : n + 1 ≠ 10 := by omega
      simp only [List.foldl_cons, List.foldl_nil, aes_round, if_neg h0, if_neg h10]
      rfl
  rw [aes128k128d, List.range_succ, List.foldl_append, run 9 (Nat.le_refl 9)]
  rfl

/-- The words of round key `j` stand in `rk`. -/
def Holds (rk : Schedule) (key : Block) (j : ℕ) : Prop :=
  rk_at rk (4 * j) = col (column (round_key key j) 0) ∧ rk_at rk (4 * j + 1) = col (column (round_key key j) 1) ∧
  rk_at rk (4 * j + 2) = col (column (round_key key j) 2) ∧ rk_at rk (4 * j + 3) = col (column (round_key key j) 3)

theorem rk_at_set_self (rk : Schedule) {k : ℕ} (hk : k < 44) (v : Word) : rk_at (rk.setIfInBounds k v) k = v := by
  simp [rk_at, hk]

theorem rk_at_set_ne (rk : Schedule) {k j : ℕ} (h : k ≠ j) (v : Word) :
    rk_at (rk.setIfInBounds k v) j = rk_at rk j := by
  simp [rk_at, h]

theorem ROUND_cols {rk : Schedule} {key : Block} {j p i : ℕ} (h : Holds rk key j) (e : p + 4 * i = 4 * j) (b : Block) :
    ROUND rk p i (cols b) = cols (xor_128 (mix_columns (shift_row (byte_sub b))) (round_key key j)) := by
  obtain ⟨h0, h1, h2, h3⟩ := h
  obtain ⟨c0, c1, c2, c3⟩ := column_shift_row (byte_sub b)
  obtain ⟨m0, m1, m2, m3⟩ := column_mix_columns (shift_row (byte_sub b))
  have e1 : p + (4 * i + 1) = 4 * j + 1 := by omega
  have e2 : p + (4 * i + 2) = 4 * j + 2 := by omega
  have e3 : p + (4 * i + 3) = 4 * j + 3 := by omega
  simp only [ROUND, cols, TE_mix, e, e1, e2, e3, h0, h1, h2, h3, col_xor, column_xor_128, m0, m1, m2, m3, c0, c1, c2, c3,
    getElem_column_byte_sub]

theorem RCON_eq {i : ℕ} (h : i < 10) : RCON i = word (rcon_table.getD i 0) 0 0 0 := by
  have all : ∀ n : Fin 10, RCON n.val = word (rcon_table.getD n.val 0) 0 0 0 := by decide
  exact all ⟨i, h⟩

/-- The key schedule of `next_key`, by words. -/
theorem column_next_key (k : Block) (i : ℕ) :
    col (column (next_key k i) 0) = col (column k 0) ^^^
      col #v[sbox (column k 3)[1], sbox (column k 3)[2], sbox (column k 3)[3], sbox (column k 3)[0]] ^^^
      word (rcon_table.getD i 0) 0 0 0 ∧
    col (column (next_key k i) 1) = col (column k 1) ^^^ col (column (next_key k i) 0) ∧
    col (column (next_key k i) 2) = col (column k 2) ^^^ col (column (next_key k i) 1) ∧
    col (column (next_key k i) 3) = col (column k 3) ^^^ col (column (next_key k i) 2) := by
  unfold next_key
  extract_lets sbox_key rcon key0 key0' key4 key8 key12
  obtain ⟨c0, c1, c2, c3⟩ := column_of_columns key0' key4 key8 key12
  rw [c0, c1, c2, c3]
  refine ⟨?_, (col_xor _ _).symm, (col_xor _ _).symm, (col_xor _ _).symm⟩
  have e : sbox_key = #v[sbox (column k 3)[1], sbox (column k 3)[2], sbox (column k 3)[3], sbox (column k 3)[0]] := by
    have e13 : k[13] = (column k 3)[1] := rfl
    have e14 : k[14] = (column k 3)[2] := rfl
    have e15 : k[15] = (column k 3)[3] := rfl
    have e12 : k[12] = (column k 3)[0] := rfl
    rw [← e12, ← e13, ← e14, ← e15]
  rw [← e, col_xor]
  simp only [col, key0', word_xor]
  simp [key0, rcon]

theorem key_setup_step_holds {rk : Schedule} {key : Block} {i : ℕ} (hi : i < 10) (h : Holds rk key i) :
    Holds (key_setup_step rk i) key (i + 1) := by
  obtain ⟨h0, h1, h2, h3⟩ := h
  obtain ⟨n0, n1, n2, n3⟩ := column_next_key (round_key key i) i
  have e0 : 4 * (i + 1) = 4 * i + 4 := by omega
  simp only [Holds, round_key, e0, Nat.add_assoc, Nat.reduceAdd, key_setup_step, n3, n2, n1, n0, ← RCON_eq hi, ← TE4_key]
  simp (disch := omega) only [rk_at_set_self, rk_at_set_ne, h0, h1, h2, h3, BitVec.xor_assoc, and_self]

/-- The words of the round keys before are left alone. -/
theorem key_setup_step_keeps {rk : Schedule} {key : Block} {i j : ℕ} (hj : j ≤ i) (h : Holds rk key j) :
    Holds (key_setup_step rk i) key j := by
  simp (disch := omega) only [Holds, key_setup_step, rk_at_set_ne]
  exact h

theorem key_setup_holds (rk : Schedule) (key : Block) {j : ℕ} (hj : j ≤ 10) : Holds (rijndaelKeySetupEnc rk key) key j := by
  unfold rijndaelKeySetupEnc
  extract_lets rk0 rk1 rk2 rk3
  have start : Holds rk3 key 0 := by
    simp (disch := omega) only [Holds, round_key, rk3, rk2, rk1, rk0, rk_at_set_self, rk_at_set_ne, GETU32_eq, and_self]
  have run (n : ℕ) (hn : n ≤ 10) (j : ℕ) (h : j ≤ n) : Holds ((List.range n).foldl key_setup_step rk3) key j := by
    induction n generalizing j with
    | zero =>
      obtain rfl : j = 0 := by omega
      exact start
    | succ n ih =>
      rw [List.range_succ, List.foldl_append]
      rcases Nat.lt_or_ge n j with hlt | hle
      · obtain rfl : j = n + 1 := by omega
        exact key_setup_step_holds (by omega) (ih (by omega) n (Nat.le_refl n))
      · exact key_setup_step_keeps hle (ih (by omega) j hle)
  exact run 10 (Nat.le_refl 10) j hj

/-- A full round takes one text to the next. -/
theorem ROUND_text {rk : Schedule} {key : Block} {p i n : ℕ} (h : Holds rk key (n + 1)) (e : p + 4 * i = 4 * (n + 1))
    (data : Block) : ROUND rk p i (cols (text key data n)) = cols (text key data (n + 1)) := by
  rw [ROUND_cols h e, text_succ]

theorem full_rounds_eq {rk : Schedule} {key : Block} (h : ∀ j ≤ 10, Holds rk key j) (data : Block) (r n p m : ℕ)
    (hp : p = 4 * n) (hm : m = n + 2 * r + 1) (h9 : m ≤ 9) :
    full_rounds rk (r + 1) p (cols (text key data n)) = (4 * (m + 1), cols (text key data m)) := by
  induction r generalizing n p with
  | zero =>
    obtain rfl : m = n + 1 := by omega
    rw [full_rounds, ROUND_text (h (n + 1) (by omega)) (by omega), if_pos rfl, show p + 8 = 4 * (n + 1 + 1) by omega]
  | succ r ih =>
    rw [full_rounds, ROUND_text (h (n + 1) (by omega)) (by omega)]
    rw [if_neg r.succ_ne_zero, ROUND_text (h (n + 1 + 1) (by omega)) (by omega)]
    exact ih (n + 1 + 1) (p + 8) (by omega) (by omega)

theorem last_round_eq {rk : Schedule} {key : Block} (h : Holds rk key 10) (b : Block) :
    last_round rk 40 (cols b) = xor_128 (shift_row (byte_sub b)) (round_key key 10) := by
  obtain ⟨h0, h1, h2, h3⟩ := h
  obtain ⟨c0, c1, c2, c3⟩ := column_shift_row (byte_sub b)
  rw [← of_columns_column (xor_128 (shift_row (byte_sub b)) (round_key key 10))]
  simp only [Nat.reduceMul, Nat.reduceAdd] at h0 h1 h2 h3
  simp only [last_round, cols, TE4_sub, h0, h1, h2, h3, col_xor, PUTU32_col, column_xor_128, c0, c1, c2, c3,
    getElem_column_byte_sub]

/-- The cipher by table is the cipher by bytes, whatever was in the memory of the schedule. -/
theorem rijndaelEncrypt_eq (rk : Schedule) (key data : Block) :
    rijndaelEncrypt (rijndaelKeySetupEnc rk key) data = aes128k128d key data := by
  have h (j : ℕ) (hj : j ≤ 10) : Holds (rijndaelKeySetupEnc rk key) key j := key_setup_holds rk key hj
  obtain ⟨h0, h1, h2, h3⟩ := h 0 (by omega)
  have start : cols (text key data 0) = (GETU32 (column data 0) ^^^ rk_at (rijndaelKeySetupEnc rk key) 0,
      GETU32 (column data 1) ^^^ rk_at (rijndaelKeySetupEnc rk key) 1,
      GETU32 (column data 2) ^^^ rk_at (rijndaelKeySetupEnc rk key) 2,
      GETU32 (column data 3) ^^^ rk_at (rijndaelKeySetupEnc rk key) 3) := by
    simp only [Nat.mul_zero, Nat.zero_add, round_key] at h0 h1 h2 h3
    simp only [h0, h1, h2, h3, GETU32_eq, cols, text, column_xor_128, ← col_xor, BitVec.xor_comm]
  have full := full_rounds_eq h data 4 0 0 9 rfl rfl (Nat.le_refl 9)
  rw [start] at full
  rw [rijndaelEncrypt, aes128k128d_eq, ← last_round_eq (h 10 (Nat.le_refl 10)) (text key data 9)]
  rw [show 10 >>> 1 = 4 + 1 from rfl, full]

end Wlan
