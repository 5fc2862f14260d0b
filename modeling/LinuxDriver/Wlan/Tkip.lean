import LinuxDriver.Lib.Mixing
import LinuxDriver.Lib.Memory
import LinuxDriver.Wlan.Aes
import Mathlib.Data.BitVec
/-!
# Temporal keys

The key mixing of TKIP: from the temporal key, the address of the transmitter
and the 48 bits of the sequence counter to the RC4 key of one packet.
-/

namespace Wlan

open Mixing

/-- Sixteen bits. -/
abbrev U16 := BitVec 16

/-- The first row of the source's table. -/
def Sbox1_0 : List U16 := [
  0xC6A5, 0xF884, 0xEE99, 0xF68D, 0xFF0D, 0xD6BD, 0xDEB1, 0x9154, 0x6050, 0x0203, 0xCEA9, 0x567D,
  0xE719, 0xB562, 0x4DE6, 0xEC9A, 0x8F45, 0x1F9D, 0x8940, 0xFA87, 0xEF15, 0xB2EB, 0x8EC9, 0xFB0B,
  0x41EC, 0xB367, 0x5FFD, 0x45EA, 0x23BF, 0x53F7, 0xE496, 0x9B5B, 0x75C2, 0xE11C, 0x3DAE, 0x4C6A,
  0x6C5A, 0x7E41, 0xF502, 0x834F, 0x685C, 0x51F4, 0xD134, 0xF908, 0xE293, 0xAB73, 0x6253, 0x2A3F,
  0x080C, 0x9552, 0x4665, 0x9D5E, 0x3028, 0x37A1, 0x0A0F, 0x2FB5, 0x0E09, 0x2436, 0x1B9B, 0xDF3D,
  0xCD26, 0x4E69, 0x7FCD, 0xEA9F, 0x121B, 0x1D9E, 0x5874, 0x342E, 0x362D, 0xDCB2, 0xB4EE, 0x5BFB,
  0xA4F6, 0x764D, 0xB761, 0x7DCE, 0x527B, 0xDD3E, 0x5E71, 0x1397, 0xA6F5, 0xB968, 0x0000, 0xC12C,
  0x4060, 0xE31F, 0x79C8, 0xB6ED, 0xD4BE, 0x8D46, 0x67D9, 0x724B, 0x94DE, 0x98D4, 0xB0E8, 0x854A,
  0xBB6B, 0xC52A, 0x4FE5, 0xED16, 0x86C5, 0x9AD7, 0x6655, 0x1194, 0x8ACF, 0xE910, 0x0406, 0xFE81,
  0xA0F0, 0x7844, 0x25BA, 0x4BE3, 0xA2F3, 0x5DFE, 0x80C0, 0x058A, 0x3FAD, 0x21BC, 0x7048, 0xF104,
  0x63DF, 0x77C1, 0xAF75, 0x4263, 0x2030, 0xE51A, 0xFD0E, 0xBF6D, 0x814C, 0x1814, 0x2635, 0xC32F,
  0xBEE1, 0x35A2, 0x88CC, 0x2E39, 0x9357, 0x55F2, 0xFC82, 0x7A47, 0xC8AC, 0xBAE7, 0x322B, 0xE695,
  0xC0A0, 0x1998, 0x9ED1, 0xA37F, 0x4466, 0x547E, 0x3BAB, 0x0B83, 0x8CCA, 0xC729, 0x6BD3, 0x283C,
  0xA779, 0xBCE2, 0x161D, 0xAD76, 0xDB3B, 0x6456, 0x744E, 0x141E, 0x92DB, 0x0C0A, 0x486C, 0xB8E4,
  0x9F5D, 0xBD6E, 0x43EF, 0xC4A6, 0x39A8, 0x31A4, 0xD337, 0xF28B, 0xD532, 0x8B43, 0x6E59, 0xDAB7,
  0x018C, 0xB164, 0x9CD2, 0x49E0, 0xD8B4, 0xACFA, 0xF307, 0xCF25, 0xCAAF, 0xF48E, 0x47E9, 0x1018,
  0x6FD5, 0xF088, 0x4A6F, 0x5C72, 0x3824, 0x57F1, 0x73C7, 0x9751, 0xCB23, 0xA17C, 0xE89C, 0x3E21,
  0x96DD, 0x61DC, 0x0D86, 0x0F85, 0xE090, 0x7C42, 0x71C4, 0xCCAA, 0x90D8, 0x0605, 0xF701, 0x1C12,
  0xC2A3, 0x6A5F, 0xAEF9, 0x69D0, 0x1791, 0x9958, 0x3A27, 0x27B9, 0xD938, 0xEB13, 0x2BB3, 0x2233,
  0xD2BB, 0xA970, 0x0789, 0x33A7, 0x2DB6, 0x3C22, 0x1592, 0xC920, 0x8749, 0xAAFF, 0x5078, 0xA57A,
  0x038F, 0x59F8, 0x0980, 0x1A17, 0x65DA, 0xD731, 0x84C6, 0xD0B8, 0x82C3, 0x29B0, 0x5A77, 0x1E11,
  0x7BCB, 0xA8FC, 0x6DD6, 0x2C3A]

/-- The second row: the same with the bytes exchanged. -/
def Sbox1_1 : List U16 := [
  0xA5C6, 0x84F8, 0x99EE, 0x8DF6, 0x0DFF, 0xBDD6, 0xB1DE, 0x5491, 0x5060, 0x0302, 0xA9CE, 0x7D56,
  0x19E7, 0x62B5, 0xE64D, 0x9AEC, 0x458F, 0x9D1F, 0x4089, 0x87FA, 0x15EF, 0xEBB2, 0xC98E, 0x0BFB,
  0xEC41, 0x67B3, 0xFD5F, 0xEA45, 0xBF23, 0xF753, 0x96E4, 0x5B9B, 0xC275, 0x1CE1, 0xAE3D, 0x6A4C,
  0x5A6C, 0x417E, 0x02F5, 0x4F83, 0x5C68, 0xF451, 0x34D1, 0x08F9, 0x93E2, 0x73AB, 0x5362, 0x3F2A,
  0x0C08, 0x5295, 0x6546, 0x5E9D, 0x2830, 0xA137, 0x0F0A, 0xB52F, 0x090E, 0x3624, 0x9B1B, 0x3DDF,
  0x26CD, 0x694E, 0xCD7F, 0x9FEA, 0x1B12, 0x9E1D, 0x7458, 0x2E34, 0x2D36, 0xB2DC, 0xEEB4, 0xFB5B,
  0xF6A4, 0x4D76, 0x61B7, 0xCE7D, 0x7B52, 0x3EDD, 0x715E, 0x9713, 0xF5A6, 0x68B9, 0x0000, 0x2CC1,
  0x6040, 0x1FE3, 0xC879, 0xEDB6, 0xBED4, 0x468D, 0xD967, 0x4B72, 0xDE94, 0xD498, 0xE8B0, 0x4A85,
  0x6BBB, 0x2AC5, 0xE54F, 0x16ED, 0xC586, 0xD79A, 0x5566, 0x9411, 0xCF8A, 0x10E9, 0x0604, 0x81FE,
  0xF0A0, 0x4478, 0xBA25, 0xE34B, 0xF3A2, 0xFE5D, 0xC080, 0x8A05, 0xAD3F, 0xBC21, 0x4870, 0x04F1,
  0xDF63, 0xC177, 0x75AF, 0x6342, 0x3020, 0x1AE5, 0x0EFD, 0x6DBF, 0x4C81, 0x1418, 0x3526, 0x2FC3,
  0xE1BE, 0xA235, 0xCC88, 0x392E, 0x5793, 0xF255, 0x82FC, 0x477A, 0xACC8, 0xE7BA, 0x2B32, 0x95E6,
  0xA0C0, 0x9819, 0xD19E, 0x7FA3, 0x6644, 0x7E54, 0xAB3B, 0x830B, 0xCA8C, 0x29C7, 0xD36B, 0x3C28,
  0x79A7, 0xE2BC, 0x1D16, 0x76AD, 0x3BDB, 0x5664, 0x4E74, 0x1E14, 0xDB92, 0x0A0C, 0x6C48, 0xE4B8,
  0x5D9F, 0x6EBD, 0xEF43, 0xA6C4, 0xA839, 0xA431, 0x37D3, 0x8BF2, 0x32D5, 0x438B, 0x596E, 0xB7DA,
  0x8C01, 0x64B1, 0xD29C, 0xE049, 0xB4D8, 0xFAAC, 0x07F3, 0x25CF, 0xAFCA, 0x8EF4, 0xE947, 0x1810,
  0xD56F, 0x88F0, 0x6F4A, 0x725C, 0x2438, 0xF157, 0xC773, 0x5197, 0x23CB, 0x7CA1, 0x9CE8, 0x213E,
  0xDD96, 0xDC61, 0x860D, 0x850F, 0x90E0, 0x427C, 0xC471, 0xAACC, 0xD890, 0x0506, 0x01F7, 0x121C,
  0xA3C2, 0x5F6A, 0xF9AE, 0xD069, 0x9117, 0x5899, 0x273A, 0xB927, 0x38D9, 0x13EB, 0xB32B, 0x3322,
  0xBBD2, 0x70A9, 0x8907, 0xA733, 0xB62D, 0x223C, 0x9215, 0x20C9, 0x4987, 0xFFAA, 0x7850, 0x7AA5,
  0x8F03, 0xF859, 0x8009, 0x171A, 0xDA65, 0x31D7, 0xC684, 0xB8D0, 0xC382, 0xB029, 0x775A, 0x111E,
  0xCB7B, 0xFCA8, 0xD66D, 0x3A2C]

/-- A rotation to the right by one. -/
def RotR1 (v16 : U16) : U16 := ((v16 >>> 1) &&& (0x7FFF : U16)) ^^^ ((v16 &&& (1 : U16)) <<< 15)

/-- The low byte. -/
def Lo8 (v16 : U16) : Byte := v16.setWidth 8

/-- The high byte. -/
def Hi8 (v16 : U16) : Byte := (v16 >>> 8).setWidth 8

/-- The low half. -/
def Lo16 (v32 : Word) : U16 := v32.setWidth 16

/-- The high half. -/
def Hi16 (v32 : Word) : U16 := (v32 >>> 16).setWidth 16

/-- A number of two bytes. -/
def Mk16 (hi lo : Byte) : U16 := lo.setWidth 16 ^^^ (hi.setWidth 16 <<< 8)

/-- The `N`th word of the temporal key. -/
def TK16 (tk : Block) (N : ℕ) : U16 := Mk16 (tk.toList.getD (2 * N + 1) 0) (tk.toList.getD (2 * N) 0)

/-- The substitution of 16 bits, by table and byte. -/
def S_ (v16 : U16) : U16 := Sbox1_0.getD (Lo8 v16).toNat 0 ^^^ Sbox1_1.getD (Hi8 v16).toNat 0

def PHASE1_LOOP_CNT : ℕ := 8

/-- One turn of the loop of `phase1`. -/
def phase1_turn (tk : Block) (p1k : Vector U16 5) (i : ℕ) : Vector U16 5 :=
  let p1k := add_to p1k 0 (S_ (word_of p1k 4 ^^^ TK16 tk ((i &&& 1) + 0)))
  let p1k := add_to p1k 1 (S_ (word_of p1k 0 ^^^ TK16 tk ((i &&& 1) + 2)))
  let p1k := add_to p1k 2 (S_ (word_of p1k 1 ^^^ TK16 tk ((i &&& 1) + 4)))
  let p1k := add_to p1k 3 (S_ (word_of p1k 2 ^^^ TK16 tk ((i &&& 1) + 6)))
  let p1k := add_to p1k 4 (S_ (word_of p1k 3 ^^^ TK16 tk ((i &&& 1) + 0)))
  add_to p1k 4 (BitVec.ofNat 16 i)

/-- The first phase: what the high 32 bits of the counter make of the key and the address. -/
def phase1 (tk : Block) (ta : Vector Byte 6) (iv32 : Word) : Vector U16 5 :=
  let p1k : Vector U16 5 := #v[Lo16 iv32, Hi16 iv32, Mk16 (word_of ta 1) (word_of ta 0),
    Mk16 (word_of ta 3) (word_of ta 2), Mk16 (word_of ta 5) (word_of ta 4)]
  (List.range PHASE1_LOOP_CNT).foldl (phase1_turn tk) p1k

/-- The mixing of `phase2`, with the two sweeps over the six words. -/
def phase2_mix (tk : Block) (PPK : Vector U16 6) : Vector U16 6 :=
  let PPK := add_to PPK 0 (S_ (word_of PPK 5 ^^^ TK16 tk 0))
  let PPK := add_to PPK 1 (S_ (word_of PPK 0 ^^^ TK16 tk 1))
  let PPK := add_to PPK 2 (S_ (word_of PPK 1 ^^^ TK16 tk 2))
  let PPK := add_to PPK 3 (S_ (word_of PPK 2 ^^^ TK16 tk 3))
  let PPK := add_to PPK 4 (S_ (word_of PPK 3 ^^^ TK16 tk 4))
  let PPK := add_to PPK 5 (S_ (word_of PPK 4 ^^^ TK16 tk 5))
  let PPK := add_to PPK 0 (RotR1 (word_of PPK 5 ^^^ TK16 tk 6))
  let PPK := add_to PPK 1 (RotR1 (word_of PPK 0 ^^^ TK16 tk 7))
  let PPK := add_to PPK 2 (RotR1 (word_of PPK 1))
  let PPK := add_to PPK 3 (RotR1 (word_of PPK 2))
  let PPK := add_to PPK 4 (RotR1 (word_of PPK 3))
  add_to PPK 5 (RotR1 (word_of PPK 4))

/-- The bytes of the RC4 key, the first three of them sent in the clear. -/
def rc4key (tk : Block) (iv16 : U16) (PPK : Vector U16 6) : Block := #v[
  Hi8 iv16, (Hi8 iv16 ||| (0x20 : Byte)) &&& (0x7F : Byte), Lo8 iv16, Lo8 ((word_of PPK 5 ^^^ TK16 tk 0) >>> 1),
  Lo8 (word_of PPK 0), Hi8 (word_of PPK 0), Lo8 (word_of PPK 1), Hi8 (word_of PPK 1),
  Lo8 (word_of PPK 2), Hi8 (word_of PPK 2), Lo8 (word_of PPK 3), Hi8 (word_of PPK 3),
  Lo8 (word_of PPK 4), Hi8 (word_of PPK 4), Lo8 (word_of PPK 5), Hi8 (word_of PPK 5)]

/-- The second phase: the RC4 key of one packet. -/
def phase2 (tk : Block) (p1k : Vector U16 5) (iv16 : U16) : Block :=
  rc4key tk iv16 (phase2_mix tk #v[word_of p1k 0, word_of p1k 1, word_of p1k 2, word_of p1k 3, word_of p1k 4,
    word_of p1k 4 + iv16])

/-! ## One key for each packet -/

theorem phase1_turn_injective (tk : Block) (i : ℕ) : Function.Injective fun p1k => phase1_turn tk p1k i := by
  have h0 := mix_injective 5 (show 4 ≠ 0 by decide) fun w => S_ (w ^^^ TK16 tk ((i &&& 1) + 0))
  have h1 := mix_injective 5 (show 0 ≠ 1 by decide) fun w => S_ (w ^^^ TK16 tk ((i &&& 1) + 2))
  have h2 := mix_injective 5 (show 1 ≠ 2 by decide) fun w => S_ (w ^^^ TK16 tk ((i &&& 1) + 4))
  have h3 := mix_injective 5 (show 2 ≠ 3 by decide) fun w => S_ (w ^^^ TK16 tk ((i &&& 1) + 6))
  have h4 := mix_injective 5 (show 3 ≠ 4 by decide) fun w => S_ (w ^^^ TK16 tk ((i &&& 1) + 0))
  have h5 := mix_injective 5 (show 3 ≠ 4 by decide) fun _ => BitVec.ofNat 16 i
  exact h5.comp (h4.comp (h3.comp (h2.comp (h1.comp h0))))

theorem phase2_mix_injective (tk : Block) : Function.Injective (phase2_mix tk) := by
  have h0 := mix_injective 6 (show 5 ≠ 0 by decide) fun w => S_ (w ^^^ TK16 tk 0)
  have h1 := mix_injective 6 (show 0 ≠ 1 by decide) fun w => S_ (w ^^^ TK16 tk 1)
  have h2 := mix_injective 6 (show 1 ≠ 2 by decide) fun w => S_ (w ^^^ TK16 tk 2)
  have h3 := mix_injective 6 (show 2 ≠ 3 by decide) fun w => S_ (w ^^^ TK16 tk 3)
  have h4 := mix_injective 6 (show 3 ≠ 4 by decide) fun w => S_ (w ^^^ TK16 tk 4)
  have h5 := mix_injective 6 (show 4 ≠ 5 by decide) fun w => S_ (w ^^^ TK16 tk 5)
  have k0 := mix_injective 6 (show 5 ≠ 0 by decide) fun w => RotR1 (w ^^^ TK16 tk 6)
  have k1 := mix_injective 6 (show 0 ≠ 1 by decide) fun w => RotR1 (w ^^^ TK16 tk 7)
  have k2 := mix_injective 6 (show 1 ≠ 2 by decide) RotR1
  have k3 := mix_injective 6 (show 2 ≠ 3 by decide) RotR1
  have k4 := mix_injective 6 (show 3 ≠ 4 by decide) RotR1
  have k5 := mix_injective 6 (show 4 ≠ 5 by decide) RotR1
  exact k5.comp (k4.comp (k3.comp (k2.comp (k1.comp (k0.comp (h5.comp (h4.comp (h3.comp (h2.comp (h1.comp h0))))))))))

theorem foldl_injective {α β : Type*} {f : α → β → α} (h : ∀ b, Function.Injective fun a => f a b) (l : List β) :
    Function.Injective fun a => l.foldl f a := by
  induction l with
  | nil => exact Function.injective_id
  | cons b l ih => exact ih.comp (h b)

/-- The two bytes of a word tell it. -/
theorem bytes_inj {v w : U16} (hl : Lo8 v = Lo8 w) (hh : Hi8 v = Hi8 w) : v = w := by
  have hl := congrArg BitVec.toNat hl
  have hh := congrArg BitVec.toNat hh
  simp only [Lo8, Hi8, BitVec.toNat_setWidth, BitVec.toNat_ushiftRight, Nat.shiftRight_eq_div_pow] at hl hh
  apply BitVec.eq_of_toNat_eq
  omega

theorem halves_inj {v w : Word} (hl : Lo16 v = Lo16 w) (hh : Hi16 v = Hi16 w) : v = w := by
  have hl := congrArg BitVec.toNat hl
  have hh := congrArg BitVec.toNat hh
  simp only [Lo16, Hi16, BitVec.toNat_setWidth, BitVec.toNat_ushiftRight, Nat.shiftRight_eq_div_pow] at hl hh
  apply BitVec.eq_of_toNat_eq
  omega

theorem Mk16_inj {a b c d : Byte} (h : Mk16 a b = Mk16 c d) : a = c ∧ b = d := by
  have lo (x y : Byte) : Lo8 (Mk16 x y) = y := by
    apply BitVec.eq_of_getLsbD_eq
    intro i hi
    simp only [Lo8, Mk16, BitVec.getLsbD_setWidth, BitVec.getLsbD_xor, BitVec.getLsbD_shiftLeft]
    grind
  have hi (x y : Byte) : Hi8 (Mk16 x y) = x := by
    apply BitVec.eq_of_getLsbD_eq
    intro i hi
    simp only [Hi8, Mk16, BitVec.getLsbD_setWidth, BitVec.getLsbD_ushiftRight, BitVec.getLsbD_xor,
      BitVec.getLsbD_shiftLeft]
    grind
  exact ⟨by rw [← hi a b, h, hi], by rw [← lo a b, h, lo]⟩

theorem phase1_inj (tk : Block) {ta ta' : Vector Byte 6} {iv32 iv32' : Word} (h : phase1 tk ta iv32 = phase1 tk ta' iv32') :
    ta = ta' ∧ iv32 = iv32' := by
  have start : (#v[Lo16 iv32, Hi16 iv32, Mk16 (word_of ta 1) (word_of ta 0), Mk16 (word_of ta 3) (word_of ta 2),
        Mk16 (word_of ta 5) (word_of ta 4)] : Vector U16 5) =
      #v[Lo16 iv32', Hi16 iv32', Mk16 (word_of ta' 1) (word_of ta' 0), Mk16 (word_of ta' 3) (word_of ta' 2),
        Mk16 (word_of ta' 5) (word_of ta' 4)] :=
    foldl_injective (phase1_turn_injective tk) (List.range PHASE1_LOOP_CNT) h
  have e := congrArg Vector.toList start
  simp only [Vector.toList_mk, List.cons.injEq, and_true] at e
  obtain ⟨lo, hi, a1, a3, a5⟩ := e
  obtain ⟨e1, e0⟩ := Mk16_inj a1
  obtain ⟨e3, e2⟩ := Mk16_inj a3
  obtain ⟨e5, e4⟩ := Mk16_inj a5
  refine ⟨vector_ext fun i hi => ?_, halves_inj lo hi⟩
  have : i = 0 ∨ i = 1 ∨ i = 2 ∨ i = 3 ∨ i = 4 ∨ i = 5 := by omega
  rcases this with rfl | rfl | rfl | rfl | rfl | rfl <;> assumption

theorem rc4key_inj {tk : Block} {v w : U16} {s t : Vector U16 6} (h : rc4key tk v s = rc4key tk w t) : s = t := by
  have e := congrArg Vector.toList h
  simp only [rc4key, Vector.toList_mk, List.cons.injEq, and_true] at e
  obtain ⟨-, -, -, -, l0, h0, l1, h1, l2, h2, l3, h3, l4, h4, l5, h5⟩ := e
  refine vector_ext fun i hi => ?_
  have : i = 0 ∨ i = 1 ∨ i = 2 ∨ i = 3 ∨ i = 4 ∨ i = 5 := by omega
  rcases this with rfl | rfl | rfl | rfl | rfl | rfl
  exacts [bytes_inj l0 h0, bytes_inj l1 h1, bytes_inj l2 h2, bytes_inj l3 h3, bytes_inj l4 h4, bytes_inj l5 h5]

theorem phase2_inj (tk : Block) {p1k p1k' : Vector U16 5} {iv16 iv16' : U16} (h : phase2 tk p1k iv16 = phase2 tk p1k' iv16') :
    p1k = p1k' ∧ iv16 = iv16' := by
  have e := congrArg Vector.toList (phase2_mix_injective tk (rc4key_inj h))
  simp only [Vector.toList_mk, List.cons.injEq, and_true] at e
  obtain ⟨e0, e1, e2, e3, e4, e5⟩ := e
  refine ⟨vector_ext fun i hi => ?_, ?_⟩
  · have : i = 0 ∨ i = 1 ∨ i = 2 ∨ i = 3 ∨ i = 4 := by omega
    rcases this with rfl | rfl | rfl | rfl | rfl <;> assumption
  · rw [e4] at e5
    exact add_left_cancel e5

/-- For one temporal key, the key of a packet tells its transmitter and all 48 bits of its
sequence counter: no two packets are sent under one RC4 key. -/
theorem packet_key_unique (tk : Block) {ta ta' : Vector Byte 6} {iv32 iv32' : Word} {iv16 iv16' : U16}
    (h : phase2 tk (phase1 tk ta iv32) iv16 = phase2 tk (phase1 tk ta' iv32') iv16') :
    ta = ta' ∧ iv32 = iv32' ∧ iv16 = iv16' := by
  obtain ⟨h1, h2⟩ := phase2_inj tk h
  obtain ⟨h3, h4⟩ := phase1_inj tk h1
  exact ⟨h3, h4, h2⟩

theorem packet_key_unique_next : phase2 (Vector.replicate 16 0) (phase1 (Vector.replicate 16 0) (Vector.replicate 6 0) 0) 0 ≠
    phase2 (Vector.replicate 16 0) (phase1 (Vector.replicate 16 0) (Vector.replicate 6 0) 0) 1 := fun h =>
  absurd (packet_key_unique (Vector.replicate 16 0) h).2.2 (by decide)

end Wlan
