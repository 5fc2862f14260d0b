import LinuxDriver.Lib.Words
import Mathlib.Logic.Function.Basic
import Mathlib.Data.List.Basic
import Mathlib.Algebra.Group.Nat.Defs
/-!
# CAN frames in the message RAM

What `m_can_start_xmit` writes into a transmit buffer and what
`m_can_read_fifo` makes of a received element: identifier, length code and data
words of 72-byte elements.
-/

namespace Can

/-! ## Frames and elements -/

/-- The kernel's frame, as far as the driver looks into it. -/
structure canfd_frame where
  can_id : Word
  len : ℕ
  flags : Byte
  data : ℕ → Byte

/-- A socket buffer with a frame, of CAN FD or classic. -/
structure sk_buff where
  canfd : Bool
  cf : canfd_frame

def CAN_EFF_FLAG : Word := 0x80000000
def CAN_RTR_FLAG : Word := 0x40000000
def CAN_SFF_MASK : Word := 0x000007FF
def CAN_EFF_MASK : Word := 0x1FFFFFFF
def CANFD_BRS : Byte := 0x01
def CANFD_ESI : Byte := 0x02

def TXB_ELEMENT_SIZE : ℕ := 72

def M_CAN_FIFO_ID : ℕ := 0x0
def M_CAN_FIFO_DLC : ℕ := 0x4

/-- The offset of data word `n` in an element. -/
def M_CAN_FIFO_DATA (n : ℕ) : ℕ := 0x8 + (n <<< 2)

def RX_BUF_ESI : Word := 0x80000000
def RX_BUF_XTD : Word := 0x40000000
def RX_BUF_RTR : Word := 0x20000000
def RX_BUF_FDF : Word := 0x200000
def RX_BUF_BRS : Word := 0x100000
def TX_BUF_XTD : Word := 0x40000000
def TX_BUF_RTR : Word := 0x20000000
def TX_BUF_EFC : Word := 0x800000
def TX_BUF_FDF : Word := 0x200000
def TX_BUF_BRS : Word := 0x100000
def TX_BUF_MM_SHIFT : ℕ := 24
def TX_BUF_MM_MASK : Word := 0xff000000

/-- The kernel's conversions between lengths and length codes. -/
structure Dlc where
  can_len2dlc : ℕ → ℕ
  can_dlc2len : ℕ → ℕ
  code_lt : ∀ len, can_len2dlc len < 16
  classic : ∀ len ≤ 8, can_len2dlc len = len
  enough : ∀ len ≤ 64, len ≤ can_dlc2len (can_len2dlc len)
  fits : ∀ d, can_dlc2len d ≤ 64

def CAN_MAX_DLC : ℕ := 8

/-- A length code of a classic frame, cut to 8. -/
def get_can_dlc (i : ℕ) : ℕ := min i CAN_MAX_DLC

/-- The message RAM, by byte offsets. -/
abbrev Ram := ℕ → Word

/-- A word written into element `fpi` of the FIFO at `off`. -/
def m_can_fifo_write (off fpi offset : ℕ) (val : Word) (m : Ram) : Ram :=
  Function.update m (off + fpi * TXB_ELEMENT_SIZE + offset) val

/-- `*(u32 *)(data + i)` -/
def load32 (data : ℕ → Byte) (i : ℕ) : Word := Words.word (data (i + 3)) (data (i + 2)) (data (i + 1)) (data i)

/-- Byte `k` of a word, the low one first. -/
def byte_of (w : Word) (k : ℕ) : Byte := (w >>> (8 * k)).setWidth 8

/-- `*(u32 *)(data + i) = w` -/
def store32 (i : ℕ) (w : Word) (data : ℕ → Byte) : ℕ → Byte := fun a =>
  if i ≤ a ∧ a < i + 4 then byte_of w (a - i) else data a

/-- `for (i = 0; i < len; i += 4)`, with `n` for `i / 4`. -/
def for_words {σ : Type} (len : ℕ) (f : ℕ → σ → σ) (s : σ) : σ :=
  (List.range ((len + 3) / 4)).foldl (fun s n => f n s) s

/-! ## Sending -/

/-- The ID field of a transmit buffer. -/
def tx_id (cf : canfd_frame) : Word :=
  let id := if cf.can_id &&& CAN_EFF_FLAG ≠ 0 then (cf.can_id &&& CAN_EFF_MASK) ||| TX_BUF_XTD
    else (cf.can_id &&& CAN_SFF_MASK) <<< 18
  if cf.can_id &&& CAN_RTR_FLAG ≠ 0 then id ||| TX_BUF_RTR else id

/-- The bits of the second word that say CAN FD and bit rate switch. -/
def tx_fdflags (skb : sk_buff) : Word :=
  if skb.canfd then
    if skb.cf.flags &&& CANFD_BRS ≠ 0 then TX_BUF_FDF ||| TX_BUF_BRS else TX_BUF_FDF
  else 0

variable (dlc : Dlc) {n p : ℕ}

/-- The DLC field, with the put index as message marker. -/
def tx_dlc (putidx : ℕ) (skb : sk_buff) : Word :=
  ((BitVec.ofNat 32 putidx <<< TX_BUF_MM_SHIFT) &&& TX_BUF_MM_MASK) |||
    (BitVec.ofNat 32 (dlc.can_len2dlc skb.cf.len) <<< 16) ||| tx_fdflags skb ||| TX_BUF_EFC

/-- What `m_can_start_xmit` writes for cores from 3.1 on; `off` is where the buffers start. -/
def xmit_element (off putidx : ℕ) (skb : sk_buff) (m : Ram) : Ram :=
  let m := m_can_fifo_write off putidx M_CAN_FIFO_ID (tx_id skb.cf) m
  let m := m_can_fifo_write off putidx M_CAN_FIFO_DLC (tx_dlc dlc putidx skb) m
  for_words skb.cf.len (fun n => m_can_fifo_write off putidx (M_CAN_FIFO_DATA n) (load32 skb.cf.data (4 * n))) m

/-! ## Receiving -/

/-- The length of an element with this DLC field. -/
def rx_len (word : Word) : ℕ :=
  if word &&& RX_BUF_FDF ≠ 0 then dlc.can_dlc2len ((word >>> 16) &&& 0x0F).toNat
  else get_can_dlc ((word >>> 16) &&& 0x0F).toNat

/-- The frame `m_can_read_fifo` makes of the element at the get index, from a buffer of zeros. -/
def read_element (elem : ℕ → Word) : sk_buff :=
  let word := elem M_CAN_FIFO_DLC
  let fdf : Bool := word &&& RX_BUF_FDF ≠ 0
  let len := rx_len dlc word
  let id := elem M_CAN_FIFO_ID
  let can_id := if id &&& RX_BUF_XTD ≠ 0 then (id &&& CAN_EFF_MASK) ||| CAN_EFF_FLAG else (id >>> 18) &&& CAN_SFF_MASK
  let flags : Byte := if id &&& RX_BUF_ESI ≠ 0 then CANFD_ESI else 0
  if !fdf ∧ id &&& RX_BUF_RTR ≠ 0 then ⟨fdf, can_id ||| CAN_RTR_FLAG, len, flags, fun _ => 0⟩
  else
    let flags := if word &&& RX_BUF_BRS ≠ 0 then flags ||| CANFD_BRS else flags
    ⟨fdf, can_id, len, flags, for_words len (fun n => store32 (4 * n) (elem (M_CAN_FIFO_DATA n))) fun _ => 0⟩

/-! ## The words of an element -/

theorem FIFO_DATA_eq (n : ℕ) : M_CAN_FIFO_DATA n = 8 + 4 * n := by
  rw [M_CAN_FIFO_DATA, Nat.shiftLeft_eq]
  omega

theorem byte_load32 (data : ℕ → Byte) (i : ℕ) {k : ℕ} (hk : k < 4) : byte_of (load32 data i) k = data (i + k) := by
  have : k = 0 ∨ k = 1 ∨ k = 2 ∨ k = 3 := by omega
  rcases this with rfl | rfl | rfl | rfl
  · exact Words.byte_word_3 ..
  · exact Words.byte_word_2 ..
  · exact Words.byte_word_1 ..
  · exact Words.byte_word_0 ..

theorem for_words_store (len : ℕ) (w : ℕ → Word) (data : ℕ → Byte) (a : ℕ) :
    for_words len (fun n => store32 (4 * n) (w n)) data a =
      if a < 4 * ((len + 3) / 4) then byte_of (w (a / 4)) (a % 4) else data a := by
  unfold for_words
  generalize (len + 3) / 4 = N
  induction N with
  | zero => simp
  | succ N ih =>
    simp only [List.range_succ, List.foldl_append, List.foldl_cons, List.foldl_nil, store32, ih]
    by_cases h : 4 * N ≤ a ∧ a < 4 * N + 4
    · have hq : a / 4 = N := by omega
      have hr : a - 4 * N = a % 4 := by omega
      rw [if_pos h, if_pos (by omega), hq, hr]
    · rw [if_neg h]
      by_cases ha : a < 4 * N
      · rw [if_pos ha, if_pos (by omega)]
      · rw [if_neg ha, if_neg (by omega)]

theorem for_words_write (len off putidx : ℕ) (w : ℕ → Word) (m : Ram) (a : ℕ) :
    for_words len (fun n => m_can_fifo_write off putidx (M_CAN_FIFO_DATA n) (w n)) m a =
      let base := off + putidx * TXB_ELEMENT_SIZE
      if base + 8 ≤ a ∧ (a - base) % 4 = 0 ∧ (a - base - 8) / 4 < (len + 3) / 4 then w ((a - base - 8) / 4) else m a := by
  dsimp only
  unfold for_words
  generalize (len + 3) / 4 = N
  generalize hb : off + putidx * TXB_ELEMENT_SIZE = base
  induction N with
  | zero => simp
  | succ N ih =>
    simp only [List.range_succ, List.foldl_append, List.foldl_cons, List.foldl_nil, m_can_fifo_write, FIFO_DATA_eq, hb]
    simp only [m_can_fifo_write, FIFO_DATA_eq, hb] at ih
    by_cases h : a = base + (8 + 4 * N)
    · subst h
      have hq : (base + (8 + 4 * N) - base - 8) / 4 = N := by omega
      rw [Function.update_self, hq, if_pos ⟨by omega, by omega, by omega⟩]
    · rw [Function.update_of_ne h, ih]
      by_cases ha : base + 8 ≤ a ∧ (a - base) % 4 = 0 ∧ (a - base - 8) / 4 < N
      · rw [if_pos ha, if_pos ⟨ha.1, ha.2.1, by omega⟩]
      · rw [if_neg ha, if_neg fun hs => ha ⟨hs.1, hs.2.1, by omega⟩]

section Element
variable (off putidx : ℕ) (skb : sk_buff) (m : Ram)

/-- The element at a put index. -/
def element (off putidx : ℕ) (m : Ram) : ℕ → Word := fun offset => m (off + putidx * TXB_ELEMENT_SIZE + offset)

theorem element_id : element off putidx (xmit_element dlc off putidx skb m) M_CAN_FIFO_ID = tx_id skb.cf := by
  simp only [element, xmit_element, for_words_write, M_CAN_FIFO_ID, M_CAN_FIFO_DLC, m_can_fifo_write]
  rw [if_neg (by omega), Function.update_of_ne (by omega), Function.update_self]

theorem element_dlc : element off putidx (xmit_element dlc off putidx skb m) M_CAN_FIFO_DLC = tx_dlc dlc putidx skb := by
  simp only [element, xmit_element, for_words_write, M_CAN_FIFO_ID, M_CAN_FIFO_DLC, m_can_fifo_write]
  rw [if_neg (by omega), Function.update_self]

theorem element_data (n : ℕ) : element off putidx (xmit_element dlc off putidx skb m) (M_CAN_FIFO_DATA n) =
    if n < (skb.cf.len + 3) / 4 then load32 skb.cf.data (4 * n) else element off putidx m (M_CAN_FIFO_DATA n) := by
  simp only [element, xmit_element]
  rw [for_words_write]
  simp only [FIFO_DATA_eq, M_CAN_FIFO_ID, M_CAN_FIFO_DLC, m_can_fifo_write]
  generalize off + putidx * TXB_ELEMENT_SIZE = base
  have hq : (base + (8 + 4 * n) - base - 8) / 4 = n := by omega
  rw [hq, Function.update_of_ne (by omega), Function.update_of_ne (by omega)]
  by_cases h : n < (skb.cf.len + 3) / 4
  · rw [if_pos h, if_pos ⟨by omega, by omega, h⟩]
  · rw [if_neg h, if_neg fun hs => h hs.2.2]

/-- The rest of the message RAM stays as it was. -/
theorem xmit_element_frame (hlen : skb.cf.len ≤ 64) {a : ℕ}
    (ha : a < off + putidx * TXB_ELEMENT_SIZE ∨ off + (putidx + 1) * TXB_ELEMENT_SIZE ≤ a) :
    xmit_element dlc off putidx skb m a = m a := by
  simp only [xmit_element, for_words_write, M_CAN_FIFO_ID, M_CAN_FIFO_DLC, m_can_fifo_write]
  rw [TXB_ELEMENT_SIZE] at *
  rw [if_neg (by omega), Function.update_of_ne (by omega), Function.update_of_ne (by omega)]

end Element

/-! ## Bits -/

theorem flag_iff {w : ℕ} (x : BitVec w) (k : ℕ) (hk : k < w) : x &&& BitVec.twoPow w k ≠ 0 ↔ x.getLsbD k = true := by
  rw [BitVec.and_twoPow]
  cases h : x.getLsbD k
  · simp
  · simp only [if_true, ne_eq, iff_true]
    intro e
    have := congrArg (fun y : BitVec w => y.getLsbD k) e
    simp [hk] at this

/-- The low `n` bits. -/
def low (n : ℕ) : Word := BitVec.ofNat 32 (2 ^ n - 1)

theorem getLsbD_low {n : ℕ} (hn : n ≤ 32) (i : ℕ) : (low n).getLsbD i = decide (i < n) := by
  rw [low, BitVec.getLsbD_ofNat, Nat.testBit_two_pow_sub_one]
  by_cases h : i < n
  · simp [h, show i < 32 by omega]
  · simp [h]

theorem EFF_MASK_eq : CAN_EFF_MASK = low 29 := by decide
theorem SFF_MASK_eq : CAN_SFF_MASK = low 11 := by decide
theorem EFF_FLAG_eq : CAN_EFF_FLAG = BitVec.twoPow 32 31 := by decide
theorem RTR_FLAG_eq : CAN_RTR_FLAG = BitVec.twoPow 32 30 := by decide
theorem TX_XTD_eq : TX_BUF_XTD = BitVec.twoPow 32 30 := by decide
theorem TX_RTR_eq : TX_BUF_RTR = BitVec.twoPow 32 29 := by decide

theorem getLsbD_tx_id (cf : canfd_frame) (i : ℕ) (hi : i < 32) : (tx_id cf).getLsbD i =
    if i = 31 then false else if i = 30 then cf.can_id.getLsbD 31 else if i = 29 then cf.can_id.getLsbD 30
    else if cf.can_id.getLsbD 31 then cf.can_id.getLsbD i else decide (18 ≤ i) && cf.can_id.getLsbD (i - 18) := by
  simp only [tx_id, EFF_FLAG_eq, RTR_FLAG_eq, TX_XTD_eq, TX_RTR_eq, EFF_MASK_eq, SFF_MASK_eq,
    flag_iff _ 31 (by decide : 31 < 32), flag_iff _ 30 (by decide : 30 < 32)]
  cases h31 : cf.can_id.getLsbD 31 <;> cases h30 : cf.can_id.getLsbD 30 <;>
    simp only [if_true, Bool.false_eq_true, if_false, BitVec.getLsbD_or, BitVec.getLsbD_and, BitVec.getLsbD_shiftLeft,
      BitVec.getLsbD_twoPow, getLsbD_low (by decide : 29 ≤ 32), getLsbD_low (by decide : 11 ≤ 32)] <;> grind

theorem MM_MASK_eq : TX_BUF_MM_MASK = low 8 <<< 24 := by decide
theorem NIBBLE_eq : (0x0F : Word) = low 4 := by decide
theorem FDF_eq : TX_BUF_FDF = BitVec.twoPow 32 21 := by decide
theorem BRS_eq : TX_BUF_BRS = BitVec.twoPow 32 20 := by decide
theorem EFC_eq : TX_BUF_EFC = BitVec.twoPow 32 23 := by decide
theorem CANFD_BRS_eq : CANFD_BRS = BitVec.twoPow 8 0 := by decide

theorem getLsbD_tx_fdflags (skb : sk_buff) (i : ℕ) : (tx_fdflags skb).getLsbD i =
    (skb.canfd && (decide (i = 21) || decide (i = 20) && skb.cf.flags.getLsbD 0)) := by
  simp only [tx_fdflags, CANFD_BRS_eq, flag_iff _ 0 (by decide : 0 < 8), FDF_eq, BRS_eq]
  cases skb.canfd <;> cases skb.cf.flags.getLsbD 0 <;>
    simp only [if_true, Bool.false_eq_true, if_false, BitVec.getLsbD_or, BitVec.getLsbD_twoPow] <;> grind

theorem getLsbD_tx_dlc (skb : sk_buff) (putidx i : ℕ) (hi : i < 32) : (tx_dlc dlc putidx skb).getLsbD i =
    if 24 ≤ i then putidx.testBit (i - 24) else if i < 16 then false
    else if i < 20 then (dlc.can_len2dlc skb.cf.len).testBit (i - 16)
    else if i = 20 then skb.canfd && skb.cf.flags.getLsbD 0 else if i = 21 then skb.canfd else decide (i = 23) := by
  have code (k : ℕ) (hk : 4 ≤ k) : (dlc.can_len2dlc skb.cf.len).testBit k = false := by
    have := dlc.code_lt skb.cf.len
    exact Nat.testBit_lt_two_pow (Nat.lt_of_lt_of_le this (Nat.pow_le_pow_right (by decide : 0 < 2) hk))
  simp only [tx_dlc, TX_BUF_MM_SHIFT, MM_MASK_eq, EFC_eq, BitVec.getLsbD_or, BitVec.getLsbD_and, BitVec.getLsbD_shiftLeft,
    BitVec.getLsbD_ofNat, BitVec.getLsbD_twoPow, getLsbD_tx_fdflags, getLsbD_low (by decide : 8 ≤ 32)]
  by_cases h24 : 24 ≤ i
  · have := code (i - 16) (by omega)
    grind
  · by_cases h20 : i < 20
    · grind
    · have := code (i - 16) (by omega)
      grind

/-- The length code is read back. -/
theorem code_of_bits {x : Word} (h : ∀ i, 16 ≤ i → i < 20 → x.getLsbD i = (dlc.can_len2dlc n).testBit (i - 16)) :
    ((x >>> 16) &&& (0x0F : Word)).toNat = dlc.can_len2dlc n := by
  apply Nat.eq_of_testBit_eq
  intro i
  rw [BitVec.testBit_toNat, NIBBLE_eq, BitVec.getLsbD_and, BitVec.getLsbD_ushiftRight, getLsbD_low (by decide : 4 ≤ 32)]
  by_cases hi : i < 4
  · have := h (16 + i) (by omega) (by omega)
    rw [this, decide_eq_true hi, Bool.and_true, Nat.add_sub_cancel_left]
  · have := dlc.code_lt n
    rw [decide_eq_false hi, Bool.and_false]
    exact (Nat.testBit_lt_two_pow (Nat.lt_of_lt_of_le this
      (Nat.pow_le_pow_right (by decide : 0 < 2) (Nat.le_of_not_lt hi)))).symm

/-- The message marker of a transmit event with this second word. -/
def event_mark (word : Word) : ℕ := ((word &&& TX_BUF_MM_MASK) >>> TX_BUF_MM_SHIFT).toNat

/-- The controller copies the marker; the event tells the put index. -/
theorem event_mark_of_bits {x : Word} {skb : sk_buff} {putidx : ℕ} (hp : putidx < 256)
    (hx : x &&& TX_BUF_MM_MASK = tx_dlc dlc putidx skb &&& TX_BUF_MM_MASK) : event_mark x = putidx := by
  rw [event_mark, hx]
  apply Nat.eq_of_testBit_eq
  intro i
  rw [BitVec.testBit_toNat, TX_BUF_MM_SHIFT, BitVec.getLsbD_ushiftRight, MM_MASK_eq, BitVec.getLsbD_and,
    BitVec.getLsbD_shiftLeft, getLsbD_low (by decide : 8 ≤ 32)]
  by_cases hi : i < 8
  · rw [getLsbD_tx_dlc dlc skb putidx (24 + i) (by omega), if_pos (by omega), Nat.add_sub_cancel_left]
    simp only [Bool.and_eq_left_iff_imp]
    grind
  · rw [Nat.testBit_lt_two_pow (Nat.lt_of_lt_of_le hp (Nat.pow_le_pow_right (by decide : 0 < 2) (Nat.le_of_not_lt hi)))]
    grind

/-! ## From one end to the other -/

/-- The bits of an identifier a frame of its kind has. -/
def id_mask (skb : sk_buff) : Word :=
  (if skb.cf.can_id &&& CAN_EFF_FLAG ≠ 0 then CAN_EFF_MASK ||| CAN_EFF_FLAG else CAN_SFF_MASK) |||
    if skb.canfd then 0 else CAN_RTR_FLAG

/-- The length code's length, which may be more than the frame's. -/
def wire_len (skb : sk_buff) : ℕ := if skb.canfd then dlc.can_dlc2len (dlc.can_len2dlc skb.cf.len) else skb.cf.len

/-- A frame that asks for data instead of carrying them. -/
def remote (skb : sk_buff) : Bool := !skb.canfd && skb.cf.can_id.getLsbD 30

/-- `rx` has what goes over the bus of `tx`: the identifier, the kind and length code, and as many bytes as that says,
none for a remote frame. -/
structure Carried (tx rx : ℕ → Word) : Prop where
  id : ∀ i < 31, (rx M_CAN_FIFO_ID).getLsbD i = (tx M_CAN_FIFO_ID).getLsbD i
  code : ∀ i, 16 ≤ i → i < 22 → (rx M_CAN_FIFO_DLC).getLsbD i = (tx M_CAN_FIFO_DLC).getLsbD i
  data : (tx M_CAN_FIFO_ID).getLsbD 29 = false ∨ (tx M_CAN_FIFO_DLC).getLsbD 21 = true →
    ∀ i < rx_len dlc (tx M_CAN_FIFO_DLC),
    byte_of (rx (M_CAN_FIFO_DATA (i / 4))) (i % 4) = byte_of (tx (M_CAN_FIFO_DATA (i / 4))) (i % 4)

/-- Frames that the stack hands to the driver: their length is one of their kind. -/
structure Sendable (skb : sk_buff) : Prop where
  len : skb.cf.len ≤ if skb.canfd then 64 else 8

theorem rx_len_of_bits {x : Word} {skb : sk_buff} (h : Sendable skb)
    (hx : ∀ i, 16 ≤ i → i < 22 → x.getLsbD i = (tx_dlc dlc p skb).getLsbD i) : rx_len dlc x = wire_len dlc skb := by
  have code := code_of_bits dlc (n := skb.cf.len) (x := x) fun i h1 h2 => by
    rw [hx i h1 (by omega), getLsbD_tx_dlc dlc skb p i (by omega), if_neg (by omega), if_neg (by omega), if_pos h2]
  have kind : x.getLsbD 21 = skb.canfd := by
    rw [hx 21 (by decide) (by decide), getLsbD_tx_dlc dlc skb p 21 (by decide)]
    simp
  have fdf : x &&& RX_BUF_FDF ≠ 0 ↔ x.getLsbD 21 = true := flag_iff x 21 (by decide)
  rw [rx_len, code, wire_len]
  simp only [fdf, kind]
  cases hfd : skb.canfd
  · have hlen := h.len
    rw [hfd] at hlen
    have hlen : skb.cf.len ≤ 8 := hlen
    simp only [Bool.false_eq_true, if_false, get_can_dlc, CAN_MAX_DLC]
    rw [dlc.classic _ hlen, Nat.min_eq_left hlen]
  · rfl

theorem can_id_of_bits {x : Word} {skb : sk_buff} (hx : ∀ i < 31, x.getLsbD i = (tx_id skb.cf).getLsbD i) :
    ((if x &&& RX_BUF_XTD ≠ 0 then (x &&& CAN_EFF_MASK) ||| CAN_EFF_FLAG else (x >>> 18) &&& CAN_SFF_MASK) |||
      if remote skb then CAN_RTR_FLAG else 0) = skb.cf.can_id &&& id_mask skb := by
  have bit (i : ℕ) (hi : i < 31) : x.getLsbD i = _ := (hx i hi).trans (getLsbD_tx_id skb.cf i (by omega))
  have xtd : x &&& RX_BUF_XTD ≠ 0 ↔ x.getLsbD 30 = true := flag_iff x 30 (by decide)
  have h30 : x.getLsbD 30 = skb.cf.can_id.getLsbD 31 := bit 30 (by decide)
  simp only [id_mask, remote, xtd, h30, EFF_FLAG_eq, RTR_FLAG_eq, EFF_MASK_eq, SFF_MASK_eq,
    flag_iff skb.cf.can_id 31 (by decide)]
  apply BitVec.eq_of_getLsbD_eq
  intro i hi
  cases h31 : skb.cf.can_id.getLsbD 31 <;> cases hr : skb.cf.can_id.getLsbD 30 <;> cases hfd : skb.canfd <;>
    simp only [Bool.not_true, Bool.not_false, Bool.and_true, Bool.and_false, if_true, Bool.false_eq_true, if_false,
      BitVec.getLsbD_or, BitVec.getLsbD_and, BitVec.getLsbD_ushiftRight, BitVec.getLsbD_twoPow,
      getLsbD_low (by decide : 29 ≤ 32), getLsbD_low (by decide : 11 ≤ 32)] <;> grind

/-- The frame the other end makes of an element. Bits that frames of its kind do not have are gone from the identifier,
the length is rounded up to what a length code can say, and behind the last word written to the element come the bytes
that were in the message RAM before. -/
theorem frame_round_trip {off putidx : ℕ} {skb : sk_buff} {m : Ram} {rx : ℕ → Word} (h : Sendable skb)
    (hc : Carried dlc (element off putidx (xmit_element dlc off putidx skb m)) rx) :
    let got := read_element dlc rx
    got.canfd = skb.canfd ∧ got.cf.can_id = skb.cf.can_id &&& id_mask skb ∧ got.cf.len = wire_len dlc skb ∧
      (got.cf.flags &&& CANFD_BRS ≠ 0 ↔ skb.canfd = true ∧ skb.cf.flags &&& CANFD_BRS ≠ 0) ∧
      ∀ i < got.cf.len, got.cf.data i =
        if remote skb then 0 else if i < 4 * ((skb.cf.len + 3) / 4) then skb.cf.data i
        else byte_of (element off putidx m (M_CAN_FIFO_DATA (i / 4))) (i % 4) := by
  obtain ⟨hid, hcode, hdata⟩ := hc
  rw [element_id] at hid hdata
  rw [element_dlc] at hcode hdata
  generalize hw : rx M_CAN_FIFO_DLC = word at hcode
  generalize hi : rx M_CAN_FIFO_ID = id at hid
  have dlcbit (i : ℕ) (h1 : 16 ≤ i) (h2 : i < 22) := (hcode i h1 h2).trans (getLsbD_tx_dlc dlc skb putidx i (by omega))
  have len : rx_len dlc word = wire_len dlc skb := rx_len_of_bits dlc h hcode
  have sent : rx_len dlc (tx_dlc dlc putidx skb) = wire_len dlc skb := rx_len_of_bits dlc h fun _ _ _ => rfl
  have fdf : word &&& RX_BUF_FDF ≠ 0 ↔ word.getLsbD 21 = true := flag_iff word 21 (by decide)
  have brs : word &&& RX_BUF_BRS ≠ 0 ↔ word.getLsbD 20 = true := flag_iff word 20 (by decide)
  have rtr : id &&& RX_BUF_RTR ≠ 0 ↔ id.getLsbD 29 = true := flag_iff id 29 (by decide)
  have h21 : word.getLsbD 21 = skb.canfd := by simpa using dlcbit 21 (by decide) (by decide)
  have h20 : word.getLsbD 20 = (skb.canfd && skb.cf.flags.getLsbD 0) := by simpa using dlcbit 20 (by decide) (by decide)
  have h29 : id.getLsbD 29 = skb.cf.can_id.getLsbD 30 := by
    rw [hid 29 (by decide), getLsbD_tx_id skb.cf 29 (by decide)]
    simp
  have name := can_id_of_bits hid
  have hrem : (!skb.canfd) = true ∧ skb.cf.can_id.getLsbD 30 = true ↔ remote skb = true := by simp [remote]
  simp only [read_element, hw, hi, fdf, brs, rtr, h21, h20, h29, Bool.decide_eq_true, hrem]
  have esi : (if id &&& RX_BUF_ESI ≠ 0 then CANFD_ESI else 0) = CANFD_ESI ∨
      (if id &&& RX_BUF_ESI ≠ 0 then CANFD_ESI else 0) = 0 := ite_eq_or_eq ..
  have flags : skb.cf.flags &&& CANFD_BRS ≠ 0 ↔ skb.cf.flags.getLsbD 0 = true := flag_iff _ 0 (by decide)
  cases hr : remote skb
  · simp only [hr, Bool.false_eq_true, if_false, BitVec.ofNat_eq_ofNat, BitVec.or_zero] at name
    have carries : (tx_id skb.cf).getLsbD 29 = false ∨ (tx_dlc dlc putidx skb).getLsbD 21 = true := by
      rw [← hid 29 (by decide), ← hcode 21 (by decide) (by decide), h29, h21]
      simp only [remote, Bool.and_eq_false_iff, Bool.not_eq_false'] at hr
      exact hr.symm
    simp only [Bool.false_eq_true, if_false, len, true_and]
    refine ⟨name, ?_, fun i hlt => ?_⟩
    · rw [flags]
      generalize (if id &&& RX_BUF_ESI ≠ 0 then CANFD_ESI else 0) = x at esi
      cases skb.canfd <;> cases skb.cf.flags.getLsbD 0 <;> rcases esi with rfl | rfl <;> decide
    · rw [for_words_store, if_pos (by omega), hdata carries i (by omega), element_data]
      by_cases hw : i / 4 < (skb.cf.len + 3) / 4
      · rw [if_pos hw, if_pos (by omega), byte_load32 _ _ (Nat.mod_lt _ (by decide)), Nat.div_add_mod]
      · rw [if_neg hw, if_neg (by omega)]
  · simp only [hr, if_true] at name
    have classic : skb.canfd = false := by simp [remote] at hr; exact hr.1
    simp only [if_true, len, true_and]
    refine ⟨name, ?_, fun i hlt => trivial⟩
    rw [classic, flags]
    generalize (if id &&& RX_BUF_ESI ≠ 0 then CANFD_ESI else 0) = x at esi
    cases skb.cf.flags.getLsbD 0 <;> rcases esi with rfl | rfl <;> decide

theorem Carried.refl (tx : ℕ → Word) : Carried dlc tx tx := ⟨fun _ _ => rfl, fun _ _ _ => rfl, fun _ _ _ => rfl⟩

/-- The tables of the kernel. -/
def kernel_dlc : Dlc where
  can_len2dlc len :=
    if len ≤ 8 then len else if len ≤ 12 then 9 else if len ≤ 16 then 10 else if len ≤ 20 then 11
    else if len ≤ 24 then 12 else if len ≤ 32 then 13 else if len ≤ 48 then 14 else 15
  can_dlc2len d := [0, 1, 2, 3, 4, 5, 6, 7, 8, 12, 16, 20, 24, 32, 48, 64].getD (d &&& 0x0F) 0
  code_lt len := by grind
  classic len h := if_pos h
  enough := by decide
  fits d := by
    have all : ∀ k ≤ 15, [0, 1, 2, 3, 4, 5, 6, 7, 8, 12, 16, 20, 24, 32, 48, 64].getD k 0 ≤ 64 := by decide
    exact all _ Nat.and_le_right

/-- 26 bytes go out as 32, the last four of them an earlier frame's. -/
theorem frame_round_trip_long :
    let skb : sk_buff := ⟨true, ⟨0x123, 26, 0, fun _ => 1⟩⟩
    let got := read_element kernel_dlc (element 0 3 (xmit_element kernel_dlc 0 3 skb fun _ => 0xAAAAAAAA))
    got.cf.len = 32 ∧ got.cf.data 27 = 1 ∧ got.cf.data 28 = 0xAA := by
  obtain ⟨-, -, len, -, data⟩ := @frame_round_trip kernel_dlc 0 3 ⟨true, ⟨0x123, 26, 0, fun _ => 1⟩⟩
    (fun _ => 0xAAAAAAAA) _ ⟨by decide⟩ (Carried.refl kernel_dlc _)
  have len : _ = 32 := len
  refine ⟨len, ?_, ?_⟩
  · exact data 27 (by rw [len]; decide)
  · exact data 28 (by rw [len]; decide)

end Can
