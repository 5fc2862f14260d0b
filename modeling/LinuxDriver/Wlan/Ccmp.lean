import LinuxDriver.Wlan.Aes
import LinuxDriver.Lib.Memory
/-!
# Ciphering a frame

`aes_cipher` and `aes_decipher`, the software path of the wireless driver for
CCMP frames: header, eight bytes of extended IV, payload, eight bytes of MIC.
-/

namespace Wlan

def WIFI_MGT_TYPE : ℕ := 0x00
def WIFI_DATA : ℕ := 0x08
def WIFI_DATA_CFACK : ℕ := 0x18
def WIFI_DATA_CFPOLL : ℕ := 0x28
def WIFI_DATA_CFACKPOLL : ℕ := 0x38
def WLAN_HDR_A3_LEN : ℕ := 24
def WLAN_HDR_A3_QOS_LEN : ℕ := 26
def MAX_MSG_SIZE : ℕ := 2048

/-- The memory from `pframe` on. -/
abbrev Frame := Int → Byte

/-- The type bits of a frame. -/
def GetFrameType (pframe : Frame) : ℕ := (pframe 0 &&& (0x0c : Byte)).toNat

/-- The type and subtype bits of a frame. -/
def GetFrameSubType (pframe : Frame) : ℕ := (pframe 0 &&& (0xfc : Byte)).toNat

/-- The block that begins at `p`. -/
def block_at (m : Frame) (p : Int) : Block := Vector.ofFn fun j => m (p + j.val)

/-- `padded_buffer`: the first `r` bytes at `p`, then zeros. -/
def padded_buffer (m : Frame) (p : Int) (r : ℕ) : Block := Vector.ofFn fun j => if j.val < r then m (p + j.val) else 0

/-- Byte by byte. -/
def bitwise_xor (ina inb : Block) : Block := Vector.zipWith (· ^^^ ·) ina inb

/-- The packet number of the extended IV. -/
def pn_at (pframe : Frame) (hdrlen : Int) : Vector Byte 6 :=
  #v[pframe hdrlen, pframe (hdrlen + 1), pframe (hdrlen + 4), pframe (hdrlen + 5), pframe (hdrlen + 6), pframe (hdrlen + 7)]

/-- The first block of a MIC computation. -/
def construct_mic_iv (qc_exists a4_exists : Bool) (mpdu : Frame) (payload_length : ℕ) (pn_vector : Vector Byte 6)
    (frtype : ℕ) : Block :=
  let b1 : Byte := if qc_exists then (if a4_exists then mpdu 30 &&& (0x0f : Byte) else mpdu 24 &&& (0x0f : Byte)) else 0x00
  let b1 : Byte := if frtype = WIFI_MGT_TYPE then b1 ||| (0x10 : Byte) else b1
  #v[0x59, b1, mpdu 10, mpdu 11, mpdu 12, mpdu 13, mpdu 14, mpdu 15,
    pn_vector[5], pn_vector[4], pn_vector[3], pn_vector[2], pn_vector[1], pn_vector[0],
    BitVec.ofNat 8 (payload_length / 256), BitVec.ofNat 8 (payload_length % 256)]

/-- The second block: length and addresses of the header. -/
def construct_mic_header1 (header_length : ℕ) (mpdu : Frame) (frtype : ℕ) : Block :=
  let b2 : Byte := if frtype = WIFI_MGT_TYPE then mpdu 0 else mpdu 0 &&& (0xcf : Byte)
  #v[BitVec.ofNat 8 ((header_length - 2) / 256), BitVec.ofNat 8 ((header_length - 2) % 256), b2, mpdu 1 &&& (0xc7 : Byte),
    mpdu 4, mpdu 5, mpdu 6, mpdu 7, mpdu 8, mpdu 9, mpdu 10, mpdu 11, mpdu 12, mpdu 13, mpdu 14, mpdu 15]

/-- The third block: what else the header has. -/
def construct_mic_header2 (mpdu : Frame) (a4_exists qc_exists : Bool) : Block :=
  let tail : Vector Byte 8 := match qc_exists, a4_exists with
    | false, true => #v[mpdu 24, mpdu 25, mpdu 26, mpdu 27, mpdu 28, mpdu 29, 0x00, 0x00]
    | true, false => #v[mpdu 24 &&& (0x0f : Byte), mpdu 25 &&& (0x00 : Byte), 0x00, 0x00, 0x00, 0x00, 0x00, 0x00]
    | true, true =>
      #v[mpdu 24, mpdu 25, mpdu 26, mpdu 27, mpdu 28, mpdu 29, mpdu 30 &&& (0x0f : Byte), mpdu 31 &&& (0x00 : Byte)]
    | false, false => #v[0x00, 0x00, 0x00, 0x00, 0x00, 0x00, 0x00, 0x00]
  #v[mpdu 16, mpdu 17, mpdu 18, mpdu 19, mpdu 20, mpdu 21, 0x00, 0x00,
    tail[0], tail[1], tail[2], tail[3], tail[4], tail[5], tail[6], tail[7]]

/-- The block that gives keystream block `c`. -/
def construct_ctr_preload (a4_exists qc_exists : Bool) (mpdu : Frame) (pn_vector : Vector Byte 6) (c frtype : ℕ) : Block :=
  let b1 : Byte := if qc_exists then (if a4_exists then mpdu 30 &&& (0x0f : Byte) else mpdu 24 &&& (0x0f : Byte)) else 0x00
  let b1 : Byte := if frtype = WIFI_MGT_TYPE then b1 ||| (0x10 : Byte) else b1
  #v[0x01, b1, mpdu 10, mpdu 11, mpdu 12, mpdu 13, mpdu 14, mpdu 15,
    pn_vector[5], pn_vector[4], pn_vector[3], pn_vector[2], pn_vector[1], pn_vector[0],
    BitVec.ofNat 8 (c / 256), BitVec.ofNat 8 (c % 256)]

/-- The loop of the MIC over whole blocks: where it ends and what it has made. -/
def mic_blocks (key : Block) (m : Frame) : ℕ → Int → Block → Int × Block
  | 0, payload_index, aes_out => (payload_index, aes_out)
  | n + 1, payload_index, aes_out =>
    let chain_buffer := bitwise_xor aes_out (block_at m payload_index)
    mic_blocks key m n (payload_index + 16) (aes128k128d key chain_buffer)

/-- "Calculate MIC", over `len` bytes of payload. -/
def calculate_mic (key mic_iv mic_header1 mic_header2 : Block) (m : Frame) (payload_index : Int) (len : ℕ) : Int × Block :=
  let payload_remainder := len % 16
  let num_blocks := len / 16
  let aes_out := aes128k128d key mic_iv
  let aes_out := aes128k128d key (bitwise_xor aes_out mic_header1)
  let aes_out := aes128k128d key (bitwise_xor aes_out mic_header2)
  let (payload_index, aes_out) := mic_blocks key m num_blocks payload_index aes_out
  if payload_remainder > 0 then
    (payload_index + payload_remainder,
      aes128k128d key (bitwise_xor aes_out (padded_buffer m payload_index payload_remainder)))
  else (payload_index, aes_out)

/-- The loop over the whole blocks of the payload, from counter `i + 1` on. -/
def ctr_blocks (key : Block) (a4_exists qc_exists : Bool) (pn_vector : Vector Byte 6) (frtype : ℕ) :
    ℕ → ℕ → Frame → Int → Frame × Int
  | 0, _, m, payload_index => (m, payload_index)
  | n + 1, i, m, payload_index =>
    let aes_out := aes128k128d key (construct_ctr_preload a4_exists qc_exists m pn_vector (i + 1) frtype)
    let chain_buffer := bitwise_xor aes_out (block_at m payload_index)
    ctr_blocks key a4_exists qc_exists pn_vector frtype n (i + 1) (Mem.write m payload_index chain_buffer.toList)
      (payload_index + 16)

/-- What both directions do to `len` bytes of payload. -/
def crypt_payload (key : Block) (a4_exists qc_exists : Bool) (pn_vector : Vector Byte 6) (frtype : ℕ) (m : Frame)
    (payload_index : Int) (len : ℕ) : Frame × Int :=
  let payload_remainder := len % 16
  let num_blocks := len / 16
  let (m, payload_index) := ctr_blocks key a4_exists qc_exists pn_vector frtype num_blocks 0 m payload_index
  if payload_remainder > 0 then
    let ctr_preload := construct_ctr_preload a4_exists qc_exists m pn_vector (num_blocks + 1) frtype
    let chain_buffer := bitwise_xor (aes128k128d key ctr_preload) (padded_buffer m payload_index payload_remainder)
    (Mem.write m payload_index (chain_buffer.toList.take payload_remainder), payload_index + payload_remainder)
  else (m, payload_index)

/-- "Encrypt the MIC" that stands at `at_`, and put it at `payload_index`. -/
def encrypt_mic (key : Block) (a4_exists qc_exists : Bool) (pn_vector : Vector Byte 6) (frtype : ℕ) (m : Frame)
    (at_ payload_index : Int) : Frame :=
  let ctr_preload := construct_ctr_preload a4_exists qc_exists m pn_vector 0 frtype
  let chain_buffer := bitwise_xor (aes128k128d key ctr_preload) (padded_buffer m at_ 8)
  Mem.write m payload_index (chain_buffer.toList.take 8)

/-- The part from the MIC on, which `aes_decipher` repeats on its copy of the frame. -/
def mic_and_crypt (key : Block) (a4_exists qc_exists : Bool) (frtype hdrlen : ℕ) (pn_vector : Vector Byte 6) (m : Frame)
    (len : ℕ) : Frame :=
  let mic_iv := construct_mic_iv qc_exists a4_exists m len pn_vector frtype
  let mic_header1 := construct_mic_header1 hdrlen m frtype
  let mic_header2 := construct_mic_header2 m a4_exists qc_exists
  let (payload_index, aes_out) := calculate_mic key mic_iv mic_header1 mic_header2 m (hdrlen + 8) len
  let m := Mem.write m payload_index (aes_out.toList.take 8)
  let (m, payload_index) := crypt_payload key a4_exists qc_exists pn_vector frtype m (hdrlen + 8) len
  encrypt_mic key a4_exists qc_exists pn_vector frtype m (hdrlen + 8 + len) payload_index

/-- The header length is one of those without a fourth address. -/
def no_fourth_address (hdrlen : ℕ) : Bool := hdrlen = WLAN_HDR_A3_LEN ∨ hdrlen = WLAN_HDR_A3_QOS_LEN

/-- The test of the source: `frsubtype` is shifted by four bits there, the constants are not. -/
def contention_free (frtype frsubtype : ℕ) : Bool :=
  frtype ||| frsubtype = WIFI_DATA_CFACK ∨ frtype ||| frsubtype = WIFI_DATA_CFPOLL ∨
  frtype ||| frsubtype = WIFI_DATA_CFACKPOLL

/-- A plain frame with room for the IV becomes a CCMP frame: MIC, then cipher. -/
def aes_cipher (key : Block) (hdrlen : ℕ) (pframe : Frame) (plen : ℕ) : Frame :=
  let frtype := GetFrameType pframe
  let frsubtype := GetFrameSubType pframe >>> 4
  let a4_exists := !no_fourth_address hdrlen
  let qc_exists : Bool := contention_free frtype frsubtype ∨
    frtype = WIFI_DATA ∧ (frsubtype = 0x08 ∨ frsubtype = 0x09 ∨ frsubtype = 0x0a ∨ frsubtype = 0x0b)
  let hdrlen := if qc_exists ∧ hdrlen ≠ WLAN_HDR_A3_QOS_LEN then hdrlen + 2 else hdrlen
  mic_and_crypt key a4_exists qc_exists frtype hdrlen (pn_at pframe hdrlen) pframe plen

/-- The result, the frame and `message`, the static copy, which keeps what it holds
when the frame does not fit. `plen` counts the MIC. -/
def aes_decipher (key : Block) (hdrlen : ℕ) (message pframe : Frame) (plen : ℕ) : Bool × Frame × Frame :=
  let frtype := GetFrameType pframe
  let frsubtype := GetFrameSubType pframe >>> 4
  let pn_vector := pn_at pframe hdrlen
  let a4_exists := !no_fourth_address hdrlen
  -- the conjunction binds closer than the source's layout suggests
  let qc_exists : Bool := contention_free frtype frsubtype ∨
    (frtype = WIFI_DATA ∧ frsubtype = 0x08) ∨ frsubtype = 0x09 ∨ frsubtype = 0x0a ∨ frsubtype = 0x0b
  let hdrlen := if qc_exists ∧ hdrlen ≠ WLAN_HDR_A3_QOS_LEN then hdrlen + 2 else hdrlen
  let (pframe, _) := crypt_payload key a4_exists qc_exists pn_vector frtype pframe (hdrlen + 8) (plen - 8)
  let message := if hdrlen + plen + 8 ≤ MAX_MSG_SIZE then Mem.write message 0 (Mem.read pframe 0 (hdrlen + plen + 8))
    else message
  -- the packet number is read from the frame, the rest from the copy
  let message := mic_and_crypt key a4_exists qc_exists frtype hdrlen (pn_at pframe hdrlen) message (plen - 8)
  let mic_at : Int := hdrlen + 8 + (plen - 8 : ℕ)
  (Mem.read pframe mic_at 8 = Mem.read message mic_at 8, pframe, message)

/-! ## What the loops leave -/

/-- The two frames are the same up to `n`. -/
def Agree (n : Int) (m m' : Frame) : Prop := ∀ a, 0 ≤ a → a < n → m a = m' a

theorem Agree.refl (n : Int) (m : Frame) : Agree n m m := fun _ _ _ => rfl

theorem Agree.symm {n : Int} {m m' : Frame} (h : Agree n m m') : Agree n m' m := fun a h0 hn => (h a h0 hn).symm

theorem Agree.trans {n : Int} {m m' m'' : Frame} (h : Agree n m m') (h' : Agree n m' m'') : Agree n m m'' :=
  fun a h0 hn => (h a h0 hn).trans (h' a h0 hn)

theorem Agree.mono {n k : Int} {m m' : Frame} (h : Agree n m m') (hk : k ≤ n) : Agree k m m' :=
  fun a h0 hn => h a h0 (Int.lt_of_lt_of_le hn hk)

/-- The first 32 bytes, which hold every header and the end of the shortest IV. -/
def header (m : Frame) : Frame := fun a => if 0 ≤ a ∧ a < 32 then m a else 0

theorem header_congr {m m' : Frame} (h : Agree 32 m m') : header m = header m' := by
  funext a
  unfold header
  split
  · rename_i ha
    exact h a ha.1 ha.2
  · rfl

section headers

variable {m m' : Frame} (a4 qc : Bool) (pn : Vector Byte 6) (c len frtype : ℕ)

theorem construct_ctr_preload_congr (h : Agree 32 m m') :
    construct_ctr_preload a4 qc m pn c frtype = construct_ctr_preload a4 qc m' pn c frtype := by
  have e (f : Frame) : construct_ctr_preload a4 qc (header f) pn c frtype = construct_ctr_preload a4 qc f pn c frtype := rfl
  rw [← e m, ← e m', header_congr h]

theorem construct_mic_iv_congr (h : Agree 32 m m') :
    construct_mic_iv qc a4 m len pn frtype = construct_mic_iv qc a4 m' len pn frtype := by
  have e (f : Frame) : construct_mic_iv qc a4 (header f) len pn frtype = construct_mic_iv qc a4 f len pn frtype := rfl
  rw [← e m, ← e m', header_congr h]

theorem construct_mic_header1_congr (h : Agree 32 m m') :
    construct_mic_header1 len m frtype = construct_mic_header1 len m' frtype := by
  have e (f : Frame) : construct_mic_header1 len (header f) frtype = construct_mic_header1 len f frtype := rfl
  rw [← e m, ← e m', header_congr h]

theorem construct_mic_header2_congr (h : Agree 32 m m') :
    construct_mic_header2 m a4 qc = construct_mic_header2 m' a4 qc := by
  have e (f : Frame) : construct_mic_header2 (header f) a4 qc = construct_mic_header2 f a4 qc := by
    cases a4 <;> cases qc <;> rfl
  rw [← e m, ← e m', header_congr h]

end headers

theorem write_apply (m : Frame) (p : Int) (l : List Byte) (a : Int) : Mem.write m p l a =
    if p ≤ a ∧ a < p + l.length then l.getD (a - p).toNat 0 else m a := by
  split
  · rename_i h
    obtain ⟨h1, h2⟩ := h
    have e : a = p + (a - p).toNat := by omega
    rw [e, Mem.write_inside m p l (by omega), ← e, List.getD_eq_getElem?_getD, List.getElem?_eq_getElem (by omega)]
    rfl
  · exact Mem.write_outside m p l (by omega)

theorem getD_xor_block (x : Block) (m : Frame) (p : Int) {k : ℕ} (hk : k < 16) :
    (bitwise_xor x (block_at m p)).toList.getD k 0 = x.toList.getD k 0 ^^^ m (p + k) := by
  simp [bitwise_xor, block_at, hk]

theorem getD_xor_padded (x : Block) (m : Frame) (p : Int) {k r : ℕ} (hk : k < r) (hr : r ≤ 16) :
    ((bitwise_xor x (padded_buffer m p r)).toList.take r).getD k 0 = x.toList.getD k 0 ^^^ m (p + k) := by
  simp [bitwise_xor, padded_buffer, hk, show k < 16 by omega]

/-- Byte `k` of the keystream of a frame, the first counter being `c`. -/
def key_byte (key : Block) (a4 qc : Bool) (pn : Vector Byte 6) (frtype : ℕ) (m : Frame) (c k : ℕ) : Byte :=
  (aes128k128d key (construct_ctr_preload a4 qc m pn (c + k / 16) frtype)).toList.getD (k % 16) 0

section crypt

variable (key : Block) (a4 qc : Bool) (pn : Vector Byte 6) (frtype : ℕ)

theorem key_byte_congr {m m' : Frame} (h : Agree 32 m m') (c k : ℕ) :
    key_byte key a4 qc pn frtype m c k = key_byte key a4 qc pn frtype m' c k := by
  rw [key_byte, construct_ctr_preload_congr a4 qc pn _ frtype h, key_byte]

theorem write_agree (m : Frame) {p : Int} (hp : 32 ≤ p) (l : List Byte) : Agree 32 (Mem.write m p l) m :=
  fun _ _ _ => Mem.write_outside _ _ _ (by omega)

theorem key_byte_next (m : Frame) (c : ℕ) {k : ℕ} (hk : 16 ≤ k) :
    key_byte key a4 qc pn frtype m (c + 1) (k - 16) = key_byte key a4 qc pn frtype m c k := by
  have h1 : c + 1 + (k - 16) / 16 = c + k / 16 := by omega
  have h2 : (k - 16) % 16 = k % 16 := by omega
  rw [key_byte, h1, h2, key_byte]

theorem ctr_blocks_eq (n i : ℕ) (m : Frame) (p : Int) (hp : 32 ≤ p) :
    (ctr_blocks key a4 qc pn frtype n i m p).2 = p + 16 * n ∧
    ∀ a, (ctr_blocks key a4 qc pn frtype n i m p).1 a =
      if p ≤ a ∧ a < p + 16 * n then m a ^^^ key_byte key a4 qc pn frtype m (i + 1) (a - p).toNat else m a := by
  induction n generalizing i m p with
  | zero => exact ⟨by simp [ctr_blocks], fun a => by rw [if_neg (by omega)]; rfl⟩
  | succ n ih =>
    rw [ctr_blocks]
    generalize hx : aes128k128d key (construct_ctr_preload a4 qc m pn (i + 1) frtype) = x
    generalize hm1 : Mem.write m p (bitwise_xor x (block_at m p)).toList = m1
    have same : Agree 32 m1 m := hm1 ▸ write_agree m hp _
    have outside (a : Int) (h : a < p ∨ p + 16 ≤ a) : m1 a = m a := by
      rw [← hm1]
      exact Mem.write_outside _ _ _ (by simpa using h)
    obtain ⟨h2, h1⟩ := ih (i + 1) m1 (p + 16) (by omega)
    refine ⟨by rw [h2]; omega, fun a => ?_⟩
    rw [h1 a]
    by_cases here : p ≤ a ∧ a < p + 16
    · -- the block just written
      rw [if_neg (by omega), if_pos (by omega), ← hm1, write_apply, if_pos (by simpa using here),
        getD_xor_block x m p (by omega), show p + ((a - p).toNat : Int) = a by omega, BitVec.xor_comm, key_byte,
        show i + 1 + (a - p).toNat / 16 = i + 1 by omega, hx, show (a - p).toNat % 16 = (a - p).toNat by omega]
    · by_cases later : p + 16 ≤ a ∧ a < p + 16 + 16 * n
      · rw [if_pos later, if_pos (by omega), outside a (by omega), key_byte_congr key a4 qc pn frtype same,
          show (a - (p + 16)).toNat = (a - p).toNat - 16 by omega, key_byte_next key a4 qc pn frtype m _ (by omega)]
      · rw [if_neg later, if_neg (by omega), outside a (by omega)]

/-- The payload is xored with the keystream from counter 1 on, and nothing else changes. -/
theorem crypt_payload_eq (m : Frame) (p : Int) (len : ℕ) (hp : 32 ≤ p) :
    (crypt_payload key a4 qc pn frtype m p len).2 = p + len ∧
    ∀ a, (crypt_payload key a4 qc pn frtype m p len).1 a =
      if p ≤ a ∧ a < p + len then m a ^^^ key_byte key a4 qc pn frtype m 1 (a - p).toNat else m a := by
  obtain ⟨h2, h1⟩ := ctr_blocks_eq key a4 qc pn frtype (len / 16) 0 m p hp
  unfold crypt_payload
  dsimp only
  generalize ctr_blocks key a4 qc pn frtype (len / 16) 0 m p = r at h1 h2 ⊢
  obtain ⟨m1, q⟩ := r
  dsimp only at h1 h2 ⊢
  have same : Agree 32 m1 m := fun a h0 hn => by rw [h1 a, if_neg (by omega)]
  have hd : len / 16 * 16 + len % 16 = len := Nat.div_add_mod' len 16
  split
  · rename_i hr
    refine ⟨by simp only [h2]; omega, fun a => ?_⟩
    dsimp only
    rw [construct_ctr_preload_congr a4 qc pn _ frtype same]
    generalize hx : aes128k128d key (construct_ctr_preload a4 qc m pn (len / 16 + 1) frtype) = x
    by_cases here : q ≤ a ∧ a < q + (len % 16 : ℕ)
    · have hlen : (List.take (len % 16) (bitwise_xor x (padded_buffer m1 q (len % 16))).toList).length = len % 16 := by
        simp; omega
      rw [write_apply, hlen, if_pos here, if_pos (by omega), getD_xor_padded x m1 q (by omega) (by omega),
        show q + ((a - q).toNat : Int) = a by omega, h1 a, if_neg (by omega), BitVec.xor_comm, key_byte,
        show 1 + (a - p).toNat / 16 = len / 16 + 1 by omega, hx, show (a - p).toNat % 16 = (a - q).toNat by omega]
    · rw [Mem.write_outside _ _ _ (by simp; omega), h1 a]
      split
      · rw [if_pos (by omega)]
      · rw [if_neg (by omega)]
  · refine ⟨by simp only [h2]; omega, fun a => ?_⟩
    dsimp only
    rw [h1 a, show (16 * (len / 16 : ℕ) : Int) = len by omega]

theorem mic_blocks_eq {m m' : Frame} (n : ℕ) (p : Int) (x : Block) (h : ∀ a, p ≤ a → a < p + 16 * n → m a = m' a) :
    mic_blocks key m n p x = mic_blocks key m' n p x ∧ (mic_blocks key m n p x).1 = p + 16 * n := by
  induction n generalizing p x with
  | zero => exact ⟨rfl, by simp [mic_blocks]⟩
  | succ n ih =>
    have e : block_at m p = block_at m' p := by
      apply Vector.ext
      intro i hi
      simp only [block_at, Vector.getElem_ofFn]
      exact h (p + i) (by omega) (by omega)
    obtain ⟨h1, h2⟩ := ih (p + 16) (aes128k128d key (bitwise_xor x (block_at m p)))
      (fun a ha hn => h a (by omega) (by omega))
    refine ⟨?_, by rw [mic_blocks, h2]; omega⟩
    rw [mic_blocks, mic_blocks, ← e]
    exact h1

/-- The MIC is made of the payload, and the index is left behind it. -/
theorem calculate_mic_eq {m m' : Frame} (iv h1 h2 : Block) (p : Int) (len : ℕ)
    (h : ∀ a, p ≤ a → a < p + len → m a = m' a) :
    calculate_mic key iv h1 h2 m p len = calculate_mic key iv h1 h2 m' p len ∧
    (calculate_mic key iv h1 h2 m p len).1 = p + len := by
  have hd : len / 16 * 16 + len % 16 = len := Nat.div_add_mod' len 16
  unfold calculate_mic
  dsimp only
  generalize aes128k128d key (bitwise_xor (aes128k128d key (bitwise_xor (aes128k128d key iv) h1)) h2) = x
  obtain ⟨e, hq⟩ := @mic_blocks_eq key m m' (len / 16) p x (fun a ha hn => h a ha (by omega))
  rw [← e]
  generalize mic_blocks key m (len / 16) p x = r at hq ⊢
  obtain ⟨q, y⟩ := r
  dsimp only at hq ⊢
  split
  · have epad : padded_buffer m q (len % 16) = padded_buffer m' q (len % 16) := by
      apply Vector.ext
      intro i hi
      simp only [padded_buffer, Vector.getElem_ofFn]
      split
      · exact h (q + i) (by omega) (by omega)
      · rfl
    rw [epad]
    exact ⟨rfl, by dsimp only; omega⟩
  · exact ⟨rfl, by dsimp only; omega⟩

/-- The MIC of a frame. -/
def mic_of (hdrlen : ℕ) (m : Frame) (len : ℕ) : Block :=
  (calculate_mic key (construct_mic_iv qc a4 m len pn frtype) (construct_mic_header1 hdrlen m frtype)
    (construct_mic_header2 m a4 qc) m (hdrlen + 8) len).2

theorem mic_of_congr {hdrlen : ℕ} (hh : 24 ≤ hdrlen) {m m' : Frame} {len : ℕ} (h : Agree (hdrlen + 8 + len) m m') :
    mic_of key a4 qc pn frtype hdrlen m len = mic_of key a4 qc pn frtype hdrlen m' len := by
  have top : Agree 32 m m' := h.mono (by omega)
  rw [mic_of, construct_mic_iv_congr a4 qc pn len frtype top, construct_mic_header1_congr hdrlen frtype top,
    construct_mic_header2_congr a4 qc top, (calculate_mic_eq key _ _ _ _ len (fun a h0 hn => h a (by omega) hn)).1, mic_of]

/-- What the common part makes of a frame: header, ciphered payload, ciphered MIC. -/
theorem mic_and_crypt_apply {hdrlen : ℕ} (hh : 24 ≤ hdrlen) (m : Frame) (len : ℕ) (a : Int) :
    mic_and_crypt key a4 qc frtype hdrlen pn m len a =
      if hdrlen + 8 ≤ a ∧ a < hdrlen + 8 + len then
        m a ^^^ key_byte key a4 qc pn frtype m 1 (a - (hdrlen + 8)).toNat
      else if hdrlen + 8 + len ≤ a ∧ a < hdrlen + 8 + len + 8 then
        (mic_of key a4 qc pn frtype hdrlen m len).toList.getD (a - (hdrlen + 8 + len)).toNat 0 ^^^
          key_byte key a4 qc pn frtype m 0 (a - (hdrlen + 8 + len)).toNat
      else m a := by
  unfold mic_and_crypt
  obtain ⟨-, hp⟩ := @calculate_mic_eq key m m (construct_mic_iv qc a4 m len pn frtype)
    (construct_mic_header1 hdrlen m frtype) (construct_mic_header2 m a4 qc) (hdrlen + 8) len (fun _ _ _ => rfl)
  dsimp only
  rw [hp]
  generalize ht : (calculate_mic key (construct_mic_iv qc a4 m len pn frtype)
    (construct_mic_header1 hdrlen m frtype) (construct_mic_header2 m a4 qc) m (hdrlen + 8) len).2 = tag
  rw [show mic_of key a4 qc pn frtype hdrlen m len = tag from ht]
  generalize hm1 : Mem.write m (hdrlen + 8 + len : Int) (tag.toList.take 8) = m1
  have tagged (k : ℕ) (hk : k < 8) : m1 (hdrlen + 8 + len + k) = tag.toList.getD k 0 := by
    rw [← hm1, write_apply, if_pos (by simp; omega), show ((hdrlen + 8 + len + k : Int) - (hdrlen + 8 + len)).toNat = k by omega]
    simp [hk, show k < 16 by omega]
  have before (b : Int) (hb : b < hdrlen + 8 + len ∨ hdrlen + 8 + len + 8 ≤ b) : m1 b = m b := by
    rw [← hm1]
    exact Mem.write_outside _ _ _ (by simp; omega)
  have same : Agree 32 m1 m := fun b _ hn => before b (by omega)
  obtain ⟨h2, h1⟩ := crypt_payload_eq key a4 qc pn frtype m1 (hdrlen + 8) len (by omega)
  generalize crypt_payload key a4 qc pn frtype m1 (hdrlen + 8) len = r at h1 h2 ⊢
  obtain ⟨m2, q⟩ := r
  dsimp only at h1 h2
  have same2 : Agree 32 m2 m := fun b h0 hn => by rw [h1 b, if_neg (by omega), same b h0 hn]
  unfold encrypt_mic
  rw [construct_ctr_preload_congr a4 qc pn 0 frtype same2, h2]
  generalize hx : aes128k128d key (construct_ctr_preload a4 qc m pn 0 frtype) = x
  by_cases tail : hdrlen + 8 + len ≤ a ∧ a < hdrlen + 8 + len + 8
  · obtain ⟨k, rfl⟩ : ∃ k : ℕ, a = hdrlen + 8 + len + k := ⟨(a - (hdrlen + 8 + len)).toNat, by omega⟩
    have hk : ((hdrlen + 8 + len + k : Int) - (hdrlen + 8 + len)).toNat = k := by omega
    rw [if_neg (by omega), if_pos tail, write_apply, if_pos (by simp; omega), hk, getD_xor_padded x m2 _ (by omega) (by omega),
      h1, if_neg (by omega), tagged k (by omega), BitVec.xor_comm, key_byte, show 0 + k / 16 = 0 by omega, hx,
      show k % 16 = k by omega]
  · rw [Mem.write_outside _ _ _ (by simp; omega)]
    dsimp only
    rw [h1 a]
    split
    · rw [before a (by omega), key_byte_congr key a4 qc pn frtype same]
    · exact before a (by omega)

end crypt

/-! ## A frame and what it is taken for -/

/-- A frame with a QoS field, as `aes_decipher` tells it. -/
def qos (m : Frame) : Bool :=
  GetFrameType m = WIFI_DATA ∧ (GetFrameSubType m >>> 4 = 0x08 ∨ GetFrameSubType m >>> 4 = 0x09 ∨
    GetFrameSubType m >>> 4 = 0x0a ∨ GetFrameSubType m >>> 4 = 0x0b)

/-- The frames both sides read alike: QoS data has the three addresses, and the
subtypes 9 to 11 stand for data frames only. -/
structure Regular (hdrlen : ℕ) (m : Frame) : Prop where
  long : 24 ≤ hdrlen
  three : qos m → hdrlen = WLAN_HDR_A3_QOS_LEN
  data : 9 ≤ GetFrameSubType m >>> 4 → GetFrameSubType m >>> 4 ≤ 11 → GetFrameType m = WIFI_DATA

/-- The subtype bits never reach the ones these values are made of. -/
theorem contention_free_never (m : Frame) : contention_free (GetFrameType m) (GetFrameSubType m >>> 4) = false := by
  have all : ∀ b : Fin 256, contention_free (BitVec.ofFin b &&& (0x0c : Byte)).toNat
      ((BitVec.ofFin b &&& (0xfc : Byte)).toNat >>> 4) = false := by decide +kernel
  exact all (m 0).toFin

theorem Regular.hdrlen_eq {hdrlen : ℕ} {m : Frame} (h : Regular hdrlen m) :
    (if qos m ∧ hdrlen ≠ WLAN_HDR_A3_QOS_LEN then hdrlen + 2 else hdrlen) = hdrlen := by
  rw [if_neg]
  rintro ⟨hq, hn⟩
  exact hn (h.three hq)

theorem aes_cipher_eq (key : Block) {hdrlen : ℕ} {m : Frame} (h : Regular hdrlen m) (len : ℕ) :
    aes_cipher key hdrlen m len = mic_and_crypt key (!no_fourth_address hdrlen) (qos m) (GetFrameType m) hdrlen
      (pn_at m hdrlen) m len := by
  have e : (decide (contention_free (GetFrameType m) (GetFrameSubType m >>> 4) ∨ GetFrameType m = WIFI_DATA ∧
      (GetFrameSubType m >>> 4 = 0x08 ∨ GetFrameSubType m >>> 4 = 0x09 ∨ GetFrameSubType m >>> 4 = 0x0a ∨
        GetFrameSubType m >>> 4 = 0x0b)) : Bool) = qos m := by
    simp [contention_free_never, qos]
  unfold aes_cipher
  dsimp only
  rw [e, h.hdrlen_eq]

/-- The payload taken back, from any frame. -/
def opened (key : Block) (hdrlen : ℕ) (m : Frame) (len : ℕ) : Frame :=
  (crypt_payload key (!no_fourth_address hdrlen) (qos m) (pn_at m hdrlen) (GetFrameType m) m (hdrlen + 8) len).1

theorem aes_decipher_eq (key : Block) {hdrlen : ℕ} (message : Frame) {m : Frame} (h : Regular hdrlen m) {len : ℕ}
    (fit : hdrlen + (len + 8) + 8 ≤ MAX_MSG_SIZE) :
    let out := opened key hdrlen m len
    let copy := Mem.write message 0 (Mem.read out 0 (hdrlen + (len + 8) + 8))
    let resealed := mic_and_crypt key (!no_fourth_address hdrlen) (qos m) (GetFrameType m) hdrlen (pn_at out hdrlen) copy len
    aes_decipher key hdrlen message m (len + 8) =
      (decide (Mem.read out (hdrlen + 8 + len) 8 = Mem.read resealed (hdrlen + 8 + len) 8), out, resealed) := by
  have e : (decide (contention_free (GetFrameType m) (GetFrameSubType m >>> 4) ∨ (GetFrameType m = WIFI_DATA ∧
      GetFrameSubType m >>> 4 = 0x08) ∨ GetFrameSubType m >>> 4 = 0x09 ∨ GetFrameSubType m >>> 4 = 0x0a ∨
        GetFrameSubType m >>> 4 = 0x0b) : Bool) = qos m := by
    have hd := h.data
    rw [contention_free_never, qos]
    apply decide_eq_decide.2
    constructor
    · rintro (hf | ⟨ht, hs⟩ | hs | hs | hs)
      · cases hf
      · exact ⟨ht, .inl hs⟩
      · exact ⟨hd (by omega) (by omega), .inr (.inl hs)⟩
      · exact ⟨hd (by omega) (by omega), .inr (.inr (.inl hs))⟩
      · exact ⟨hd (by omega) (by omega), .inr (.inr (.inr hs))⟩
    · rintro ⟨ht, hs | hs⟩
      · exact .inr (.inl ⟨ht, hs⟩)
      · exact .inr (.inr hs)
  unfold aes_decipher
  dsimp only
  rw [e, h.hdrlen_eq, if_pos fit, Nat.add_sub_cancel]
  rfl

theorem type_congr {m m' : Frame} (h : m 0 = m' 0) :
    GetFrameType m = GetFrameType m' ∧ GetFrameSubType m = GetFrameSubType m' := by
  rw [GetFrameType, GetFrameSubType, h]
  exact ⟨rfl, rfl⟩

theorem qos_congr {m m' : Frame} (h : m 0 = m' 0) : qos m = qos m' := by
  rw [qos, (type_congr h).1, (type_congr h).2, qos]

theorem Regular.congr {hdrlen : ℕ} {m m' : Frame} (h : Regular hdrlen m) (e : m 0 = m' 0) : Regular hdrlen m' := by
  obtain ⟨ht, hs⟩ := type_congr e
  refine ⟨h.long, fun hq => h.three (qos_congr e ▸ hq), fun h9 h11 => ?_⟩
  rw [← ht]
  exact h.data (hs ▸ h9) (hs ▸ h11)

theorem pn_at_congr {hdrlen : ℕ} {m m' : Frame} (h : Agree (hdrlen + 8) m m') : pn_at m hdrlen = pn_at m' hdrlen := by
  simp only [pn_at]
  rw [h hdrlen (by omega) (by omega), h (hdrlen + 1) (by omega) (by omega), h (hdrlen + 4) (by omega) (by omega),
    h (hdrlen + 5) (by omega) (by omega), h (hdrlen + 6) (by omega) (by omega), h (hdrlen + 7) (by omega) (by omega)]

/-- The keystream of a frame, and its MIC. -/
abbrev stream (key : Block) (hdrlen : ℕ) (m : Frame) : ℕ → ℕ → Byte :=
  key_byte key (!no_fourth_address hdrlen) (qos m) (pn_at m hdrlen) (GetFrameType m) m

/-- The MIC of a frame with the packet number it carries. -/
abbrev tag (key : Block) (hdrlen : ℕ) (m : Frame) (len : ℕ) : Block :=
  mic_of key (!no_fourth_address hdrlen) (qos m) (pn_at m hdrlen) (GetFrameType m) hdrlen m len

theorem stream_congr (key : Block) {hdrlen : ℕ} (hh : 24 ≤ hdrlen) {m m' : Frame} (h : Agree (hdrlen + 8) m m') (c k : ℕ) :
    stream key hdrlen m c k = stream key hdrlen m' c k := by
  have h0 := h 0 (by omega) (by omega)
  rw [stream, qos_congr h0, pn_at_congr h, (type_congr h0).1]
  exact key_byte_congr key _ _ _ _ (h.mono (by omega)) c k

theorem tag_congr (key : Block) {hdrlen : ℕ} (hh : 24 ≤ hdrlen) {m m' : Frame} {len : ℕ} (h : Agree (hdrlen + 8 + len) m m') :
    tag key hdrlen m len = tag key hdrlen m' len := by
  have h0 := h 0 (by omega) (by omega)
  rw [tag, qos_congr h0, pn_at_congr (h.mono (by omega)), (type_congr h0).1]
  exact mic_of_congr key _ _ _ _ hh h

theorem aes_cipher_apply (key : Block) {hdrlen : ℕ} {m : Frame} (h : Regular hdrlen m) (len : ℕ) (a : Int) :
    aes_cipher key hdrlen m len a =
      if hdrlen + 8 ≤ a ∧ a < hdrlen + 8 + len then m a ^^^ stream key hdrlen m 1 (a - (hdrlen + 8)).toNat
      else if hdrlen + 8 + len ≤ a ∧ a < hdrlen + 8 + len + 8 then
        (tag key hdrlen m len).toList.getD (a - (hdrlen + 8 + len)).toNat 0 ^^^
          stream key hdrlen m 0 (a - (hdrlen + 8 + len)).toNat
      else m a := by
  rw [aes_cipher_eq key h]
  exact mic_and_crypt_apply key _ _ _ _ h.long m len a

theorem opened_apply (key : Block) {hdrlen : ℕ} {m : Frame} (h : Regular hdrlen m) (len : ℕ) (a : Int) :
    opened key hdrlen m len a =
      if hdrlen + 8 ≤ a ∧ a < hdrlen + 8 + len then m a ^^^ stream key hdrlen m 1 (a - (hdrlen + 8)).toNat else m a :=
  (crypt_payload_eq key _ _ _ _ m (hdrlen + 8) len (by have := h.long; omega)).2 a

theorem opened_header (key : Block) {hdrlen : ℕ} {m : Frame} (h : Regular hdrlen m) (len : ℕ) :
    Agree (hdrlen + 8) (opened key hdrlen m len) m := fun a _ hn => by
  rw [opened_apply key h, if_neg (by omega)]

/-- Ciphering and opening are xor with the same keystream. -/
theorem opened_cipher (key : Block) {hdrlen : ℕ} {p m : Frame} (h : Regular hdrlen m) {len : ℕ}
    (sealed : Agree (hdrlen + 8 + len + 8) (aes_cipher key hdrlen p len) m) (hp : Regular hdrlen p) :
    Agree (hdrlen + 8 + len) (opened key hdrlen m len) p := by
  have head : Agree (hdrlen + 8) p m := fun a h0 hn => by
    rw [← sealed a h0 (by omega), aes_cipher_apply key hp, if_neg (by omega), if_neg (by omega)]
  intro a h0 hn
  rw [opened_apply key h]
  split
  · rename_i hin
    rw [← sealed a h0 (by omega), aes_cipher_apply key hp, if_pos hin, stream_congr key h.long head, BitVec.xor_assoc,
      BitVec.xor_self, BitVec.xor_zero]
  · exact (head a h0 (by omega)).symm

theorem cipher_opened (key : Block) {hdrlen : ℕ} {m : Frame} (h : Regular hdrlen m) (len : ℕ) :
    Agree (hdrlen + 8 + len) (aes_cipher key hdrlen (opened key hdrlen m len) len) m := by
  have head := opened_header key h len
  have h0 := head 0 (by omega) (by omega)
  intro a ha hn
  rw [aes_cipher_apply key (h.congr h0.symm), stream_congr key h.long head]
  split
  · rename_i hin
    rw [opened_apply key h, if_pos hin, BitVec.xor_assoc, BitVec.xor_self, BitVec.xor_zero]
  · rw [if_neg (by omega)]
    exact head a ha (by omega)

/-- The verdict on a frame: ciphering what came out must give the frame back. -/
theorem aes_decipher_verdict (key : Block) {hdrlen : ℕ} (message : Frame) {m : Frame} (h : Regular hdrlen m) {len : ℕ}
    (fit : hdrlen + (len + 8) + 8 ≤ MAX_MSG_SIZE) :
    (aes_decipher key hdrlen message m (len + 8)).1 = true ↔
      Agree (hdrlen + 8 + len + 8) (aes_cipher key hdrlen (opened key hdrlen m len) len) m := by
  have long := h.long
  have head := opened_header key h len
  have body := cipher_opened key h len
  have h0 := head 0 (by omega) (by omega)
  rw [aes_decipher_eq key message h fit]
  generalize hout : opened key hdrlen m len = out at head h0 body
  have hr : Regular hdrlen out := h.congr h0.symm
  generalize hcopy : Mem.write message 0 (Mem.read out 0 (hdrlen + (len + 8) + 8)) = copy
  have same : Agree (hdrlen + 8 + len) copy out := by
    intro a ha hn
    obtain ⟨k, rfl⟩ : ∃ k : ℕ, a = 0 + k := ⟨a.toNat, by omega⟩
    rw [← hcopy, Mem.write_inside _ _ _ (by simp; omega)]
    simp [Mem.read]
  have resealed (k : ℕ) (hk : k < 8) : mic_and_crypt key (!no_fourth_address hdrlen) (qos m) (GetFrameType m) hdrlen
      (pn_at out hdrlen) copy len (hdrlen + 8 + len + k) = aes_cipher key hdrlen out len (hdrlen + 8 + len + k) := by
    have e := aes_cipher_apply key hr len (hdrlen + 8 + len + k)
    rw [if_neg (by omega), if_pos (by omega)] at e
    rw [← qos_congr h0, ← (type_congr h0).1, mic_and_crypt_apply key _ _ _ _ long, if_neg (by omega), if_pos (by omega), e,
      mic_of_congr key _ _ _ _ long same, key_byte_congr key _ _ _ _ (same.mono (by omega))]
  have out_tail (k : ℕ) : out (hdrlen + 8 + len + k) = m (hdrlen + 8 + len + k) := by
    rw [← hout, opened_apply key h, if_neg (by omega)]
  dsimp only
  rw [decide_eq_true_iff]
  constructor
  · intro e a ha hn
    by_cases tail : (hdrlen : Int) + 8 + len ≤ a
    · obtain ⟨k, rfl⟩ : ∃ k : ℕ, a = hdrlen + 8 + len + k := ⟨(a - (hdrlen + 8 + len)).toNat, by omega⟩
      have hk : k < 8 := by omega
      have ek := congrArg (fun l => l[k]?) e
      rw [Mem.read_getElem? _ _ hk, Mem.read_getElem? _ _ hk, resealed k hk, Option.some.injEq] at ek
      rw [← ek, out_tail]
    · exact body a ha (by omega)
  · intro e
    refine List.map_congr_left fun k hk => ?_
    have hk := List.mem_range.1 hk
    rw [resealed k hk, e _ (by omega) (by omega), out_tail]

theorem aes_cipher_first (key : Block) {hdrlen : ℕ} (hh : 24 ≤ hdrlen) (p : Frame) (len : ℕ) :
    aes_cipher key hdrlen p len 0 = p 0 := by
  unfold aes_cipher
  split <;> rw [mic_and_crypt_apply key _ _ _ _ (by omega), if_neg (by omega), if_neg (by omega)]

/-- A frame is accepted exactly when `aes_cipher` makes it of some text, and that text is what is handed on. -/
theorem aes_decipher_accepts (key : Block) {hdrlen : ℕ} (message : Frame) {m : Frame} (h : Regular hdrlen m) {len : ℕ}
    (fit : hdrlen + (len + 8) + 8 ≤ MAX_MSG_SIZE) :
    ((aes_decipher key hdrlen message m (len + 8)).1 = true ↔
      ∃ p, Agree (hdrlen + 8 + len + 8) (aes_cipher key hdrlen p len) m) ∧
    ∀ p, Agree (hdrlen + 8 + len + 8) (aes_cipher key hdrlen p len) m →
      Agree (hdrlen + 8 + len) (aes_decipher key hdrlen message m (len + 8)).2.1 p := by
  have long := h.long
  have regular {p : Frame} (hp : Agree (hdrlen + 8 + len + 8) (aes_cipher key hdrlen p len) m) : Regular hdrlen p := by
    refine h.congr ?_
    rw [← hp 0 (by omega) (by omega), aes_cipher_first key long]
  refine ⟨?_, fun p hp => ?_⟩
  · rw [aes_decipher_verdict key message h fit]
    constructor
    · exact fun e => ⟨_, e⟩
    · rintro ⟨p, hp⟩
      -- the text that was opened is the one that was ciphered, so its MIC is the frame's
      have hr := regular hp
      have same := opened_cipher key h hp hr
      have ho : Regular hdrlen (opened key hdrlen m len) := hr.congr (same 0 (by omega) (by omega)).symm
      refine Agree.trans (fun a ha hn => ?_) hp
      rw [aes_cipher_apply key ho, aes_cipher_apply key hr, stream_congr key long (same.mono (by omega)),
        stream_congr key long (same.mono (by omega)), tag_congr key long same]
      split
      · rw [same a ha (by omega)]
      · split
        · rfl
        · exact same a ha (by omega)
  · rw [aes_decipher_eq key message h fit]
    exact opened_cipher key h hp (regular hp)

theorem aes_decipher_accepts_qos :
    (aes_decipher (Vector.replicate 16 0) 26 (fun _ => 0) (aes_cipher (Vector.replicate 16 0) 26 (fun _ => 0x88) 20) 28).1 =
      true := by
  have data : Regular 26 (fun _ => 0x88) := ⟨by decide, fun _ => rfl, fun _ _ => rfl⟩
  have sealed : Regular 26 (aes_cipher (Vector.replicate 16 0) 26 (fun _ => 0x88) 20) :=
    data.congr (aes_cipher_first (Vector.replicate 16 0) (by decide) (fun _ => 0x88) 20).symm
  exact (aes_decipher_accepts (Vector.replicate 16 0) (fun _ => 0) sealed (by decide)).1.2 ⟨fun _ => 0x88, Agree.refl _ _⟩

/-! ## No keystream twice -/

theorem two_bytes {c c' : ℕ} (h : c < 65536) (h' : c' < 65536) (hi : BitVec.ofNat 8 (c / 256) = BitVec.ofNat 8 (c' / 256))
    (lo : BitVec.ofNat 8 (c % 256) = BitVec.ofNat 8 (c' % 256)) : c = c' := by
  have hi := congrArg BitVec.toNat hi
  have lo := congrArg BitVec.toNat lo
  simp only [BitVec.toNat_ofNat] at hi lo
  omega

/-- The counter blocks differ with the packet number, the transmitter and the counter. -/
theorem construct_ctr_preload_inj {a4 qc a4' qc' : Bool} {m m' : Frame} {pn pn' : Vector Byte 6} {c c' frtype frtype' : ℕ}
    (hc : c < 65536) (hc' : c' < 65536)
    (h : construct_ctr_preload a4 qc m pn c frtype = construct_ctr_preload a4' qc' m' pn' c' frtype') :
    pn = pn' ∧ c = c' ∧ ∀ i : Int, 10 ≤ i → i < 16 → m i = m' i := by
  have e (k : Fin 16) := congrArg (fun b : Block => b[k]) h
  refine ⟨?_, two_bytes hc hc' (e 14) (e 15), fun i h0 h1 => ?_⟩
  · apply Vector.ext
    intro i hi
    have : i = 0 ∨ i = 1 ∨ i = 2 ∨ i = 3 ∨ i = 4 ∨ i = 5 := by omega
    rcases this with rfl | rfl | rfl | rfl | rfl | rfl
    exacts [e 13, e 12, e 11, e 10, e 9, e 8]
  · have : i = 10 ∨ i = 11 ∨ i = 12 ∨ i = 13 ∨ i = 14 ∨ i = 15 := by omega
    rcases this with rfl | rfl | rfl | rfl | rfl | rfl
    exacts [e 2, e 3, e 4, e 5, e 6, e 7]

/-- Under one key two blocks of keystream are the same only for one packet number, one
transmitter and one counter, and none is the first block of a MIC. -/
theorem keystream_fresh (key : Block) {a4 qc a4' qc' : Bool} {m m' : Frame} {pn pn' : Vector Byte 6} {c c' frtype frtype' : ℕ}
    (hc : c < 65536) (hc' : c' < 65536) :
    (aes128k128d key (construct_ctr_preload a4 qc m pn c frtype) =
        aes128k128d key (construct_ctr_preload a4' qc' m' pn' c' frtype') →
      pn = pn' ∧ c = c' ∧ ∀ i : Int, 10 ≤ i → i < 16 → m i = m' i) ∧
    ∀ len, aes128k128d key (construct_mic_iv qc' a4' m' len pn' frtype') ≠
      aes128k128d key (construct_ctr_preload a4 qc m pn c frtype) := by
  refine ⟨fun h => construct_ctr_preload_inj hc hc' (aes128k128d_injective key h), fun len h => ?_⟩
  have e := congrArg (fun b : Block => b[0]) (aes128k128d_injective key h)
  exact absurd (show (0x59 : Byte) = 0x01 from e) (by decide)

theorem keystream_fresh_next :
    aes128k128d (Vector.replicate 16 0) (construct_ctr_preload false true (fun _ => 0x88) (Vector.replicate 6 0) 1 WIFI_DATA) ≠
      aes128k128d (Vector.replicate 16 0)
        (construct_ctr_preload false true (fun _ => 0x88) (Vector.replicate 6 0) 2 WIFI_DATA) := fun h =>
  absurd ((keystream_fresh (Vector.replicate 16 0) (by decide) (by decide)).1 h).2.1 (by decide)

end Wlan
