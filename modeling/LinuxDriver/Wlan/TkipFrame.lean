import LinuxDriver.Wlan.Tkip
import LinuxDriver.Wlan.Arcfour
import LinuxDriver.Wlan.Ccmp
/-!
# TKIP frames

`rtw_tkip_encrypt` and `rtw_tkip_decrypt`: header, eight bytes of extended IV,
payload, four bytes of check sum. A frame goes out in fragments, each ciphered
where it stands in the buffer; it comes in one fragment at a time.
-/

namespace Wlan

open Mixing

/-- The ciphers that an attribute may name. -/
inductive Encrypt
  | _NO_PRIVACY_
  | _WEP40_
  | _TKIP_
  | _TKIP_WTMIC_
  | _AES_
  | _WEP104_
  deriving DecidableEq

/-- The address is that of a group. -/
def IS_MCAST (da : Vector Byte 6) : Bool := word_of da 0 &&& (0x01 : Byte) ≠ 0

/-- Up to the next multiple of 4. -/
def RND4 (x : Int) : Int := (x / 4 + if x % 4 = 0 then 0 else 1) * 4

/-- The attributes of a frame to send, as far as TKIP reads them. -/
structure pkt_attrib where
  encrypt : Encrypt
  ra : Vector Byte 6
  ta : Vector Byte 6
  hdrlen : ℕ
  iv_len : ℕ
  icv_len : ℕ
  nr_frags : ℕ
  last_txcmdsz : ℕ
  dot118021x_UncstKey : Block

/-- The attributes of a received frame, as far as TKIP reads them. -/
structure rx_pkt_attrib where
  encrypt : Encrypt
  ra : Vector Byte 6
  ta : Vector Byte 6
  hdrlen : ℕ
  iv_len : ℕ
  key_index : ℕ

/-- The group keys. -/
structure security_priv where
  binstallGrpkey : Bool
  dot118021XGrpKeyid : ℕ
  dot118021XGrpKey : ℕ → Block

/-- The RC4 key of the packet whose IV stands at `iv`. -/
def tkip_rc4key (prwskey : Block) (ta : Vector Byte 6) (m : Frame) (iv : Int) : List Byte :=
  let pnl := Mk16 (m iv) (m (iv + 2))
  let pnh := Words.word (m (iv + 7)) (m (iv + 6)) (m (iv + 5)) (m (iv + 4))
  (phase2 prwskey (phase1 prwskey ta pnh) pnl).toList

/-- The check sum, and the two calls of `arcfour_encrypt` on the payload and on it. -/
def seal_payload (rc4key : List Byte) (m : Frame) (payload : Int) (length : ℕ) : Frame :=
  let text := Mem.read m payload length
  let crc := getcrc32 text
  let r := arcfour_encrypt (arcfour_init rc4key 16) text
  Mem.write (Mem.write m payload r.2) (payload + length) (arcfour_encrypt r.1 crc).2

/-- The loop over the fragments, from the one at `pframe` on; the argument counts those left. -/
def tkip_fragments (prwskey : Block) (frag_len : ℕ) (pattrib : pkt_attrib) : ℕ → Frame → Int → Frame
  | 0, m, _ => m
  | left + 1, m, pframe =>
    let iv := pframe + pattrib.hdrlen
    let payload := pframe + pattrib.iv_len + pattrib.hdrlen
    let rc4key := tkip_rc4key prwskey pattrib.ta m iv
    if left = 0 then
      seal_payload rc4key m payload (pattrib.last_txcmdsz - pattrib.hdrlen - pattrib.iv_len - pattrib.icv_len)
    else
      let length := frag_len - pattrib.hdrlen - pattrib.iv_len - pattrib.icv_len
      tkip_fragments prwskey frag_len pattrib left (seal_payload rc4key m payload length) (RND4 (pframe + frag_len))

/-- The key of a frame to send. -/
def tkip_tx_key (psecuritypriv : security_priv) (pattrib : pkt_attrib) : Block :=
  if IS_MCAST pattrib.ra then psecuritypriv.dot118021XGrpKey psecuritypriv.dot118021XGrpKeyid
  else pattrib.dot118021x_UncstKey

/-- `buf_addr` is where the frame stands, if there is one. -/
def rtw_tkip_encrypt (psecuritypriv : security_priv) (frag_len hw_hdr_offset : ℕ) (pattrib : pkt_attrib)
    (buf_addr : Option Int) (m : Frame) : Bool × Frame :=
  match buf_addr with
  | none => (false, m)
  | some buf_addr =>
    if pattrib.encrypt = Encrypt._TKIP_ then
      (true, tkip_fragments (tkip_tx_key psecuritypriv pattrib) frag_len pattrib pattrib.nr_frags m (buf_addr + hw_hdr_offset))
    else (true, m)

/-- The key a received frame is opened with, if the driver has one; `stainfo` is the station
of the transmitter's address, here its pairwise key. -/
def tkip_rx_key (psecuritypriv : security_priv) (prxattrib : rx_pkt_attrib) (stainfo : Option Block) : Option Block :=
  match stainfo with
  | none => none
  | some uncst =>
    if IS_MCAST prxattrib.ra then
      if psecuritypriv.binstallGrpkey then some (psecuritypriv.dot118021XGrpKey prxattrib.key_index) else none
    else some uncst

/-- `pframe` is `rx_data`. -/
def rtw_tkip_decrypt (psecuritypriv : security_priv) (prxattrib : rx_pkt_attrib) (stainfo : Option Block) (len : ℕ)
    (pframe : Int) (m : Frame) : Bool × Frame :=
  if prxattrib.encrypt = Encrypt._TKIP_ then
    match tkip_rx_key psecuritypriv prxattrib stainfo with
    | none => (false, m)
    | some prwskey =>
      let iv := pframe + prxattrib.hdrlen
      let payload := pframe + prxattrib.iv_len + prxattrib.hdrlen
      let length := len - prxattrib.hdrlen - prxattrib.iv_len
      let rc4key := tkip_rc4key prwskey prxattrib.ta m iv
      let m := Mem.write m payload (arcfour_encrypt (arcfour_init rc4key 16) (Mem.read m payload length)).2
      let crc := getcrc32 (Mem.read m payload (length - 4))
      (decide (Mem.read m (payload + (length - 4 : ℕ)) 4 = crc), m)
  else (true, m)

/-! ## What a frame carries -/

/-- The plain text of `length` bytes at `payload`, check sum included. -/
def plain (rc4key : List Byte) (m : Frame) (payload : Int) (length : ℕ) : List Byte :=
  (arcfour_encrypt (arcfour_init rc4key 16) (Mem.read m payload length)).2

@[simp] theorem length_plain (rc4key : List Byte) (m : Frame) (payload : Int) (length : ℕ) :
    (plain rc4key m payload length).length = length := by
  simp [plain]

@[simp] theorem length_getcrc32 (buf : List Byte) : (getcrc32 buf).length = 4 := rfl

theorem seal_payload_read (rc4key : List Byte) (m : Frame) (payload : Int) (length : ℕ) :
    Mem.read (seal_payload rc4key m payload length) payload (length + 4) =
      (arcfour_encrypt (arcfour_init rc4key 16) (Mem.read m payload length ++ getcrc32 (Mem.read m payload length))).2 := by
  rw [arcfour_encrypt_append, seal_payload, Mem.read_add]
  generalize hr : arcfour_encrypt (arcfour_init rc4key 16) (Mem.read m payload length) = r
  have hl : r.2.length = length := by rw [← hr]; simp
  generalize hb : (arcfour_encrypt r.1 (getcrc32 (Mem.read m payload length))).2 = b
  have hbl : b.length = 4 := by rw [← hb]; simp
  have body : Mem.read (Mem.write (Mem.write m payload r.2) (payload + length) b) payload length = r.2 := by
    rw [Mem.read_write_disjoint _ fun k hk j hj => by omega]
    have := Mem.read_write_self m payload r.2
    rwa [hl] at this
  have tail := Mem.read_write_self (Mem.write m payload r.2) (payload + length) b
  rw [hbl] at tail
  rw [body, tail]

/-- Opening what was sealed gives the payload and its check sum. -/
theorem plain_seal_payload (rc4key : List Byte) (m : Frame) (payload : Int) (length : ℕ) :
    plain rc4key (seal_payload rc4key m payload length) payload (length + 4) =
      Mem.read m payload length ++ getcrc32 (Mem.read m payload length) := by
  rw [plain, seal_payload_read, arcfour_encrypt_twice]

theorem checked_seal_payload (rc4key : List Byte) (m : Frame) (payload : Int) (length : ℕ) :
    checked (plain rc4key (seal_payload rc4key m payload length) payload (length + 4)) := by
  rw [plain_seal_payload]
  simp [checked]

theorem seal_payload_outside (rc4key : List Byte) (m : Frame) (payload : Int) (length : ℕ) {a : Int}
    (h : a < payload ∨ payload + length + 4 ≤ a) : seal_payload rc4key m payload length a = m a := by
  rw [seal_payload, Mem.write_outside _ _ _ (by simp; omega), Mem.write_outside _ _ _ (by simp; omega)]

/-- The comparison of the last four bytes with the check sum of the others. -/
theorem checked_read {m : Frame} {payload : Int} {n : ℕ} {text : List Byte} (h4 : 4 ≤ n)
    (all : Mem.read m payload n = text) :
    decide (Mem.read m (payload + (n - 4 : ℕ)) 4 = getcrc32 (Mem.read m payload (n - 4))) = true ↔ checked text := by
  have two := Mem.read_add m payload (n - 4) 4
  rw [show n - 4 + 4 = n by omega, all] at two
  have hl : text.length = n := by rw [← all]; simp
  have htake : text.take (n - 4) = Mem.read m payload (n - 4) := by rw [two]; simp
  have hdrop : text.drop (n - 4) = Mem.read m (payload + (n - 4 : ℕ)) 4 := by rw [two]; simp
  rw [decide_eq_true_iff, checked, hl, htake, hdrop]
  exact eq_comm

/-- The verdict of the receiver is about the plain text only. -/
theorem rtw_tkip_decrypt_eq {sec : security_priv} {rx : rx_pkt_attrib} {stainfo : Option Block} {prwskey : Block}
    (htkip : rx.encrypt = Encrypt._TKIP_) (hkey : tkip_rx_key sec rx stainfo = some prwskey) {len n : ℕ}
    (hlen : len = rx.hdrlen + rx.iv_len + n) (h4 : 4 ≤ n) (pframe : Int) (m : Frame) :
    let text := plain (tkip_rc4key prwskey rx.ta m (pframe + rx.hdrlen)) m (pframe + rx.iv_len + rx.hdrlen) n
    ((rtw_tkip_decrypt sec rx stainfo len pframe m).1 = true ↔ checked text) ∧
    Mem.read (rtw_tkip_decrypt sec rx stainfo len pframe m).2 (pframe + rx.iv_len + rx.hdrlen) n = text := by
  intro text
  have hn : len - rx.hdrlen - rx.iv_len = n := by omega
  have all := Mem.read_write_self m (pframe + rx.iv_len + rx.hdrlen) text
  rw [show text.length = n from length_plain ..] at all
  rw [rtw_tkip_decrypt, if_pos htkip, hkey]
  dsimp only
  rw [hn]
  exact ⟨checked_read h4 all, all⟩

/-! ## Damage -/

theorem read_splice {m m' : Frame} {p : Int} {i k n : ℕ} (hk : i + k ≤ n)
    (h : ∀ a, a < p + i ∨ p + i + k ≤ a → m a = m' a) :
    ∃ before after, Mem.read m p n = before ++ Mem.read m (p + i) k ++ after ∧
      Mem.read m' p n = before ++ Mem.read m' (p + i) k ++ after ∧ before.length = i := by
  obtain ⟨j, rfl⟩ : ∃ j, n = i + k + j := ⟨n - (i + k), by omega⟩
  have eb : Mem.read m' p i = Mem.read m p i := by
    refine List.map_congr_left fun b hb => ?_
    have hb := List.mem_range.1 hb
    exact (h _ (by omega)).symm
  have ea : Mem.read m' (p + (i + k : ℕ)) j = Mem.read m (p + (i + k : ℕ)) j := by
    refine List.map_congr_left fun b hb => ?_
    exact (h _ (by omega)).symm
  refine ⟨Mem.read m p i, Mem.read m (p + (i + k : ℕ)) j, ?_, ?_, by simp⟩
  · rw [Mem.read_add, Mem.read_add]
  · rw [Mem.read_add, Mem.read_add, eb, ea]

theorem tkip_rc4key_congr {m m' : Frame} {iv iv' : Int} (h : ∀ j, 0 ≤ j → j < 8 → m (iv + j) = m' (iv' + j))
    (prwskey : Block) (ta : Vector Byte 6) : tkip_rc4key prwskey ta m iv = tkip_rc4key prwskey ta m' iv' := by
  have h0 : m iv = m' iv' := by simpa using h 0 (by omega) (by omega)
  rw [tkip_rc4key, h0, h 2 (by omega) (by omega), h 4 (by omega) (by omega), h 5 (by omega) (by omega),
    h 6 (by omega) (by omega), h 7 (by omega) (by omega), tkip_rc4key]

/-- Of two frames that are the same but for up to four bytes of ciphered text in a row,
check sum included, at most one is accepted. -/
theorem rtw_tkip_decrypt_damage {sec : security_priv} {rx : rx_pkt_attrib} {stainfo : Option Block} {len n : ℕ}
    (htkip : rx.encrypt = Encrypt._TKIP_) (hiv : rx.iv_len = 8) (hlen : len = rx.hdrlen + rx.iv_len + n) (h4 : 4 ≤ n)
    {pframe : Int} {m m' : Frame} {i k : ℕ} (hk : k ≤ 4) (hik : i + k ≤ n)
    (same : ∀ a, a < pframe + rx.iv_len + rx.hdrlen + i ∨ pframe + rx.iv_len + rx.hdrlen + i + k ≤ a → m a = m' a)
    (ok : (rtw_tkip_decrypt sec rx stainfo len pframe m).1 = true)
    (ok' : (rtw_tkip_decrypt sec rx stainfo len pframe m').1 = true) : m = m' := by
  cases hkey : tkip_rx_key sec rx stainfo with
  | none =>
    rw [rtw_tkip_decrypt, if_pos htkip, hkey] at ok
    cases ok
  | some prwskey =>
    have good := (rtw_tkip_decrypt_eq htkip hkey hlen h4 pframe m).1.1 ok
    have good' := (rtw_tkip_decrypt_eq htkip hkey hlen h4 pframe m').1.1 ok'
    -- the IV is in front of the damage, so both are opened with one key
    rw [← tkip_rc4key_congr (m := m) (fun a ha hn => same _ (.inl (by omega)))] at good'
    obtain ⟨before, after, e, e', -⟩ := read_splice hik same
    generalize tkip_rc4key prwskey rx.ta m (pframe + rx.hdrlen) = key at good good'
    generalize hx : Mem.read m (pframe + rx.iv_len + rx.hdrlen + i) k = x at e
    generalize hx' : Mem.read m' (pframe + rx.iv_len + rx.hdrlen + i) k = x' at e'
    have lx : x.length = k := by rw [← hx]; simp
    have lx' : x'.length = k := by rw [← hx']; simp
    rw [plain, e, List.append_assoc, arcfour_encrypt_append, arcfour_encrypt_append, ← List.append_assoc] at good
    rw [plain, e', List.append_assoc, arcfour_encrypt_append, arcfour_encrypt_append, ← List.append_assoc,
      arcfour_encrypt_context _ (lx'.trans lx.symm)] at good'
    have hlen4 : n = before.length + k + after.length := by
      have := congrArg List.length e
      simp [lx] at this
      omega
    have hxx := arcfour_encrypt_inj (checked_burst (by simp; omega) (by simp; omega) (by simp; omega) good good')
    funext a
    by_cases ha : a < pframe + rx.iv_len + rx.hdrlen + i ∨ pframe + rx.iv_len + rx.hdrlen + i + k ≤ a
    · exact same a ha
    · obtain ⟨j, rfl⟩ : ∃ j : ℕ, a = pframe + rx.iv_len + rx.hdrlen + i + j :=
        ⟨(a - (pframe + rx.iv_len + rx.hdrlen + i)).toNat, by omega⟩
      have ej := congrArg (fun l => l[j]?) (hx.trans (hxx.trans hx'.symm))
      rw [Mem.read_getElem? _ _ (by omega), Mem.read_getElem? _ _ (by omega)] at ej
      exact Option.some.inj ej

/-! ## The fragments -/

theorem RND4_le (x : Int) : x ≤ RND4 x := by
  unfold RND4
  split <;> omega

/-- The lengths of a TKIP frame fit: IV and check sum have their sizes and no length goes below zero. -/
structure Fits (frag_len : ℕ) (pattrib : pkt_attrib) : Prop where
  iv : pattrib.iv_len = 8
  icv : pattrib.icv_len = 4
  frag : pattrib.hdrlen + pattrib.iv_len + pattrib.icv_len ≤ frag_len
  last : pattrib.hdrlen + pattrib.iv_len + pattrib.icv_len ≤ pattrib.last_txcmdsz

/-- Where fragment `k` of `left` stands, and the length of its payload. -/
def fragment (frag_len : ℕ) (pattrib : pkt_attrib) : ℕ → ℕ → Int → Int × ℕ
  | 0, _, pframe => (pframe, 0)
  | left + 1, 0, pframe =>
    (pframe, (if left = 0 then pattrib.last_txcmdsz else frag_len) - pattrib.hdrlen - pattrib.iv_len - pattrib.icv_len)
  | left + 1, k + 1, pframe => fragment frag_len pattrib left k (RND4 (pframe + frag_len))

section fragments

variable (prwskey : Block) {frag_len : ℕ} {pattrib : pkt_attrib}

/-- The fragment at `p`, sealed alone. -/
abbrev sealed_at (pattrib : pkt_attrib) (m : Frame) (p : Int) (length : ℕ) : Frame :=
  seal_payload (tkip_rc4key prwskey pattrib.ta m (p + pattrib.hdrlen)) m (p + pattrib.iv_len + pattrib.hdrlen) length

theorem tkip_fragments_before (left : ℕ) (m : Frame) (pframe : Int) {a : Int} (h : a < pframe) :
    tkip_fragments prwskey frag_len pattrib left m pframe a = m a := by
  induction left generalizing m pframe with
  | zero => rfl
  | succ left ih =>
    rw [tkip_fragments]
    dsimp only
    split
    · exact seal_payload_outside _ _ _ _ (.inl (by omega))
    · have := RND4_le (pframe + frag_len)
      rw [ih _ _ (by omega), seal_payload_outside _ _ _ _ (.inl (by omega))]

theorem fragment_le (left k : ℕ) (pframe : Int) : pframe ≤ (fragment frag_len pattrib left k pframe).1 := by
  induction left generalizing k pframe with
  | zero => exact Int.le_refl pframe
  | succ left ih =>
    cases k with
    | zero => exact Int.le_refl pframe
    | succ k =>
      have := RND4_le (pframe + frag_len)
      have := ih k (RND4 (pframe + frag_len))
      rw [fragment]
      omega

theorem seal_payload_congr {m m' : Frame} (key : List Byte) {payload : Int} {length : ℕ}
    (h : ∀ a, payload ≤ a → a < payload + length → m a = m' a) {a : Int} (ha : m a = m' a) :
    seal_payload key m payload length a = seal_payload key m' payload length a := by
  have e : Mem.read m payload length = Mem.read m' payload length :=
    List.map_congr_left fun k hk => h _ (by omega) (by have := List.mem_range.1 hk; omega)
  simp only [seal_payload, e, Mem.write, ha]

/-- Every fragment ends up sealed where it stands, whatever the others hold. -/
theorem tkip_fragments_at (fits : Fits frag_len pattrib) {left k : ℕ} (hk : k < left) (m : Frame) (pframe : Int) {a : Int}
    (h0 : (fragment frag_len pattrib left k pframe).1 ≤ a)
    (h1 : a < (fragment frag_len pattrib left k pframe).1 + pattrib.hdrlen + pattrib.iv_len +
      (fragment frag_len pattrib left k pframe).2 + 4) :
    tkip_fragments prwskey frag_len pattrib left m pframe a =
      sealed_at prwskey pattrib m (fragment frag_len pattrib left k pframe).1 (fragment frag_len pattrib left k pframe).2 a := by
  have ⟨hiv, hicv, hfrag, hlast⟩ := fits
  induction left generalizing k m pframe with
  | zero => cases hk
  | succ left ih =>
    cases k with
    | zero =>
      rw [fragment] at h0 h1 ⊢
      dsimp only at h0 h1 ⊢
      rw [tkip_fragments]
      dsimp only
      by_cases hl : left = 0
      · rw [if_pos hl, if_pos hl]
      · rw [if_neg hl] at h1
        have := RND4_le (pframe + frag_len)
        rw [if_neg hl, if_neg hl, tkip_fragments_before prwskey _ _ _ (by omega)]
    | succ k =>
      have hl : left ≠ 0 := by omega
      rw [fragment] at h0 h1 ⊢
      have := RND4_le (pframe + frag_len)
      have := @fragment_le frag_len pattrib left k (RND4 (pframe + frag_len))
      rw [tkip_fragments]
      dsimp only
      rw [if_neg hl, ih (by omega) _ _ h0 h1]
      -- the fragment just sealed ends before this one begins
      generalize (fragment frag_len pattrib left k (RND4 (pframe + frag_len))).2 = n at h1 ⊢
      generalize (fragment frag_len pattrib left k (RND4 (pframe + frag_len))).1 = p at *
      generalize hm1 : seal_payload _ m (pframe + pattrib.iv_len + pattrib.hdrlen) _ = m1
      have same (b : Int) (hb : p ≤ b) : m1 b = m b := by
        rw [← hm1]
        exact seal_payload_outside _ _ _ _ (.inr (by omega))
      rw [sealed_at, sealed_at, tkip_rc4key_congr fun b hb _ => same _ (by omega)]
      exact seal_payload_congr _ (fun b hb _ => same b (by omega)) (same a h0)

end fragments

/-- Every fragment that `rtw_tkip_encrypt` leaves in the buffer is accepted by `rtw_tkip_decrypt`
when its bytes arrive, and gives its payload back. -/
theorem rtw_tkip_round_trip {tx : security_priv} {frag_len hw_hdr_offset : ℕ} {pattrib : pkt_attrib} {buf_addr : Int}
    (htx : pattrib.encrypt = Encrypt._TKIP_) (fits : Fits frag_len pattrib) (m : Frame) {k : ℕ} (hk : k < pattrib.nr_frags)
    {rx : security_priv} {prxattrib : rx_pkt_attrib} {stainfo : Option Block} (hrx : prxattrib.encrypt = Encrypt._TKIP_)
    (hkey : tkip_rx_key rx prxattrib stainfo = some (tkip_tx_key tx pattrib)) (hta : prxattrib.ta = pattrib.ta)
    (hhdr : prxattrib.hdrlen = pattrib.hdrlen) (hiv : prxattrib.iv_len = pattrib.iv_len) (q : Int) (air : Frame)
    (arrives : let f := fragment frag_len pattrib pattrib.nr_frags k (buf_addr + hw_hdr_offset)
      ∀ j : ℕ, j < pattrib.hdrlen + pattrib.iv_len + f.2 + 4 →
        air (q + j) = (rtw_tkip_encrypt tx frag_len hw_hdr_offset pattrib (some buf_addr) m).2 (f.1 + j)) :
    let f := fragment frag_len pattrib pattrib.nr_frags k (buf_addr + hw_hdr_offset)
    let r := rtw_tkip_decrypt rx prxattrib stainfo (pattrib.hdrlen + pattrib.iv_len + f.2 + 4) q air
    r.1 = true ∧ Mem.read r.2 (q + pattrib.iv_len + pattrib.hdrlen) f.2 = Mem.read m (f.1 + pattrib.iv_len + pattrib.hdrlen) f.2 := by
  intro f r
  have sent (j : ℕ) (hj : j < pattrib.hdrlen + pattrib.iv_len + f.2 + 4) :
      air (q + j) = sealed_at (tkip_tx_key tx pattrib) pattrib m f.1 f.2 (f.1 + j) := by
    rw [arrives j hj, rtw_tkip_encrypt, if_pos htx]
    exact tkip_fragments_at _ fits hk m _ (by omega) (by simp only [f] at hj; omega)
  have hivl := fits.iv
  have hlen : pattrib.hdrlen + pattrib.iv_len + f.2 + 4 = prxattrib.hdrlen + prxattrib.iv_len + (f.2 + 4) := by omega
  obtain ⟨verdict, text⟩ := rtw_tkip_decrypt_eq hrx hkey hlen (by omega) q air
  have key : tkip_rc4key (tkip_tx_key tx pattrib) prxattrib.ta air (q + prxattrib.hdrlen) =
      tkip_rc4key (tkip_tx_key tx pattrib) pattrib.ta m (f.1 + pattrib.hdrlen) := by
    rw [hta, hhdr]
    refine tkip_rc4key_congr (fun j h0 h8 => ?_) _ _
    have e := sent (pattrib.hdrlen + j.toNat) (by omega)
    rw [show q + ((pattrib.hdrlen + j.toNat : ℕ) : Int) = q + pattrib.hdrlen + j by omega,
      show f.1 + ((pattrib.hdrlen + j.toNat : ℕ) : Int) = f.1 + pattrib.hdrlen + j by omega] at e
    rw [e]
    exact seal_payload_outside _ _ _ _ (.inl (by omega))
  have body : Mem.read air (q + pattrib.iv_len + pattrib.hdrlen) (f.2 + 4) =
      Mem.read (sealed_at (tkip_tx_key tx pattrib) pattrib m f.1 f.2) (f.1 + pattrib.iv_len + pattrib.hdrlen) (f.2 + 4) := by
    refine List.map_congr_left fun j hj => ?_
    have hj := List.mem_range.1 hj
    have e := sent (pattrib.iv_len + pattrib.hdrlen + j) (by omega)
    rwa [show q + ((pattrib.iv_len + pattrib.hdrlen + j : ℕ) : Int) = q + pattrib.iv_len + pattrib.hdrlen + j by omega,
      show f.1 + ((pattrib.iv_len + pattrib.hdrlen + j : ℕ) : Int) = f.1 + pattrib.iv_len + pattrib.hdrlen + j by omega] at e
  rw [plain, key, hiv, hhdr, body, ← plain] at verdict text
  refine ⟨verdict.2 (checked_seal_payload _ m _ f.2), ?_⟩
  have front := congrArg (List.take f.2) text
  rw [plain_seal_payload, Mem.read_add] at front
  simpa using front

/-! A station and its access point, for the two examples below. -/

/-- A group key is installed. -/
def home_key : security_priv :=
  { binstallGrpkey := true, dot118021XGrpKeyid := 1, dot118021XGrpKey := fun _ => Vector.replicate 16 3 }

/-- A frame of two fragments. -/
def home_tx : pkt_attrib :=
  { encrypt := Encrypt._TKIP_, ra := Vector.replicate 6 2, ta := Vector.replicate 6 4, hdrlen := 24, iv_len := 8, icv_len := 4,
    nr_frags := 2, last_txcmdsz := 60, dot118021x_UncstKey := Vector.replicate 16 9 }

/-- Its fragments as they arrive. -/
def home_rx : rx_pkt_attrib :=
  { encrypt := Encrypt._TKIP_, ra := Vector.replicate 6 2, ta := Vector.replicate 6 4, hdrlen := 24, iv_len := 8, key_index := 0 }

theorem rtw_tkip_round_trip_second :
    (rtw_tkip_decrypt home_key home_rx (some (Vector.replicate 16 9)) 60 64
      (rtw_tkip_encrypt home_key 64 0 home_tx (some 0) (fun _ => 7)).2).1 = true :=
  (@rtw_tkip_round_trip home_key 64 0 home_tx 0 rfl ⟨rfl, rfl, by decide, by decide⟩ (fun _ => 7) 1 (by decide) home_key home_rx
    (some (Vector.replicate 16 9)) rfl rfl rfl rfl rfl 64 _ (fun _ _ => rfl)).1

theorem rtw_tkip_decrypt_damage_byte :
    (rtw_tkip_decrypt home_key home_rx (some (Vector.replicate 16 9)) 40 0
      (Mem.write (sealed_at (Vector.replicate 16 9) home_tx (fun _ => 7) 0 4) 33
        [sealed_at (Vector.replicate 16 9) home_tx (fun _ => 7) 0 4 33 ^^^ (1 : Byte)])).1 = false := by
  generalize hm : sealed_at (Vector.replicate 16 9) home_tx (fun _ => 7) 0 4 = m
  have key : tkip_rc4key (Vector.replicate 16 9) home_rx.ta m (0 + home_rx.hdrlen) =
      tkip_rc4key (Vector.replicate 16 9) home_tx.ta (fun _ => 7) (0 + home_tx.hdrlen) := by
    refine tkip_rc4key_congr (fun j h0 h8 => ?_) _ _
    rw [← hm]
    exact seal_payload_outside _ _ _ _ (.inl (by simp only [home_tx, home_rx]; omega))
  have whole := (@rtw_tkip_decrypt_eq home_key home_rx (some (Vector.replicate 16 9)) (Vector.replicate 16 9) rfl rfl 40 8 rfl
    (by decide) 0 m).1
  rw [key, ← hm] at whole
  have ok := whole.2 (checked_seal_payload _ _ _ 4)
  rw [hm] at ok
  refine Bool.eq_false_iff.2 fun ok' => ?_
  have same := @rtw_tkip_decrypt_damage home_key home_rx (some (Vector.replicate 16 9)) 40 8 rfl rfl rfl (by decide) 0 m
    (Mem.write m 33 [m 33 ^^^ (1 : Byte)]) 1 1 (by decide) (by decide)
    (fun a ha => (Mem.write_outside _ _ _ (by simp only [home_rx] at ha; simp; omega)).symm) ok ok'
  have byte : m 33 = m 33 ^^^ (1 : Byte) := congrFun same 33
  have flip : m 33 ^^^ m 33 = (1 : Byte) := by
    conv => lhs; arg 2; rw [byte]
    exact xor_cancel _ _
  rw [BitVec.xor_self] at flip
  exact absurd flip (by decide)

end Wlan
