import LinuxDriver.Fusb302.Frames
import LinuxDriver.Lib.Stream
/-!
# Frames on the wire

The two FIFOs of the chip byte by byte. `policy_send_data` pushes a frame of
tokens, header and objects; `tcpm_get_message` pops a token, a header, the
objects and the CRC of each message, and skips GoodCRC messages. What the other
modules take from a list of messages is what these functions do to the bytes.
-/

namespace Fusb302.Wire

/-! ## Bytes and words -/

/-- Two bytes, the low one first. -/
def le16 (w : BitVec 16) : List Byte := [w.setWidth 8, (w >>> 8).setWidth 8]

/-- A word of memory, its lowest byte first. -/
def word (b0 b1 b2 b3 : Byte) : BitVec 32 :=
  b0.setWidth 32 ||| (b1.setWidth 32 <<< 8) ||| (b2.setWidth 32 <<< 16) ||| (b3.setWidth 32 <<< 24)

/-- The objects the header counts, in memory order. -/
def objects (m : PdMsg) : List Byte := ((List.finRange 7).take (PD_HEADER_CNT m.head)).flatMap fun i => le32 (m.load i)

/-! ## Sending -/

/-- The frame of a message. -/
def frame (m : PdMsg) : List Byte :=
  [FUSB_TKN_SYNC1, FUSB_TKN_SYNC1, FUSB_TKN_SYNC1, FUSB_TKN_SYNC2,
    FUSB_TKN_PACKSYM ||| BitVec.ofNat 8 (2 + 4 * PD_HEADER_CNT m.head)] ++
  le16 m.head ++ objects m ++ [FUSB_TKN_JAMCRC, FUSB_TKN_EOP, FUSB_TKN_TXOFF, FUSB_TKN_TXON]

/-! ## Receiving -/

/-- The local `buf` of `tcpm_get_message`. -/
abbrev Buffer := Fin 32 → Byte

/-- What must not happen: a read past the end of `buf`, or of the FIFO. -/
inductive ReadFault
  | overflow
  | empty
  deriving DecidableEq

/-- `regmap_raw_read` of FUSB_REG_FIFO pops `len` bytes into the start of `buf`. -/
def regmap_raw_read (buf : Buffer) (fifo : List Byte) (len : Nat) : Except ReadFault (Buffer × List Byte) :=
  if 32 < len then .error .overflow
  else if fifo.length < len then .error .empty
  else .ok (fun i => if i.val < len then fifo.getD i.val 0#8 else buf i, fifo.drop len)

/-- `rec_head` from the second and third byte. -/
def rec_head_of (buf : Buffer) : BitVec 16 :=
  ((buf 1).setWidth 16 &&& 0xff#16) ||| (((buf 2).setWidth 16 <<< 8) &&& 0xff00#16)

/-- One iteration of the loop: token and header, then objects and CRC. -/
def read_message (buf : Buffer) (fifo : List Byte) : Except ReadFault (BitVec 16 × Buffer × List Byte) := do
  let (buf, fifo) ← regmap_raw_read buf fifo 3
  let rec_head := rec_head_of buf
  let len := PD_HEADER_CNT rec_head <<< 2
  let (buf, fifo) ← regmap_raw_read buf fifo (len + 4)
  return (rec_head, buf, fifo)

theorem regmap_raw_read_length {buf buf' : Buffer} {fifo fifo' : List Byte} {len : Nat}
    (h : regmap_raw_read buf fifo len = .ok (buf', fifo')) : fifo'.length + len = fifo.length := by
  unfold regmap_raw_read at h
  split at h
  · cases h
  · split at h
    · cases h
    · cases h
      rw [List.length_drop]
      omega

/-- An iteration takes bytes from the FIFO. -/
theorem read_message_shorter {buf buf' : Buffer} {fifo fifo' : List Byte} {head : BitVec 16}
    (h : read_message buf fifo = .ok (head, buf', fifo')) : fifo'.length < fifo.length := by
  unfold read_message at h
  cases h3 : regmap_raw_read buf fifo 3 with
  | error e =>
    rw [h3] at h
    cases h
  | ok r =>
    rw [h3] at h
    cases hn : regmap_raw_read r.1 r.2 ((PD_HEADER_CNT (rec_head_of r.1) <<< 2) + 4) with
    | error e =>
      simp only [bind, Except.bind, hn] at h
      cases h
    | ok r' =>
      simp only [bind, Except.bind, hn] at h
      cases h
      have h1 := regmap_raw_read_length h3
      have h2 := regmap_raw_read_length hn
      omega

/-- The loop ends with the first message that is not GoodCRC. -/
def get_message_loop (buf : Buffer) (fifo : List Byte) : Except ReadFault (BitVec 16 × Buffer × List Byte) :=
  match _h : read_message buf fifo with
  | .error e => .error e
  | .ok (rec_head, buf', fifo') =>
    if PACKET_IS_CONTROL_MSG rec_head CMT_GOODCRC then get_message_loop buf' fifo' else .ok (rec_head, buf', fifo')
termination_by fifo.length
decreasing_by exact read_message_shorter ‹_›

/-- `memcpy(chip->rec_load, buf, len)` after the loop. -/
def tcpm_get_message (buf : Buffer) (rx : Rx) (fifo : List Byte) : Except ReadFault (Rx × List Byte) := do
  let (rec_head, buf, fifo) ← get_message_loop buf fifo
  return ({
    rec_head := rec_head
    rec_load := fun i =>
      if i.val < PD_HEADER_CNT rec_head then
        word (buf ⟨4 * i, by omega⟩) (buf ⟨4 * i + 1, by omega⟩) (buf ⟨4 * i + 2, by omega⟩) (buf ⟨4 * i + 3, by omega⟩)
      else rx.rec_load i }, fifo)

/-- A call on the stack as it finds it: its `buf` is not initialised. -/
def call (s : Rx × (Nat → Buffer)) (fifo : List Byte) : Except ReadFault ((Rx × (Nat → Buffer)) × List Byte) :=
  (tcpm_get_message (s.2 0) s.1 fifo).map fun r => ((r.1, fun n => s.2 (n + 1)), r.2)

/-! ## Bytes -/

theorem le32_length (w : BitVec 32) : (le32 w).length = 4 := rfl

theorem word_le32 (w : BitVec 32) :
    word (w.setWidth 8) ((w >>> 8).setWidth 8) ((w >>> 16).setWidth 8) ((w >>> 24).setWidth 8) = w := by
  unfold word
  apply BitVec.eq_of_getLsbD_eq
  intro i hi
  simp only [BitVec.getLsbD_or, BitVec.getLsbD_shiftLeft, BitVec.getLsbD_setWidth, BitVec.getLsbD_ushiftRight]
  -- the byte that bit `i` is in
  by_cases h8 : i < 8
  · simp [h8, hi, show i < 16 by omega, show i < 24 by omega]
  · by_cases h16 : i < 16
    · simp [h8, h16, hi, show i < 24 by omega, show i - 8 < 8 by omega, show i - 8 < 32 by omega,
        show 8 + (i - 8) = i by omega]
    · by_cases h24 : i < 24
      · simp [h8, h16, h24, hi, show ¬i - 8 < 8 by omega, show i - 16 < 8 by omega, show i - 16 < 32 by omega,
          show 16 + (i - 16) = i by omega]
      · simp [h8, h16, h24, hi, show ¬i - 8 < 8 by omega, show ¬i - 16 < 8 by omega, show i - 24 < 8 by omega,
          show i - 24 < 32 by omega, show 24 + (i - 24) = i by omega]

theorem low_mask : ∀ i < 16, (0xff#16).getLsbD i = decide (i < 8) := by decide
theorem high_mask : ∀ i < 16, (0xff00#16).getLsbD i = decide (8 ≤ i) := by decide

theorem head_le16 (w : BitVec 16) :
    ((w.setWidth 8).setWidth 16 &&& 0xff#16) ||| ((((w >>> 8).setWidth 8).setWidth 16 <<< 8) &&& 0xff00#16) = w := by
  apply BitVec.eq_of_getLsbD_eq
  intro i hi
  simp only [BitVec.getLsbD_or, BitVec.getLsbD_and, BitVec.getLsbD_shiftLeft, BitVec.getLsbD_setWidth,
    BitVec.getLsbD_ushiftRight, low_mask i hi, high_mask i hi]
  by_cases h8 : i < 8
  · simp [h8, hi, show ¬8 ≤ i by omega]
  · simp [h8, hi, show 8 ≤ i by omega, show i - 8 < 8 by omega, show i - 8 < 16 by omega, show 8 + (i - 8) = i by omega]

/-- The two header bytes, as the driver masks them. -/
theorem le16_masked (w : BitVec 16) : [(w &&& 0xff#16).setWidth 8, ((w >>> 8) &&& 0xff#16).setWidth 8] = le16 w := by
  have hm : ∀ v : BitVec 16, (v &&& 0xff#16).setWidth 8 = v.setWidth 8 := by
    intro v
    apply BitVec.eq_of_getLsbD_eq
    intro i hi
    simp only [BitVec.getLsbD_and, BitVec.getLsbD_setWidth, low_mask i (by omega)]
    simp [hi]
  rw [hm, hm]
  rfl

theorem objects_length (m : PdMsg) : (objects m).length = 4 * PD_HEADER_CNT m.head := by
  have hc := cnt_le_seven m.head
  rw [objects, Stream.length_flatMap_width fun i => le32_length (m.load i), List.length_take, List.length_finRange]
  omega

/-! ## Sending -/

theorem token_length (n : Nat) (h : n ≤ 7) : BitVec.ofNat 8 ((n <<< 2) + 2) &&& 0x1f#8 = BitVec.ofNat 8 (2 + 4 * n) := by
  have hn : ∀ n : Fin 8, BitVec.ofNat 8 ((n.val <<< 2) + 2) &&& 0x1f#8 = BitVec.ofNat 8 (2 + 4 * n.val) := by decide
  exact hn ⟨n, by omega⟩

theorem senddata_eq (chip : Chip) : senddata chip = frame { head := chip.send_head, load := chip.send_load } := by
  have hlen : PD_HEADER_CNT chip.send_head <<< 2 = 4 * PD_HEADER_CNT chip.send_head := by omega
  have hload : ((List.finRange 7).flatMap fun i => le32 (chip.send_load i)).take (4 * PD_HEADER_CNT chip.send_head) =
      objects { head := chip.send_head, load := chip.send_load } :=
    Stream.take_flatMap_width (fun i => le32_length (chip.send_load i)) _ _
  have hhead := le16_masked chip.send_head
  have htok := token_length _ (cnt_le_seven chip.send_head)
  unfold senddata frame
  dsimp only
  rw [htok, hlen, hload, ← hhead]
  rfl

theorem frame_length (m : PdMsg) : (frame m).length = 11 + 4 * PD_HEADER_CNT m.head := by
  simp only [frame, le16, List.length_append, List.length_cons, List.length_nil, objects_length]
  omega

/-- The bytes `policy_send_data` pushes for a message, when it pushes any. -/
theorem policy_send_data_pushes (chip : Chip) (m : PdMsg) :
    (policy_send_data { chip with tx_state := .tx_idle, send_head := m.head, send_load := m.load }).log =
      .fifo (frame m) chip.conn_state :: chip.log := by
  rw [policy_send_data_idle _ rfl, senddata_eq]

/-! ## Receiving -/

/-- A message as it lies in the receive FIFO. -/
structure Packet where
  token : Byte
  msg : PdMsg
  crc : Fin 4 → Byte

/-- The packet in the FIFO. -/
def Packet.bytes (p : Packet) : List Byte := p.token :: (le16 p.msg.head ++ objects p.msg ++ List.ofFn p.crc)

/-- An acknowledgement. -/
def Packet.good_crc (p : Packet) : Bool := PACKET_IS_CONTROL_MSG p.msg.head CMT_GOODCRC

/-- The buffer with `front` read into it. -/
def fill (front : List Byte) (buf : Buffer) : Buffer :=
  fun i => if i.val < front.length then front.getD i.val 0#8 else buf i

/-- A read that fits the buffer pops what lies at the front of the FIFO. -/
theorem regmap_raw_read_append (buf : Buffer) {front : List Byte} (rest : List Byte) {len : Nat}
    (hl : front.length = len) (h : len ≤ 32) : regmap_raw_read buf (front ++ rest) len = .ok (fill front buf, rest) := by
  subst hl
  unfold regmap_raw_read
  rw [if_neg (by omega), if_neg (by simp), List.drop_left]
  refine congrArg Except.ok (Prod.ext (funext fun i => ?_) rfl)
  unfold fill
  dsimp only
  split
  · rename_i hi
    rw [List.getD_eq_getElem?_getD, List.getD_eq_getElem?_getD, List.getElem?_append_left hi]
  · rfl

variable {p : Packet} {buf : Buffer}

theorem rec_head_of_fill (token : Byte) (head : BitVec 16) (buf : Buffer) :
    rec_head_of (fill (token :: le16 head) buf) = head := head_le16 head

/-- One iteration reads one message: `buf` then starts with its objects. -/
theorem read_message_packet (p : Packet) (buf : Buffer) (rest : List Byte) :
    read_message buf (p.bytes ++ rest) =
      .ok (p.msg.head, fill (objects p.msg ++ List.ofFn p.crc) (fill (p.token :: le16 p.msg.head) buf), rest) := by
  have hc := cnt_le_seven p.msg.head
  have hbytes : p.bytes ++ rest = (p.token :: le16 p.msg.head) ++ ((objects p.msg ++ List.ofFn p.crc) ++ rest) := by
    simp [Packet.bytes]
  have hl : (objects p.msg ++ List.ofFn p.crc).length = (PD_HEADER_CNT p.msg.head <<< 2) + 4 := by
    rw [List.length_append, objects_length, List.length_ofFn]
    omega
  have h3 : (p.token :: le16 p.msg.head).length = 3 := rfl
  unfold read_message
  rw [hbytes, regmap_raw_read_append buf _ h3 (by decide)]
  simp only [bind, Except.bind, rec_head_of_fill]
  rw [regmap_raw_read_append _ rest hl (by omega)]
  rfl

/-- The loop skips the GoodCRC messages at the front of the FIFO. -/
theorem get_message_loop_packets (skipped : List Packet) (p : Packet) (rest : List Byte) (buf : Buffer)
    (hs : ∀ q ∈ skipped, q.good_crc = true) (hp : p.good_crc = false) :
    ∃ buf', get_message_loop buf (skipped.flatMap Packet.bytes ++ (p.bytes ++ rest)) =
      .ok (p.msg.head, fill (objects p.msg ++ List.ofFn p.crc) buf', rest) := by
  -- each GoodCRC overwrites the buffer of the one before
  induction skipped generalizing buf with
  | nil =>
    refine ⟨fill (p.token :: le16 p.msg.head) buf, ?_⟩
    rw [List.flatMap_nil, List.nil_append, get_message_loop]
    split
    · rename_i h
      rw [read_message_packet] at h
      cases h
    · rename_i h
      rw [read_message_packet] at h
      cases h
      have hq : ¬PACKET_IS_CONTROL_MSG p.msg.head CMT_GOODCRC = true := Bool.eq_false_iff.1 hp
      rw [if_neg hq]
  | cons q skipped ih =>
    rw [List.flatMap_cons, List.append_assoc, get_message_loop]
    split
    · rename_i h
      rw [read_message_packet] at h
      cases h
    · rename_i h
      rw [read_message_packet] at h
      cases h
      have hq : PACKET_IS_CONTROL_MSG q.msg.head CMT_GOODCRC = true := hs q List.mem_cons_self
      rw [if_pos hq]
      exact ih _ fun x hx => hs x (List.mem_cons_of_mem q hx)

/-- Object `i` of the message is word `i` of a buffer that starts with its objects. -/
theorem word_fill (m : PdMsg) (crc : List Byte) (buf : Buffer) (i : Fin 7) (hi : i.val < PD_HEADER_CNT m.head) :
    word (fill (objects m ++ crc) buf ⟨4 * i, by omega⟩) (fill (objects m ++ crc) buf ⟨4 * i + 1, by omega⟩)
      (fill (objects m ++ crc) buf ⟨4 * i + 2, by omega⟩) (fill (objects m ++ crc) buf ⟨4 * i + 3, by omega⟩) =
    m.load i := by
  have hb : ∀ j (hj : j < 4), fill (objects m ++ crc) buf ⟨4 * i + j, by omega⟩ = (le32 (m.load i)).getD j 0#8 := by
    intro j hj
    have hlen : 4 * i.val + j < (objects m).length := by
      rw [objects_length]
      omega
    have hget := Stream.getElem?_flatMap_width (fun i => le32_length (m.load i))
      ((List.finRange 7).take (PD_HEADER_CNT m.head)) i.val hj
    unfold fill
    dsimp only
    rw [if_pos (by rw [List.length_append]; omega), List.getD_eq_getElem?_getD, List.getElem?_append_left hlen, objects,
      hget, List.getElem?_take_of_lt hi, List.getElem?_eq_getElem (by simp)]
    simp
  have h0 : fill (objects m ++ crc) buf ⟨4 * i, by omega⟩ = _ := hb 0 (by decide)
  rw [h0, hb 1 (by decide), hb 2 (by decide), hb 3 (by decide)]
  exact word_le32 (m.load i)

/-- What a call leaves in `rec_head` and `rec_load`. -/
theorem tcpm_get_message_packets (skipped : List Packet) (p : Packet) (rest : List Packet) (buf : Buffer) (rx : Rx)
    (hs : ∀ q ∈ skipped, q.good_crc = true) (hp : p.good_crc = false) :
    tcpm_get_message buf rx ((skipped ++ p :: rest).flatMap Packet.bytes) =
      .ok ({
        rec_head := p.msg.head
        rec_load := fun i => if i.val < PD_HEADER_CNT p.msg.head then p.msg.load i else rx.rec_load i },
        rest.flatMap Packet.bytes) := by
  obtain ⟨buf', he⟩ := get_message_loop_packets skipped p (rest.flatMap Packet.bytes) buf hs hp
  unfold tcpm_get_message
  rw [List.flatMap_append, List.flatMap_cons, he]
  simp only [bind, Except.bind, pure, Except.pure]
  refine congrArg Except.ok (Prod.ext ?_ rfl)
  refine congrArg (Rx.mk p.msg.head) (funext fun i => ?_)
  split
  · rename_i hi
    exact word_fill p.msg _ buf' i hi
  · rfl

/-- The list of messages that the other modules take for the FIFO is read alike. -/
theorem get_message_refined (chip : Chip) (skipped : List Packet) (p : Packet) (rest : List Packet) (buf : Buffer)
    (hs : ∀ q ∈ skipped, q.good_crc = true) (hp : p.good_crc = false) :
    tcpm_get_message buf chip.toRx ((skipped ++ p :: rest).flatMap Packet.bytes) =
      .ok ((get_message chip ((skipped ++ p :: rest).map Packet.msg)).toRx, rest.flatMap Packet.bytes) := by
  rw [tcpm_get_message_packets skipped p rest buf chip.toRx hs hp]
  refine congrArg Except.ok (Prod.ext ?_ rfl)
  induction skipped generalizing chip with
  | nil =>
    have hq : ¬PACKET_IS_CONTROL_MSG p.msg.head CMT_GOODCRC = true := Bool.eq_false_iff.1 hp
    rw [List.nil_append, List.map_cons, get_message, if_neg hq]
  | cons q skipped ih =>
    have hq : PACKET_IS_CONTROL_MSG q.msg.head CMT_GOODCRC = true := hs q List.mem_cons_self
    rw [List.cons_append, List.map_cons, get_message, if_pos hq]
    exact ih { chip with rec_head := q.msg.head } fun x hx => hs x (List.mem_cons_of_mem q hx)

/-- The driver has the message: its header and the objects it counts. -/
def Delivered (rx : Rx) (m : PdMsg) : Prop :=
  rx.rec_head = m.head ∧ ∀ i : Fin 7, i.val < PD_HEADER_CNT m.head → rx.rec_load i = m.load i

theorem call_reads :
    Stream.Reads Packet.bytes (fun p => !p.good_crc) (fun s p => Delivered s.1 p.msg) call := by
  intro s skipped p rest hs hp
  have hs : ∀ q ∈ skipped, q.good_crc = true := fun q hq => by simpa using hs q hq
  have hp : p.good_crc = false := by simpa using hp
  have he := tcpm_get_message_packets skipped p rest (s.2 0) s.1 hs hp
  have hc : call s ((skipped ++ p :: rest).flatMap Packet.bytes) = .ok (({
      rec_head := p.msg.head
      rec_load := fun i => if i.val < PD_HEADER_CNT p.msg.head then p.msg.load i else s.1.rec_load i },
      fun n => s.2 (n + 1)), rest.flatMap Packet.bytes) := by
    rw [call, he]
    rfl
  exact ⟨_, hc, rfl, fun i hi => if_pos hi⟩

/-- Every message is pushed as its frame, which fits the 40 bytes of
`senddata`; and successive calls of `tcpm_get_message` return the messages
that are not GoodCRC, in order, each leaving the FIFO at the start of a message. -/
theorem frames_survive (packets : List Packet) (chip : Chip) (rx : Rx) (stack : Nat → Buffer) :
    (∀ p ∈ packets,
      (policy_send_data { chip with tx_state := .tx_idle, send_head := p.msg.head, send_load := p.msg.load }).log =
        .fifo (frame p.msg) chip.conn_state :: chip.log ∧ (frame p.msg).length ≤ 40) ∧
    ∃ outs,
      Stream.reads call (packets.filter fun p => !p.good_crc).length (rx, stack) (packets.flatMap Packet.bytes) = .ok outs ∧
      List.Forall₂ (fun out p => Delivered out.1.1 p.msg ∧ ∃ rest, rest <:+ packets ∧ out.2 = rest.flatMap Packet.bytes)
        outs (packets.filter fun p => !p.good_crc) := by
  constructor
  · intro p _
    refine ⟨policy_send_data_pushes chip p.msg, ?_⟩
    have hc := cnt_le_seven p.msg.head
    rw [frame_length]
    omega
  · exact call_reads.all packets (rx, stack)

end Fusb302.Wire
