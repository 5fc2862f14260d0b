import LinuxDriver.Sensor.Sample
/-!
# The DHT11 work item

`dht11_work_callback` wakes the sensor and reads five bytes, with the local
interrupts off while a byte is read. Here the line may show any level to any
of its reads. What it shows is described without the code, as bytes and
timeouts; interrupts, reads and the committed data follow from that.
-/

namespace Sensor.Dht11

/-- The level that a read of the line finds, by its number and its microsecond. -/
abbrev Pin := ℕ → ℕ → Bool

/-- So many reads of the line, and the time. -/
structure Point where
  gets : ℕ
  now : ℕ
  deriving DecidableEq

/-- The time, the reads so far, and whether the local interrupts are on. -/
structure Cpu extends Point where
  irqs : Bool
  deriving DecidableEq

/-! ## The driver -/

def ENODEV : ℤ := -19

/-- The value a call of `dht11_read_byte` returns, and the state it leaves. -/
structure Reply where
  data : Byte
  cpu : Cpu
  deriving DecidableEq

namespace Cpu

/-- The kernel's. -/
def udelay (c : Cpu) (us : ℕ) : Cpu := { c with now := c.now + us }

/-- The kernel's. -/
def mdelay (c : Cpu) (ms : ℕ) : Cpu := c.udelay (1000 * ms)

/-- The kernel's. -/
def local_irq_disable (c : Cpu) : Cpu := { c with irqs := false }

/-- The kernel's. -/
def local_irq_enable (c : Cpu) : Cpu := { c with irqs := true }

/-- One read of the line. -/
def dht11_get_io (pin : Pin) (c : Cpu) : Bool × Cpu := (pin c.gets c.now, { c with gets := c.gets + 1 })

/-- `while (dht11_get_io() == level)`, with `left` rounds to go until `time > 100`. -/
def poll (pin : Pin) (level : Bool) : (left : ℕ) → Cpu → Except Cpu Cpu
  | 0, c => .error c
  | left + 1, c =>
    let (io, c) := c.dht11_get_io pin
    if io = level then poll pin level left (c.udelay 1) else .ok c

/-- The loop of `dht11_read_byte`, `k` bits to go. -/
def read_bits (pin : Pin) : (k : ℕ) → (data : Byte) → Cpu → Reply
  | 0, data, c => ⟨data, c.local_irq_enable⟩
  | k + 1, data, c =>
    match c.poll pin LOW 101 with
    | .error c => ⟨EINVAL, c⟩
    | .ok c =>
      let (io, c) := (c.udelay 45).dht11_get_io pin
      if io = HIGH then
        match c.poll pin HIGH 101 with
        | .error c => ⟨EINVAL, c⟩
        | .ok c => read_bits pin k (data ||| 1#8 <<< k) c
      else read_bits pin k data c

/-- Eight bits with the interrupts off, which only the last exit turns on again. -/
def dht11_read_byte (pin : Pin) (c : Cpu) : Reply := read_bits pin 8 0#8 c.local_irq_disable

/-- What is left of `dht11_init` when the levels it drives are left out. -/
def dht11_init (pin : Pin) (c : Cpu) : ℤ × Cpu :=
  let c := (((c.udelay 30).mdelay 20).udelay 30).udelay 200
  let (io, c) := c.dht11_get_io pin
  (if io then 0 else ENODEV, c)

/-- `for (i = 0; i < n; i++) buff[i] = dht11_read_byte()`. -/
def read_bytes (pin : Pin) : (n : ℕ) → Cpu → List Reply
  | 0, _ => []
  | n + 1, c =>
    let r := c.dht11_read_byte pin
    r :: read_bytes pin n r.cpu

/-- `dht11_device.data` and the state when the work item returns. -/
def dht11_work_callback (pin : Pin) (data : ℕ → Byte) (c : Cpu) : (ℕ → Byte) × Cpu :=
  let (ret, c) := c.dht11_init pin
  if ret = 0 then
    let replies := read_bytes pin 5 c
    let buff := fun i => (replies.map Reply.data).getD i 0#8
    (if checksum buff then fun i => if i < 5 then buff i else data i else data,
      (replies.getLast?.map Reply.cpu).getD c)
  else (data, c)

end Cpu

theorem read_bits_succ (pin : Pin) (k : ℕ) (data : Byte) (c : Cpu) :
    c.read_bits pin (k + 1) data =
      match c.poll pin LOW 101 with
      | .error c => ⟨EINVAL, c⟩
      | .ok c =>
        if pin c.gets (c.now + 45) = HIGH then
          match Cpu.poll pin HIGH 101 ⟨⟨c.gets + 1, c.now + 45⟩, c.irqs⟩ with
          | .error c => ⟨EINVAL, c⟩
          | .ok c => c.read_bits pin k (data ||| 1#8 <<< k)
        else Cpu.read_bits pin k data ⟨⟨c.gets + 1, c.now + 45⟩, c.irqs⟩ := rfl

/-! ## Lines without a reader

Where the number of a read does not matter, the calls are those of `Dht11`. -/

section

variable (io : Line)

theorem poll_line (level : Bool) (left : ℕ) (c : Cpu) :
    match c.poll (fun _ => io) level left with
    | .ok c' => poll io level left c.now = .ok c'.now ∧ c'.irqs = c.irqs
    | .error c' => poll io level left c.now = .error c'.now ∧ c'.irqs = c.irqs := by
  induction left generalizing c with
  | zero => exact ⟨rfl, rfl⟩
  | succ left ih =>
    rw [Cpu.poll, poll]
    by_cases hio : io c.now = level
    · simp only [Cpu.dht11_get_io, hio, if_true]
      exact ih { c with gets := c.gets + 1, now := c.now + 1 }
    · simp only [Cpu.dht11_get_io, hio, if_false, and_self]

/-- The call as `Dht11` describes it. -/
def Reply.read (r : Reply) : Read := ⟨r.data, r.cpu.now, !r.cpu.irqs⟩

theorem read_bits_line (k : ℕ) (data : Byte) (c : Cpu) (hc : c.irqs = false) :
    (c.read_bits (fun _ => io) k data).read = read_bits io k data c.now := by
  induction k generalizing data c with
  | zero => rfl
  | succ k ih =>
    rw [read_bits_succ, read_bits]
    have hlow := poll_line io LOW 101 c
    cases hp : c.poll (fun _ => io) LOW 101 with
    | error c₁ =>
      rw [hp] at hlow
      rw [hlow.1]
      simp [Reply.read, timeout, hlow.2, hc]
    | ok c₁ =>
      rw [hp] at hlow
      rw [hlow.1]
      dsimp only
      by_cases hio : io (c₁.now + 45) = HIGH
      · rw [if_pos hio, if_pos hio]
        have hhigh := poll_line io HIGH 101 { c₁ with gets := c₁.gets + 1, now := c₁.now + 45 }
        cases hp' : Cpu.poll (fun _ => io) HIGH 101 { c₁ with gets := c₁.gets + 1, now := c₁.now + 45 } with
        | error c₂ =>
          rw [hp'] at hhigh
          rw [hhigh.1]
          simp [Reply.read, timeout, hhigh.2, hlow.2, hc]
        | ok c₂ =>
          rw [hp'] at hhigh
          rw [hhigh.1]
          exact ih _ c₂ (hhigh.2.trans (hlow.2.trans hc))
      · rw [if_neg hio, if_neg hio]
        exact ih data _ (hlow.2.trans hc)

theorem read_bytes_line (n : ℕ) (c : Cpu) : (c.read_bytes (fun _ => io) n).map Reply.read = read_buff io n c.now := by
  induction n generalizing c with
  | zero => rfl
  | succ n ih =>
    have hbyte := read_bits_line io 8 0#8 c.local_irq_disable rfl
    rw [Cpu.read_bytes, read_buff, List.map_cons, ih]
    exact congrArg₂ List.cons hbyte (congrArg (read_buff io n) (congrArg Read.now hbyte))

end

/-! ## What a line shows -/

variable {pin : Pin} {p q r : Point}

/-- So many reads in a row, a microsecond apart, find the level. -/
def Lasts (pin : Pin) (level : Bool) (n : ℕ) (p : Point) : Prop := ∀ i < n, pin (p.gets + i) (p.now + i) = level

/-- The level ends in time, and `q` is just after the read that finds the other one. -/
def Ends (pin : Pin) (level : Bool) (p q : Point) : Prop :=
  ∃ n ≤ 100, Lasts pin level n p ∧ pin (p.gets + n) (p.now + n) ≠ level ∧ q = ⟨p.gets + n + 1, p.now + n⟩

/-- So many bits as the line shows them from `p` on, up to `q`: their value, or
`none` when a level lasts too long. -/
inductive Shows (pin : Pin) : (k : ℕ) → (p : Point) → Option Byte → (q : Point) → Prop
  | nil {p : Point} : Shows pin 0 p (some 0#8) p
  | zero {k : ℕ} {p q r : Point} {b : Option Byte} : Ends pin LOW p q → pin q.gets (q.now + 45) = LOW →
      Shows pin k ⟨q.gets + 1, q.now + 45⟩ b r → Shows pin (k + 1) p b r
  | one {k : ℕ} {p q q' r : Point} {b : Option Byte} : Ends pin LOW p q → pin q.gets (q.now + 45) = HIGH →
      Ends pin HIGH ⟨q.gets + 1, q.now + 45⟩ q' → Shows pin k q' b r →
      Shows pin (k + 1) p (b.map (1#8 <<< k ||| ·)) r
  | low {k : ℕ} {p : Point} : Lasts pin LOW 101 p → Shows pin (k + 1) p none ⟨p.gets + 101, p.now + 101⟩
  | high {k : ℕ} {p q : Point} : Ends pin LOW p q → pin q.gets (q.now + 45) = HIGH →
      Lasts pin HIGH 101 ⟨q.gets + 1, q.now + 45⟩ →
      Shows pin (k + 1) p none ⟨q.gets + 1 + 101, q.now + 45 + 101⟩

/-- What the line shows to as many calls as the list is long. -/
inductive Frame (pin : Pin) : (p : Point) → List (Option Byte) → (q : Point) → Prop
  | nil {p : Point} : Frame pin p [] p
  | cons {p q r : Point} {b : Option Byte} {bs : List (Option Byte)} : Shows pin 8 p b q → Frame pin q bs r → Frame pin p (b :: bs) r

/-- Every level ends in time or lasts too long. -/
theorem lasts_or_ends (pin : Pin) (level : Bool) (p : Point) (n : ℕ) (hn : n ≤ 101) :
    Lasts pin level n p ∨ ∃ q, Ends pin level p q := by
  induction n with
  | zero => exact Or.inl fun i hi => absurd hi (Nat.not_lt_zero i)
  | succ n ih =>
    rcases ih (by omega) with h | h
    · by_cases hl : pin (p.gets + n) (p.now + n) = level
      · left
        intro i hi
        rcases Nat.lt_succ_iff_lt_or_eq.1 hi with hi | rfl
        · exact h i hi
        · exact hl
      · exact Or.inr ⟨_, n, by omega, h, hl, rfl⟩
    · exact Or.inr h

/-- Every line shows something. -/
theorem shows_total (pin : Pin) (k : ℕ) (p : Point) : ∃ b q, Shows pin k p b q := by
  induction k generalizing p with
  | zero => exact ⟨_, _, .nil⟩
  | succ k ih =>
    rcases lasts_or_ends pin LOW p 101 (Nat.le_refl _) with h | ⟨q, h⟩
    · exact ⟨_, _, .low h⟩
    · cases hio : pin q.gets (q.now + 45) with
      | false =>
        obtain ⟨b, r, hs⟩ := ih ⟨q.gets + 1, q.now + 45⟩
        exact ⟨b, r, .zero h hio hs⟩
      | true =>
        rcases lasts_or_ends pin HIGH ⟨q.gets + 1, q.now + 45⟩ 101 (Nat.le_refl _) with h' | ⟨q', h'⟩
        · exact ⟨_, _, .high h hio h'⟩
        · obtain ⟨b, r, hs⟩ := ih q'
          exact ⟨_, r, .one h hio h' hs⟩

/-! ## The driver reads what the line shows -/

/-- The reply to what the line shows; a timeout returns before `local_irq_enable`. -/
def Reply.of (b : Option Byte) (p : Point) : Reply := ⟨b.getD EINVAL, p, b.isSome⟩

theorem poll_lasts {level : Bool} {n : ℕ} (h : Lasts pin level n p) (left : ℕ) (irqs : Bool) :
    Cpu.poll pin level (n + left) ⟨p, irqs⟩ = Cpu.poll pin level left ⟨⟨p.gets + n, p.now + n⟩, irqs⟩ := by
  induction n generalizing p with
  | zero => rw [Nat.zero_add]; rfl
  | succ n ih =>
    have h0 : pin p.gets p.now = level := h 0 (Nat.succ_pos n)
    rw [Nat.succ_add, Cpu.poll]
    simp only [Cpu.dht11_get_io, h0, if_true]
    have hrest : Lasts pin level n ⟨p.gets + 1, p.now + 1⟩ := by
      intro i hi
      have := h (i + 1) (Nat.succ_lt_succ hi)
      rwa [show p.gets + (i + 1) = p.gets + 1 + i by omega, show p.now + (i + 1) = p.now + 1 + i by omega] at this
    have := ih hrest
    simp only [Cpu.udelay]
    rw [this]
    congr 3 <;> dsimp only <;> omega

theorem poll_ends {level : Bool} (h : Ends pin level p q) (irqs : Bool) :
    Cpu.poll pin level 101 ⟨p, irqs⟩ = .ok ⟨q, irqs⟩ := by
  obtain ⟨n, hn, hl, he, rfl⟩ := h
  have hleft : 101 = n + (100 - n + 1) := by omega
  rw [hleft, poll_lasts hl, Cpu.poll]
  simp only [Cpu.dht11_get_io, he, if_false]

theorem poll_sticks {level : Bool} (h : Lasts pin level 101 p) (irqs : Bool) :
    Cpu.poll pin level 101 ⟨p, irqs⟩ = .error ⟨⟨p.gets + 101, p.now + 101⟩, irqs⟩ :=
  poll_lasts h 0 irqs

/-- The loop returns what the line shows. -/
theorem Shows.read_bits {k : ℕ} {b : Option Byte} (h : Shows pin k p b q) (data : Byte) :
    Cpu.read_bits pin k data ⟨p, false⟩ = .of (b.map (data ||| ·)) q := by
  induction h generalizing data with
  | nil => simp [Cpu.read_bits, Reply.of, Cpu.local_irq_enable]
  | @zero k p q r b hl hio _ ih =>
    rw [read_bits_succ, poll_ends hl]
    dsimp only
    rw [hio, if_neg (by decide)]
    exact ih data
  | @one k p q q' r b hl hio hh _ ih =>
    rw [read_bits_succ, poll_ends hl]
    dsimp only
    rw [if_pos hio, poll_ends hh]
    refine (ih _).trans ?_
    cases b with
    | none => rfl
    | some b => simp [BitVec.or_assoc]
  | low hl =>
    rw [read_bits_succ, poll_sticks hl]
    rfl
  | @high k p q hl hio hh =>
    rw [read_bits_succ, poll_ends hl]
    dsimp only
    rw [if_pos hio, poll_sticks hh]
    rfl

theorem Shows.read_byte {b : Option Byte} (h : Shows pin 8 p b q) (irqs : Bool) :
    Cpu.dht11_read_byte pin ⟨p, irqs⟩ = .of b q := by
  refine (h.read_bits 0#8).trans ?_
  cases b <;> simp

theorem Frame.read_bytes {bs : List (Option Byte)} (h : Frame pin p bs r) (irqs : Bool) :
    (Cpu.read_bytes pin bs.length ⟨p, irqs⟩).map Reply.data = bs.map (·.getD EINVAL) ∧
      ((Cpu.read_bytes pin bs.length ⟨p, irqs⟩).getLast?.map Reply.cpu).getD ⟨p, irqs⟩ =
        ⟨r, (bs.getLast?.map Option.isSome).getD irqs⟩ := by
  induction h generalizing irqs with
  | nil => exact ⟨rfl, rfl⟩
  | @cons p q r b bs hs _ ih =>
    obtain ⟨hdata, hend⟩ := ih b.isSome
    rw [List.length_cons, Cpu.read_bytes, hs.read_byte irqs]
    refine ⟨?_, ?_⟩
    · rw [List.map_cons, List.map_cons, ← hdata]
      rfl
    · rw [List.getLast?_cons, List.getLast?_cons, Option.map_some, Option.map_some, Option.getD_some, Option.getD_some]
      have hb : (bs.getLast?.getD b).isSome = (bs.getLast?.map Option.isSome).getD b.isSome := by
        cases bs.getLast? <;> rfl
      rw [hb, ← hend]
      dsimp only [Reply.of]
      cases (Cpu.read_bytes pin bs.length ⟨q, b.isSome⟩).getLast? <;> rfl

/-- What the line has shown to the call. -/
def Reply.shown (r : Reply) : Option Byte := if r.cpu.irqs then some r.data else none

/-- Every line shows a frame. -/
theorem frame_read_bytes (pin : Pin) (n : ℕ) (c : Cpu) :
    ∃ q, Frame pin c.toPoint ((c.read_bytes pin n).map Reply.shown) q := by
  induction n generalizing c with
  | zero => exact ⟨_, .nil⟩
  | succ n ih =>
    obtain ⟨b, q, hs⟩ := shows_total pin 8 c.toPoint
    obtain ⟨r, hf⟩ := ih (.mk q b.isSome)
    have hb : (Reply.of b q).shown = b := by cases b <;> rfl
    refine ⟨r, ?_⟩
    rw [Cpu.read_bytes, hs.read_byte c.irqs, List.map_cons, hb]
    exact .cons hs hf

theorem length_read_bytes (pin : Pin) (n : ℕ) (c : Cpu) : (c.read_bytes pin n).length = n := by
  induction n generalizing c with
  | zero => rfl
  | succ n ih => rw [Cpu.read_bytes, List.length_cons, ih]

theorem frame_total (pin : Pin) (n : ℕ) (p : Point) : ∃ bs q, bs.length = n ∧ Frame pin p bs q := by
  obtain ⟨q, hf⟩ := frame_read_bytes pin n ⟨p, true⟩
  exact ⟨_, q, by rw [List.length_map, length_read_bytes], hf⟩

/-! ## Encoded bytes -/

/-- An encoded byte is what the line shows; `k` is 8, or less in the middle of a byte. -/
theorem shows_encoded {io : Line} (b : Byte) (rest : List Bool) {k : ℕ} (hk : k ≤ 8) {s l : ℕ}
    (h : Encodes io (msb_first b k ++ rest) s l) (hs : s ≤ p.now) (hn : p.now < s + l) :
    ∃ v q, Shows (fun _ => io) k p (some v) q ∧ (∀ j, v.getLsbD j = (decide (j < k) && b.getLsbD j)) ∧
      ∃ s' l', Encodes io rest s' l' ∧ s' ≤ q.now ∧ q.now < s' + l' := by
  obtain ⟨hoff, hdata, hrest⟩ := read_bits_decodes b rest hk h hs hn 0#8
  obtain ⟨o, q, hshows⟩ := shows_total (fun _ => io) k p
  have hline := read_bits_line io k 0#8 ⟨p, false⟩ rfl
  rw [hshows.read_bits 0#8] at hline
  rw [← hline] at hoff hdata hrest
  cases o with
  | none => cases hoff
  | some v => exact ⟨v, q, hshows, by simpa [Reply.read, Reply.of] using hdata, hrest⟩

/-- The bytes of a frame, from anywhere in its first low phase. -/
theorem frame_encoded {io : Line} (frame : List Byte) {s l : ℕ} (h : Encodes io (bits_of frame) s l) (hs : s ≤ p.now)
    (hn : p.now < s + l) : ∃ q, Frame (fun _ => io) p (frame.map some) q := by
  induction frame generalizing p s l with
  | nil => exact ⟨p, .nil⟩
  | cons b frame ih =>
    obtain ⟨v, q, hshows, hv, s', l', he, hs', hn'⟩ := shows_encoded b (bits_of frame) (Nat.le_refl 8) h hs hn
    obtain ⟨r, hframe⟩ := ih he hs' hn'
    obtain rfl : v = b := by
      apply BitVec.eq_of_getLsbD_eq
      intro j hj
      rw [hv j, decide_eq_true hj, Bool.true_and]
    exact ⟨r, .cons hshows hframe⟩

theorem Ends.gets_le {level : Bool} (h : Ends pin level p q) : q.gets ≤ p.gets + 101 := by
  obtain ⟨n, hn, _, _, rfl⟩ := h
  dsimp only
  omega

theorem Shows.gets_le {k : ℕ} {b : Option Byte} (h : Shows pin k p b q) : q.gets ≤ p.gets + 203 * k := by
  induction h with
  | nil => exact Nat.le_refl _
  | zero hl _ _ ih =>
    have := hl.gets_le
    dsimp only at ih
    omega
  | one hl _ hh _ ih =>
    have := hl.gets_le
    have := hh.gets_le
    dsimp only at this
    omega
  | low => dsimp only; omega
  | high hl =>
    have := hl.gets_le
    dsimp only
    omega

theorem Frame.gets_le {bs : List (Option Byte)} (h : Frame pin p bs r) : r.gets ≤ p.gets + 1624 * bs.length := by
  induction h with
  | nil => exact Nat.le_refl _
  | cons hs _ ih =>
    have := hs.gets_le
    rw [List.length_cons]
    omega

/-! ## The work item -/

/-- Where `dht11_init` looks at the line, and where the first byte begins. -/
def Cpu.first (c : Cpu) : Point := ⟨c.gets + 1, c.now + 20260⟩

/-- The line is high when `dht11_init` looks at it. -/
def Answers (pin : Pin) (c : Cpu) : Prop := pin c.gets (c.now + 20260) = HIGH

instance (pin : Pin) (c : Cpu) : Decidable (Answers pin c) := inferInstanceAs (Decidable (_ = _))

/-- The driver's copy of a frame. -/
def read_as (bs : List (Option Byte)) (i : ℕ) : Byte := (bs.map (·.getD EINVAL)).getD i 0#8

theorem work_callback_silent {c : Cpu} (h : ¬Answers pin c) (data : ℕ → Byte) :
    c.dht11_work_callback pin data = (data, ⟨c.first, c.irqs⟩) := by
  have hio : pin c.gets (c.now + 20260) = false := Bool.not_eq_true _ ▸ h
  simp [Cpu.dht11_work_callback, Cpu.dht11_init, Cpu.dht11_get_io, Cpu.udelay, Cpu.mdelay, Nat.add_assoc, hio, ENODEV,
    Cpu.first]

theorem work_callback_frame {c : Cpu} (ha : Answers pin c) {bs : List (Option Byte)} (h : Frame pin c.first bs r)
    (hl : bs.length = 5) (data : ℕ → Byte) :
    c.dht11_work_callback pin data =
      (if checksum (read_as bs) then fun i => if i < 5 then read_as bs i else data i else data,
        ⟨r, (bs.getLast?.map Option.isSome).getD c.irqs⟩) := by
  have hio : pin c.gets (c.now + 20260) = true := ha
  have hinit : c.dht11_init pin = (0, ⟨c.first, c.irqs⟩) := by
    simp [Cpu.dht11_init, Cpu.dht11_get_io, Cpu.udelay, Cpu.mdelay, Nat.add_assoc, hio, Cpu.first]
  obtain ⟨hdata, hend⟩ := h.read_bytes c.irqs
  rw [hl] at hdata hend
  unfold Cpu.dht11_work_callback
  rw [hinit]
  dsimp only
  rw [if_pos rfl, hend, hdata]
  rfl

/-! ## A sensor that answers -/

/-- The line of a sensor that holds its first high phase past the look of
`dht11_init`, shows these bits after a first 0, and lets go. -/
def after_look (bits : List Bool) : Pin := fun _ t =>
  if t ≤ 20260 then HIGH else waveform (nominal bits) 50 (t - 20261)

/-- Frames whose first bit is 0. -/
theorem after_look_shows {b : Byte} (hb : b.getLsbD 7 = false) (frame : List Byte) :
    ∃ q, Frame (after_look ((bits_of (b :: frame)).drop 1)) (Cpu.first ⟨⟨0, 0⟩, true⟩) (some b :: frame.map some) q := by
  have hbits : (bits_of (b :: frame)).drop 1 = msb_first b 7 ++ bits_of frame := rfl
  have he : Encodes (after_look (msb_first b 7 ++ bits_of frame) 0) (msb_first b 7 ++ bits_of frame) 20261 50 := by
    refine encodes_of_fits (nominal_fits _) (show 46 ≤ 50 ∧ 50 ≤ 100 by decide) fun t => ?_
    rw [after_look, if_neg (by omega), Nat.add_sub_cancel_left]
  rw [hbits]
  -- the first read finds the high phase, the second one is in the low phase after it
  have hhigh : after_look (msb_first b 7 ++ bits_of frame) 1 20260 ≠ LOW := by
    rw [after_look, if_pos (by decide)]
    decide
  have hends : Ends (after_look (msb_first b 7 ++ bits_of frame)) LOW (Cpu.first ⟨⟨0, 0⟩, true⟩) ⟨2, 20260⟩ :=
    ⟨0, by decide, nofun, hhigh, rfl⟩
  have hlow := he.low.low 20305 (by decide) (by decide)
  obtain ⟨v, q, hshows, hv, s, l, hrest, hs, hn⟩ :=
    @shows_encoded ⟨3, 20305⟩ _ b (bits_of frame) 7 (by decide) _ _ he (by decide) (by decide)
  obtain ⟨r, hframe⟩ := frame_encoded frame hrest hs hn
  obtain rfl : v = b := by
    apply BitVec.eq_of_getLsbD_eq
    intro j hj
    rw [hv j]
    by_cases h7 : j = 7
    · subst h7
      rw [hb]
      rfl
    · rw [decide_eq_true (by omega), Bool.true_and]
  exact ⟨r, .cons (.zero hends hlow hshows) hframe⟩

theorem fair_day_shown : ∃ q, Frame (after_look ((bits_of (List.ofFn fair_day)).drop 1)) (Cpu.first ⟨⟨0, 0⟩, true⟩)
    [some 0x37#8, some 0x00#8, some 0x18#8, some 0x05#8, some 0x54#8] q :=
  after_look_shows (by decide) [0x00#8, 0x18#8, 0x05#8, 0x54#8]

/-! ## Interrupts -/

theorem read_byte_irqs (pin : Pin) (c : Cpu) :
    (c.dht11_read_byte pin).cpu.irqs = true ↔ ∃ b q, Shows pin 8 c.toPoint (some b) q := by
  constructor
  · intro h
    obtain ⟨b, q, hs⟩ := shows_total pin 8 c.toPoint
    rw [hs.read_byte c.irqs] at h
    obtain ⟨b, rfl⟩ := Option.isSome_iff_exists.1 h
    exact ⟨b, q, hs⟩
  · rintro ⟨b, q, hs⟩
    rw [hs.read_byte c.irqs]
    rfl

/-- The reads are bounded. The interrupts are on again unless the sensor answers
and the line sticks in the last byte, and after a single byte unless it sticks there. -/
theorem work_callback_irqs (pin : Pin) (data : ℕ → Byte) (c : Cpu) (hc : c.irqs = true) :
    (c.dht11_work_callback pin data).2.gets ≤ c.gets + 8121 ∧
      ((c.dht11_work_callback pin data).2.irqs = true ↔
        ¬Answers pin c ∨ ∃ bs b q, bs.length = 5 ∧ bs.getLast? = some (some b) ∧ Frame pin c.first bs q) ∧
      ((c.dht11_read_byte pin).cpu.irqs = true ↔ ∃ b q, Shows pin 8 c.toPoint (some b) q) := by
  refine ⟨?_, ?_, read_byte_irqs pin c⟩
  · by_cases ha : Answers pin c
    · obtain ⟨bs, q, hl, hf⟩ := frame_total pin 5 c.first
      have hle := hf.gets_le
      rw [work_callback_frame ha hf hl]
      rw [hl] at hle
      exact hle
    · rw [work_callback_silent ha]
      exact Nat.add_le_add_left (by decide) c.gets
  · constructor
    · intro h
      by_cases ha : Answers pin c
      · obtain ⟨bs, q, hl, hf⟩ := frame_total pin 5 c.first
        rw [work_callback_frame ha hf hl] at h
        obtain ⟨o, ho⟩ : ∃ o, bs.getLast? = some o := Option.isSome_iff_exists.1 (by simp [← List.length_pos_iff, hl])
        simp only [ho, Option.map_some, Option.getD_some] at h
        obtain ⟨b, rfl⟩ := Option.isSome_iff_exists.1 h
        exact Or.inr ⟨bs, b, q, hl, ho, hf⟩
      · exact Or.inl ha
    · intro h
      by_cases ha : Answers pin c
      · obtain ⟨bs, b, q, hl, ho, hf⟩ := h.resolve_left (not_not_intro ha)
        rw [work_callback_frame ha hf hl, ho]
        rfl
      · rw [work_callback_silent ha]
        exact hc

/-- The callback reads five bytes and gives the interrupts back. -/
theorem fair_day_irqs :
    let c : Cpu := ⟨⟨0, 0⟩, true⟩
    let pin := after_look ((bits_of (List.ofFn fair_day)).drop 1)
    (c.dht11_work_callback pin fun _ => 0#8).2.gets ≤ 8121 ∧ (c.dht11_work_callback pin fun _ => 0#8).2.irqs = true := by
  obtain ⟨q, h⟩ := fair_day_shown
  have hirqs := work_callback_irqs (after_look ((bits_of (List.ofFn fair_day)).drop 1)) (fun _ => 0#8) ⟨⟨0, 0⟩, true⟩ rfl
  exact ⟨hirqs.1, hirqs.2.1.2 (.inr ⟨_, _, q, rfl, rfl, h⟩)⟩

/-- A line that is pulled up and never falls answers `dht11_init`; the interrupts stay off. -/
theorem stuck_line_irqs :
    ¬∀ (pin : Pin) (data : ℕ → Byte) (c : Cpu), c.irqs = true →
      (c.dht11_work_callback pin data).2.irqs = true ∧ (c.dht11_read_byte pin).cpu.irqs = true := by
  intro h
  have hoff := (h (fun _ _ => HIGH) (fun _ => 0#8) ⟨⟨0, 0⟩, true⟩ rfl).1
  revert hoff
  decide +kernel

/-! ## Timeouts in the frame -/

/-- The first four bytes, a timeout counted as its return value, add up to the fifth. -/
def AddsUp (b₀ b₁ b₂ b₃ b₄ : Option Byte) : Prop :=
  (b₀.getD EINVAL).toNat + (b₁.getD EINVAL).toNat + (b₂.getD EINVAL).toNat + (b₃.getD EINVAL).toNat =
    (b₄.getD EINVAL).toNat

theorem checksum_read_as (b₀ b₁ b₂ b₃ b₄ : Option Byte) :
    checksum (read_as [b₀, b₁, b₂, b₃, b₄]) = true ↔ AddsUp b₀ b₁ b₂ b₃ b₄ := beq_iff_eq

/-- A frame is committed or the data stay as they are. -/
theorem work_callback_data {c : Cpu} (ha : Answers pin c) {b₀ b₁ b₂ b₃ b₄ : Option Byte}
    (h : Frame pin c.first [b₀, b₁, b₂, b₃, b₄] q) (data : ℕ → Byte) :
    (AddsUp b₀ b₁ b₂ b₃ b₄ ∧ ∀ i, (c.dht11_work_callback pin data).1 i =
        if i < 5 then read_as [b₀, b₁, b₂, b₃, b₄] i else data i) ∨
      (¬AddsUp b₀ b₁ b₂ b₃ b₄ ∧ (c.dht11_work_callback pin data).1 = data) := by
  rw [work_callback_frame ha h rfl]
  by_cases hs : AddsUp b₀ b₁ b₂ b₃ b₄
  · left
    refine ⟨hs, fun i => ?_⟩
    rw [if_pos ((checksum_read_as _ _ _ _ _).2 hs)]
  · right
    refine ⟨hs, ?_⟩
    rw [if_neg (mt (checksum_read_as _ _ _ _ _).1 hs)]

/-- A frame with a timeout leaves the data alone unless it adds up, or is what they hold already. -/
theorem failed_transfer_dropped (pin : Pin) (data : ℕ → Byte) (c : Cpu) (ha : Answers pin c)
    (b₀ b₁ b₂ b₃ b₄ : Option Byte) (q : Point) (h : Frame pin c.first [b₀, b₁, b₂, b₃, b₄] q)
    (_ : none ∈ [b₀, b₁, b₂, b₃, b₄]) :
    (c.dht11_work_callback pin data).1 = data ↔
      ¬AddsUp b₀ b₁ b₂ b₃ b₄ ∨ ∀ i < 5, data i = read_as [b₀, b₁, b₂, b₃, b₄] i := by
  rcases work_callback_data ha h data with ⟨hs, hd⟩ | ⟨hs, hd⟩
  · constructor
    · intro he
      right
      intro i hi
      rw [← he, hd i, if_pos hi]
    · intro hc
      have held := hc.resolve_left (not_not_intro hs)
      funext i
      rw [hd i]
      split
      · rename_i hi
        exact (held i hi).symm
      · rfl
  · exact ⟨fun _ => Or.inl hs, fun _ => hd⟩

/-- What calls after `dht11_init` read, by evaluation. -/
theorem frame_after_look {bits : List Bool} {bs : List (Option Byte)}
    (h : ((Cpu.read_bytes (after_look bits) 5 ⟨⟨1, 20260⟩, true⟩).map Reply.shown) = bs) :
    ∃ q, Frame (after_look bits) (Cpu.first ⟨⟨0, 0⟩, true⟩) bs q :=
  h ▸ frame_read_bytes (after_look bits) 5 ⟨⟨1, 20260⟩, true⟩

/-- After these four bytes the line is not driven any more. -/
def torn_off : Pin := after_look ((bits_of [0x5f#8, 0x09#8, 0x63#8, 0x1f#8]).drop 1)

theorem torn_off_shown : ∃ q, Frame torn_off (Cpu.first ⟨⟨0, 0⟩, true⟩)
    [some 0x5f#8, some 0x09#8, some 0x63#8, some 0x1f#8, none] q :=
  frame_after_look (by decide +kernel)

theorem torn_off_dropped : ∃ q : Point, Frame torn_off (Cpu.first ⟨⟨0, 0⟩, true⟩)
    [some 0x5f#8, some 0x09#8, some 0x63#8, some 0x1f#8, none] q ∧
      ((Cpu.dht11_work_callback torn_off (fun _ => 0#8) ⟨⟨0, 0⟩, true⟩).1 = (fun _ => 0#8) ↔
        ¬AddsUp (some 0x5f#8) (some 0x09#8) (some 0x63#8) (some 0x1f#8) none ∨ ∀ i < 5, 0#8 =
          read_as [some 0x5f#8, some 0x09#8, some 0x63#8, some 0x1f#8, none] i) := by
  obtain ⟨q, h⟩ := torn_off_shown
  exact ⟨q, h, failed_transfer_dropped _ _ _ (by decide) _ _ _ _ _ q h (by decide)⟩

/-- The four bytes add up to 234, and that is how the fifth call reports its timeout. -/
theorem torn_off_committed :
    ¬∀ (pin : Pin) (data : ℕ → Byte) (c : Cpu), Answers pin c → ∀ (bs : List (Option Byte)) (q : Point),
      Frame pin c.first bs q → bs.length = 5 → none ∈ bs → (c.dht11_work_callback pin data).1 = data := by
  intro h
  obtain ⟨q, hf⟩ := torn_off_shown
  have hkept := h torn_off (fun _ => 0#8) _ (by decide) _ q hf rfl (by decide)
  rcases work_callback_data (by decide) hf fun _ => 0#8 with ⟨_, hd⟩ | ⟨hs, _⟩
  · have hfirst := (congrFun hkept 0).symm.trans (hd 0)
    revert hfirst
    decide
  · exact hs rfl

/-! ## The application -/

/-- The line that `dht11App` prints. -/
def app_line (b₀ b₁ b₂ b₃ : Byte) : String :=
  "Temperature: " ++ toString b₂.toNat ++ "." ++ toString b₃.toNat ++ "°C, Humidity: " ++
    toString b₀.toNat ++ "." ++ toString b₁.toNat ++ "%\n"

/-- The loop of `dht11App`: what it prints after `read` has returned `ret`. -/
def dht11App_main (ret : ℤ) (data : ℕ → Byte) : Option String :=
  if ret = 0 then
    if (data 4).toNat = (data 0).toNat + (data 1).toNat + (data 2).toNat + (data 3).toNat then
      some (app_line (data 0) (data 1) (data 2) (data 3))
    else none
  else none

theorem ret_all_copied : Driver.dht11.ret 0 = 0 := rfl

/-- The application prints a frame whose bytes add up. -/
theorem dht11App_main_eq_some {data : ℕ → Byte} {line : String}
    (h : dht11App_main (Driver.dht11.ret 0) data = some line) :
    (data 4).toNat = (data 0).toNat + (data 1).toNat + (data 2).toNat + (data 3).toNat := by
  rw [dht11App_main, if_pos ret_all_copied] at h
  by_contra hs
  rw [if_neg hs] at h
  cases h

/-- A frame with the sensor's checksum is committed and printed exactly when its
first four bytes add up to less than 256; a frame without it is not committed. -/
theorem valid_frame_printed (pin : Pin) (data : ℕ → Byte) (c : Cpu) (ha : Answers pin c) (b₀ b₁ b₂ b₃ b₄ : Byte)
    (q : Point) (h : Frame pin c.first [some b₀, some b₁, some b₂, some b₃, some b₄] q) :
    let data' := (c.dht11_work_callback pin data).1
    (b₄ = b₀ + b₁ + b₂ + b₃ →
      ((∀ i < 5, data' i = [b₀, b₁, b₂, b₃, b₄].getD i 0#8) ∧
          dht11App_main (Driver.dht11.ret 0) data' = some (app_line b₀ b₁ b₂ b₃) ↔
        b₀.toNat + b₁.toNat + b₂.toNat + b₃.toNat < 256)) ∧
      (b₄ ≠ b₀ + b₁ + b₂ + b₃ → data' = data) := by
  dsimp only
  have hlow : (b₀ + b₁ + b₂ + b₃).toNat = (b₀.toNat + b₁.toNat + b₂.toNat + b₃.toNat) % 256 := by
    simp only [BitVec.toNat_add]
    omega
  rcases work_callback_data ha h data with ⟨hs, hd⟩ | ⟨hs, hd⟩
  · have hsum : b₀.toNat + b₁.toNat + b₂.toNat + b₃.toNat = b₄.toNat := hs
    have hlt := b₄.isLt
    have hdata : ∀ i < 5, (c.dht11_work_callback pin data).1 i = [b₀, b₁, b₂, b₃, b₄].getD i 0#8 := by
      intro i hi
      rw [hd i, if_pos hi]
      rfl
    constructor
    · intro _
      refine ⟨fun _ => by omega, fun _ => ⟨hdata, ?_⟩⟩
      rw [dht11App_main, if_pos ret_all_copied, hdata 0 (by decide), hdata 1 (by decide), hdata 2 (by decide),
        hdata 3 (by decide), hdata 4 (by decide)]
      exact if_pos hsum.symm
    · intro hne
      refine absurd (BitVec.eq_of_toNat_eq ?_) hne
      omega
  · constructor
    · rintro rfl
      constructor
      · rintro ⟨hdata, hline⟩
        have hprint := dht11App_main_eq_some hline
        rw [hdata 0 (by decide), hdata 1 (by decide), hdata 2 (by decide), hdata 3 (by decide),
          hdata 4 (by decide)] at hprint
        exact absurd hprint.symm hs
      · intro hlt
        refine absurd ?_ hs
        show b₀.toNat + b₁.toNat + b₂.toNat + b₃.toNat = (b₀ + b₁ + b₂ + b₃).toNat
        omega
    · exact fun _ => hd

theorem fair_day_printed :
    let data' := (Cpu.dht11_work_callback (after_look ((bits_of (List.ofFn fair_day)).drop 1)) (fun _ => 0#8)
      ⟨⟨0, 0⟩, true⟩).1
    (0x54#8 = 0x37#8 + 0x00#8 + 0x18#8 + 0x05#8 →
      ((∀ i < 5, data' i = [0x37#8, 0x00#8, 0x18#8, 0x05#8, 0x54#8].getD i 0#8) ∧
          dht11App_main (Driver.dht11.ret 0) data' = some (app_line 0x37#8 0x00#8 0x18#8 0x05#8) ↔
        (0x37#8).toNat + (0x00#8).toNat + (0x18#8).toNat + (0x05#8).toNat < 256)) ∧
      (0x54#8 ≠ 0x37#8 + 0x00#8 + 0x18#8 + 0x05#8 → data' = fun _ => 0#8) := by
  obtain ⟨q, h⟩ := fair_day_shown
  exact valid_frame_printed _ _ _ (by decide) _ _ _ _ _ q h

/-- 99 and 99, 50 and 9: their sum is 257, and the sensor sends 1. -/
theorem large_sum_shown : ∃ q, Frame (after_look ((bits_of [0x63#8, 0x63#8, 0x32#8, 0x09#8, 0x01#8]).drop 1))
    (Cpu.first ⟨⟨0, 0⟩, true⟩) [some 0x63#8, some 0x63#8, some 0x32#8, some 0x09#8, some 0x01#8] q :=
  after_look_shows (by decide) [0x63#8, 0x32#8, 0x09#8, 0x01#8]

theorem large_sum_dropped :
    ¬∀ (pin : Pin) (data : ℕ → Byte) (c : Cpu), Answers pin c → ∀ (b₀ b₁ b₂ b₃ b₄ : Byte) (q : Point),
      Frame pin c.first [some b₀, some b₁, some b₂, some b₃, some b₄] q →
        let data' := (c.dht11_work_callback pin data).1
        (b₄ = b₀ + b₁ + b₂ + b₃ → (∀ i < 5, data' i = [b₀, b₁, b₂, b₃, b₄].getD i 0#8) ∧
          dht11App_main (Driver.dht11.ret 0) data' = some (app_line b₀ b₁ b₂ b₃)) ∧
        (b₄ ≠ b₀ + b₁ + b₂ + b₃ → data' = data) := by
  intro h
  obtain ⟨q, hf⟩ := large_sum_shown
  have hfirst := ((h _ (fun _ => 0#8) _ (by decide) _ _ _ _ _ q hf).1 (by decide)).1 0 (by decide)
  rcases work_callback_data (by decide) hf fun _ => 0#8 with ⟨hs, _⟩ | ⟨_, hd⟩
  · revert hs
    unfold AddsUp
    decide
  · rw [hd] at hfirst
    revert hfirst
    decide

end Sensor.Dht11
