import Mathlib.Data.Nat.Basic
/-!
# The DHT11's bits

`35_dht11` decodes the sensor's frame by polling the line. Each bit is a low
phase and a high phase, and the length of the high phase tells a 1 from a 0.
A 0 leaves the decoder in the middle of the next low phase, a 1 at its start;
either way the next bit is decoded from somewhere in that phase.
-/

namespace Sensor

/-- Eight bits. -/
abbrev Byte := BitVec 8

namespace Dht11

/-! ## The driver -/

/-- The level of the line in every microsecond. -/
abbrev Line := ℕ → Bool

def HIGH : Bool := true
def LOW : Bool := false

/-- `-EINVAL`, as an `unsigned char`. -/
def EINVAL : Byte := BitVec.ofInt 8 (-22)

/-- `while (dht11_get_io() == level)`, with `left` rounds to go until `time > 100`;
where it stops, by itself or by a timeout. -/
def poll (io : Line) (level : Bool) : (left : ℕ) → (now : ℕ) → Except ℕ ℕ
  | 0, now => .error now
  | left + 1, now => if io now = level then poll io level left (now + 1) else .ok now

/-- What `dht11_read_byte` returns, and when; a timeout leaves the interrupts off. -/
structure Read where
  data : Byte
  now : ℕ
  irqs_off : Bool

/-- The call ends with the error, and with the interrupts off. -/
def timeout (now : ℕ) : Read := ⟨EINVAL, now, true⟩

/-- The loop of `dht11_read_byte`, `k` bits to go. -/
def read_bits (io : Line) : (k : ℕ) → (data : Byte) → (now : ℕ) → Read
  | 0, data, now => ⟨data, now, false⟩
  | k + 1, data, now =>
    match poll io LOW 101 now with
    | .error now => timeout now
    | .ok now =>
      let now := now + 45
      if io now = HIGH then
        match poll io HIGH 101 now with
        | .error now => timeout now
        | .ok now => read_bits io k (data ||| 1#8 <<< k) now
      else read_bits io k data now

/-- A call that begins at `now`. -/
def dht11_read_byte (io : Line) (now : ℕ) : Read := read_bits io 8 0#8 now

/-- `for (i = 0; i < n; i++) buff[i] = dht11_read_byte()`. -/
def read_buff (io : Line) : (n : ℕ) → (now : ℕ) → List Read
  | 0, _ => []
  | n + 1, now =>
    let r := dht11_read_byte io now
    r :: read_buff io n r.now

/-! ## The sensor -/

/-- The bits below `k`, the highest first. -/
def msb_first (b : Byte) : ℕ → List Bool
  | 0 => []
  | k + 1 => b.getLsbD k :: msb_first b k

/-- The bits of a frame in the order they are sent. -/
def bits_of (frame : List Byte) : List Bool := frame.flatMap (msb_first · 8)

/-- How long the high phase of a bit may last. -/
def InWindow (bit : Bool) (h : ℕ) : Prop := if bit then 46 ≤ h ∧ h ≤ 145 else 1 ≤ h ∧ h ≤ 45

/-- The line is low from `s` on, for a time within the sensor's window. -/
structure LowPhase (io : Line) (s l : ℕ) : Prop where
  window : 46 ≤ l ∧ l ≤ 100
  low : ∀ t, s ≤ t → t < s + l → io t = LOW

/-- From `s` on, the line shows the bits: a low phase of length `l`, the first
bit's high phase, and so on to a last low phase. -/
def Encodes (io : Line) : (bits : List Bool) → (s l : ℕ) → Prop
  | [], s, l => LowPhase io s l
  | bit :: bits, s, l =>
    LowPhase io s l ∧ ∃ h l', InWindow bit h ∧ (∀ t, s + l ≤ t → t < s + l + h → io t = HIGH) ∧
      Encodes io bits (s + l + h) l'

/-! ## Decoding -/

variable {io : Line} {s l now : ℕ}

theorem Encodes.low {bits : List Bool} (h : Encodes io bits s l) : LowPhase io s l := by
  cases bits with
  | nil => exact h
  | cons bit bits => exact h.1

/-- The loop stops at the first microsecond `e` with the other level. -/
theorem poll_ok {level : Bool} {e left : ℕ} (hs : now ≤ e) (hio : ∀ t, now ≤ t → t < e → io t = level)
    (he : io e ≠ level) (hl : e - now < left) : poll io level left now = .ok e := by
  induction left generalizing now with
  | zero => omega
  | succ left ih =>
    unfold poll
    split
    · rename_i hn
      have hne : now ≠ e := by
        rintro rfl
        exact he hn
      exact ih (by omega) (fun t h1 h2 => hio t (by omega) h2) (by omega)
    · rename_i hn
      obtain rfl | hlt := Nat.eq_or_lt_of_le hs
      · rfl
      · exact absurd (hio now (Nat.le_refl _) hlt) hn

/-- One round of the loop takes the decoder from one low phase into the next. -/
theorem read_bits_step {bit : Bool} {bits : List Bool} (h : Encodes io (bit :: bits) s l) (hs : s ≤ now)
    (hn : now < s + l) (k : ℕ) (data : Byte) :
    ∃ now' s' l', Encodes io bits s' l' ∧ s' ≤ now' ∧ now' < s' + l' ∧
      read_bits io (k + 1) data now = read_bits io k (if bit then data ||| 1#8 <<< k else data) now' := by
  obtain ⟨⟨⟨_, hl⟩, hlow⟩, h, l', hw, hhigh, he⟩ := h
  obtain ⟨⟨hl', _⟩, hlow'⟩ := he.low
  have hpos : 1 ≤ h := by
    unfold InWindow at hw
    split at hw <;> omega
  have hp : poll io LOW 101 now = .ok (s + l) := by
    apply poll_ok (by omega) (fun t h1 h2 => hlow t (by omega) h2)
    · rw [hhigh (s + l) (by omega) (by omega)]
      decide
    · omega
  rw [read_bits, hp]
  dsimp only
  cases bit with
  | true =>
    -- the line is still high, and the second loop finds its end
    obtain ⟨h1, h2⟩ : 46 ≤ h ∧ h ≤ 145 := hw
    have hp' : poll io HIGH 101 (s + l + 45) = .ok (s + l + h) := by
      apply poll_ok (by omega) (fun t ht ht' => hhigh t (by omega) ht')
      · rw [hlow' (s + l + h) (by omega) (by omega)]
        decide
      · omega
    refine ⟨s + l + h, s + l + h, l', he, by omega, by omega, ?_⟩
    rw [if_pos (hhigh _ (by omega) (by omega)), hp']
    rfl
  | false =>
    -- the line is low again
    obtain ⟨h1, h2⟩ : 1 ≤ h ∧ h ≤ 45 := hw
    refine ⟨s + l + 45, s + l + h, l', he, by omega, by omega, ?_⟩
    rw [if_neg]
    · rfl
    · rw [hlow' _ (by omega) (by omega)]
      decide

theorem read_bits_decodes (b : Byte) (rest : List Bool) {k : ℕ} (hk : k ≤ 8)
    (h : Encodes io (msb_first b k ++ rest) s l) (hs : s ≤ now) (hn : now < s + l) (data : Byte) :
    let r := read_bits io k data now
    r.irqs_off = false ∧ (∀ j, r.data.getLsbD j = (data.getLsbD j || decide (j < k) && b.getLsbD j)) ∧
      ∃ s' l', Encodes io rest s' l' ∧ s' ≤ r.now ∧ r.now < s' + l' := by
  induction k generalizing s l now data with
  | zero => exact ⟨rfl, by simp [read_bits], s, l, h, hs, hn⟩
  | succ k ih =>
    obtain ⟨now', s', l', he, hs', hn', hr⟩ := read_bits_step h hs hn k data
    obtain ⟨hoff, hdata, hrest⟩ := ih (by omega) he hs' hn' (if b.getLsbD k then data ||| 1#8 <<< k else data)
    dsimp only
    rw [hr]
    refine ⟨hoff, fun j => ?_, hrest⟩
    rw [hdata j]
    -- the new bit is bit `k`
    by_cases hj : j = k
    · subst hj
      cases hb : b.getLsbD j
      · simp
      · simp
        omega
    · have hlt : decide (j < k + 1) = decide (j < k) := by
        rw [decide_eq_decide]
        omega
      rw [hlt]
      cases hb : b.getLsbD k
      · rfl
      · have h1 : (1#8 <<< k).getLsbD j = false := by
          rw [BitVec.getLsbD_shiftLeft, BitVec.getLsbD_one]
          simp
          omega
        simp [h1]

theorem read_byte_decodes (b : Byte) (rest : List Bool) (h : Encodes io (msb_first b 8 ++ rest) s l) (hs : s ≤ now)
    (hn : now < s + l) :
    (dht11_read_byte io now).data = b ∧ (dht11_read_byte io now).irqs_off = false ∧
      ∃ s' l', Encodes io rest s' l' ∧ s' ≤ (dht11_read_byte io now).now ∧ (dht11_read_byte io now).now < s' + l' := by
  obtain ⟨hoff, hdata, hrest⟩ := read_bits_decodes b rest (Nat.le_refl 8) h hs hn 0#8
  refine ⟨?_, hoff, hrest⟩
  apply BitVec.eq_of_getLsbD_eq
  intro j hj
  refine (hdata j).trans ?_
  simp [hj]

/-- As many calls as there are bytes return the bytes. -/
theorem read_buff_decodes (frame : List Byte) (h : Encodes io (bits_of frame) s l) (hs : s ≤ now) (hn : now < s + l) :
    (read_buff io frame.length now).map Read.data = frame ∧
      ∀ r ∈ read_buff io frame.length now, r.irqs_off = false := by
  induction frame generalizing s l now with
  | nil => simp [read_buff]
  | cons b frame ih =>
    obtain ⟨hb, hoff, s', l', he, hs', hn'⟩ := read_byte_decodes b (bits_of frame) h hs hn
    obtain ⟨hbs, hoffs⟩ := ih he hs' hn'
    constructor
    · simp [read_buff, hb, hbs]
    · intro r hr
      rcases List.mem_cons.1 hr with rfl | hr
      · exact hoff
      · exact hoffs r hr

/-- Five calls that start in the first low phase return the five bytes, without a timeout. -/
theorem frame_decoded (frame : Fin 5 → Byte) (io : Line) (s l now : ℕ)
    (h : Encodes io (bits_of (List.ofFn frame)) s l) (hs : s ≤ now) (hn : now < s + l) :
    (read_buff io 5 now).map Read.data = List.ofFn frame ∧ ∀ r ∈ read_buff io 5 now, r.irqs_off = false := by
  have hd := read_buff_decodes (List.ofFn frame) h hs hn
  rwa [List.length_ofFn] at hd

/-! ## Waveforms -/

/-- The line of a sensor that drives these phases from 0 on, a last low phase after them, and lets go. -/
def waveform : (phases : List (ℕ × ℕ)) → (last : ℕ) → Line
  | [], last, t => decide (last ≤ t)
  | (l, h) :: phases, last, t => if t < l then LOW else if t < l + h then HIGH else waveform phases last (t - (l + h))

/-- The phases fit the bits. -/
def Fits : List Bool → List (ℕ × ℕ) → Prop
  | [], [] => True
  | bit :: bits, (l, h) :: phases => (46 ≤ l ∧ l ≤ 100) ∧ InWindow bit h ∧ Fits bits phases
  | _, _ => False

/-- The first low phase of a waveform. -/
def first_low (phases : List (ℕ × ℕ)) (last : ℕ) : ℕ := (phases.head?.map Prod.fst).getD last

theorem encodes_of_fits {bits : List Bool} {phases : List (ℕ × ℕ)} {last : ℕ} (hf : Fits bits phases)
    (hlast : 46 ≤ last ∧ last ≤ 100) (hio : ∀ t, io (s + t) = waveform phases last t) :
    Encodes io bits s (first_low phases last) := by
  induction bits generalizing phases s with
  | nil =>
    cases phases with
    | cons p phases => exact hf.elim
    | nil =>
      refine ⟨hlast, fun t h1 h2 => ?_⟩
      have ht := hio (t - s)
      rw [Nat.add_sub_cancel' h1] at ht
      rw [ht]
      simp [waveform, first_low] at h2 ⊢
      simp [LOW]
      omega
  | cons bit bits ih =>
    cases phases with
    | nil => exact hf.elim
    | cons p phases =>
      obtain ⟨l, h⟩ := p
      obtain ⟨hl, hw, hf⟩ := hf
      refine ⟨⟨hl, fun t h1 h2 => ?_⟩, h, first_low phases last, hw, fun t h1 h2 => ?_, ?_⟩
      · have ht := hio (t - s)
        rw [Nat.add_sub_cancel' h1] at ht
        rw [ht, waveform, if_pos (by simp [first_low] at h2; omega)]
      · simp only [first_low, List.head?_cons, Option.map_some, Option.getD_some] at h1 h2
        have ht := hio (t - s)
        rw [Nat.add_sub_cancel' (by omega)] at ht
        rw [ht, waveform, if_neg (by omega), if_pos (by omega)]
      · refine ih hf fun t => ?_
        have ht := hio (l + h + t)
        rw [waveform, if_neg (by omega), if_neg (by omega)] at ht
        rw [show s + first_low ((l, h) :: phases) last + h + t = s + (l + h + t) by simp [first_low]; omega, ht]
        congr 1
        omega

/-- The sensor's nominal timing. -/
def nominal (bits : List Bool) : List (ℕ × ℕ) := bits.map fun bit => (50, if bit then 70 else 26)

theorem nominal_fits (bits : List Bool) : Fits bits (nominal bits) := by
  induction bits with
  | nil => trivial
  | cons bit bits ih =>
    refine ⟨by decide, ?_, ih⟩
    cases bit <;> simp [InWindow]

/-- 55% humidity and 24 degrees. -/
def fair_day : Fin 5 → Byte
  | 0 => 0x37#8
  | 1 => 0x00#8
  | 2 => 0x18#8
  | 3 => 0x05#8
  | 4 => 0x54#8

theorem fair_day_decoded :
    let io := waveform (nominal (bits_of (List.ofFn fair_day))) 50
    (read_buff io 5 20).map Read.data = List.ofFn fair_day ∧ ∀ r ∈ read_buff io 5 20, r.irqs_off = false :=
  frame_decoded fair_day _ 0 50 20
    (encodes_of_fits (nominal_fits (bits_of (List.ofFn fair_day))) (show 46 ≤ 50 ∧ 50 ≤ 100 by decide)
      fun t => by rw [Nat.zero_add])
    (by decide) (by decide)

end Dht11

end Sensor
