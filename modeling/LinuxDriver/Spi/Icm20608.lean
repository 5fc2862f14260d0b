import LinuxDriver.Spi.Slave
/-!
# The register bursts of the ICM20608

`icm20608_read_regs` and `icm20608_write_regs` allocate a buffer, hand a
transfer of the address byte and the data to `spi_sync` and copy between the
buffer and the caller's. The controller takes the length from the transfer,
whatever was allocated.
-/

namespace Spi.Icm20608

def ENOMEM : ℤ := 12

/-- The memory of the kernel, by address. -/
abbrev Memory := ℤ → Byte

/-- A piece of memory that somebody allocated. -/
structure Block where
  addr : ℤ
  size : ℕ

/-- `struct spi_transfer`; without `rx_buf` what is answered is dropped. -/
structure Transfer where
  tx_buf : Block
  rx_buf : Option Block
  len : ℕ

/-- `memcpy` of `n` bytes, from an offset in the source on. -/
structure Copy where
  src : Block
  off : ℕ
  n : ℕ

/-- How a message ends. A failed one may have been sent and answered in part. -/
inductive Sync
  | done (idle : Byte)
  | failed (code : ℕ) (mem : Memory) (regs : Regs)

/-- The kernel's part in a call: whether the transfer can be allocated, where
the data buffer is, if it can, and where the stack is. -/
structure Kernel where
  kzalloc : Bool
  data : Option ℤ
  stack : ℤ
  sync : Sync

/-- What a call returns and leaves, and which transfers and copies it has made. -/
structure Result where
  ret : ℤ
  mem : Memory
  regs : Regs
  transfers : List Transfer
  copies : List Copy

/-- A transfer: what is sent, and what is stored where the driver said. -/
def spi_sync (sync : Sync) (t : Transfer) (mem : Memory) (regs : Regs) : ℤ × Memory × Regs :=
  match sync with
  | .done idle =>
    let (regs, miso) := exchange idle regs (Mem.read mem t.tx_buf.addr t.len)
    match t.rx_buf with
    | none => (0, mem, regs)
    | some rx => (0, Mem.write mem rx.addr miso, regs)
  | .failed code mem regs => (-(code + 1), mem, regs)

/-- A burst of reads, by one transfer of `len + 1` bytes. -/
def icm20608_read_regs (k : Kernel) (mem : Memory) (regs : Regs) (reg : Byte) (buf : ℤ) (len : ℕ) : Result :=
  if k.kzalloc = false then ⟨-ENOMEM, mem, regs, [], []⟩
  else
    match k.data with
    | none => ⟨-1, mem, regs, [], []⟩
    | some addr =>
      let rxdata : Block := ⟨addr, len⟩
      let mem := Mem.write mem rxdata.addr (List.replicate rxdata.size 0#8)
      let txdata : Block := ⟨k.stack, 1⟩
      let mem := Mem.write mem txdata.addr [reg ||| 0x80#8]
      let t : Transfer := ⟨txdata, some rxdata, len + 1⟩
      let (ret, mem, regs) := spi_sync k.sync t mem regs
      if ret ≠ 0 then ⟨ret, mem, regs, [t], []⟩
      else ⟨ret, Mem.write mem buf (Mem.read mem (rxdata.addr + 1) len), regs, [t], [⟨rxdata, 1, len⟩]⟩

/-- A burst of writes, by one transfer of `len + 1` bytes. -/
def icm20608_write_regs (k : Kernel) (mem : Memory) (regs : Regs) (reg : Byte) (buf : Block) (len : ℕ) : Result :=
  if k.kzalloc = false then ⟨-ENOMEM, mem, regs, [], []⟩
  else
    match k.data with
    | none => ⟨-1, mem, regs, [], []⟩
    | some addr =>
      let txdata : Block := ⟨addr, 1 + len⟩
      let mem := Mem.write mem txdata.addr (List.replicate txdata.size 0#8)
      let mem := Mem.write mem txdata.addr [reg &&& ~~~0x80#8]
      let mem := Mem.write mem (txdata.addr + 1) (Mem.read mem buf.addr len)
      let t : Transfer := ⟨txdata, none, len + 1⟩
      let (ret, mem, regs) := spi_sync k.sync t mem regs
      ⟨ret, mem, regs, [t], [⟨buf, 0, len⟩]⟩

/-! ## What the bursts should do -/

/-- A transfer stays within the buffers it is given. -/
structure Transfer.Fits (t : Transfer) : Prop where
  tx : t.len ≤ t.tx_buf.size
  rx : ∀ b ∈ t.rx_buf, t.len ≤ b.size

/-- A copy reads within its source. -/
def Copy.Inside (c : Copy) : Prop := c.off + c.n ≤ c.src.size

/-- All transfers and copies of a call stay within their buffers. -/
structure Result.InBounds (r : Result) : Prop where
  transfers : ∀ t ∈ r.transfers, t.Fits
  copies : ∀ c ∈ r.copies, c.Inside

/-- A burst of the registers from `reg` on. The data to write is at `src`, what
is read goes to `buf`, and an allocation finds memory that is not in use. -/
structure Burst where
  reg : Byte
  len : ℕ
  reg_lt : reg.toNat < 0x80
  len_pos : 1 ≤ len
  len_le : len ≤ 255
  mem : Memory
  regs : Regs
  src : ℤ
  buf : ℤ
  writing : Kernel
  reading : Kernel
  unused : ∀ addr ∈ writing.data, ∀ i < len, ∀ j < len + 1, src + i ≠ addr + j

namespace Burst

/-- The driver's read of the burst. -/
def read (b : Burst) : Result := icm20608_read_regs b.reading b.mem b.regs b.reg b.buf b.len

/-- The driver's write of the burst. -/
def write (b : Burst) : Result := icm20608_write_regs b.writing b.mem b.regs b.reg ⟨b.src, b.len⟩ b.len

/-- The range is read after it was written. -/
def read_back (b : Burst) : Result := icm20608_read_regs b.reading b.write.mem b.write.regs b.reg b.buf b.len

/-- The claim on a burst: within bounds, and what is read is what the registers hold. -/
structure Right (b : Burst) : Prop where
  read_bounds : b.read.InBounds
  write_bounds : b.write.InBounds
  exact : b.read.ret = 0 → Mem.read b.read.mem b.buf b.len = Mem.read b.regs b.reg.toNat b.len
  returned : b.write.ret = 0 → b.read_back.ret = 0 → Mem.read b.read_back.mem b.buf b.len = Mem.read b.mem b.src b.len

end Burst

/-! ## The address byte -/

section
variable {reg : Byte} (h : reg.toNat < 0x80)
include h

theorem top_bit : reg.getLsbD 7 = false := Nat.testBit_lt_two_pow h

theorem read_command : (reg ||| 0x80#8) &&& 0x7f#8 = reg := by
  apply BitVec.eq_of_getLsbD_eq
  intro i hi
  have hmask : ∀ i < 8, i ≠ 7 → (0x80#8).getLsbD i = false ∧ (0x7f#8).getLsbD i = true := by decide
  by_cases h7 : i = 7
  · subst h7
    rw [BitVec.getLsbD_and, top_bit h]
    simp
  · obtain ⟨h0, h1⟩ := hmask i hi h7
    rw [BitVec.getLsbD_and, BitVec.getLsbD_or, h0, h1, Bool.or_false, Bool.and_true]

theorem write_command : (reg &&& ~~~0x80#8) &&& 0x7f#8 = reg := by
  apply BitVec.eq_of_getLsbD_eq
  intro i hi
  have hmask : ∀ i < 8, i ≠ 7 → (~~~0x80#8).getLsbD i = true ∧ (0x7f#8).getLsbD i = true := by decide
  by_cases h7 : i = 7
  · subst h7
    rw [BitVec.getLsbD_and, BitVec.getLsbD_and, top_bit h]
    rfl
  · obtain ⟨h0, h1⟩ := hmask i hi h7
    rw [BitVec.getLsbD_and, BitVec.getLsbD_and, h0, h1, Bool.and_true, Bool.and_true]

end

/-! ## The message -/

section
variable {reg : Byte} (h : reg.toNat < 0x80) {sync : Sync} {mem : Memory} {regs : Regs} {tx : Block} {n : ℕ}
include h

/-- What is sent after the address byte plays no part in a read. -/
theorem spi_sync_read (hcmd : mem tx.addr = reg ||| 0x80#8) (rx : Block)
    (hr : (spi_sync sync ⟨tx, some rx, n + 1⟩ mem regs).1 = 0) :
    Mem.read (spi_sync sync ⟨tx, some rx, n + 1⟩ mem regs).2.1 (rx.addr + 1) n = Mem.read regs reg.toNat n := by
  rcases sync with idle | ⟨code, mem', regs'⟩
  · have htop : (reg ||| 0x80#8).getLsbD 7 = true := by
      rw [BitVec.getLsbD_or, top_bit h]
      rfl
    have hmiso : exchange idle regs (Mem.read mem tx.addr (n + 1)) = (regs, idle :: Mem.read regs reg.toNat n) := by
      rw [Mem.read_succ, hcmd, exchange_read idle regs htop, read_command h, Mem.read_length]
    dsimp only [spi_sync]
    rw [hmiso, Mem.write_cons]
    exact Mem.read_write_read ..
  · have hret : -((code : ℤ) + 1) = 0 := hr
    omega

theorem spi_sync_write (hcmd : mem tx.addr = reg &&& ~~~0x80#8) (hr : (spi_sync sync ⟨tx, none, n + 1⟩ mem regs).1 = 0) :
    (spi_sync sync ⟨tx, none, n + 1⟩ mem regs).2.2 = Mem.write regs reg.toNat (Mem.read mem (tx.addr + 1) n) := by
  rcases sync with idle | ⟨code, mem', regs'⟩
  · have htop : (reg &&& ~~~0x80#8).getLsbD 7 = false := by
      rw [BitVec.getLsbD_and, top_bit h]
      rfl
    dsimp only [spi_sync]
    rw [Mem.read_succ, hcmd, exchange_write idle regs htop, write_command h]
  · have hret : -((code : ℤ) + 1) = 0 := hr
    omega

end

/-! ## The bursts -/

variable {k : Kernel} {mem : Memory} {regs : Regs} {reg : Byte} {len : ℕ}

theorem command_byte (addr : ℤ) (b : Byte) : Mem.write mem addr [b] addr = b := by
  have hin := Mem.write_inside mem addr [b] (Nat.zero_lt_one : 0 < [b].length)
  simpa using hin

/-- The transfer of a read, and what its copy takes. -/
def read_transfer (stack addr : ℤ) (len : ℕ) : Transfer := ⟨⟨stack, 1⟩, some ⟨addr, len⟩, len + 1⟩

/-- The copy from the receive buffer, behind the command byte. -/
def read_copy (addr : ℤ) (len : ℕ) : Copy := ⟨⟨addr, len⟩, 1, len⟩

/-- How a read can end. -/
inductive Reads (k : Kernel) (mem : Memory) (regs : Regs) (reg : Byte) (buf : ℤ) (len : ℕ) : Result → Prop
  | unattached {ret : ℤ} (hk : k.kzalloc = false ∨ k.data = none) (hret : ret ≠ 0) :
    Reads k mem regs reg buf len ⟨ret, mem, regs, [], []⟩
  | failed {addr ret : ℤ} {mem' : Memory} {regs' : Regs} (hk : k.kzalloc = true ∧ k.data = some addr) (hret : ret ≠ 0) :
    Reads k mem regs reg buf len ⟨ret, mem', regs', [read_transfer k.stack addr len], []⟩
  | done {addr : ℤ} {sent mem' : Memory} {regs' : Regs} (hk : k.kzalloc = true ∧ k.data = some addr)
    (hcmd : sent k.stack = reg ||| 0x80#8)
    (hsync : spi_sync k.sync (read_transfer k.stack addr len) sent regs = (0, mem', regs')) :
    Reads k mem regs reg buf len
      ⟨0, Mem.write mem' buf (Mem.read mem' (addr + 1) len), regs', [read_transfer k.stack addr len], [read_copy addr len]⟩

theorem read_regs_reads (k : Kernel) (mem : Memory) (regs : Regs) (reg : Byte) (buf : ℤ) (len : ℕ) :
    Reads k mem regs reg buf len (icm20608_read_regs k mem regs reg buf len) := by
  unfold icm20608_read_regs
  cases hk : k.kzalloc with
  | false => exact .unattached (.inl hk) (by decide)
  | true =>
    rw [if_neg (by decide)]
    cases hd : k.data with
    | none => exact .unattached (.inr hd) (by decide)
    | some addr =>
      dsimp only
      split
      · rename_i hret
        exact .failed ⟨hk, hd⟩ hret
      · rename_i hret
        have hret := not_not.1 hret
        rw [hret]
        exact .done ⟨hk, hd⟩ (command_byte ..) (Prod.ext hret rfl)

section
variable {buf : ℤ} {r : Result}

/-- The answer to the address byte lands on `rxdata[0]`, the registers behind it. -/
theorem Reads.exact (hr : Reads k mem regs reg buf len r) (h : reg.toNat < 0x80) (h0 : r.ret = 0) :
    Mem.read r.mem buf len = Mem.read regs reg.toNat len := by
  cases hr with
  | unattached _ hret => exact absurd h0 hret
  | failed _ hret => exact absurd h0 hret
  | @done addr _ _ _ _ hcmd hsync =>
    have hread := spi_sync_read h hcmd ⟨addr, len⟩ (congrArg Prod.fst hsync)
    rw [Mem.read_write_read, ← hread]
    exact congrArg (fun out : ℤ × Memory × Regs => Mem.read out.2.1 (addr + 1) len) hsync.symm

/-- By how much a read overruns `txdata`, `rxdata` and, copying, `rxdata` again. -/
theorem Reads.overrun (hr : Reads k mem regs reg buf len r) :
    (∀ t ∈ r.transfers, t.len = t.tx_buf.size + len ∧ ∀ rx ∈ t.rx_buf, t.len = rx.size + 1) ∧
      ∀ c ∈ r.copies, c.off + c.n = c.src.size + 1 := by
  have hlong : ∀ addr, ∀ t ∈ [read_transfer k.stack addr len],
      t.len = t.tx_buf.size + len ∧ ∀ rx ∈ t.rx_buf, t.len = rx.size + 1 := by
    intro addr t ht
    obtain rfl := List.mem_singleton.1 ht
    constructor
    · exact Nat.add_comm len 1
    · rintro rx ⟨⟩
      rfl
  cases hr with
  | unattached => exact ⟨nofun, nofun⟩
  | failed => exact ⟨hlong _, nofun⟩
  | done =>
    refine ⟨hlong _, fun c hc => ?_⟩
    obtain rfl := List.mem_singleton.1 hc
    exact Nat.add_comm 1 len

/-- A read stays in its buffers only where it attaches none. -/
theorem Reads.in_bounds_iff (hr : Reads k mem regs reg buf len r) : r.InBounds ↔ k.kzalloc = false ∨ k.data = none := by
  have hshort : ∀ addr, ¬(read_transfer k.stack addr len).Fits := fun addr h => absurd (h.rx _ rfl) (Nat.not_succ_le_self len)
  have hfree : ∀ addr, k.kzalloc = true ∧ k.data = some addr → ¬(k.kzalloc = false ∨ k.data = none) := by
    rintro addr ⟨hk, hd⟩ (h | h)
    · rw [hk] at h
      cases h
    · rw [hd] at h
      cases h
  cases hr with
  | unattached hk => exact iff_of_true ⟨nofun, nofun⟩ hk
  | failed hk => exact iff_of_false (fun h => hshort _ (h.transfers _ (List.mem_singleton_self _))) (hfree _ hk)
  | done hk => exact iff_of_false (fun h => hshort _ (h.transfers _ (List.mem_singleton_self _))) (hfree _ hk)

end

/-- `txdata` is allocated with a byte for the address. -/
theorem write_regs_in_bounds {src : ℤ} : (icm20608_write_regs k mem regs reg ⟨src, len⟩ len).InBounds := by
  unfold icm20608_write_regs
  split
  · exact ⟨nofun, nofun⟩
  · split
    · exact ⟨nofun, nofun⟩
    · constructor
      · intro t ht
        obtain rfl := List.mem_singleton.1 ht
        exact ⟨Nat.le_of_eq (Nat.add_comm len 1), nofun⟩
      · intro c hc
        obtain rfl := List.mem_singleton.1 hc
        exact Nat.le_of_eq (Nat.zero_add len)

/-- The buffer is filled around the caller's data, in memory that was not in use. -/
theorem write_regs_regs {src : ℤ} (h : reg.toNat < 0x80)
    (hunused : ∀ addr ∈ k.data, ∀ i < len, ∀ j < len + 1, src + (i : ℤ) ≠ addr + (j : ℤ))
    (hr : (icm20608_write_regs k mem regs reg ⟨src, len⟩ len).ret = 0) :
    (icm20608_write_regs k mem regs reg ⟨src, len⟩ len).regs = Mem.write regs reg.toNat (Mem.read mem src len) := by
  obtain ⟨kzalloc, data, stack, sync⟩ := k
  rcases kzalloc with _ | _
  · cases hr
  rcases data with _ | addr
  · cases hr
  unfold icm20608_write_regs at hr ⊢
  rw [if_neg (by decide : ¬true = false)] at hr ⊢
  dsimp only at hr ⊢
  have hdisj := hunused addr rfl
  have hsrc : Mem.read (Mem.write (Mem.write mem addr (List.replicate (1 + len) 0#8)) addr [reg &&& ~~~0x80#8]) src len
      = Mem.read mem src len := by
    rw [Mem.read_write_disjoint, Mem.read_write_disjoint]
    · intro i hi j hj
      rw [List.length_replicate] at hj
      exact hdisj i hi j (by omega)
    · intro i hi j hj
      rw [List.length_singleton] at hj
      exact hdisj i hi j (by omega)
  have hwrite := spi_sync_write h ?_ hr
  · rw [hwrite, hsrc, Mem.read_write_read]
  · rw [Mem.write_outside _ _ _ (.inl (Int.lt_succ addr)), command_byte]

theorem write_regs_read_regs {src buf : ℤ} {k' : Kernel} (h : reg.toNat < 0x80)
    (hunused : ∀ addr ∈ k.data, ∀ i < len, ∀ j < len + 1, src + (i : ℤ) ≠ addr + (j : ℤ))
    {written : Result} (hwritten : icm20608_write_regs k mem regs reg ⟨src, len⟩ len = written) (hw : written.ret = 0)
    (hr : (icm20608_read_regs k' written.mem written.regs reg buf len).ret = 0) :
    Mem.read (icm20608_read_regs k' written.mem written.regs reg buf len).mem buf len = Mem.read mem src len := by
  subst hwritten
  rw [(read_regs_reads ..).exact h hr, write_regs_regs h hunused hw, Mem.read_write_read]

/-! ## What is right and what is not -/

/-- What a burst returns is right wherever the buffers are; only the bounds of
a read are not. -/
theorem bursts_right (b : Burst) : b.Right ↔ b.reading.kzalloc = false ∨ b.reading.data = none := by
  constructor
  · intro h
    exact (read_regs_reads ..).in_bounds_iff.1 h.read_bounds
  · intro hk
    constructor
    · exact (read_regs_reads ..).in_bounds_iff.2 hk
    · exact write_regs_in_bounds
    · exact (read_regs_reads ..).exact b.reg_lt
    · exact write_regs_read_regs b.reg_lt b.unused rfl

def ICM20_ACCEL_XOUT_H : Byte := 0x3B#8

/-- The burst of `icm20608_readdata`, where nothing fails. -/
def readdataBurst : Burst where
  reg := ICM20_ACCEL_XOUT_H
  len := 14
  reg_lt := by decide
  len_pos := by decide
  len_le := by decide
  mem := fun _ => 0#8
  regs := fun _ => 0#8
  src := 0x200
  buf := 0x300
  writing := ⟨true, some 0x100, 0x400, .done 0xff#8⟩
  reading := ⟨true, some 0x100, 0x400, .done 0xff#8⟩
  unused := by
    rintro addr ⟨⟩ i hi j hj
    omega

theorem readdata_overruns : ¬∀ b : Burst, b.Right := by
  intro h
  have hin := (h readdataBurst).read_bounds
  rcases (read_regs_reads ..).in_bounds_iff.1 hin with hk | hk <;> cases hk

end Spi.Icm20608
