import LinuxDriver.Lib.Memory
import Mathlib.Data.Int.Notation
import Mathlib.Data.Nat.Notation
/-!
# A slave with registers

The first byte of a message names a register, and its top bit a read. The slave
goes on from register to register, and it answers to a byte while the next one
is sent.
-/

namespace Spi

/-- Eight bits. -/
abbrev Byte := BitVec 8

/-- The registers of the chip. -/
abbrev Regs := ℤ → Byte

/-- What the next byte means to the chip. -/
inductive Phase
  | command
  | reading (reg : ℤ)
  | writing (reg : ℤ)

/-- The chip on the bus. -/
structure Slave where
  phase : Phase
  regs : Regs

/-- One byte in, one byte out; `idle` is what the line carries when the slave has nothing to say. -/
def Slave.clock (idle : Byte) (s : Slave) (mosi : Byte) : Slave × Byte :=
  match s.phase with
  | .command =>
    let reg : ℤ := (mosi &&& 0x7f#8).toNat
    (⟨if mosi.getLsbD 7 then .reading reg else .writing reg, s.regs⟩, idle)
  | .reading reg => (⟨.reading (reg + 1), s.regs⟩, s.regs reg)
  | .writing reg => (⟨.writing (reg + 1), Mem.write s.regs reg [mosi]⟩, idle)

/-- All the bytes of a transfer. -/
def Slave.clocks (idle : Byte) : Slave → List Byte → Slave × List Byte
  | s, [] => (s, [])
  | s, mosi :: rest =>
    let (s, out) := s.clock idle mosi
    let (s, miso) := s.clocks idle rest
    (s, out :: miso)

/-- A message, from chip select on: the registers after it, and what was answered. -/
def exchange (idle : Byte) (regs : Regs) (mosi : List Byte) : Regs × List Byte :=
  let (s, miso) := Slave.clocks idle ⟨.command, regs⟩ mosi
  (s.regs, miso)

variable (idle : Byte) (regs : Regs)

theorem clocks_reading (reg : ℤ) (mosi : List Byte) :
    Slave.clocks idle ⟨.reading reg, regs⟩ mosi = (⟨.reading (reg + mosi.length), regs⟩, Mem.read regs reg mosi.length) := by
  induction mosi generalizing reg with
  | nil => simp [Slave.clocks]
  | cons b mosi ih =>
    have hstep : reg + 1 + (mosi.length : ℤ) = reg + (mosi.length + 1 : ℕ) := by omega
    rw [Slave.clocks]
    dsimp only [Slave.clock]
    rw [ih, List.length_cons, Mem.read_succ, hstep]

theorem clocks_writing (reg : ℤ) (mosi : List Byte) :
    (Slave.clocks idle ⟨.writing reg, regs⟩ mosi).1 = ⟨.writing (reg + mosi.length), Mem.write regs reg mosi⟩ := by
  induction mosi generalizing reg regs with
  | nil => simp [Slave.clocks]
  | cons b mosi ih =>
    have hstep : reg + 1 + (mosi.length : ℤ) = reg + (mosi.length + 1 : ℕ) := by omega
    rw [Slave.clocks]
    dsimp only [Slave.clock]
    rw [ih, List.length_cons, hstep, Mem.write_cons regs reg b mosi]

/-- A read hands out the registers one byte late. -/
theorem exchange_read {cmd : Byte} (h : cmd.getLsbD 7 = true) (mosi : List Byte) :
    exchange idle regs (cmd :: mosi) = (regs, idle :: Mem.read regs (cmd &&& 0x7f#8).toNat mosi.length) := by
  unfold exchange
  rw [Slave.clocks]
  dsimp only [Slave.clock]
  rw [if_pos h, clocks_reading]

theorem exchange_write {cmd : Byte} (h : cmd.getLsbD 7 = false) (mosi : List Byte) :
    (exchange idle regs (cmd :: mosi)).1 = Mem.write regs (cmd &&& 0x7f#8).toNat mosi := by
  unfold exchange
  rw [Slave.clocks]
  dsimp only [Slave.clock]
  rw [if_neg (Bool.eq_false_iff.1 h), clocks_writing]

end Spi
