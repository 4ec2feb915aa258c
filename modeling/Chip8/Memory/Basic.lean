/-!
# Memory

Memory has 4096 bytes and no gaps.  Addresses have 16 bits, and an address past
the end means the cell that it leaves modulo 4096, so no access can fail.
Blocks are written byte by byte at successive 16-bit addresses, which makes them
wrap at the top of memory as well.

`read_write` is the whole theory of a single write, and `writeAll_cons` unfolds a
block.
-/

namespace Chip8

/-- The 4096 bytes that a program can address. -/
structure Memory where
  /-- One byte a cell. -/
  cells : Vector UInt8 4096
  deriving DecidableEq

namespace Memory

/-- The number of cells. -/
abbrev size : Nat := 4096

/-- The cell that an address means. -/
def cell (address : UInt16) : Fin 4096 :=
  ⟨address.toNat % 4096, Nat.mod_lt address.toNat (by decide)⟩

/-- Memory full of zeros. -/
def zero : Memory := ⟨Vector.replicate 4096 0⟩

/-- The byte at an address. -/
def read (memory : Memory) (address : UInt16) : UInt8 :=
  memory.cells[cell address]

/-- Memory with one byte replaced. -/
def write (memory : Memory) (address : UInt16) (byte : UInt8) : Memory :=
  ⟨memory.cells.set (cell address) byte⟩

/-- The word at an address, its high byte first. -/
def readWord (memory : Memory) (address : UInt16) : UInt16 :=
  (memory.read address).toUInt16 <<< 8 ||| (memory.read (address + 1)).toUInt16

/-- Memory with a block written from an address on.  Where the block is longer
than memory its later bytes win. -/
def writeAll (memory : Memory) : (block : List UInt8) → (address : UInt16) → Memory
  | [], _ => memory
  | byte :: rest, address => writeAll (memory.write address byte) rest (address + 1)
termination_by structural block => block

/-- The bytes at `count` successive addresses. -/
def readAll (memory : Memory) : (count : Nat) → (address : UInt16) → List UInt8
  | 0, _ => []
  | count + 1, address => memory.read address :: readAll memory count (address + 1)

/-! ## Reading what was written -/

theorem read_write (memory : Memory) (address other : UInt16) (byte : UInt8) :
    (memory.write address byte).read other =
      if cell address = cell other then byte else memory.read other := by
  simp only [read, write, Fin.getElem_fin, Vector.getElem_set, Fin.ext_iff]

/-- A block puts its first byte down and goes on one address higher. -/
theorem writeAll_cons (memory : Memory) (byte : UInt8) (rest : List UInt8) (address : UInt16) :
    memory.writeAll (byte :: rest) address =
      (memory.write address byte).writeAll rest (address + 1) :=
  rfl

theorem readWord_toNat (memory : Memory) (address : UInt16) :
    (memory.readWord address).toNat =
      256 * (memory.read address).toNat + (memory.read (address + 1)).toNat := by
  have high := (memory.read address).toNat_lt
  have low := (memory.read (address + 1)).toNat_lt
  simp only [readWord, UInt16.toNat_or, UInt16.toNat_shiftLeft, UInt8.toNat_toUInt16]
  generalize (memory.read address).toNat = a at *
  generalize (memory.read (address + 1)).toNat = b at *
  rw [show (8 : UInt16).toNat % 16 = 8 from rfl, Nat.shiftLeft_eq,
    Nat.mod_eq_of_lt (by omega), Nat.mul_comm a, ← Nat.two_pow_add_eq_or_of_lt (i := 8) low]

end Memory

end Chip8
