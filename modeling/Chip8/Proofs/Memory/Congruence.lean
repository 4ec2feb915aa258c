import Chip8.Memory.Basic

/-!
# Addresses of the same cell

Two addresses are congruent if they differ by a multiple of the size of memory.
Memory cannot tell them apart, neither byte by byte nor block by block, and since
the range of addresses is itself a multiple of the size of memory, adding to
congruent addresses and subtracting from them keeps them congruent also where
the sum wraps.
-/

namespace Chip8

/-- Two addresses that leave the same remainder modulo the size of memory. -/
def Congruent (a b : UInt16) : Prop := a.toNat % 4096 = b.toNat % 4096

instance (a b : UInt16) : Decidable (Congruent a b) := inferInstanceAs (Decidable (_ = _))

namespace Congruent

variable {a b : UInt16}

theorem refl (a : UInt16) : Congruent a a := rfl

theorem add (close : Congruent a b) (c : UInt16) : Congruent (a + c) (b + c) := by
  have inside := c.toNat_lt
  rw [Congruent] at close ⊢
  rw [UInt16.toNat_add, UInt16.toNat_add]
  omega

theorem sub (close : Congruent a b) (c : UInt16) : Congruent (a - c) (b - c) := by
  have inside := c.toNat_lt
  rw [Congruent] at close ⊢
  rw [UInt16.toNat_sub, UInt16.toNat_sub]
  omega

theorem cell_eq (close : Congruent a b) : Memory.cell a = Memory.cell b := Fin.ext close

end Congruent

namespace Memory

variable (memory : Memory) {a b : UInt16} (close : Congruent a b)
include close

theorem read_congruent : memory.read a = memory.read b := by
  simp only [read, close.cell_eq]

theorem readWord_congruent : memory.readWord a = memory.readWord b := by
  rw [readWord, readWord, read_congruent memory close, read_congruent memory (close.add 1)]

theorem readAll_congruent (count : Nat) : memory.readAll count a = memory.readAll count b := by
  induction count generalizing a b with
  | zero => rfl
  | succ count ih => rw [readAll, readAll, read_congruent memory close, ih (close.add 1)]

theorem write_congruent (byte : UInt8) : memory.write a byte = memory.write b byte := by
  simp only [write, close.cell_eq]

theorem writeAll_congruent (block : List UInt8) :
    memory.writeAll block a = memory.writeAll block b := by
  induction block generalizing memory a b with
  | nil => rfl
  | cons byte rest ih =>
      rw [writeAll_cons, writeAll_cons, write_congruent memory close, ih _ (close.add 1)]

end Memory

end Chip8
