/-!
# Instructions

An instruction is what an opcode asks of the machine, with its operands pulled
out.  Registers are numbered below sixteen and addresses below 4096 by their
types, so every value of `Instruction` is one that some opcode can express.
-/

namespace Chip8

/-- The number of one of the sixteen registers. -/
abbrev Register := Fin 16

/-- Whether a comparing skip looks for equal or for different operands. -/
inductive Comparison where
  | equal
  | different
  deriving DecidableEq, Repr

/-- The operation of an instruction on two registers. -/
inductive Arithmetic where
  /-- Copy the second register. -/
  | move
  | or
  | and
  | xor
  /-- Add, with the carry in the flag register. -/
  | add
  /-- Subtract, with the flag register set when nothing had to be borrowed and
  the operands differ. -/
  | sub
  deriving DecidableEq, Repr

/-- The direction of a shift by one bit. -/
inductive Direction where
  | right
  | left
  deriving DecidableEq, Repr

/-- A decoded instruction.  The comment on a constructor gives its opcodes:
`X` and `Y` are registers, `N`, `NN` and `NNN` immediates. -/
inductive Instruction where
  /-- 00E0: turn every pixel off. -/
  | clearScreen
  /-- 00EE: return from a call. -/
  | ret
  /-- 1NNN: go to an address. -/
  | jump (target : Fin 4096)
  /-- 2NNN: go to an address and remember where to return to. -/
  | call (target : Fin 4096)
  /-- 3XNN and 4XNN: skip the next instruction by a register and a byte. -/
  | skipByte (wanted : Comparison) (x : Register) (byte : UInt8)
  /-- 5XY0 and 9XY0: skip the next instruction by two registers. -/
  | skipRegister (wanted : Comparison) (x y : Register)
  /-- 6XNN: put a byte into a register. -/
  | loadByte (x : Register) (byte : UInt8)
  /-- 7XNN: add a byte to a register, without a carry. -/
  | addByte (x : Register) (byte : UInt8)
  /-- 8XY0 to 8XY5: combine two registers into the first. -/
  | arithmetic (operation : Arithmetic) (x y : Register)
  /-- 8XY6 and 8XYE: shift a register by one bit.  The second register field
  of the opcode has no meaning. -/
  | shift (direction : Direction) (x : Register)
  /-- ANNN: point the index register at an address. -/
  | loadIndex (target : Fin 4096)
  /-- CXNN: put a random byte under a mask into a register. -/
  | random (x : Register) (mask : UInt8)
  /-- DXYN: draw a sprite of `rows` rows at the place held by two registers. -/
  | draw (x y : Register) (rows : Fin 16)
  /-- EX9E and EXA1: skip the next instruction if the key named by a register
  is held, or if it is not. -/
  | skipKey (held : Bool) (x : Register)
  /-- FX07: read the delay timer. -/
  | loadDelay (x : Register)
  /-- FX0A: wait for a key. -/
  | waitKey (x : Register)
  /-- FX15: set the delay timer. -/
  | setDelay (x : Register)
  /-- FX18: set the sound timer. -/
  | setSound (x : Register)
  /-- FX1E: add a register to the index register. -/
  | addIndex (x : Register)
  /-- FX29: point the index register at the glyph of a digit. -/
  | loadGlyph (x : Register)
  /-- FX33: store the three decimal digits of a register. -/
  | storeDecimal (x : Register)
  /-- FX55: store the registers up to `x`. -/
  | storeRegisters (x : Register)
  /-- FX65: load the registers up to `x`. -/
  | loadRegisters (x : Register)
  deriving DecidableEq, Repr

end Chip8
