import Chip8.Instruction.Basic
import Chip8.Text.Record

/-!
# Instructions as records

The diagnostic form of an instruction: a name of its own for every pattern of
opcodes, and the operands in decimal.
-/

namespace Chip8

namespace Arithmetic

/-- The name of the instruction that performs the operation. -/
def recordName : Arithmetic → String
  | .move => "Move"
  | .or => "Or"
  | .and => "And"
  | .xor => "Xor"
  | .add => "AddReg"
  | .sub => "SubReg"

end Arithmetic

namespace Instruction

/-- The instruction as a record. -/
def record : Instruction → Record
  | .clearScreen => { name := "ClearScreen" }
  | .ret => { name := "Return" }
  | .jump target => { name := "Jump", fields := [address target] }
  | .call target => { name := "Call", fields := [address target] }
  | .skipByte .equal x byte => { name := "SkipIfEqImm", fields := [first x, immediate byte] }
  | .skipByte .different x byte => { name := "SkipIfNeImm", fields := [first x, immediate byte] }
  | .skipRegister .equal x y => { name := "SkipIfEqReg", fields := [first x, second y] }
  | .skipRegister .different x y => { name := "SkipIfNeReg", fields := [first x, second y] }
  | .loadByte x byte => { name := "LoadImm", fields := [first x, immediate byte] }
  | .addByte x byte => { name := "AddImm", fields := [first x, immediate byte] }
  | .arithmetic operation x y =>
      { name := operation.recordName, fields := [first x, second y] }
  | .shift .right x => { name := "ShiftRight", fields := [first x] }
  | .shift .left x => { name := "ShiftLeft", fields := [first x] }
  | .loadIndex target => { name := "LoadIndex", fields := [address target] }
  | .random x mask => { name := "Random", fields := [first x, immediate mask] }
  | .draw x y rows =>
      { name := "Draw", fields := [first x, second y, Record.number "n" rows.val] }
  | .skipKey true x => { name := "SkipIfKey", fields := [first x] }
  | .skipKey false x => { name := "SkipIfNotKey", fields := [first x] }
  | .loadDelay x => { name := "LoadDelay", fields := [first x] }
  | .waitKey x => { name := "WaitKey", fields := [first x] }
  | .setDelay x => { name := "SetDelay", fields := [first x] }
  | .setSound x => { name := "SetSound", fields := [first x] }
  | .addIndex x => { name := "AddIndex", fields := [first x] }
  | .loadGlyph x => { name := "LoadGlyph", fields := [first x] }
  | .storeDecimal x => { name := "StoreBcd", fields := [first x] }
  | .storeRegisters x => { name := "StoreRegisters", fields := [first x] }
  | .loadRegisters x => { name := "LoadRegisters", fields := [first x] }
where
  first (x : Register) : String × String := Record.number "x" x.val
  second (y : Register) : String × String := Record.number "y" y.val
  immediate (byte : UInt8) : String × String := Record.number "nn" byte.toNat
  address (target : Fin 4096) : String × String := Record.number "addr" target.val

end Instruction

end Chip8
