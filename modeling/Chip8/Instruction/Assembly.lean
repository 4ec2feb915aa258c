import Chip8.Instruction.Basic
import Chip8.Text.Hex

/-!
# Assembly lines

An instruction in assembly is an operation name and a list of operands.  Five
operation names are shared by several instructions, which differ in the kinds
of their operands, so the line as a whole still tells them apart.
-/

namespace Chip8

/-- An operand of an assembly line. -/
inductive Operand where
  /-- `V` and an upper-case digit. -/
  | register (x : Register)
  /-- Three lower-case digits. -/
  | address (target : Fin 4096)
  /-- Two lower-case digits. -/
  | byte (value : UInt8)
  /-- A number of sprite rows, in decimal. -/
  | rows (count : Fin 16)
  /-- The index register. -/
  | index
  /-- The memory at the index register. -/
  | atIndex
  /-- The delay timer. -/
  | delay
  /-- The sound timer. -/
  | sound
  /-- The next key. -/
  | key
  /-- The glyph of a digit. -/
  | font
  /-- The decimal digits of a number. -/
  | decimal
  deriving DecidableEq, Repr

namespace Operand

/-- The text of an operand. -/
def text : Operand → List Char
  | .register x => ['V', Hex.digit .upper x.val]
  | .address target => ['0', 'x'] ++ Hex.field .lower 3 target.val
  | .byte value => ['0', 'x'] ++ Hex.field .lower 2 value.toNat
  | .rows count => Nat.toDigits 10 count.val
  | .index => ['I']
  | .atIndex => ['[', 'I', ']']
  | .delay => ['D', 'T']
  | .sound => ['S', 'T']
  | .key => ['K']
  | .font => ['F']
  | .decimal => ['B']

end Operand

/-- An operation name with its operands. -/
structure Assembly where
  /-- The operation name, in capitals. -/
  operation : String
  /-- The operands, destination first. -/
  operands : List Operand := []
  deriving DecidableEq, Repr

namespace Assembly

/-- The operands of a line with what stands before each of them. -/
def operandText : List Operand → List Char
  | [] => []
  | [operand] => operand.text
  | operand :: rest => operand.text ++ [',', ' '] ++ operandText rest

/-- The line as characters: a blank behind the operation name, and a comma and
a blank between two operands. -/
def text (line : Assembly) : List Char :=
  match line.operands with
  | [] => line.operation.toList
  | operands => line.operation.toList ++ [' '] ++ operandText operands

end Assembly

namespace Arithmetic

/-- The operation name of an operation on two registers. -/
def assemblyName : Arithmetic → String
  | .move => "LD"
  | .or => "OR"
  | .and => "AND"
  | .xor => "XOR"
  | .add => "ADD"
  | .sub => "SUB"

end Arithmetic

namespace Instruction

open Operand (register byte address)

/-- The assembly line of an instruction. -/
def assembly : Instruction → Assembly
  | .clearScreen => { operation := "CLS" }
  | .ret => { operation := "RET" }
  | .jump target => { operation := "JP", operands := [address target] }
  | .call target => { operation := "CALL", operands := [address target] }
  | .skipByte .equal x value => { operation := "SE", operands := [register x, byte value] }
  | .skipByte .different x value => { operation := "SNE", operands := [register x, byte value] }
  | .skipRegister .equal x y => { operation := "SE", operands := [register x, register y] }
  | .skipRegister .different x y => { operation := "SNE", operands := [register x, register y] }
  | .loadByte x value => { operation := "LD", operands := [register x, byte value] }
  | .addByte x value => { operation := "ADD", operands := [register x, byte value] }
  | .arithmetic operation x y =>
      { operation := operation.assemblyName, operands := [register x, register y] }
  | .shift .right x => { operation := "SHR", operands := [register x] }
  | .shift .left x => { operation := "SHL", operands := [register x] }
  | .loadIndex target => { operation := "LD", operands := [.index, address target] }
  | .random x mask => { operation := "RND", operands := [register x, byte mask] }
  | .draw x y rows => { operation := "DRW", operands := [register x, register y, .rows rows] }
  | .skipKey true x => { operation := "SKP", operands := [register x] }
  | .skipKey false x => { operation := "SKNP", operands := [register x] }
  | .loadDelay x => { operation := "LD", operands := [register x, .delay] }
  | .waitKey x => { operation := "LD", operands := [register x, .key] }
  | .setDelay x => { operation := "LD", operands := [.delay, register x] }
  | .setSound x => { operation := "LD", operands := [.sound, register x] }
  | .addIndex x => { operation := "ADD", operands := [.index, register x] }
  | .loadGlyph x => { operation := "LD", operands := [.font, register x] }
  | .storeDecimal x => { operation := "LD", operands := [.decimal, register x] }
  | .storeRegisters x => { operation := "LD", operands := [.atIndex, register x] }
  | .loadRegisters x => { operation := "LD", operands := [register x, .atIndex] }

/-- The instruction as one line of assembly text. -/
def mnemonic (instruction : Instruction) : String :=
  String.ofList instruction.assembly.text

end Instruction

/-! ## Closed instances -/

example : (Instruction.draw 1 2 5).assembly.text = "DRW V1, V2, 5".toList := by decide
example : (Instruction.jump 0x2EA).assembly.text = "JP 0x2ea".toList := by decide
example : (Instruction.loadRegisters 15).assembly.text = "LD VF, [I]".toList := by decide

end Chip8
