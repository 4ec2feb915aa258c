import Chip8.Text.Hex
import Chip8.Text.Record

/-!
# Faults

What stops a program.  A fault carries the address of the instruction that
caused it.  The machine cannot recover from one; whoever drives it decides what
happens next.
-/

namespace Chip8

/-- Why an instruction could not be executed. -/
inductive Fault where
  /-- The word at the address is no instruction. -/
  | unknownOpcode (opcode : UInt16) (address : UInt16)
  /-- A call found no free slot on the call stack. -/
  | stackOverflow (address : UInt16)
  /-- A return found no live slot on the call stack. -/
  | stackUnderflow (address : UInt16)
  deriving DecidableEq, Repr

namespace Fault

/-- An address as it is shown to the user. -/
def place (address : UInt16) : String :=
  "0x" ++ String.ofList (Hex.address .upper address)

/-- The text shown to the user. -/
def message : Fault → String
  | .unknownOpcode opcode address =>
      "unknown opcode 0x" ++ String.ofList (Hex.field .upper 4 opcode.toNat) ++
        " at " ++ place address
  | .stackOverflow address =>
      "stack overflow: call at " ++ place address ++
        " with 16 return addresses already stacked"
  | .stackUnderflow address =>
      "stack underflow: return at " ++ place address ++ " with an empty call stack"

/-- The diagnostic form. -/
def record : Fault → Record
  | .unknownOpcode opcode address =>
      { name := "UnknownOpcode"
        fields := [Record.number "opcode" opcode.toNat, Record.number "pc" address.toNat] }
  | .stackOverflow address =>
      { name := "StackOverflow", fields := [Record.number "pc" address.toNat] }
  | .stackUnderflow address =>
      { name := "StackUnderflow", fields := [Record.number "pc" address.toNat] }

end Fault

end Chip8
