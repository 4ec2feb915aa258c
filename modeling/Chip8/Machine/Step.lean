import Chip8.Instruction.Opcode
import Chip8.Journal
import Chip8.Machine.Execute

/-!
# Steps

A step fetches the word at the program counter, decodes it, moves the program
counter on by two, and executes the instruction.  Where that fails the program
counter goes back, so the fault is met again by the next step.

A batch is a number of steps that ends at the first fault.
-/

namespace Chip8.Machine

/-- The word at the program counter. -/
def opcode (machine : Machine) : UInt16 := machine.memory.readWord machine.pc

/-- The instruction at the program counter, if there is one. -/
def instruction? (machine : Machine) : Option Instruction :=
  Instruction.decode? machine.opcode

/-- The machine with the program counter moved on by one instruction. -/
def advance (machine : Machine) : Machine := { machine with pc := machine.pc + 2 }

/-- One step. -/
def step (machine : Machine) : Except Fault Unit × Machine :=
  match machine.instruction? with
  | none => (.error (.unknownOpcode machine.opcode machine.pc), machine)
  | some instruction =>
      let address := machine.pc
      match machine.advance.execute instruction with
      | (.ok (), after) => (.ok (), after)
      | (.error fault, after) => (.error fault, { after with pc := address })

/-- What a step reports before it executes its instruction. -/
def stepNotices (machine : Machine) : List Notice :=
  match machine.instruction? with
  | none => []
  | some instruction => [.executing machine.pc machine.opcode instruction]

/-- What a loaded program is reported with. -/
def loadNotices {ε : Type} : Except ε Nat → List Notice
  | .ok length => [.loaded length]
  | .error _ => []

/-- What became of a batch of steps. -/
structure Batch where
  /-- The machine behind the last step. -/
  machine : Machine
  /-- The number of steps that succeeded. -/
  steps : Nat
  /-- The fault that ended the batch, if one did. -/
  fault? : Option Fault
  /-- What the steps reported, newest first. -/
  notices : List Notice

/-- At most `limit` more steps behind those already taken.  The batch ends before
a step on a machine that `stopAt` accepts, and behind a step that fails. -/
def batchFrom (stopAt : Machine → Bool) (machine : Machine) (steps : Nat)
    (notices : List Notice) : (limit : Nat) → Batch
  | 0 => ⟨machine, steps, none, notices⟩
  | limit + 1 =>
      if stopAt machine then
        ⟨machine, steps, none, notices⟩
      else
        let notices := machine.stepNotices ++ notices
        match machine.step with
        | (.ok (), after) => batchFrom stopAt after (steps + 1) notices limit
        | (.error fault, after) => ⟨after, steps, some fault, notices⟩

/-- A batch of at most `limit` steps that ends early at a machine that `stopAt`
accepts. -/
def batchUntil (machine : Machine) (stopAt : Machine → Bool) (limit : Nat) : Batch :=
  batchFrom stopAt machine 0 [] limit

/-- A batch of `limit` steps. -/
def batch (machine : Machine) (limit : Nat) : Batch :=
  machine.batchUntil (fun _ => false) limit

end Chip8.Machine
