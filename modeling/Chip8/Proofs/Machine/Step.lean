import Chip8.Machine.History
import Chip8.Proofs.Instruction.Pattern

/-!
# What a step can do

A step has six outcomes.  It finds no instruction, it calls or returns, each with
or without success, or it executes an instruction that cannot fail.  `Move` lists
them, and `move` says that there is no other.  So a fact about a step is a case
analysis of `Move`, and nothing else unfolds the step itself.

Where every operation keeps a property, every history keeps it: `after_induction`.
-/

namespace Chip8

/-- Whether the call stack may keep an instruction from being executed. -/
def Instruction.mayFail : Instruction → Bool
  | .call _ | .ret => true
  | _ => false

namespace Machine

/-! ## Calls and returns by their opcodes -/

/-- The word at the program counter is `2NNN`. -/
def AtCall (machine : Machine) : Prop := machine.opcode.toNat / 0x1000 = 2

/-- The word at the program counter is `00EE`. -/
def AtReturn (machine : Machine) : Prop := machine.opcode = 0x00EE

instance (machine : Machine) : Decidable machine.AtCall := inferInstanceAs (Decidable (_ = _))

instance (machine : Machine) : Decidable machine.AtReturn := inferInstanceAs (Decidable (_ = _))

theorem atCall_iff {machine : Machine} :
    machine.AtCall ↔ ∃ target, machine.instruction? = some (.call target) := by
  constructor
  · intro family
    have inside : machine.opcode.toNat % 0x1000 < 4096 := Nat.mod_lt _ (by decide)
    exact ⟨⟨_, inside⟩, Instruction.decode?_eq_call_iff.2 ⟨family, rfl⟩⟩
  · rintro ⟨target, found⟩
    exact (Instruction.decode?_eq_call_iff.1 found).1

theorem atReturn_iff {machine : Machine} :
    machine.AtReturn ↔ machine.instruction? = some .ret :=
  Instruction.decode?_eq_ret_iff.symm

/-! ## The outcomes of a step -/

/-- How a step ends. -/
inductive Move (machine : Machine) : Prop where
  /-- The word is no instruction. -/
  | unknown (missing : machine.instruction? = none)
      (moved : machine.step = (.error (.unknownOpcode machine.opcode machine.pc), machine))
  /-- A call finds a slot for its return address. -/
  | called (target : Fin 4096) (stack : CallStack)
      (found : machine.instruction? = some (.call target))
      (pushed : machine.stack.push? (machine.pc + 2) = some stack)
      (moved : machine.step = (.ok (), { machine with stack, pc := UInt16.ofNat target.val }))
  /-- A call finds no slot. -/
  | overflowed (target : Fin 4096)
      (found : machine.instruction? = some (.call target))
      (full : machine.stack.push? (machine.pc + 2) = none)
      (moved : machine.step = (.error (.stackOverflow machine.pc), machine))
  /-- A return finds an address to go to. -/
  | returned (address : UInt16) (stack : CallStack)
      (found : machine.instruction? = some .ret)
      (popped : machine.stack.pop? = some (address, stack))
      (moved : machine.step = (.ok (), { machine with stack, pc := address }))
  /-- A return finds no address. -/
  | underflowed
      (found : machine.instruction? = some .ret)
      (void : machine.stack.pop? = none)
      (moved : machine.step = (.error (.stackUnderflow machine.pc), machine))
  /-- An instruction that cannot fail is applied. -/
  | applied (instruction : Instruction)
      (found : machine.instruction? = some instruction)
      (infallible : instruction.mayFail = false)
      (moved : machine.step = (.ok (), machine.advance.apply instruction))

/-! ### Each outcome by itself -/

section Outcome

variable (machine : Machine)

theorem currentAddress_advance : machine.advance.currentAddress = machine.pc :=
  UInt16.add_sub_cancel machine.pc 2

theorem execute_eq_apply {instruction : Instruction} (infallible : instruction.mayFail = false) :
    machine.execute instruction = (.ok (), machine.apply instruction) := by
  cases instruction with
  | call _ | ret => cases infallible
  | _ => rfl

variable {machine}

theorem step_of_unknown (missing : machine.instruction? = none) :
    machine.step = (.error (.unknownOpcode machine.opcode machine.pc), machine) := by
  rw [step, missing]

section Found

variable {instruction : Instruction} (found : machine.instruction? = some instruction)
include found

theorem step_of_executed {after : Machine}
    (executed : machine.advance.execute instruction = (.ok (), after)) :
    machine.step = (.ok (), after) := by
  rw [step, found]
  dsimp only
  rw [executed]

/-- The program counter goes back to where it was. -/
theorem step_of_failed {fault : Fault}
    (failed : machine.advance.execute instruction = (.error fault, machine.advance)) :
    machine.step = (.error fault, machine) := by
  rw [step, found]
  dsimp only
  rw [failed]
  rfl

end Found

/-- What an opcode stands for is applied where it cannot fail. -/
theorem step_of_matches (instruction : Instruction) (fits : instruction.Matches machine.opcode)
    (infallible : instruction.mayFail = false) :
    machine.step = (.ok (), machine.advance.apply instruction) :=
  step_of_executed (Instruction.decode?_of_matches fits)
    (execute_eq_apply machine.advance infallible)

theorem step_of_encode (instruction : Instruction) (written : machine.opcode = instruction.encode)
    (infallible : instruction.mayFail = false) :
    machine.step = (.ok (), machine.advance.apply instruction) := by
  refine step_of_matches instruction ?_ infallible
  rw [written]
  exact Instruction.matches_encode instruction

variable (machine)

theorem call_of_room (target : Fin 4096) {stack : CallStack}
    (pushed : machine.stack.push? machine.pc = some stack) :
    machine.call target = (.ok (), { machine with stack, pc := UInt16.ofNat target.val }) := by
  rw [call, pushed]

theorem call_of_full (target : Fin 4096) (full : machine.stack.push? machine.pc = none) :
    machine.call target = (.error (.stackOverflow machine.currentAddress), machine) := by
  rw [call, full]

theorem ret_of_live {address : UInt16} {stack : CallStack}
    (popped : machine.stack.pop? = some (address, stack)) :
    machine.ret = (.ok (), { machine with stack, pc := address }) := by
  rw [ret, popped]

theorem ret_of_void (void : machine.stack.pop? = none) :
    machine.ret = (.error (.stackUnderflow machine.currentAddress), machine) := by
  rw [ret, void]

variable {machine}

theorem step_of_full {target : Fin 4096} (found : machine.instruction? = some (.call target))
    (full : machine.stack.push? (machine.pc + 2) = none) :
    machine.step = (.error (.stackOverflow machine.pc), machine) := by
  have failed := call_of_full machine.advance target full
  rw [currentAddress_advance] at failed
  exact step_of_failed found failed

theorem step_of_void (found : machine.instruction? = some .ret)
    (void : machine.stack.pop? = none) :
    machine.step = (.error (.stackUnderflow machine.pc), machine) := by
  have failed := ret_of_void machine.advance void
  rw [currentAddress_advance] at failed
  exact step_of_failed found failed

end Outcome

/-- Every step ends in one of these ways. -/
theorem move (machine : Machine) : Move machine := by
  cases found : machine.instruction? with
  | none => exact .unknown found (step_of_unknown found)
  | some instruction =>
      cases fallible : instruction.mayFail with
      | false =>
          exact .applied instruction found fallible
            (step_of_executed found (execute_eq_apply machine.advance fallible))
      | true =>
          cases instruction with
          | call target =>
              cases pushed : machine.stack.push? (machine.pc + 2) with
              | none => exact .overflowed target found pushed (step_of_full found pushed)
              | some stack =>
                  exact .called target stack found pushed
                    (step_of_executed found (call_of_room machine.advance target pushed))
          | ret =>
              cases popped : machine.stack.pop? with
              | none => exact .underflowed found popped (step_of_void found popped)
              | some top =>
                  exact .returned top.1 top.2 found popped
                    (step_of_executed found (ret_of_live machine.advance popped))
          | _ => cases fallible

/-! ## Whole histories -/

/-- What every operation keeps, every history keeps. -/
theorem after_induction (Kept : Machine → Prop)
    (perform : ∀ machine operation, Kept machine → Kept (machine.perform operation).2)
    {machine : Machine} (start : Kept machine) (history : List Operation) :
    Kept (machine.after history) := by
  induction history generalizing machine with
  | nil => exact start
  | cons operation rest ih => exact ih (perform machine operation start)

theorem perform_step (machine : Machine) :
    machine.perform .step = (Answer.ofStep machine.step.1, machine.step.2) := rfl

/-- Loading an image changes nothing but memory. -/
theorem load_others (machine : Machine) (image : List UInt8) :
    (machine.load image).2 = { machine with memory := (machine.load image).2.memory } := by
  rw [load]
  split <;> rfl

/-- Nor does loading from a source. -/
theorem loadFrom_others (machine : Machine) (source : ByteSource) :
    (machine.loadFrom source).2.1 =
      { machine with memory := (machine.loadFrom source).2.1.memory } := by
  rw [loadFrom]
  split <;> rfl

/-- The answers of a history are those of its operations, each on the machine that it finds. -/
theorem getElem?_answers (machine : Machine) (history : List Operation) (time : Nat) :
    (machine.answers history)[time]? =
      history[time]?.map fun operation =>
        ((machine.after (history.take time)).perform operation).1 := by
  induction history generalizing machine time with
  | nil => rfl
  | cons operation rest ih =>
      cases time with
      | zero => rfl
      | succ time => exact ih _ time

end Machine

end Chip8
