import Chip8.Proofs.Machine.Returns

/-!
# Faults

A step fails where the word at the program counter is no instruction, where a call
finds sixteen return addresses stacked, and where a return finds none: `Stuck`
says so, with the fault.  The fault names the address that the word was fetched
from, also where that address is odd or at the very end of the address range.

A step that fails leaves the whole machine as it was.  So it fails again for as
long as nothing else is done: `step_eq_error_iff`, `answers_of_stuck`.
-/

namespace Chip8.Machine

/-- A machine that cannot execute its next instruction, and why. -/
inductive Stuck (machine : Machine) : Fault → Prop where
  /-- The word at the program counter is no instruction. -/
  | unknown : Instruction.decode? machine.opcode = none →
      Stuck machine (.unknownOpcode machine.opcode machine.pc)
  /-- A call, with all slots of the call stack live. -/
  | overflow : machine.AtCall → machine.stack.depth = 16 → Stuck machine (.stackOverflow machine.pc)
  /-- A return, with no slot of the call stack live. -/
  | underflow : machine.AtReturn → machine.stack.depth = 0 →
      Stuck machine (.stackUnderflow machine.pc)

/-! ## One step -/

section Step

variable {machine : Machine}

/-- A stuck machine fails and stays as it is. -/
theorem step_of_stuck {fault : Fault} (stuck : machine.Stuck fault) :
    machine.step = (.error fault, machine) := by
  cases stuck with
  | unknown missing => exact step_of_unknown missing
  | overflow atCall all =>
      obtain ⟨target, found⟩ := atCall_iff.1 atCall
      exact step_of_full found (CallStack.push?_eq_none_iff.2 (Nat.le_of_eq all.symm))
  | underflow atReturn none =>
      exact step_of_void (atReturn_iff.1 atReturn) (CallStack.pop?_eq_none_iff.2 none)

/-- Only a stuck machine fails. -/
theorem stuck_of_step (bounded : machine.stack.depth ≤ CallStack.capacity) {fault : Fault}
    {after : Machine} (failed : machine.step = (.error fault, after)) : machine.Stuck fault := by
  cases move machine with
  | unknown missing moved =>
      rw [moved] at failed
      cases failed
      exact .unknown missing
  | overflowed target found full moved =>
      rw [moved] at failed
      cases failed
      have all := CallStack.push?_eq_none_iff.1 full
      exact .overflow (atCall_iff.2 ⟨target, found⟩) (Nat.le_antisymm bounded all)
  | underflowed found void moved =>
      rw [moved] at failed
      cases failed
      exact .underflow (atReturn_iff.2 found) (CallStack.pop?_eq_none_iff.1 void)
  | called target stack found pushed moved => rw [moved] at failed; cases failed
  | returned address stack found popped moved => rw [moved] at failed; cases failed
  | applied instruction found infallible moved => rw [moved] at failed; cases failed

theorem step_eq_error_iff (bounded : machine.stack.depth ≤ CallStack.capacity) {fault : Fault}
    {after : Machine} :
    machine.step = (.error fault, after) ↔ machine.Stuck fault ∧ after = machine := by
  constructor
  · intro failed
    have stuck := stuck_of_step bounded failed
    rw [step_of_stuck stuck] at failed
    cases failed
    exact ⟨stuck, rfl⟩
  · rintro ⟨stuck, rfl⟩
    exact step_of_stuck stuck

/-! ## Step after step -/

/-- A stuck machine stays stuck, and answers each further step with the same fault. -/
theorem answers_of_stuck {fault : Fault} (stuck : machine.Stuck fault) (count : Nat) :
    machine.answers (List.replicate count .step) = List.replicate count (.fault fault) ∧
      machine.after (List.replicate count .step) = machine := by
  have moved : machine.perform .step = (.fault fault, machine) := by
    rw [perform_step, step_of_stuck stuck]
    rfl
  induction count with
  | zero => exact ⟨rfl, rfl⟩
  | succ count ih =>
      rw [List.replicate_succ, List.replicate_succ, answers, after_cons, moved, ih.1]
      exact ⟨rfl, ih.2⟩

end Step

/-- Whatever was done to a machine from power-on: its next step fails exactly
where the machine is stuck, with that fault and with the machine as it was, and
so do all further steps in a row.  The word that is decoded has its high byte at
the program counter. -/
theorem step_fails_iff_stuck (random : RandomStream) (history : List Operation) :
    let machine := (powerOn random).after history
    machine.opcode.toNat =
        256 * (machine.memory.read machine.pc).toNat +
          (machine.memory.read (machine.pc + 1)).toNat ∧
      (∀ fault after,
        machine.step = (.error fault, after) ↔ machine.Stuck fault ∧ after = machine) ∧
      ∀ fault, machine.step.1 = .error fault → ∀ count,
        machine.answers (List.replicate count .step) = List.replicate count (.fault fault) ∧
          machine.after (List.replicate count .step) = machine := by
  intro machine
  have bounded := depth_after random history
  refine ⟨Memory.readWord_toNat _ _, fun fault after => step_eq_error_iff bounded, ?_⟩
  intro fault failed
  have stuck : machine.Stuck fault := stuck_of_step bounded (Prod.ext failed rfl)
  exact answers_of_stuck stuck

/-- A program that calls itself fails at the seventeenth call, and goes on failing. -/
theorem step_fails_iff_stuck_selfCall :
    let machine := (powerOn (RandomStream.cycle #[])).after
      (.load [0x22, 0x00] :: List.replicate 16 .step)
    machine.step = (.error (.stackOverflow 0x200), machine) ∧
      machine.answers (List.replicate 3 .step) =
        List.replicate 3 (.fault (.stackOverflow 0x200)) := by
  have law := step_fails_iff_stuck (RandomStream.cycle #[])
    (.load [0x22, 0x00] :: List.replicate 16 .step)
  generalize made : (powerOn (RandomStream.cycle #[])).after
    (.load [0x22, 0x00] :: List.replicate 16 .step) = machine at law ⊢
  have facts : machine.AtCall ∧ machine.stack.depth = 16 ∧ machine.pc = 0x200 := by
    rw [← made]
    decide +kernel
  obtain ⟨atCall, all, start⟩ := facts
  have stuck : machine.Stuck (.stackOverflow machine.pc) := .overflow atCall all
  rw [start] at stuck
  obtain ⟨_, fails, again⟩ := law
  have failed := (fails _ _).2 ⟨stuck, rfl⟩
  exact ⟨failed, (again _ (congrArg Prod.fst failed) 3).1⟩

end Chip8.Machine
