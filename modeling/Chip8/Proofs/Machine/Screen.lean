import Chip8.Proofs.Emulator.Plain
import Chip8.Proofs.Machine.Step

/-!
# Drawing on the screen

Two instructions draw on the screen, `00E0` and `DXYN`, and both say so in the
redraw flag.  Every other step leaves the screen and the flag as they are.  So
behind any number of steps either the flag is up or the screen is what it was
(`redraw_or_sameScreen_steps`), and it is what it was where nothing that draws was
executed (`sameScreen_steps`).
-/

namespace Chip8

/-- Whether an instruction draws on the screen. -/
def Instruction.draws : Instruction → Bool
  | .clearScreen | .draw _ _ _ => true
  | _ => false

namespace Machine

/-- The word at the program counter is `00E0` or `DXYN`. -/
def AtDrawing (machine : Machine) : Prop :=
  machine.opcode = 0x00E0 ∨ machine.opcode.toNat / 0x1000 = 0xD

instance (machine : Machine) : Decidable machine.AtDrawing :=
  inferInstanceAs (Decidable (_ ∨ _))

theorem atDrawing_of_draws {machine : Machine} {instruction : Instruction}
    (found : machine.instruction? = some instruction) (draws : instruction.draws = true) :
    machine.AtDrawing := by
  obtain same | ⟨_, rfl, _⟩ := Instruction.encode_of_decode? found
  · cases instruction with
    | clearScreen => exact .inl same.symm
    | draw x y rows =>
        right
        rw [← same, Instruction.encode, Opcode.toNat_ofDigits]
        omega
    | _ => cases draws
  · cases draws

/-- The screen and its flag are what they were. -/
def SameScreen (before after : Machine) : Prop :=
  after.screen = before.screen ∧ after.redraw = before.redraw

theorem SameScreen.refl (machine : Machine) : SameScreen machine machine := ⟨rfl, rfl⟩

theorem SameScreen.trans {first second third : Machine} (before : SameScreen first second)
    (after : SameScreen second third) : SameScreen first third :=
  ⟨after.1.trans before.1, after.2.trans before.2⟩

/-! ## One step -/

section Apply

variable (machine : Machine)

theorem sameScreen_skipIf (condition : Bool) : SameScreen machine (machine.skipIf condition) := by
  rw [skipIf]
  split <;> exact .refl machine

theorem sameScreen_combine (operation : Arithmetic) (x y : Register) :
    SameScreen machine (machine.combine operation x y) := by
  rw [combine]
  cases operation.flag? (machine.register x) (machine.register y) <;> exact .refl machine

theorem sameScreen_awaitKey (x : Register) : SameScreen machine (machine.awaitKey x) := by
  rw [awaitKey]
  split <;> exact .refl machine

variable {machine} {instruction : Instruction}

theorem sameScreen_apply (still : instruction.draws = false) :
    SameScreen machine (machine.apply instruction) := by
  cases instruction with
  | clearScreen | draw _ _ _ => cases still
  | skipByte _ _ _ | skipRegister _ _ _ | skipKey _ _ => exact sameScreen_skipIf machine _
  | arithmetic operation x y => exact sameScreen_combine machine operation x y
  | waitKey x => exact sameScreen_awaitKey machine x
  | _ => exact .refl machine

theorem redraw_apply (draws : instruction.draws = true) :
    (machine.apply instruction).redraw = true := by
  cases instruction with
  | clearScreen | draw _ _ _ => rfl
  | _ => cases draws

end Apply

section Step

variable {machine : Machine}

/-- A step that does not apply an instruction leaves the screen alone. -/
theorem redraw_or_sameScreen_step (machine : Machine) :
    (machine.step.2.redraw = true ∧ machine.AtDrawing) ∨
      SameScreen machine machine.step.2 := by
  cases move machine with
  | unknown missing moved => rw [moved]; exact .inr (.refl machine)
  | called target stack found pushed moved => rw [moved]; exact .inr (.refl machine)
  | overflowed target found full moved => rw [moved]; exact .inr (.refl machine)
  | returned address stack found popped moved => rw [moved]; exact .inr (.refl machine)
  | underflowed found void moved => rw [moved]; exact .inr (.refl machine)
  | applied instruction found infallible moved =>
      rw [moved]
      cases draws : instruction.draws with
      | true => exact .inl ⟨redraw_apply draws, atDrawing_of_draws found draws⟩
      | false => exact .inr (.trans (.refl machine) (sameScreen_apply draws))

theorem sameScreen_step (still : ¬machine.AtDrawing) : SameScreen machine machine.step.2 := by
  obtain ⟨_, drawing⟩ | same := redraw_or_sameScreen_step machine
  · exact absurd drawing still
  · exact same

/-! ## Any number of steps -/

theorem steps_of_ok {after : Machine} (stepped : machine.step = (.ok (), after)) (count : Nat) :
    machine.steps (count + 1) = after.steps count := by
  rw [steps, stepped]

theorem steps_of_error {after : Machine} {fault : Fault}
    (stepped : machine.step = (.error fault, after)) (count : Nat) :
    machine.steps (count + 1) = (some fault, after) := by
  rw [steps, stepped]

theorem redraw_or_sameScreen_steps (machine : Machine) (count : Nat) :
    (machine.steps count).2.redraw = true ∨ SameScreen machine (machine.steps count).2 := by
  induction count generalizing machine with
  | zero => exact .inr (.refl machine)
  | succ count ih =>
      have first := redraw_or_sameScreen_step machine
      rcases stepped : machine.step with ⟨outcome, after⟩
      rw [stepped] at first
      cases outcome with
      | error fault =>
          rw [steps_of_error stepped]
          exact first.imp And.left id
      | ok _ =>
          rw [steps_of_ok stepped]
          obtain ⟨drawn, _⟩ | same := first
          · obtain redraw | later := ih after
            · exact .inl redraw
            · exact .inl (later.2.trans drawn)
          · exact (ih after).imp id same.trans

/-- Steps that execute nothing that draws leave the screen alone. -/
theorem sameScreen_steps {count : Nat}
    (still : ∀ time < count, ∀ during, machine.steps time = (none, during) → ¬during.AtDrawing) :
    SameScreen machine (machine.steps count).2 := by
  induction count generalizing machine with
  | zero => exact .refl machine
  | succ count ih =>
      have first := sameScreen_step (still 0 (Nat.succ_pos count) machine rfl)
      rcases stepped : machine.step with ⟨outcome, after⟩
      rw [stepped] at first
      cases outcome with
      | error fault =>
          rw [steps_of_error stepped]
          exact first
      | ok _ =>
          rw [steps_of_ok stepped]
          refine first.trans (ih fun time inside during reached => ?_)
          refine still (time + 1) (Nat.succ_lt_succ inside) during ?_
          rw [steps_of_ok stepped]
          exact reached

end Step

end Machine

end Chip8
