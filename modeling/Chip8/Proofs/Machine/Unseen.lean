import Mathlib.Data.List.Forall2
import Chip8.Proofs.Instruction.Pattern
import Chip8.Proofs.Machine.Step

/-!
# What a program cannot see

The timers are read by `FX07` alone, and the keypad by `EX9E`, `EXA1` and `FX0A` alone.  So a
program that does not execute these cannot tell when the timers tick or which keys are held:
two runs that differ in nothing else give the same answers and stay the same in all other
parts, wherever the ticks or the keys come in each of them (`timers_and_keys_unseen`).

The two parts are hidden in the same way, so they are the two values of `Part`, and each lemma
is about both.
-/

namespace Chip8

/-- A part of the machine that few instructions read. -/
inductive Part where
  /-- The two timers. -/
  | timers
  /-- The keys. -/
  | keypad
  deriving DecidableEq, Repr

namespace Part

/-- Whether an operation is one on the part alone: a tick of the timers, or a change of keys. -/
def owns : Part → Operation → Bool
  | .timers, .tick => true
  | .keypad, .setKey _ _ | .keypad, .releaseAll => true
  | _, _ => false

/-- An instruction that reads the part has such an opcode. -/
def ReadBy : Part → UInt16 → Prop
  | .timers, opcode => Opcode.Transfers opcode 0x07
  | .keypad, opcode =>
      Opcode.AsksKey opcode 0x9E ∨ Opcode.AsksKey opcode 0xA1 ∨ Opcode.Transfers opcode 0x0A

instance (part : Part) (opcode : UInt16) : Decidable (part.ReadBy opcode) :=
  match part with
  | .timers => inferInstanceAs (Decidable (Opcode.Transfers _ _))
  | .keypad => inferInstanceAs (Decidable (_ ∨ _ ∨ _))

/-- Two machines that are equal but for the part. -/
def Same : Part → Machine → Machine → Prop
  | .timers, a, b => ∃ delay sound, b = { a with delay, sound }
  | .keypad, a, b => ∃ keypad, b = { a with keypad }

end Part

namespace Machine

/-! ## Histories with operations of one run only -/

/-- No step of a history meets an opcode of some kind. -/
def Avoids (kind : UInt16 → Prop) (machine : Machine) : (history : List Operation) → Prop
  | [] => True
  | operation :: rest =>
      (operation = .step → ¬kind machine.opcode) ∧ Avoids kind (machine.perform operation).2 rest
termination_by structural history => history

instance decidableAvoids (kind : UInt16 → Prop) [DecidablePred kind] (machine : Machine) :
    (history : List Operation) → Decidable (Avoids kind machine history)
  | [] => inferInstanceAs (Decidable True)
  | operation :: rest =>
      have := decidableAvoids kind (machine.perform operation).2 rest
      inferInstanceAs (Decidable (_ ∧ _))

/-- The answers to the operations that are not `own`, each with the machine behind it. -/
def record (own : Operation → Bool) (machine : Machine) :
    (history : List Operation) → List (Answer × Machine)
  | [] => []
  | operation :: rest =>
      let done := machine.perform operation
      if own operation then record own done.2 rest else done :: record own done.2 rest
termination_by structural history => history

theorem record_append (own : Operation → Bool) (machine : Machine)
    (history later : List Operation) :
    machine.record own (history ++ later) =
      machine.record own history ++ (machine.after history).record own later := by
  induction history generalizing machine with
  | nil => rfl
  | cons operation rest ih =>
      simp only [List.cons_append, record, after_cons, ih]
      split <;> rfl

/-! ## One step of two machines -/

/-- Two machines that are about to execute the same instruction with the same call stack do
alike if their instructions do. -/
theorem step_alike {a b : Machine} {Same : Machine → Machine → Prop} (same : Same a b)
    (pc : a.pc = b.pc) (opcode : a.opcode = b.opcode) (stack : a.stack = b.stack)
    (jumps : ∀ stack pc, Same { a with stack, pc } { b with stack, pc })
    (applies : ∀ instruction, a.instruction? = some instruction →
      Same (a.advance.apply instruction) (b.advance.apply instruction)) :
    a.step.1 = b.step.1 ∧ Same a.step.2 b.step.2 := by
  have instruction : b.instruction? = a.instruction? := by rw [instruction?, instruction?, opcode]
  cases move a with
  | unknown missing moved =>
      rw [moved, step_of_unknown (instruction.trans missing), pc, opcode]
      exact ⟨rfl, same⟩
  | called target stack' found pushed moved =>
      rw [pc, stack] at pushed
      rw [moved, step_of_executed (instruction.trans found)
        (call_of_room b.advance target pushed)]
      exact ⟨rfl, jumps _ _⟩
  | overflowed target found full moved =>
      rw [pc, stack] at full
      rw [moved, step_of_full (instruction.trans found) full, pc]
      exact ⟨rfl, same⟩
  | returned address stack' found popped moved =>
      rw [stack] at popped
      rw [moved, step_of_executed (instruction.trans found) (ret_of_live b.advance popped)]
      exact ⟨rfl, jumps _ _⟩
  | underflowed found void moved =>
      rw [stack] at void
      rw [moved, step_of_void (instruction.trans found) void, pc]
      exact ⟨rfl, same⟩
  | applied instruction' found infallible moved =>
      rw [moved, step_of_executed (instruction.trans found)
        (execute_eq_apply b.advance infallible)]
      exact ⟨rfl, applies instruction' found⟩

end Machine

namespace Part

open Machine

variable {part : Part} {a b : Machine}

/-! ## Single operations -/

theorem Same.symm (same : part.Same a b) : part.Same b a := by
  cases part with
  | timers => obtain ⟨_, _, rfl⟩ := same; exact ⟨a.delay, a.sound, rfl⟩
  | keypad => obtain ⟨_, rfl⟩ := same; exact ⟨a.keypad, rfl⟩

section Same

variable (same : part.Same a b)
include same

theorem Same.skipIf (condition : Bool) :
    part.Same (a.skipIf condition) (b.skipIf condition) := by
  cases condition with
  | false => exact same
  | true =>
      cases part with
      | timers => obtain ⟨delay, sound, rfl⟩ := same; exact ⟨delay, sound, rfl⟩
      | keypad => obtain ⟨keys, rfl⟩ := same; exact ⟨keys, rfl⟩

theorem Same.memory_eq : a.memory = b.memory := by
  cases part with
  | timers => obtain ⟨_, _, rfl⟩ := same; rfl
  | keypad => obtain ⟨_, rfl⟩ := same; rfl

theorem Same.setMemory (memory : Memory) :
    part.Same { a with memory } { b with memory } := by
  cases part with
  | timers => obtain ⟨delay, sound, rfl⟩ := same; exact ⟨delay, sound, rfl⟩
  | keypad => obtain ⟨keys, rfl⟩ := same; exact ⟨keys, rfl⟩

theorem Same.load (image : List UInt8) :
    (a.load image).1 = (b.load image).1 ∧ part.Same (a.load image).2 (b.load image).2 := by
  unfold Machine.load
  rw [same.memory_eq]
  cases b.memory.load image with
  | ok memory => exact ⟨rfl, same.setMemory memory⟩
  | error error => exact ⟨rfl, same⟩

theorem Same.loadFrom (source : ByteSource) :
    (a.loadFrom source).1 = (b.loadFrom source).1 ∧
      part.Same (a.loadFrom source).2.1 (b.loadFrom source).2.1 := by
  unfold Machine.loadFrom
  rw [same.memory_eq]
  obtain ⟨_ | loaded, _⟩ := b.memory.loadFrom source
  · exact ⟨rfl, same⟩
  · exact ⟨rfl, same.setMemory loaded.1⟩

/-- What one run does to the part by itself makes no difference. -/
theorem Same.left {operation : Operation} (own : part.owns operation = true) :
    part.Same (a.perform operation).2 b := by
  cases part with
  | timers =>
      obtain ⟨delay, sound, rfl⟩ := same
      cases operation with
      | tick => exact ⟨delay, sound, rfl⟩
      | _ => cases own
  | keypad =>
      obtain ⟨keys, rfl⟩ := same
      cases operation with
      | setKey _ _ | releaseAll => exact ⟨keys, rfl⟩
      | _ => cases own

end Same

/-- An instruction that does not read the timers does the same whatever they show. -/
theorem timers_apply (same : timers.Same a b) {instruction : Instruction}
    (unread : ∀ x, instruction ≠ .loadDelay x) :
    timers.Same (a.apply instruction) (b.apply instruction) := by
  have skips := same.skipIf
  obtain ⟨delay, sound, rfl⟩ := same
  cases instruction with
  | loadDelay x => exact absurd rfl (unread x)
  -- These two set a timer to the same value in both machines, and leave the other one as it is.
  | setDelay x => exact ⟨a.register x, sound, rfl⟩
  | setSound x => exact ⟨delay, a.register x, rfl⟩
  | skipByte _ _ _ | skipRegister _ _ _ | skipKey _ _ => exact skips _
  | arithmetic operation x y => cases operation <;> exact ⟨delay, sound, rfl⟩
  | waitKey x =>
      simp only [apply, awaitKey]
      cases a.keypad.first? <;> exact ⟨delay, sound, rfl⟩
  | _ => exact ⟨delay, sound, rfl⟩

/-- An instruction that does not read the keypad does the same whatever is held. -/
theorem keypad_apply (same : keypad.Same a b) {instruction : Instruction}
    (unasked : ∀ held x, instruction ≠ .skipKey held x) (awaited : ∀ x, instruction ≠ .waitKey x) :
    keypad.Same (a.apply instruction) (b.apply instruction) := by
  have skips := same.skipIf
  obtain ⟨keys, rfl⟩ := same
  cases instruction with
  | skipKey held x => exact absurd rfl (unasked held x)
  | waitKey x => exact absurd rfl (awaited x)
  | skipByte _ _ _ | skipRegister _ _ _ => exact skips _
  | arithmetic operation x y => cases operation <;> exact ⟨keys, rfl⟩
  | _ => exact ⟨keys, rfl⟩

/-- A step that does not read the part does the same whatever is in it. -/
theorem Same.step (same : part.Same a b) (blind : ¬part.ReadBy a.opcode) :
    a.step.1 = b.step.1 ∧ part.Same a.step.2 b.step.2 := by
  cases part with
  | timers =>
      obtain ⟨delay, sound, rfl⟩ := same
      refine step_alike ⟨delay, sound, rfl⟩ rfl rfl rfl (fun _ _ => ⟨delay, sound, rfl⟩) ?_
      intro instruction found
      have fits := Instruction.matches_of_decode? found
      refine timers_apply ⟨delay, sound, rfl⟩ ?_
      rintro x rfl
      exact blind fits.1
  | keypad =>
      obtain ⟨keys, rfl⟩ := same
      refine step_alike ⟨keys, rfl⟩ rfl rfl rfl (fun _ _ => ⟨keys, rfl⟩) ?_
      intro instruction found
      have fits := Instruction.matches_of_decode? found
      refine keypad_apply ⟨keys, rfl⟩ ?_ ?_
      · rintro held x rfl
        cases held with
        | true => exact blind (.inl fits.1)
        | false => exact blind (.inr (.inl fits.1))
      · rintro x rfl
        exact blind (.inr (.inr fits.1))

/-- All operations on other parts have one answer in both runs. -/
theorem Same.both (same : part.Same a b) {operation : Operation}
    (common : part.owns operation = false) (blind : operation = .step → ¬part.ReadBy a.opcode) :
    (a.perform operation).1 = (b.perform operation).1 ∧
      part.Same (a.perform operation).2 (b.perform operation).2 := by
  cases operation with
  | step =>
      obtain ⟨answer, next⟩ := same.step (blind rfl)
      exact ⟨congrArg Answer.ofStep answer, next⟩
  | load image =>
      obtain ⟨answer, next⟩ := same.load image
      exact ⟨congrArg Answer.ofLoad answer, next⟩
  | loadFrom source =>
      obtain ⟨answer, next⟩ := same.loadFrom source
      exact ⟨congrArg Answer.ofLoad answer, next⟩
  | tick =>
      cases part with
      | timers => cases common
      | keypad => obtain ⟨keys, rfl⟩ := same; exact ⟨rfl, keys, rfl⟩
  | setKey _ _ | releaseAll =>
      cases part with
      | timers => obtain ⟨delay, sound, rfl⟩ := same; exact ⟨rfl, delay, sound, rfl⟩
      | keypad => cases common
  | setRegister _ _ | clearRedraw =>
      cases part with
      | timers => obtain ⟨delay, sound, rfl⟩ := same; exact ⟨rfl, delay, sound, rfl⟩
      | keypad => obtain ⟨keys, rfl⟩ := same; exact ⟨rfl, keys, rfl⟩

/-! ## Histories -/

/-- Operations on the part alone leave no trace. -/
theorem Same.after_own (same : part.Same a b) {history : List Operation}
    (own : ∀ operation ∈ history, part.owns operation = true) :
    part.Same a (b.after history) ∧ b.record part.owns history = [] := by
  induction history generalizing b with
  | nil => exact ⟨same, rfl⟩
  | cons operation rest ih =>
      obtain ⟨now, later⟩ := List.forall_mem_cons.1 own
      rw [after_cons, record, if_pos now]
      exact ih (same.symm.left now).symm later

/-- Two runs with the same operations, but for those on the part, cannot be told apart. -/
theorem Same.record_alike (same : part.Same a b) {first second : List Operation}
    (common : first.filter (!part.owns ·) = second.filter (!part.owns ·))
    (blind : a.Avoids part.ReadBy first) :
    List.Forall₂ (fun p q => p.1 = q.1 ∧ part.Same p.2 q.2)
        (a.record part.owns first) (b.record part.owns second) ∧
      part.Same (a.after first) (b.after second) := by
  induction first generalizing a b second with
  | nil =>
      have own : ∀ operation ∈ second, part.owns operation = true := by
        simpa using List.filter_eq_nil_iff.1 common.symm
      obtain ⟨still, none⟩ := same.after_own own
      rw [record, none]
      exact ⟨.nil, still⟩
  | cons operation rest ih =>
      obtain ⟨unread, blind⟩ := blind
      cases own : part.owns operation with
      | true =>
          rw [List.filter_cons_of_neg (by simp [own])] at common
          rw [record, if_pos own, after_cons]
          exact ih (same.left own) common blind
      | false =>
          -- The other run comes to the operation behind some of its own.
          rw [List.filter_cons_of_pos (by simp [own])] at common
          obtain ⟨skipped, later, rfl, skips, _, common⟩ := List.filter_eq_cons_iff.1 common.symm
          have skips : ∀ operation ∈ skipped, part.owns operation = true := by simpa using skips
          obtain ⟨still, none⟩ := same.after_own skips
          obtain ⟨answer, next⟩ := still.both own unread
          obtain ⟨alike, last⟩ := ih next common.symm blind
          rw [record_append, none, List.nil_append, record, record, own, after_append, after_cons,
            after_cons]
          exact ⟨.cons ⟨answer, next⟩ alike, last⟩

end Part

/-- Two machines that are equal but for a hidden part, the timers or the keypad, and two
histories that are equal but for operations on that part.  If the first run never executes an
instruction that reads the part, every operation that the histories share gives the same answer
in both runs, a step its success or fault and a tick its tone event.  Behind each of them, and
at the end, the machines are again equal but for the part. -/
theorem Machine.timers_and_keys_unseen (part : Part) (a b : Machine)
    (first second : List Operation) (same : part.Same a b)
    (common : first.filter (!part.owns ·) = second.filter (!part.owns ·))
    (blind : a.Avoids part.ReadBy first) :
    List.Forall₂ (fun p q => p.1 = q.1 ∧ part.Same p.2 q.2)
        (a.record part.owns first) (b.record part.owns second) ∧
      part.Same (a.after first) (b.after second) :=
  same.record_alike common blind

/-- A program sets both timers and stays at the jump behind.  With its ticks at other places, and
one more of them, a second run of it shows other timers and is the same in all else. -/
theorem Machine.timers_and_keys_unseen_setTimers :
    let program : Operation := .load [0x60, 0x05, 0xF0, 0x15, 0xF0, 0x18, 0x12, 0x06]
    let first := [program, .tick, .step, .step, .step, .tick, .step]
    let second := [program, .step, .step, .tick, .tick, .step, .step, .tick]
    let machine := powerOn (RandomStream.cycle #[])
    machine.Avoids Part.timers.ReadBy first ∧
      Part.timers.Same (machine.after first) (machine.after second) ∧
      (machine.after first).delay ≠ (machine.after second).delay := by
  intro program first second machine
  have blind : machine.Avoids Part.timers.ReadBy first := by decide +kernel
  have law := timers_and_keys_unseen .timers machine machine first second ⟨0, 0, rfl⟩
    (by decide +kernel) blind
  exact ⟨blind, law.2, by decide +kernel⟩

end Chip8
