import Chip8.Proofs.Keypad
import Chip8.Proofs.Machine.Footprint

/-!
# Waiting for a key

While no key is held, `FX0A` moves the program counter back onto itself and changes nothing, so
the next step meets it again.  Ticks and keys may come in between, and nothing but the timers and
the keypad changes before a step finds a key (`Still`).  That step puts the lowest key into a
register and goes on.

Which keys a step finds is known from the history alone: a key is held if the last operation on it
pressed it, and without such an operation if it was held at the start (`keys_after`).
-/

namespace Chip8

namespace Operation

/-- What an operation makes of a key, if it is one on that key. -/
def report? (key : Fin 16) : Operation → Option Bool
  | .setKey byte held => if byte.toNat = key.val then some held else none
  | .releaseAll => some false
  | _ => none

/-- The operation is a step, a tick or a change of keys. -/
def Plays : Operation → Prop
  | .step | .tick | .setKey _ _ | .releaseAll => True
  | _ => False

instance : DecidablePred Plays
  | .step | .tick | .setKey _ _ | .releaseAll => inferInstanceAs (Decidable True)
  | .load _ | .loadFrom _ | .setRegister _ _ | .clearRedraw => inferInstanceAs (Decidable False)

end Operation

namespace Machine

variable {machine now : Machine} {operation : Operation} {history : List Operation}

/-! ## The keys behind a history -/

/-- Whether the last operation on a key pressed it, or else whether it was held at the start. -/
def held (machine : Machine) (history : List Operation) (key : Fin 16) : Bool :=
  (history.filterMap (Operation.report? key)).getLast?.getD (machine.keypad.keys.get key)

/-- Only the operations on a key change it. -/
theorem keys_perform (machine : Machine) (operation : Operation) (key : Fin 16) :
    (machine.perform operation).2.keypad.keys.get key =
      (operation.report? key).getD (machine.keypad.keys.get key) := by
  have unchanged (kept : (machine.perform operation).2.keypad = machine.keypad)
      (other : operation.report? key = none) :
      (machine.perform operation).2.keypad.keys.get key =
        (operation.report? key).getD (machine.keypad.keys.get key) := by
    rw [kept, other, Option.getD_none]
  cases operation with
  | step => exact unchanged (confined_step machine).keypad rfl
  | load image =>
      have kept := congrArg keypad (load_others machine image)
      exact unchanged kept rfl
  | loadFrom source =>
      have kept := congrArg keypad (loadFrom_others machine source)
      exact unchanged kept rfl
  | setKey byte held =>
      have performed : (machine.perform (.setKey byte held)).2.keypad =
          machine.keypad.set byte held := rfl
      have reported : (Operation.setKey byte held).report? key =
          if byte.toNat = key.val then some held else none := rfl
      rw [performed, Keypad.keys_set, reported]
      split <;> rfl
  | releaseAll => exact Keypad.keys_released key
  | tick | setRegister _ _ | clearRedraw => exact unchanged rfl rfl

theorem keys_after (machine : Machine) (history : List Operation) (key : Fin 16) :
    (machine.after history).keypad.keys.get key = machine.held history key := by
  induction history generalizing machine with
  | nil => rfl
  | cons operation rest ih =>
      rw [after_cons, ih, held, keys_perform, held]
      cases reported : operation.report? key with
      | none => rw [List.filterMap_cons_none reported, Option.getD_none]
      | some value =>
          rw [List.filterMap_cons_some reported, List.getLast?_cons, Option.getD_some,
            Option.getD_some]

/-! ## One step -/

section Step

variable (waiting : Opcode.Transfers machine.opcode 0x0A)
include waiting

/-- Without a key the instruction is executed again. -/
theorem step_of_unheld (unheld : ∀ key : Fin 16, machine.keypad.keys.get key = false) :
    machine.step = (.ok (), machine) := by
  rw [step_of_matches (.waitKey (Opcode.x machine.opcode)) ⟨waiting, rfl⟩ rfl, apply, awaitKey,
    show machine.advance.keypad.first? = none from Keypad.first?_eq_none_iff.2 unheld]
  dsimp only
  rw [currentAddress_advance]
  rfl

/-- With a key the lowest one is taken. -/
theorem step_of_held {key : Fin 16} (held : machine.keypad.keys.get key = true)
    (lowest : ∀ lower < key, machine.keypad.keys.get lower = false) :
    machine.step = (.ok (),
      { machine.setRegister (Opcode.x machine.opcode) (UInt8.ofNat key.val) with
        pc := machine.pc + 2 }) := by
  rw [step_of_matches (.waitKey (Opcode.x machine.opcode)) ⟨waiting, rfl⟩ rfl, apply, awaitKey,
    show machine.advance.keypad.first? = some key from
      Keypad.first?_eq_some_iff.2 ⟨held, lowest⟩]
  rfl

end Step

/-! ## The wait -/

/-- Between the two machines only the timers and the keys may differ. -/
def Still (before after : Machine) : Prop :=
  ∃ delay sound keypad, after = { before with delay, sound, keypad }

theorem Still.opcode_eq (still : Still machine now) : now.opcode = machine.opcode := by
  obtain ⟨_, _, _, rfl⟩ := still
  rfl

theorem Still.pc_eq (still : Still machine now) : now.pc = machine.pc := by
  obtain ⟨_, _, _, rfl⟩ := still
  rfl

theorem Still.perform (still : Still machine now) (waiting : Opcode.Transfers machine.opcode 0x0A)
    (plays : operation.Plays)
    (unheld : operation = .step → ∀ key : Fin 16, now.keypad.keys.get key = false) :
    Still machine (now.perform operation).2 := by
  cases operation with
  | step =>
      rw [← still.opcode_eq] at waiting
      rw [perform_step, step_of_unheld waiting (unheld rfl)]
      exact still
  | tick | setKey _ _ | releaseAll =>
      obtain ⟨_, _, _, rfl⟩ := still
      exact ⟨_, _, _, rfl⟩
  | _ => cases plays

theorem Still.after (still : Still machine now) (waiting : Opcode.Transfers machine.opcode 0x0A)
    (plays : ∀ operation ∈ history, operation.Plays)
    (unheld : ∀ time < history.length, history[time]? = some .step →
      ∀ key : Fin 16, (now.after (history.take time)).keypad.keys.get key = false) :
    Still machine (now.after history) := by
  induction history generalizing now with
  | nil => exact still
  | cons operation rest ih =>
      obtain ⟨first, later⟩ := List.forall_mem_cons.1 plays
      refine ih (still.perform waiting first fun steps => ?_) later fun time inside steps => ?_
      · exact unheld 0 (Nat.succ_pos _) (congrArg some steps)
      · exact unheld (time + 1) (Nat.succ_lt_succ inside) steps

/-- A machine whose next instruction is `FX0A`, and a history of steps, ticks and changes of keys
none of whose steps was taken with a key held.  Behind it nothing but the timers and the keypad has
changed.  A step then succeeds and changes nothing at all as long as no key is held, and as soon as
there are some it puts the lowest of them into the register and goes on by one instruction.  A key
is held as the last operation on it says, or else as it was at the start, and a byte above fifteen
is no key. -/
theorem wait_for_key (machine : Machine) (history : List Operation)
    (waiting : Opcode.Transfers machine.opcode 0x0A)
    (plays : ∀ operation ∈ history, operation.Plays)
    (unheld : ∀ time < history.length, history[time]? = some .step →
      ∀ key, machine.held (history.take time) key = false) :
    let now := machine.after history
    let held := machine.held history
    Still machine now ∧
      ((∀ key, held key = false) → now.step = (.ok (), now)) ∧
      ((∃ key, held key = true) → ∃ lowest, held lowest = true ∧
        (∀ lower < lowest, held lower = false) ∧
        now.step = (.ok (),
          { now.setRegister (Opcode.x machine.opcode) (UInt8.ofNat lowest.val) with
            pc := machine.pc + 2 })) ∧
      ∀ byte : UInt8,
        (now.keypad.isHeld byte = true ↔
          ∃ inside : byte.toNat < 16, held ⟨byte.toNat, inside⟩ = true) ∧
        (16 ≤ byte.toNat → ∀ value, now.setKey byte value = now) := by
  intro now held
  have keys (key : Fin 16) : now.keypad.keys.get key = held key := keys_after machine history key
  have still : Still machine now := by
    refine Still.after ⟨_, _, _, rfl⟩ waiting plays fun time inside steps key => ?_
    rw [keys_after]
    exact unheld time inside steps key
  rw [← still.opcode_eq] at waiting
  rw [← still.opcode_eq, ← still.pc_eq]
  simp only [← keys]
  refine ⟨still, step_of_unheld waiting, ?_, fun byte => ⟨Keypad.isHeld_iff, ?_⟩⟩
  · rintro ⟨key, pressed⟩
    obtain ⟨lowest, found, free⟩ := Keypad.exists_lowest pressed
    exact ⟨lowest, found, free, step_of_held waiting found free⟩
  · intro outside value
    rw [setKey, Keypad.set_of_ge outside]

/-- The instruction lies at the end of the address range.  A key is let go before the first step, a
byte that names no key is set, and of two keys that are held at the third step the lower one is
taken. -/
theorem wait_for_key_aroundTop :
    let machine : Machine :=
      { powerOn (RandomStream.cycle #[]) with
        memory := Memory.zero.writeAll [0xF5, 0x0A] 0xFFE
        pc := 0xFFFE }
    let history : List Operation :=
      [.setKey 3 true, .releaseAll, .step, .tick, .setKey 0x13 true, .step, .setKey 9 true,
        .setKey 4 true, .setKey 2 true, .setKey 2 false]
    let now := machine.after history
    Opcode.Transfers machine.opcode 0x0A ∧ machine.pc = 0xFFFE ∧ Still machine now ∧
      now.step = (.ok (), { now.setRegister 5 4 with pc := 0 }) := by
  intro machine history now
  have waiting : Opcode.Transfers machine.opcode 0x0A := by decide +kernel
  have facts : Opcode.x machine.opcode = 5 ∧
      ∀ key, machine.held history key = decide (key = 4 ∨ key = 9) := by
    decide +kernel
  obtain ⟨still, _, takes, _⟩ :=
    wait_for_key machine history waiting (by decide) (by decide +kernel)
  obtain ⟨register, held⟩ := facts
  obtain ⟨lowest, pressed, free, moved⟩ := takes ⟨4, held 4⟩
  have fourth : lowest = 4 := by
    simp only [held, decide_eq_true_eq] at pressed
    refine pressed.resolve_right ?_
    rintro rfl
    cases (held 4).symm.trans (free 4 (by decide))
  have around : machine.pc + 2 = 0 := by decide
  rw [register, fourth, around] at moved
  exact ⟨waiting, rfl, still, moved⟩

end Machine

end Chip8
