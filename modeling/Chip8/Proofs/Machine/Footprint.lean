import Chip8.Proofs.Instruction.Pattern
import Chip8.Proofs.Machine.Returns
import Chip8.Proofs.Memory.Blocks

/-!
# What a step may touch

Each instruction changes a few parts of the machine and leaves all others alone.  `Effect`
lists what the instructions that cannot fail do, one constructor for each set of parts, and
`effect` says that there is nothing else.  `Confined` reads the same off the opcode of a step:
for every part it names the opcodes under which the part may change.

Every step is confined, and a step on `FX33` leaves the decimal digits of a register behind:
`step_touches_only`.
-/

namespace Chip8

namespace Instruction

/-- The registers that an instruction may change. -/
def Writes (r : Register) : Instruction → Prop
  | .loadByte x _ | .addByte x _ | .random x _ | .loadDelay x | .waitKey x => r = x
  | .arithmetic .add x _ | .arithmetic .sub x _ | .shift _ x => r = x ∨ r = Machine.flag
  | .arithmetic _ x _ => r = x
  | .draw _ _ _ => r = Machine.flag
  | .loadRegisters x => r ≤ x
  | _ => False

/-- The instructions that change the index register and nothing else. -/
def Points : Instruction → Prop
  | .loadIndex _ | .addIndex _ | .loadGlyph _ => True
  | _ => False

end Instruction

namespace Machine

/-! ## What an instruction changes -/

/-- What an instruction that cannot fail makes of a machine: `after` names the parts that may
have changed, and all others are those of the machine. -/
inductive Effect (machine : Machine) : Instruction → (after : Machine) → Prop where
  /-- The program counter is set, or stays where it is. -/
  | goes {instruction : Instruction} (pc : UInt16) : Effect machine instruction { machine with pc }
  /-- Registers are set. -/
  | writes {instruction : Instruction} (registers : Vector UInt8 16)
      (own : ∀ r, ({ machine with registers } : Machine).register r ≠ machine.register r →
        instruction.Writes r) :
      Effect machine instruction { machine with registers }
  /-- A register is set, and a word of the random stream is used up. -/
  | rolls (x : Register) (mask : UInt8) (registers : Vector UInt8 16) (random : RandomStream)
      (own : ∀ r, ({ machine with registers } : Machine).register r ≠ machine.register r → r = x) :
      Effect machine (.random x mask) { machine with registers, random }
  /-- The screen is cleared. -/
  | clears :
      Effect machine .clearScreen { machine with screen := Framebuffer.blank, redraw := true }
  /-- The screen is drawn on, and the flag register tells whether a pixel went off. -/
  | draws (x y : Register) (rows : Fin 16) (registers : Vector UInt8 16) (screen : Framebuffer)
      (own : ∀ r, ({ machine with registers } : Machine).register r ≠ machine.register r →
        r = flag) :
      Effect machine (.draw x y rows) { machine with registers, screen, redraw := true }
  /-- The index register is set. -/
  | points {instruction : Instruction} (index : UInt16) (own : instruction.Points) :
      Effect machine instruction { machine with index }
  /-- The delay timer is set. -/
  | delays (x : Register) (delay : UInt8) : Effect machine (.setDelay x) { machine with delay }
  /-- The sound timer is set. -/
  | sounds (x : Register) (sound : UInt8) : Effect machine (.setSound x) { machine with sound }
  /-- Three decimal digits are stored. -/
  | storesDecimal (x : Register) :
      Effect machine (.storeDecimal x)
        { machine with
          memory := machine.memory.writeAll (decimalDigits (machine.register x)) machine.index }
  /-- Registers are stored. -/
  | storesRegisters (x : Register) (index : UInt16) :
      Effect machine (.storeRegisters x)
        { machine with
          memory := machine.memory.writeAll (machine.registersUpTo x) machine.index
          index }
  /-- Registers are loaded. -/
  | loadsRegisters (x : Register) (registers : Vector UInt8 16) (index : UInt16)
      (own : ∀ r, ({ machine with registers } : Machine).register r ≠ machine.register r → r ≤ x) :
      Effect machine (.loadRegisters x) { machine with registers, index }

section Effect

variable (machine : Machine) {x r : Register} {byte : UInt8}

theorem eq_of_setRegister_ne
    (changed : (machine.setRegister x byte).register r ≠ machine.register r) : r = x := by
  apply Classical.byContradiction
  intro other
  rw [register_setRegister, if_neg fun same => other same.symm] at changed
  exact changed rfl

/-- Setting the flag and then another register changes those two. -/
theorem eq_of_setFlag_setRegister_ne {flagged : UInt8}
    (changed : ((machine.setRegister flag flagged).setRegister x byte).register r ≠
      machine.register r) : r = x ∨ r = flag := by
  by_cases last : ((machine.setRegister flag flagged).setRegister x byte).register r =
      (machine.setRegister flag flagged).register r
  · rw [last] at changed
    exact .inr (eq_of_setRegister_ne machine changed)
  · exact .inl (eq_of_setRegister_ne _ last)

theorem effect_skipIf (instruction : Instruction) (condition : Bool) :
    Effect machine instruction (machine.skipIf condition) := by
  cases condition with
  | true => exact .goes _
  | false => exact .goes _

theorem effect_combine (operation : Arithmetic) (x y : Register) :
    Effect machine (.arithmetic operation x y) (machine.combine operation x y) := by
  cases operation with
  | add | sub => exact .writes _ fun _ changed => eq_of_setFlag_setRegister_ne machine changed
  | move | or | and | xor => exact .writes _ fun _ changed => eq_of_setRegister_ne machine changed

theorem effect_awaitKey (x : Register) :
    Effect machine (.waitKey x) (machine.awaitKey x) := by
  unfold awaitKey
  split
  · exact .writes _ fun _ changed => eq_of_setRegister_ne machine changed
  · exact .goes _

theorem le_of_loadRegisters_ne
    (changed : (machine.loadRegisters x).register r ≠ machine.register r) : r ≤ x := by
  apply Classical.byContradiction
  intro above
  apply changed
  simp only [register, loadRegisters, Fin.getElem_fin, Vector.getElem_ofFn]
  exact if_neg above

/-- There is nothing else that an instruction changes. -/
theorem effect (instruction : Instruction) :
    Effect machine instruction (machine.apply instruction) := by
  cases instruction with
  | clearScreen => exact .clears
  | ret | call target | jump target => exact .goes _
  | skipByte _ _ _ | skipRegister _ _ _ | skipKey _ _ => exact effect_skipIf machine _ _
  | loadByte x byte | addByte x byte | loadDelay x =>
      exact .writes _ fun _ changed => eq_of_setRegister_ne machine changed
  | arithmetic operation x y => exact effect_combine machine operation x y
  | shift direction x =>
      exact .writes _ fun _ changed => eq_of_setFlag_setRegister_ne machine changed
  | random x mask => exact .rolls x mask _ _ fun _ changed => eq_of_setRegister_ne machine changed
  | draw x y rows =>
      exact .draws x y rows _ _ fun _ changed => eq_of_setRegister_ne machine changed
  | waitKey x => exact effect_awaitKey machine x
  | loadIndex target | addIndex x | loadGlyph x => exact .points _ trivial
  | setDelay x => exact .delays x _
  | setSound x => exact .sounds x _
  | storeDecimal x => exact .storesDecimal x
  | storeRegisters x => exact .storesRegisters x _
  | loadRegisters x =>
      exact .loadsRegisters x _ _ fun _ changed => le_of_loadRegisters_ne machine changed

end Effect

end Machine

/-! ## The parts by their opcodes -/

namespace Opcode

/-- The opcode writes the register that its second digit names: `6XNN`, `7XNN`, the
operations of family 8, `CXNN`, `FX07` and `FX0A`. -/
def WritesX (opcode : UInt16) : Prop :=
  (family opcode).val = 0x6 ∨ (family opcode).val = 0x7 ∨
    ((family opcode).val = 0x8 ∧ ((n opcode).val ≤ 0x6 ∨ (n opcode).val = 0xE)) ∨
    (family opcode).val = 0xC ∨ Transfers opcode 0x07 ∨ Transfers opcode 0x0A

/-- The opcode writes the flag register: `8XY4`, `8XY5`, `8XY6`, `8XYE` and `DXYN`. -/
def WritesFlag (opcode : UInt16) : Prop :=
  Combines opcode 0x4 ∨ Combines opcode 0x5 ∨ Combines opcode 0x6 ∨ Combines opcode 0xE ∨
    (family opcode).val = 0xD

theorem writesX_of_combines {opcode : UInt16} {digit : Nat} (combines : Combines opcode digit)
    (known : digit ≤ 0x6 ∨ digit = 0xE) : WritesX opcode := by
  obtain ⟨eighth, rfl⟩ := combines
  exact .inr (.inr (.inl ⟨eighth, known⟩))

end Opcode

namespace Machine

open Opcode (Transfers family)

/-- Between the two machines only those parts differ that the opcode of the first may touch. -/
structure Confined (before after : Machine) : Prop where
  /-- `FX33` stores three bytes and `FX55` as many as there are registers up to `X`. -/
  memory : ∀ cell : Nat, after.memory.cells[cell]? ≠ before.memory.cells[cell]? →
    (Transfers before.opcode 0x33 ∧
      ∃ distance < 3, cell = (before.index.toNat + distance) % 4096) ∨
    (Transfers before.opcode 0x55 ∧
      ∃ distance ≤ (Opcode.x before.opcode).val,
        cell = (before.index.toNat + distance) % 4096)
  /-- `00E0` and `DXYN` draw. -/
  screen : after.screen ≠ before.screen → before.opcode = 0x00E0 ∨ (family before.opcode).val = 0xD
  /-- Drawing raises the redraw flag. -/
  redraw : after.redraw ≠ before.redraw → before.opcode = 0x00E0 ∨ (family before.opcode).val = 0xD
  /-- Nothing takes the redraw flag down. -/
  raised : before.redraw = true → after.redraw = true
  /-- `2NNN` and `00EE` change the slots or the depth of the call stack. -/
  stack : after.stack ≠ before.stack → (family before.opcode).val = 0x2 ∨ before.opcode = 0x00EE
  /-- `FX15` sets the delay timer. -/
  delay : after.delay ≠ before.delay → Transfers before.opcode 0x15
  /-- `FX18` sets the sound timer. -/
  sound : after.sound ≠ before.sound → Transfers before.opcode 0x18
  /-- `ANNN`, `FX1E`, `FX29`, `FX55` and `FX65` move the index register. -/
  index : after.index ≠ before.index →
    (family before.opcode).val = 0xA ∨ Transfers before.opcode 0x1E ∨ Transfers before.opcode 0x29 ∨
      Transfers before.opcode 0x55 ∨ Transfers before.opcode 0x65
  /-- `CXNN` takes a random word. -/
  random : after.random ≠ before.random → (family before.opcode).val = 0xC
  /-- Nothing touches the keypad. -/
  keypad : after.keypad = before.keypad
  /-- An opcode that writes registers writes the one that it names, the flag register, or, as
  `FX65`, those up to the one that it names. -/
  registers : ∀ r, after.register r ≠ before.register r →
    (r = Opcode.x before.opcode ∧ Opcode.WritesX before.opcode) ∨
      (r = flag ∧ Opcode.WritesFlag before.opcode) ∨
      (r ≤ Opcode.x before.opcode ∧ Transfers before.opcode 0x65)

/-- A machine that stays as it is differs in nothing. -/
theorem Confined.refl (machine : Machine) : Confined machine machine where
  memory _ changed := absurd rfl changed
  screen changed := absurd rfl changed
  redraw changed := absurd rfl changed
  raised redraw := redraw
  stack changed := absurd rfl changed
  delay changed := absurd rfl changed
  sound changed := absurd rfl changed
  index changed := absurd rfl changed
  random changed := absurd rfl changed
  keypad := rfl
  registers _ changed := absurd rfl changed

section Step

variable {machine after : Machine}

/-- Opcodes tell the registers that their instructions write. -/
theorem registers_of_writes {instruction : Instruction} {r : Register}
    (fits : instruction.Matches machine.opcode) (own : instruction.Writes r) :
    (r = Opcode.x machine.opcode ∧ Opcode.WritesX machine.opcode) ∨
      (r = flag ∧ Opcode.WritesFlag machine.opcode) ∨
      (r ≤ Opcode.x machine.opcode ∧ Transfers machine.opcode 0x65) := by
  cases instruction with
  | loadByte x byte =>
      obtain ⟨sixth, rfl, _⟩ := fits
      exact .inl ⟨own, .inl sixth⟩
  | addByte x byte =>
      obtain ⟨seventh, rfl, _⟩ := fits
      exact .inl ⟨own, .inr (.inl seventh)⟩
  | random x mask =>
      obtain ⟨twelfth, rfl, _⟩ := fits
      exact .inl ⟨own, .inr (.inr (.inr (.inl twelfth)))⟩
  | loadDelay x =>
      obtain ⟨byte, rfl⟩ := fits
      exact .inl ⟨own, .inr (.inr (.inr (.inr (.inl byte))))⟩
  | waitKey x =>
      obtain ⟨byte, rfl⟩ := fits
      exact .inl ⟨own, .inr (.inr (.inr (.inr (.inr byte))))⟩
  | draw x y rows => exact .inr (.inl ⟨own, .inr (.inr (.inr (.inr fits.1)))⟩)
  | loadRegisters x =>
      obtain ⟨byte, rfl⟩ := fits
      exact .inr (.inr ⟨own, byte⟩)
  | arithmetic operation x y =>
      obtain ⟨combines, rfl, _⟩ := fits
      have writesX : Opcode.WritesX machine.opcode := by
        refine Opcode.writesX_of_combines combines (.inl ?_)
        cases operation <;> decide
      cases operation with
      | add =>
          obtain own | own := own
          · exact .inl ⟨own, writesX⟩
          · exact .inr (.inl ⟨own, .inl combines⟩)
      | sub =>
          obtain own | own := own
          · exact .inl ⟨own, writesX⟩
          · exact .inr (.inl ⟨own, .inr (.inl combines)⟩)
      | move | or | and | xor => exact .inl ⟨own, writesX⟩
  | shift direction x =>
      cases direction with
      | right =>
          obtain ⟨combines, rfl⟩ := fits
          obtain own | own := own
          · exact .inl ⟨own, Opcode.writesX_of_combines combines (.inl (by decide))⟩
          · exact .inr (.inl ⟨own, .inr (.inr (.inl combines))⟩)
      | left =>
          obtain ⟨combines, rfl⟩ := fits
          obtain own | own := own
          · exact .inl ⟨own, Opcode.writesX_of_combines combines (.inr rfl)⟩
          · exact .inr (.inl ⟨own, .inr (.inr (.inr (.inl combines)))⟩)
  | _ => cases own

/-- Opcodes tell which instructions do nothing but move the index register. -/
theorem index_of_points {instruction : Instruction} (fits : instruction.Matches machine.opcode)
    (own : instruction.Points) :
    (family machine.opcode).val = 0xA ∨ Transfers machine.opcode 0x1E ∨
      Transfers machine.opcode 0x29 := by
  cases instruction with
  | loadIndex target => exact .inl fits.1
  | addIndex x => exact .inr (.inl fits.1)
  | loadGlyph x => exact .inr (.inr fits.1)
  | _ => cases own

theorem confined_of_effect {instruction : Instruction}
    (fits : instruction.Matches machine.opcode)
    (effect : Effect machine.advance instruction after) : Confined machine after := by
  have unmoved := Confined.refl machine
  cases effect with
  | goes pc => exact { unmoved with }
  | writes registers own =>
      exact { unmoved with registers := fun r changed => registers_of_writes fits (own r changed) }
  | rolls x mask registers random own =>
      exact { unmoved with
        random := fun _ => fits.1
        registers := fun r changed => registers_of_writes fits (own r changed) }
  | clears =>
      exact { unmoved with
        screen := fun _ => .inl fits
        redraw := fun _ => .inl fits
        raised := fun _ => rfl }
  | draws x y rows registers screen own =>
      exact { unmoved with
        screen := fun _ => .inr fits.1
        redraw := fun _ => .inr fits.1
        raised := fun _ => rfl
        registers := fun r changed => registers_of_writes fits (own r changed) }
  | points index own =>
      exact { unmoved with
        index := fun _ => by
          obtain tenth | adds | finds := index_of_points fits own
          · exact .inl tenth
          · exact .inr (.inl adds)
          · exact .inr (.inr (.inl finds)) }
  | delays x delay => exact { unmoved with delay := fun _ => fits.1 }
  | sounds x sound => exact { unmoved with sound := fun _ => fits.1 }
  | storesDecimal x =>
      exact { unmoved with
        memory := fun _ changed => .inl ⟨fits.1, Memory.exists_of_cells_writeAll_ne changed⟩ }
  | storesRegisters x index =>
      exact { unmoved with
        memory := fun _ changed => by
          obtain ⟨distance, inside, place⟩ := Memory.exists_of_cells_writeAll_ne changed
          rw [length_registersUpTo] at inside
          obtain ⟨stores, rfl⟩ := fits
          exact .inr ⟨stores, distance, Nat.le_of_lt_succ inside, place⟩
        index := fun _ => .inr (.inr (.inr (.inl fits.1))) }
  | loadsRegisters x registers index own =>
      exact { unmoved with
        index := fun _ => .inr (.inr (.inr (.inr fits.1)))
        registers := fun r changed => registers_of_writes fits (own r changed) }

theorem confined_step (machine : Machine) : Confined machine machine.step.2 := by
  cases move machine with
  | unknown missing moved | overflowed target found full moved | underflowed found void moved =>
      rw [moved]
      exact .refl machine
  | called target stack found pushed moved =>
      rw [moved]
      exact { Confined.refl machine with
        stack := fun _ => .inl (Instruction.matches_of_decode? found).1 }
  | returned address stack found popped moved =>
      rw [moved]
      exact { Confined.refl machine with
        stack := fun _ => .inr (Instruction.matches_of_decode? found) }
  | applied instruction found infallible moved =>
      rw [moved]
      exact confined_of_effect (Instruction.matches_of_decode? found) (effect _ instruction)

/-! ## Decimal digits -/

/-- The digits of a byte are digits, and they are those of its number. -/
theorem decimalDigits_spec (byte : UInt8) :
    ∃ hundreds tens units : UInt8, decimalDigits byte = [hundreds, tens, units] ∧
      hundreds.toNat ≤ 9 ∧ tens.toNat ≤ 9 ∧ units.toNat ≤ 9 ∧
      100 * hundreds.toNat + 10 * tens.toNat + units.toNat = byte.toNat := by
  have bound := byte.toNat_lt
  refine ⟨_, _, _, rfl, ?_⟩
  simp only [UInt8.toNat_div, UInt8.toNat_mod, UInt8.reduceToNat]
  omega

end Step

/-- Every step leaves all parts of the machine alone but those that its opcode may touch.  A
step on `FX33` succeeds, and the cells at the index register then hold the three decimal digits
of the register that it names. -/
theorem step_touches_only (machine : Machine) :
    Confined machine machine.step.2 ∧
      (Transfers machine.opcode 0x33 →
        let digit (place : Nat) : Nat :=
          (machine.step.2.memory.byteAt (machine.index.toNat + place)).toNat
        machine.step.1 = .ok () ∧ (∀ place < 3, digit place ≤ 9) ∧
          100 * digit 0 + 10 * digit 1 + digit 2 =
            (machine.register (Opcode.x machine.opcode)).toNat) := by
  refine ⟨confined_step machine, fun stores => ?_⟩
  intro digit
  have found : machine.instruction? = some (.storeDecimal (Opcode.x machine.opcode)) :=
    Instruction.decode?_of_matches ⟨stores, rfl⟩
  have moved := step_of_executed found (execute_eq_apply machine.advance rfl)
  obtain ⟨hundreds, tens, units, digits, first, second, third, sum⟩ :=
    decimalDigits_spec (machine.register (Opcode.x machine.opcode))
  have stored : machine.step.2.memory =
      machine.memory.writeAll [hundreds, tens, units] machine.index := by
    rw [moved, ← digits]
    rfl
  have digit_eq (place : Nat) (inside : place < [hundreds, tens, units].length) :
      digit place = [hundreds, tens, units][place].toNat := by
    have fits : [hundreds, tens, units].length ≤ 4096 := Nat.le_of_ble_eq_true rfl
    rw [← Memory.byteAt_writeAll_add machine.memory fits inside, ← stored]
  refine ⟨congrArg Prod.fst moved, fun place inside => ?_, ?_⟩
  · rw [digit_eq place inside]
    match place, inside with
    | 0, _ => exact first
    | 1, _ => exact second
    | 2, _ => exact third
  · rw [digit_eq 0 (by simp), digit_eq 1 (by simp), digit_eq 2 (by simp)]
    exact sum

/-- The digits of 157 go around the top of memory, where the font is overwritten. -/
theorem step_touches_only_aroundTop :
    let machine := (powerOn (RandomStream.cycle #[])).after
      [.load [0x60, 0x9D, 0xAF, 0xFF, 0xF0, 0x33], .step, .step]
    let digit (place : Nat) : Nat := (machine.step.2.memory.byteAt (0xFFF + place)).toNat
    Transfers machine.opcode 0x33 ∧ Confined machine machine.step.2 ∧
      machine.step.1 = .ok () ∧ (∀ place < 3, digit place ≤ 9) ∧
      100 * digit 0 + 10 * digit 1 + digit 2 = 157 := by
  intro machine
  have facts : Transfers machine.opcode 0x33 ∧ machine.index.toNat = 0xFFF ∧
      (machine.register (Opcode.x machine.opcode)).toNat = 157 := by
    decide +kernel
  clear_value machine
  obtain ⟨stores, top, held⟩ := facts
  obtain ⟨confined, digits⟩ := step_touches_only machine
  have law := digits stores
  rw [top, held] at law
  exact ⟨stores, confined, law⟩

end Machine

end Chip8
