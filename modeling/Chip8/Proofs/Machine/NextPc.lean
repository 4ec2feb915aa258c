import Chip8.Proofs.CallStack
import Chip8.Proofs.Keypad
import Chip8.Proofs.Machine.Step
import Chip8.Proofs.Memory.Blocks

/-!
# The address of the next instruction

Where a step leaves the program counter is told by the word that it fetched, read as an opcode:
`nextPc`.  Most words go on to the next instruction.  A jump and a call go to their address, a
return to the newest address on the call stack, a skip whose condition is met one instruction
further on, and the wait for a key stays where it is while no key is held.  The program counter runs
through the whole 16-bit range and wraps there, and the word is fetched from the cells that it
leaves modulo the size of memory (`pc_after_step`).

Skips come in pairs with the same operands and opposite conditions, so of each pair exactly one
skips.
-/

namespace Chip8

open Opcode (family)

/-- The instruction always goes on to the next one. -/
def Instruction.Passes : Instruction → Prop
  | .jump _ | .call _ | .ret | .skipByte _ _ _ | .skipRegister _ _ _ | .skipKey _ _
  | .waitKey _ => False
  | _ => True

/-- Two opcodes of skips that differ in nothing but the condition, which is met for the one where
it is not for the other. -/
inductive OppositeSkips : UInt16 → UInt16 → Prop where
  /-- `3XNN` and `4XNN`. -/
  | byte (x : Register) (byte : UInt8) :
      OppositeSkips (Opcode.ofByte 0x3 x byte) (Opcode.ofByte 0x4 x byte)
  /-- `5XY0` and `9XY0`. -/
  | register (x y : Register) :
      OppositeSkips (Opcode.ofDigits 0x5 x y 0x0) (Opcode.ofDigits 0x9 x y 0x0)
  /-- `EX9E` and `EXA1`. -/
  | key (x : Register) : OppositeSkips (Opcode.ofByte 0xE x 0x9E) (Opcode.ofByte 0xE x 0xA1)

namespace Machine

/-- The word at the program counter is a skip, and its condition is met. -/
def Skips (machine : Machine) : Prop :=
  let opcode := machine.opcode
  let vx := machine.register (Opcode.x opcode)
  let vy := machine.register (Opcode.y opcode)
  ((family opcode).val = 0x3 ∧ vx = Opcode.nn opcode) ∨
    ((family opcode).val = 0x4 ∧ vx ≠ Opcode.nn opcode) ∨
    ((family opcode).val = 0x5 ∧ (Opcode.n opcode).val = 0 ∧ vx = vy) ∨
    ((family opcode).val = 0x9 ∧ (Opcode.n opcode).val = 0 ∧ vx ≠ vy) ∨
    (Opcode.AsksKey opcode 0x9E ∧ machine.keypad.isHeld vx = true) ∨
    (Opcode.AsksKey opcode 0xA1 ∧ machine.keypad.isHeld vx = false)

/-- The word at the program counter is `FX0A`, and no key is held. -/
def Waits (machine : Machine) : Prop :=
  Opcode.Transfers machine.opcode 0x0A ∧ ∀ key : Fin 16, machine.keypad.keys.get key = false

instance (machine : Machine) : Decidable machine.Skips :=
  inferInstanceAs (Decidable (_ ∨ _ ∨ _ ∨ _ ∨ _ ∨ _))

instance (machine : Machine) : Decidable machine.Waits := inferInstanceAs (Decidable (_ ∧ _))

/-- The newest address on the call stack. -/
def returnAddress (machine : Machine) : UInt16 :=
  machine.stack.slots[machine.stack.depth - 1]?.getD 0

/-- The address behind a step that succeeds, by the word at the program counter. -/
def nextPc (machine : Machine) : Nat :=
  let p := machine.pc.toNat
  if (family machine.opcode).val = 0x1 ∨ (family machine.opcode).val = 0x2 then
    (Opcode.nnn machine.opcode).val
  else if machine.opcode = 0x00EE then machine.returnAddress.toNat
  else if machine.Waits then p
  else if machine.Skips then (p + 4) % 65536
  else (p + 2) % 65536

/-! ## The word at the program counter -/

theorem toNat_opcode (machine : Machine) :
    machine.opcode.toNat =
      256 * (machine.memory.byteAt machine.pc.toNat).toNat +
        (machine.memory.byteAt (machine.pc.toNat + 1)).toNat := by
  have first := Memory.read_add_ofNat machine.memory machine.pc 0
  have second := Memory.read_add_ofNat machine.memory machine.pc 1
  rw [Memory.address_add_zero] at first
  rw [opcode, Memory.readWord_toNat, first]
  exact congrArg (256 * _ + UInt8.toNat ·) second

theorem toNat_nnn (opcode : UInt16) :
    (UInt16.ofNat (Opcode.nnn opcode).val).toNat = (Opcode.nnn opcode).val :=
  UInt16.toNat_ofNat_of_lt' (Nat.lt_trans (Opcode.nnn opcode).isLt (by decide))

section Word

variable {machine : Machine}

theorem returnAddress_of_pop? {address : UInt16} {stack : CallStack}
    (popped : machine.stack.pop? = some (address, stack)) : machine.returnAddress = address := by
  obtain ⟨depth, _, rfl⟩ := CallStack.eq_of_pop? popped
  rw [returnAddress, depth, Nat.add_sub_cancel]

theorem ne_ret_of_family (other : (family machine.opcode).val ≠ 0x0) : machine.opcode ≠ 0x00EE := by
  intro returns
  rw [returns] at other
  exact other rfl

theorem nextPc_of_target
    (goes : (family machine.opcode).val = 0x1 ∨ (family machine.opcode).val = 0x2) :
    machine.nextPc = (Opcode.nnn machine.opcode).val := if_pos goes

theorem nextPc_of_ret (returns : machine.opcode = 0x00EE) :
    machine.nextPc = machine.returnAddress.toNat := by
  rw [nextPc, if_neg (by rw [returns]; decide), if_pos returns]

theorem nextPc_of_waitKey (awaits : Opcode.Transfers machine.opcode 0x0A) :
    machine.nextPc =
      if ∀ key : Fin 16, machine.keypad.keys.get key = false then machine.pc.toNat
      else (machine.pc.toNat + 2) % 65536 := by
  have last := awaits.1
  have unskipped : ¬machine.Skips := by simp [Skips, Opcode.AsksKey, last]
  rw [nextPc, if_neg (by simp [last]), if_neg (ne_ret_of_family (by simp [last])), if_neg unskipped]
  exact if_congr (and_iff_right awaits) rfl rfl

theorem nextPc_of_skip {condition : Bool}
    (asks : (family machine.opcode).val ∈ [0x3, 0x4, 0x5, 0x9, 0xE])
    (skips : machine.Skips ↔ condition = true) :
    machine.nextPc =
      if condition then (machine.pc.toNat + 4) % 65536 else (machine.pc.toNat + 2) % 65536 := by
  have apart (digit : Nat) (other : digit ∉ [0x3, 0x4, 0x5, 0x9, 0xE]) :
      (family machine.opcode).val ≠ digit := fun same => other (same ▸ asks)
  rw [nextPc, if_neg (not_or.2 ⟨apart 0x1 (by decide), apart 0x2 (by decide)⟩),
    if_neg (ne_ret_of_family (apart 0x0 (by decide))),
    if_neg fun waits => apart 0xF (by decide) waits.1.1]
  exact if_congr skips rfl rfl

theorem nextPc_of_plain (plain : (family machine.opcode).val ∉ [0x1, 0x2, 0x3, 0x4, 0x5, 0x9, 0xE])
    (unreturned : machine.opcode ≠ 0x00EE) (unawaited : ¬Opcode.Transfers machine.opcode 0x0A) :
    machine.nextPc = (machine.pc.toNat + 2) % 65536 := by
  simp only [List.mem_cons, List.not_mem_nil, or_false, not_or] at plain
  have unskipped : ¬machine.Skips := by simp [Skips, Opcode.AsksKey, plain]
  rw [nextPc, if_neg (by simp [plain]), if_neg unreturned, if_neg fun waits => unawaited waits.1,
    if_neg unskipped]

theorem nextPc_of_family {digit : Nat} (digits : (family machine.opcode).val = digit)
    (plain : digit ∉ [0x0, 0x1, 0x2, 0x3, 0x4, 0x5, 0x9, 0xE, 0xF]) :
    machine.nextPc = (machine.pc.toNat + 2) % 65536 := by
  subst digits
  simp only [List.mem_cons, List.not_mem_nil, or_false, not_or] at plain
  exact nextPc_of_plain (by simp [plain]) (ne_ret_of_family plain.1) fun awaits => by
    simp [awaits.1] at plain

theorem nextPc_of_transfers {byte : UInt8} (transfers : Opcode.Transfers machine.opcode byte)
    (other : byte ≠ 0x0A) : machine.nextPc = (machine.pc.toNat + 2) % 65536 := by
  refine nextPc_of_plain ?_ (ne_ret_of_family ?_) fun awaits => other ?_
  · rw [transfers.1]
    decide
  · rw [transfers.1]
    decide
  · exact transfers.2.symm.trans awaits.2

theorem nextPc_of_passes {instruction : Instruction} (fits : instruction.Matches machine.opcode)
    (passes : instruction.Passes) : machine.nextPc = (machine.pc.toNat + 2) % 65536 := by
  cases instruction with
  | clearScreen =>
      have clears : machine.opcode = 0x00E0 := fits
      apply nextPc_of_plain <;> rw [clears] <;> decide
  | loadByte _ _ | addByte _ _ | loadIndex _ | random _ _ | draw _ _ _ =>
      exact nextPc_of_family fits.1 (by decide)
  | arithmetic operation _ _ => exact nextPc_of_family fits.1.1 (by decide)
  | shift direction _ => cases direction <;> exact nextPc_of_family fits.1.1 (by decide)
  | loadDelay _ | setDelay _ | setSound _ | addIndex _ | loadGlyph _ | storeDecimal _
  | storeRegisters _ | loadRegisters _ => exact nextPc_of_transfers fits.1 (by decide)
  | _ => cases passes

/-! ## The condition of a skip -/

variable {wanted : Comparison} {x y : Register} {byte : UInt8} {held : Bool}

theorem skips_iff_of_skipByte (fits : (Instruction.skipByte wanted x byte).Matches machine.opcode) :
    machine.Skips ↔ wanted.holds (machine.register x) byte = true := by
  cases wanted <;> obtain ⟨digit, rfl, rfl⟩ := fits <;>
    simp [Skips, Opcode.AsksKey, digit, Comparison.holds]

theorem skips_iff_of_skipRegister
    (fits : (Instruction.skipRegister wanted x y).Matches machine.opcode) :
    machine.Skips ↔ wanted.holds (machine.register x) (machine.register y) = true := by
  cases wanted <;> obtain ⟨digit, rfl, rfl, last⟩ := fits <;>
    simp [Skips, Opcode.AsksKey, digit, last, Comparison.holds]

theorem skips_iff_of_skipKey (fits : (Instruction.skipKey held x).Matches machine.opcode) :
    machine.Skips ↔ (machine.keypad.isHeld (machine.register x) == held) = true := by
  cases held <;> obtain ⟨⟨digit, last⟩, rfl⟩ := fits <;>
    simp [Skips, Opcode.AsksKey, digit, last]

/-! ## Where an instruction goes -/

variable (machine)

theorem toNat_pc_advance : machine.advance.pc.toNat = (machine.pc.toNat + 2) % 65536 :=
  UInt16.toNat_add ..

theorem skipIf_advance (condition : Bool) :
    machine.advance.skipIf condition =
      { machine with pc := if condition then machine.pc + 4 else machine.pc + 2 } := by
  cases condition with
  | false => rfl
  | true =>
      have further : machine.pc + 2 + 2 = machine.pc + 4 := UInt16.add_assoc ..
      rw [skipIf, if_pos rfl, if_pos rfl, ← further]
      rfl

theorem toNat_pc_skipIf (condition : Bool) :
    (machine.advance.skipIf condition).pc.toNat =
      if condition then (machine.pc.toNat + 4) % 65536 else (machine.pc.toNat + 2) % 65536 := by
  rw [skipIf_advance]
  cases condition <;> exact UInt16.toNat_add ..

theorem toNat_pc_awaitKey (x : Register) :
    (machine.advance.awaitKey x).pc.toNat =
      if ∀ key : Fin 16, machine.keypad.keys.get key = false then machine.pc.toNat
      else (machine.pc.toNat + 2) % 65536 := by
  rw [awaitKey]
  cases first : machine.advance.keypad.first? with
  | none =>
      have unheld : ∀ key : Fin 16, machine.keypad.keys.get key = false :=
        Keypad.first?_eq_none_iff.1 first
      rw [if_pos unheld]
      exact congrArg UInt16.toNat (currentAddress_advance machine)
  | some key =>
      have held : machine.keypad.keys.get key = true := (Keypad.first?_eq_some_iff.1 first).1
      rw [if_neg fun unheld => Bool.false_ne_true ((unheld key).symm.trans held)]
      exact toNat_pc_advance machine

theorem pc_apply_of_passes {instruction : Instruction} (passes : instruction.Passes) :
    (machine.apply instruction).pc = machine.pc := by
  cases instruction with
  | arithmetic operation _ _ => cases operation <;> rfl
  | jump _ | call _ | ret | skipByte _ _ _ | skipRegister _ _ _ | skipKey _ _ | waitKey _ =>
      cases passes
  | _ => rfl

variable {machine}

theorem toNat_pc_apply_of_passes {instruction : Instruction}
    (fits : instruction.Matches machine.opcode) (passes : instruction.Passes) :
    (machine.advance.apply instruction).pc.toNat = machine.nextPc := by
  rw [pc_apply_of_passes machine.advance passes, nextPc_of_passes fits passes, toNat_pc_advance]

/-- An instruction that cannot fail goes where its opcode says. -/
theorem toNat_pc_apply {instruction : Instruction} (fits : instruction.Matches machine.opcode)
    (infallible : instruction.mayFail = false) :
    (machine.advance.apply instruction).pc.toNat = machine.nextPc := by
  cases instruction with
  | call _ | ret => cases infallible
  | jump target =>
      obtain ⟨digit, rfl⟩ := fits
      rw [nextPc_of_target (.inl digit)]
      exact toNat_nnn machine.opcode
  | skipByte wanted x byte =>
      rw [nextPc_of_skip ?_ (skips_iff_of_skipByte fits)]
      · exact toNat_pc_skipIf machine _
      · cases wanted <;> simp [fits.1]
  | skipRegister wanted x y =>
      rw [nextPc_of_skip ?_ (skips_iff_of_skipRegister fits)]
      · exact toNat_pc_skipIf machine _
      · cases wanted <;> simp [fits.1]
  | skipKey held x =>
      rw [nextPc_of_skip ?_ (skips_iff_of_skipKey fits)]
      · exact toNat_pc_skipIf machine _
      · cases held <;> simp [fits.1.1]
  | waitKey x =>
      rw [nextPc_of_waitKey fits.1]
      exact toNat_pc_awaitKey machine x
  | _ => exact toNat_pc_apply_of_passes fits trivial

/-- Every step that succeeds does. -/
theorem toNat_pc_step {after : Machine} (moved : machine.step = (.ok (), after)) :
    after.pc.toNat = machine.nextPc := by
  cases move machine with
  | unknown missing failed | overflowed target found full failed
  | underflowed found void failed =>
      rw [failed] at moved
      cases moved
  | called target stack found pushed moved' =>
      rw [moved'] at moved
      cases moved
      obtain ⟨digit, rfl⟩ := Instruction.matches_of_decode? found
      rw [nextPc_of_target (.inr digit)]
      exact toNat_nnn machine.opcode
  | returned address stack found popped moved' =>
      rw [moved'] at moved
      cases moved
      rw [nextPc_of_ret (Instruction.matches_of_decode? found), returnAddress_of_pop? popped]
  | applied instruction found infallible moved' =>
      rw [moved'] at moved
      cases moved
      exact toNat_pc_apply (Instruction.matches_of_decode? found) infallible

/-! ## Opposite skips -/

/-- Two skips one of which has the condition that the other one has not. -/
theorem steps_of_conditions {other : Machine} {condition : Bool}
    (pc : other.pc = machine.pc)
    (step : machine.step = (.ok (), machine.advance.skipIf condition))
    (step' : other.step = (.ok (), other.advance.skipIf !condition)) :
    ∃ skips : Bool,
      machine.step =
        (.ok (), { machine with pc := if skips then machine.pc + 4 else machine.pc + 2 }) ∧
      other.step =
        (.ok (), { other with pc := if skips then machine.pc + 2 else machine.pc + 4 }) := by
  refine ⟨condition, ?_, ?_⟩
  · rw [step, skipIf_advance]
  · rw [step', skipIf_advance, pc]
    cases condition <;> rfl

end Word

/-- The word that a step fetches has its high byte in the cell at the program counter and its low
byte in the next one.  Where the step succeeds it leaves the program counter at the address that
`nextPc` reads off this word: the address in a jump or a call, the newest address on the call stack
for a return, the address of the word itself for a wait with no key held, the next instruction but
one for a skip whose condition is met, and the next instruction for all others.  A byte above
fifteen is no key and never held.  Of two machines that differ in memory only, and that come to
opposite skips with the same operands, exactly one skips. -/
theorem pc_after_step (machine : Machine) :
    machine.opcode.toNat =
        256 * (machine.memory.byteAt machine.pc.toNat).toNat +
          (machine.memory.byteAt (machine.pc.toNat + 1)).toNat ∧
      (∀ after, machine.step = (.ok (), after) → after.pc.toNat = machine.nextPc) ∧
      (∀ byte : UInt8, 15 < byte.toNat → machine.keypad.isHeld byte = false) ∧
      ∀ other : Machine, other = { machine with memory := other.memory } →
        OppositeSkips machine.opcode other.opcode →
        ∃ skips : Bool,
          machine.step =
            (.ok (), { machine with pc := if skips then machine.pc + 4 else machine.pc + 2 }) ∧
          other.step =
            (.ok (), { other with pc := if skips then machine.pc + 2 else machine.pc + 4 }) := by
  refine ⟨toNat_opcode machine, fun _ => toNat_pc_step, fun _ => Keypad.isHeld_of_ge, ?_⟩
  intro other same opposite
  generalize other.memory = memory at same
  subst same
  generalize first : machine.opcode = word at opposite
  generalize second : opcode _ = word' at opposite
  cases opposite with
  | byte x byte =>
      exact steps_of_conditions rfl (step_of_encode (.skipByte .equal x byte) first rfl)
        (step_of_encode (.skipByte .different x byte) second rfl)
  | register x y =>
      exact steps_of_conditions rfl (step_of_encode (.skipRegister .equal x y) first rfl)
        (step_of_encode (.skipRegister .different x y) second rfl)
  | key x =>
      have negated (held : Bool) : (held == false) = !(held == true) := by cases held <;> rfl
      refine steps_of_conditions rfl (step_of_encode (.skipKey true x) first rfl) ?_
      rw [← negated]
      exact step_of_encode (.skipKey false x) second rfl

/-- A skip is fetched from the last cell and the first one.  It goes over the end of the address
range, and with the opposite condition it does not skip. -/
theorem pc_after_step_aroundTop :
    let machine : Machine :=
      { (powerOn (RandomStream.cycle #[])).setRegister 1 0xF0 with
        memory := Memory.initial.write 0xFFF 0x31
        pc := 0xFFFF }
    let other : Machine := { machine with memory := Memory.initial.write 0xFFF 0x41 }
    OppositeSkips machine.opcode other.opcode ∧ machine.step.2.pc.toNat = 3 ∧
      other.step.2.pc = 1 := by
  intro machine other
  have facts : machine.opcode = Opcode.ofByte 0x3 1 0xF0 ∧
      other.opcode = Opcode.ofByte 0x4 1 0xF0 ∧ machine.nextPc = 3 := by
    decide +kernel
  obtain ⟨first, second, address⟩ := facts
  have opposite : OppositeSkips machine.opcode other.opcode := by
    rw [first, second]
    exact .byte 1 0xF0
  obtain ⟨_, law, _, pair⟩ := pc_after_step machine
  obtain ⟨skips, moved, moved'⟩ := pair other rfl opposite
  have high : machine.pc = 0xFFFF := rfl
  have reached : (if skips then machine.pc + 4 else machine.pc + 2).toNat = 3 :=
    (law _ moved).trans address
  have skipped : skips = true := by
    rw [high] at reached
    cases skips with
    | true => rfl
    | false => exact absurd reached (by decide)
  have passed : (if skips then machine.pc + 2 else machine.pc + 4) = 1 := by
    rw [skipped, high]
    decide
  rw [moved, moved']
  exact ⟨opposite, reached, passed⟩

end Machine

end Chip8
