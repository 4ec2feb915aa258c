import Mathlib.Logic.Basic
import Chip8.Proofs.Machine.Step

/-!
# Results and flags

Four operations on registers set the flag register: it takes the carry of a sum, tells whether a
difference is above zero, and takes the bit that a shift drops.  Both operands are read before the
flag is set, and the result is written last.  So result and flag are those of the registers before
the instruction however `X`, `Y` and the flag register coincide, and where `X` is the flag register
the flag is lost and the result stays (`flag_arithmetic`).

`FlagOperation` has the four operations as functions on numbers.  `7XNN` adds as well, and it leaves
the flag alone.
-/

namespace Chip8

/-- An operation of family 8 that sets the flag. -/
inductive FlagOperation where
  /-- `8XY4`: the sum. -/
  | sum
  /-- `8XY5`: the difference. -/
  | difference
  /-- `8XY6`: half of the first operand. -/
  | half
  /-- `8XYE`: twice the first operand. -/
  | double
  deriving DecidableEq, Repr

namespace FlagOperation

/-- The last digit of the opcodes of an operation. -/
def digit : FlagOperation → Nat
  | .sum => 0x4
  | .difference => 0x5
  | .half => 0x6
  | .double => 0xE

/-- The result for the two operands, which are bytes. -/
def result : FlagOperation → (a b : Nat) → Nat
  | .sum, a, b => (a + b) % 256
  | .difference, a, b => (256 + a - b) % 256
  | .half, a, _ => a / 2
  | .double, a, _ => 2 * a % 256

/-- The flag for the two operands.  Of a number that is doubled it keeps the highest bit where it
stands. -/
def flag : FlagOperation → (a b : Nat) → Nat
  | .sum, a, b => if 255 < a + b then 1 else 0
  | .difference, a, b => if b < a then 1 else 0
  | .half, a, _ => a % 2
  | .double, a, _ => a &&& 0x80

/-- The instruction that its opcodes stand for. -/
def instruction : FlagOperation → (x y : Register) → Instruction
  | .sum, x, y => .arithmetic .add x y
  | .difference, x, y => .arithmetic .sub x y
  | .half, x, _ => .shift .right x
  | .double, x, _ => .shift .left x

variable (operation : FlagOperation) (x y : Register)

theorem mayFail_instruction : (operation.instruction x y).mayFail = false := by
  cases operation <;> rfl

/-- A shift ignores the register that the third digit names. -/
theorem matches_of_opcode {opcode : UInt16}
    (written : opcode = Opcode.ofDigits 0x8 x y (Fin.ofNat 16 operation.digit)) :
    (operation.instruction x y).Matches opcode := by
  subst written
  have last : (Fin.ofNat 16 operation.digit).val = operation.digit := by cases operation <;> rfl
  have combines :
      Opcode.Combines (Opcode.ofDigits 0x8 x y (Fin.ofNat 16 operation.digit)) operation.digit :=
    ⟨congrArg Fin.val (Opcode.family_ofDigits ..),
      (congrArg Fin.val (Opcode.n_ofDigits ..)).trans last⟩
  cases operation with
  | sum | difference => exact ⟨combines, Opcode.x_ofDigits .., Opcode.y_ofDigits ..⟩
  | half | double => exact ⟨combines, Opcode.x_ofDigits ..⟩

/-- The flag is set first and the result last, both from the registers before. -/
theorem apply_instruction (machine : Machine) :
    let a := (machine.register x).toNat
    let b := (machine.register y).toNat
    ∃ flagByte resultByte : UInt8,
      machine.apply (operation.instruction x y) =
        (machine.setRegister Machine.flag flagByte).setRegister x resultByte ∧
      flagByte.toNat = operation.flag a b ∧ resultByte.toNat = operation.result a b := by
  intro a b
  have bound : b < 256 := (machine.register y).toNat_lt
  cases operation with
  | sum =>
      refine ⟨_, _, rfl, ?_, UInt8.toNat_add ..⟩
      rw [flag, apply_ite UInt8.toNat]
      rfl
  | difference =>
      refine ⟨_, _, rfl, ?_, ?_⟩
      · rw [flag, apply_ite UInt8.toNat]
        exact if_congr UInt8.lt_iff_toNat_lt rfl rfl
      · rw [result, Nat.add_comm, Nat.add_sub_assoc (Nat.le_of_lt bound), Nat.add_comm]
        exact UInt8.toNat_sub ..
  | half =>
      refine ⟨_, _, rfl, ?_, ?_⟩
      · exact (UInt8.toNat_and ..).trans (Nat.and_one_is_mod a)
      · exact UInt8.toNat_shiftRight ..
  | double =>
      refine ⟨_, _, rfl, UInt8.toNat_and .., ?_⟩
      rw [result, Direction.result, UInt8.toNat_shiftLeft, Nat.shiftLeft_eq, Nat.mul_comm]
      rfl

end FlagOperation

namespace Machine

/-- The program counter has gone on by one instruction and the registers hold these numbers.
Nothing else has changed. -/
structure Computed (contents : Register → Nat) (before after : Machine) : Prop where
  /-- The registers hold the numbers. -/
  registers : ∀ r, (after.register r).toNat = contents r
  /-- All other parts are those of the machine before. -/
  others : after = { before with registers := after.registers, pc := before.pc + 2 }

theorem register_setFlag_setRegister (machine : Machine) (x r : Register)
    (flagByte resultByte : UInt8) :
    ((machine.setRegister flag flagByte).setRegister x resultByte).register r =
      if r = x then resultByte else if r = flag then flagByte else machine.register r := by
  rw [register_setRegister, register_setRegister]
  exact if_congr eq_comm rfl (if_congr eq_comm rfl rfl)

/-- `8XY4`, `8XY5`, `8XY6` and `8XYE` put the result of their operands into `VX` and the flag into
`VF`, for all `X` and `Y`; where `X` is the flag register the result stays.  `7XNN` adds to `VX`.
All other registers keep what they hold, and nothing else changes but the program counter, which
goes on by one instruction. -/
theorem flag_arithmetic (machine : Machine) (x y : Register) :
    let a := (machine.register x).toNat
    let b := (machine.register y).toNat
    (∀ operation : FlagOperation,
      machine.opcode = Opcode.ofDigits 0x8 x y (Fin.ofNat 16 operation.digit) →
      ∃ after, machine.step = (.ok (), after) ∧
        Computed (fun r =>
            if r = x then operation.result a b
            else if r = flag then operation.flag a b
            else (machine.register r).toNat)
          machine after) ∧
      ∀ byte : UInt8, machine.opcode = Opcode.ofByte 0x7 x byte →
        ∃ after, machine.step = (.ok (), after) ∧
          Computed (fun r => if r = x then (a + byte.toNat) % 256 else (machine.register r).toNat)
            machine after := by
  intro a b
  refine ⟨fun operation written => ?_, fun byte written => ?_⟩
  · have fits := operation.matches_of_opcode x y written
    obtain ⟨flagByte, resultByte, applied, flagged, computed⟩ :=
      operation.apply_instruction x y machine.advance
    refine ⟨_, step_of_matches _ fits (operation.mayFail_instruction x y), ?_⟩
    rw [applied]
    refine ⟨fun r => ?_, rfl⟩
    rw [register_setFlag_setRegister, apply_ite UInt8.toNat, apply_ite UInt8.toNat, flagged,
      computed]
    rfl
  · refine ⟨_, step_of_encode (.addByte x byte) written rfl, fun r => ?_, rfl⟩
    rw [apply, register_setRegister, apply_ite UInt8.toNat, UInt8.toNat_add]
    exact if_congr eq_comm rfl rfl

/-- The flag register is the destination of a sum, which keeps its result and not its carry.  The
byte that is added next makes another register run over, and the flag register keeps what it
holds. -/
theorem flag_arithmetic_onFlag :
    let machine := (powerOn (RandomStream.cycle #[])).after
      [.load [0x8F, 0xE4, 0x71, 0xFF], .setRegister 0xF 0xFE, .setRegister 0xE 5, .setRegister 1 2]
    let later := machine.step.2
    machine.opcode = Opcode.ofDigits 0x8 0xF 0xE 0x4 ∧ (later.register flag).toNat = 3 ∧
      later.opcode = Opcode.ofByte 0x7 1 0xFF ∧ (later.step.2.register 1).toNat = 1 ∧
      (later.step.2.register flag).toNat = 3 := by
  intro machine later
  have facts : machine.opcode = Opcode.ofDigits 0x8 0xF 0xE 0x4 ∧
      later.opcode = Opcode.ofByte 0x7 1 0xFF ∧ (machine.register 0xF).toNat = 0xFE ∧
      (machine.register 0xE).toNat = 5 ∧ (later.register 1).toNat = 2 := by
    decide +kernel
  obtain ⟨summed, added, first, second, other⟩ := facts
  obtain ⟨after, moved, computed⟩ := (flag_arithmetic machine 0xF 0xE).1 .sum summed
  obtain ⟨last, moved', computed'⟩ := (flag_arithmetic later 1 0).2 0xFF added
  have same : later = after := congrArg Prod.snd moved
  have sum : (later.register flag).toNat = 3 := by
    rw [same, computed.registers flag, first, second]
    rfl
  refine ⟨summed, sum, added, ?_, ?_⟩
  · rw [moved', computed'.registers 1, other]
    rfl
  · rw [moved', computed'.registers flag, sum]
    rfl

end Machine

end Chip8
