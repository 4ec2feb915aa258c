import Mathlib.Data.Fintype.Basic
import Mathlib.Tactic.FinCases
import Chip8.Instruction.Opcode
import Chip8.Proofs.Checked.Basic

/-!
# Orders

An order is an instruction as it comes out of an opcode by shifts and masks: registers and
addresses are plain numbers, and nothing in their types bounds them.  That they are in bounds
all the same is `decode_eq`: the order is one that an instruction stands for.
-/

namespace Chip8.Checked

/-- An instruction with unbounded operands. -/
inductive Order where
  | clearScreen
  | ret
  | jump (target : UInt16)
  | call (target : UInt16)
  | skipByte (wanted : Comparison) (x : Nat) (byte : UInt8)
  | skipRegister (wanted : Comparison) (x y : Nat)
  | loadByte (x : Nat) (byte : UInt8)
  | addByte (x : Nat) (byte : UInt8)
  | arithmetic (operation : Arithmetic) (x y : Nat)
  | shift (direction : Direction) (x : Nat)
  | loadIndex (target : UInt16)
  | random (x : Nat) (mask : UInt8)
  | draw (x y rows : Nat)
  | skipKey (held : Bool) (x : Nat)
  | loadDelay (x : Nat)
  | waitKey (x : Nat)
  | setDelay (x : Nat)
  | setSound (x : Nat)
  | addIndex (x : Nat)
  | loadGlyph (x : Nat)
  | storeDecimal (x : Nat)
  | storeRegisters (x : Nat)
  | loadRegisters (x : Nat)
  deriving DecidableEq, Repr

namespace Order

/-- The order that an instruction stands for. -/
def ofInstruction : Instruction → Order
  | .clearScreen => .clearScreen
  | .ret => .ret
  | .jump target => .jump (UInt16.ofNat target.val)
  | .call target => .call (UInt16.ofNat target.val)
  | .skipByte wanted x byte => .skipByte wanted x.val byte
  | .skipRegister wanted x y => .skipRegister wanted x.val y.val
  | .loadByte x byte => .loadByte x.val byte
  | .addByte x byte => .addByte x.val byte
  | .arithmetic operation x y => .arithmetic operation x.val y.val
  | .shift direction x => .shift direction x.val
  | .loadIndex target => .loadIndex (UInt16.ofNat target.val)
  | .random x mask => .random x.val mask
  | .draw x y rows => .draw x.val y.val rows.val
  | .skipKey held x => .skipKey held x.val
  | .loadDelay x => .loadDelay x.val
  | .waitKey x => .waitKey x.val
  | .setDelay x => .setDelay x.val
  | .setSound x => .setSound x.val
  | .addIndex x => .addIndex x.val
  | .loadGlyph x => .loadGlyph x.val
  | .storeDecimal x => .storeDecimal x.val
  | .storeRegisters x => .storeRegisters x.val
  | .loadRegisters x => .loadRegisters x.val

/-- The order on two registers that the last digit of an opcode of family 8 names. -/
def ofArithmeticDigit? (digit x y : Nat) : Option Order :=
  match digit with
  | 0x0 => some (.arithmetic .move x y)
  | 0x1 => some (.arithmetic .or x y)
  | 0x2 => some (.arithmetic .and x y)
  | 0x3 => some (.arithmetic .xor x y)
  | 0x4 => some (.arithmetic .add x y)
  | 0x5 => some (.arithmetic .sub x y)
  | 0x6 => some (.shift .right x)
  | 0xE => some (.shift .left x)
  | _ => none

/-- The order on a key that the last byte of an opcode of family E names. -/
def ofKeyByte? (byte : UInt8) (x : Nat) : Option Order :=
  match byte with
  | 0x9E => some (.skipKey true x)
  | 0xA1 => some (.skipKey false x)
  | _ => none

/-- The order that the last byte of an opcode of family F names. -/
def ofTransferByte? (byte : UInt8) (x : Nat) : Option Order :=
  match byte with
  | 0x07 => some (.loadDelay x)
  | 0x0A => some (.waitKey x)
  | 0x15 => some (.setDelay x)
  | 0x18 => some (.setSound x)
  | 0x1E => some (.addIndex x)
  | 0x29 => some (.loadGlyph x)
  | 0x33 => some (.storeDecimal x)
  | 0x55 => some (.storeRegisters x)
  | 0x65 => some (.loadRegisters x)
  | _ => none

end Order

/-- The fields of an opcode. -/
structure Fields where
  /-- The first digit. -/
  family : Nat
  /-- The second digit. -/
  x : Nat
  /-- The third digit. -/
  y : Nat
  /-- The last digit. -/
  n : Nat
  /-- The last two digits. -/
  nn : UInt8
  /-- The last three digits. -/
  nnn : UInt16

/-- The fields of an opcode by shifts and masks. -/
def fields (opcode : UInt16) : Checked Fields := do
  let x ← shiftRight 16 opcode.toNat 8
  let y ← shiftRight 16 opcode.toNat 4
  let family ← shiftRight 16 opcode.toNat 12
  return {
    family
    x := x &&& 0xF
    y := y &&& 0xF
    n := opcode.toNat &&& 0xF
    nn := UInt8.ofNat (opcode.toNat &&& 0xFF)
    nnn := opcode &&& 0x0FFF }

/-- The order of an opcode with these fields. -/
def Fields.order? (opcode : UInt16) : Fields → Option Order
  | { family, x, y, n, nn, nnn } =>
    match family with
    | 0x0 =>
        if opcode = 0x00E0 then some .clearScreen
        else if opcode = 0x00EE then some .ret
        else none
    | 0x1 => some (.jump nnn)
    | 0x2 => some (.call nnn)
    | 0x3 => some (.skipByte .equal x nn)
    | 0x4 => some (.skipByte .different x nn)
    | 0x5 => if n = 0 then some (.skipRegister .equal x y) else none
    | 0x6 => some (.loadByte x nn)
    | 0x7 => some (.addByte x nn)
    | 0x8 => Order.ofArithmeticDigit? n x y
    | 0x9 => if n = 0 then some (.skipRegister .different x y) else none
    | 0xA => some (.loadIndex nnn)
    | 0xC => some (.random x nn)
    | 0xD => some (.draw x y n)
    | 0xE => Order.ofKeyByte? nn x
    | 0xF => Order.ofTransferByte? nn x
    | _ => none

/-- The order that an opcode stands for, if there is one. -/
def decode (opcode : UInt16) : Checked (Option Order) := do
  return (← fields opcode).order? opcode

/-! ## Orders are instructions -/

/-- The shifts stay within the word, and the masks cut out its digits. -/
theorem fields_eq (opcode : UInt16) :
    fields opcode = .ok {
      family := (Opcode.family opcode).val
      x := (Opcode.x opcode).val
      y := (Opcode.y opcode).val
      n := (Opcode.n opcode).val
      nn := Opcode.nn opcode
      nnn := UInt16.ofNat (Opcode.nnn opcode).val } := by
  have bound := opcode.toNat_lt
  have digit (number : Nat) : number &&& 0xF = number % 16 :=
    Nat.and_two_pow_sub_one_eq_mod number 4
  have byte (number : Nat) : number &&& 0xFF = number % 256 :=
    Nat.and_two_pow_sub_one_eq_mod number 8
  rw [fields, shiftRight_of_lt (by decide), shiftRight_of_lt (by decide),
    shiftRight_of_lt (by decide)]
  simp only [ok_bind, pure_eq_ok, Except.ok.injEq, Fields.mk.injEq, digit, byte,
    Nat.shiftRight_eq_div_pow]
  refine ⟨?_, rfl, rfl, rfl, ?_, ?_⟩
  · rw [Opcode.family, Fin.val_ofNat]
    omega
  · apply UInt8.toNat.inj
    rw [Opcode.nn, UInt8.toNat_ofNat', UInt8.toNat_ofNat']
    omega
  · apply UInt16.toNat.inj
    rw [Opcode.nnn, UInt16.toNat_and, UInt16.toNat_ofNat', Fin.val_ofNat]
    have mask : opcode.toNat &&& 0xFFF = opcode.toNat % 4096 :=
      Nat.and_two_pow_sub_one_eq_mod opcode.toNat 12
    simp only [UInt16.reduceToNat, mask]
    omega

theorem ofArithmeticDigit?_eq (digit : Fin 16) (x y : Register) :
    Order.ofArithmeticDigit? digit.val x.val y.val =
      (Instruction.ofArithmeticDigit? digit x y).map Order.ofInstruction := by
  fin_cases digit <;> rfl

theorem ofKeyByte?_eq (byte : UInt8) (x : Register) :
    Order.ofKeyByte? byte x.val = (Instruction.ofKeyByte? byte x).map Order.ofInstruction := by
  unfold Order.ofKeyByte? Instruction.ofKeyByte?
  split <;> simp [Order.ofInstruction, *]

theorem ofTransferByte?_eq (byte : UInt8) (x : Register) :
    Order.ofTransferByte? byte x.val =
      (Instruction.ofTransferByte? byte x).map Order.ofInstruction := by
  unfold Order.ofTransferByte? Instruction.ofTransferByte?
  split <;> simp [Order.ofInstruction, *]

/-- Decoding passes its checks, and what it gives is an instruction with its operands in bounds. -/
theorem decode_eq (opcode : UInt16) :
    decode opcode = .ok ((Instruction.decode? opcode).map Order.ofInstruction) := by
  rw [decode, fields_eq, ok_bind, pure_eq_ok]
  apply congrArg Except.ok
  unfold Fields.order? Instruction.decode?
  have zero : (Opcode.n opcode).val = 0 ↔ Opcode.n opcode = 0 := Fin.val_eq_zero_iff
  generalize Opcode.family opcode = family
  fin_cases family
  -- Ten families are one instruction each, or none.  The others are 0, 5, 8, 9, E and F.
  any_goals rfl
  · simp [apply_ite (Option.map Order.ofInstruction), Order.ofInstruction]
  · simp [zero, apply_ite (Option.map Order.ofInstruction), Order.ofInstruction]
  · exact ofArithmeticDigit?_eq ..
  · simp [zero, apply_ite (Option.map Order.ofInstruction), Order.ofInstruction]
  · exact ofKeyByte?_eq ..
  · exact ofTransferByte?_eq ..

end Chip8.Checked
