import Chip8.Proofs.Instruction.Encoding

/-!
# The table of opcodes

Which opcodes stand for an instruction, written as the conditions on their digits:
`Matches`.  An opcode is read as an instruction exactly if it matches it
(`decode?_eq_some_iff`), so what is said of instructions can be said of opcodes.
-/

namespace Chip8

/-! ## The families that a last byte or a last digit tells apart -/

namespace Opcode

/-- `8XYn` for a last digit `n`. -/
def Combines (opcode : UInt16) (digit : Nat) : Prop :=
  (family opcode).val = 0x8 ∧ (n opcode).val = digit

/-- `EXnn` for a last byte `nn`. -/
def AsksKey (opcode : UInt16) (byte : UInt8) : Prop :=
  (family opcode).val = 0xE ∧ nn opcode = byte

/-- `FXnn` for a last byte `nn`. -/
def Transfers (opcode : UInt16) (byte : UInt8) : Prop :=
  (family opcode).val = 0xF ∧ nn opcode = byte

variable (opcode : UInt16) (digit : Nat) (byte : UInt8)

instance : Decidable (Combines opcode digit) := inferInstanceAs (Decidable (_ ∧ _))

instance : Decidable (AsksKey opcode byte) := inferInstanceAs (Decidable (_ ∧ _))

instance : Decidable (Transfers opcode byte) := inferInstanceAs (Decidable (_ ∧ _))

end Opcode

namespace Instruction

open Opcode

/-- The opcode is one of the instruction. -/
def Matches (opcode : UInt16) : Instruction → Prop
  | .clearScreen => opcode = 0x00E0
  | .ret => opcode = 0x00EE
  | .jump target => (family opcode).val = 0x1 ∧ nnn opcode = target
  | .call target => (family opcode).val = 0x2 ∧ nnn opcode = target
  | .skipByte .equal r byte => (family opcode).val = 0x3 ∧ x opcode = r ∧ nn opcode = byte
  | .skipByte .different r byte => (family opcode).val = 0x4 ∧ x opcode = r ∧ nn opcode = byte
  | .skipRegister .equal r s =>
      (family opcode).val = 0x5 ∧ x opcode = r ∧ y opcode = s ∧ (n opcode).val = 0x0
  | .loadByte r byte => (family opcode).val = 0x6 ∧ x opcode = r ∧ nn opcode = byte
  | .addByte r byte => (family opcode).val = 0x7 ∧ x opcode = r ∧ nn opcode = byte
  | .arithmetic operation r s => Combines opcode operation.digit.val ∧ x opcode = r ∧ y opcode = s
  | .shift .right r => Combines opcode 0x6 ∧ x opcode = r
  | .shift .left r => Combines opcode 0xE ∧ x opcode = r
  | .skipRegister .different r s =>
      (family opcode).val = 0x9 ∧ x opcode = r ∧ y opcode = s ∧ (n opcode).val = 0x0
  | .loadIndex target => (family opcode).val = 0xA ∧ nnn opcode = target
  | .random r mask => (family opcode).val = 0xC ∧ x opcode = r ∧ nn opcode = mask
  | .draw r s rows => (family opcode).val = 0xD ∧ x opcode = r ∧ y opcode = s ∧ n opcode = rows
  | .skipKey true r => AsksKey opcode 0x9E ∧ x opcode = r
  | .skipKey false r => AsksKey opcode 0xA1 ∧ x opcode = r
  | .loadDelay r => Transfers opcode 0x07 ∧ x opcode = r
  | .waitKey r => Transfers opcode 0x0A ∧ x opcode = r
  | .setDelay r => Transfers opcode 0x15 ∧ x opcode = r
  | .setSound r => Transfers opcode 0x18 ∧ x opcode = r
  | .addIndex r => Transfers opcode 0x1E ∧ x opcode = r
  | .loadGlyph r => Transfers opcode 0x29 ∧ x opcode = r
  | .storeDecimal r => Transfers opcode 0x33 ∧ x opcode = r
  | .storeRegisters r => Transfers opcode 0x55 ∧ x opcode = r
  | .loadRegisters r => Transfers opcode 0x65 ∧ x opcode = r

/-- The opcode that an instruction is written as is one of its own. -/
theorem matches_encode (instruction : Instruction) : instruction.Matches instruction.encode := by
  cases instruction with
  | clearScreen | ret => rfl
  | jump target | call target | loadIndex target =>
      exact ⟨congrArg Fin.val (family_ofAddress ..), nnn_ofAddress ..⟩
  | skipByte wanted r byte =>
      cases wanted <;>
        exact ⟨congrArg Fin.val (family_ofByte ..), x_ofByte .., nn_ofByte ..⟩
  | loadByte r byte | addByte r byte | random r mask =>
      exact ⟨congrArg Fin.val (family_ofByte ..), x_ofByte .., nn_ofByte ..⟩
  | skipRegister wanted r s =>
      cases wanted <;>
        exact ⟨congrArg Fin.val (family_ofDigits ..), x_ofDigits .., y_ofDigits ..,
          congrArg Fin.val (n_ofDigits ..)⟩
  | arithmetic operation r s =>
      exact ⟨⟨congrArg Fin.val (family_ofDigits ..), congrArg Fin.val (n_ofDigits ..)⟩,
        x_ofDigits .., y_ofDigits ..⟩
  | shift direction r =>
      cases direction <;>
        exact ⟨⟨congrArg Fin.val (family_ofDigits ..), congrArg Fin.val (n_ofDigits ..)⟩,
          x_ofDigits ..⟩
  | draw r s rows =>
      exact ⟨congrArg Fin.val (family_ofDigits ..), x_ofDigits .., y_ofDigits .., n_ofDigits ..⟩
  | skipKey held r =>
      cases held <;>
        exact ⟨⟨congrArg Fin.val (family_ofByte ..), nn_ofByte ..⟩, x_ofByte ..⟩
  | loadDelay r | waitKey r | setDelay r | setSound r | addIndex r | loadGlyph r
  | storeDecimal r | storeRegisters r | loadRegisters r =>
      exact ⟨⟨congrArg Fin.val (family_ofByte ..), nn_ofByte ..⟩, x_ofByte ..⟩

theorem matches_of_decode? {opcode : UInt16} {instruction : Instruction}
    (found : decode? opcode = some instruction) : instruction.Matches opcode := by
  obtain same | ⟨direction, rfl, same⟩ := encode_of_decode? found
  · rw [← same]
    exact matches_encode instruction
  · -- A shift keeps its last digit whatever stands in the field that it ignores.
    rw [same]
    have last (digit : Fin 16) (own : n (shift direction (x opcode)).encode = digit) :
        Combines (ofDigits 0x8 (x opcode) (y opcode) (n (shift direction (x opcode)).encode))
          digit.val := by
      rw [own]
      exact ⟨congrArg Fin.val (family_ofDigits ..), congrArg Fin.val (n_ofDigits ..)⟩
    cases direction with
    | right => exact ⟨last 0x6 (n_ofDigits ..), by rw [x_ofDigits]⟩
    | left => exact ⟨last 0xE (n_ofDigits ..), by rw [x_ofDigits]⟩

/-- A digit is known by its number. -/
theorem digit_eq {digit : Fin 16} {number : Nat} (value : digit.val = number)
    (inside : number < 16) : digit = ⟨number, inside⟩ := Fin.ext value

theorem decode?_of_matches {opcode : UInt16} {instruction : Instruction}
    (fits : instruction.Matches opcode) : decode? opcode = some instruction := by
  cases instruction with
  | clearScreen | ret => subst fits; rfl
  | skipByte wanted r byte =>
      cases wanted <;> obtain ⟨family, rfl, rfl⟩ := fits <;>
        simp [decode?, digit_eq family (by decide)]
  | skipRegister wanted r s =>
      cases wanted <;> obtain ⟨family, rfl, rfl, last⟩ := fits <;>
        simp [decode?, digit_eq family (by decide), digit_eq last (by decide)]
  | arithmetic operation r s =>
      obtain ⟨⟨family, last⟩, rfl, rfl⟩ := fits
      cases operation <;>
        simp [decode?, digit_eq family (by decide), Fin.ext last, ofArithmeticDigit?,
          Arithmetic.digit, Arithmetic.ofDigit?]
  | shift direction r =>
      cases direction <;> obtain ⟨⟨family, last⟩, rfl⟩ := fits <;>
        simp [decode?, digit_eq family (by decide), digit_eq last (by decide), ofArithmeticDigit?]
  | skipKey held r =>
      cases held <;> obtain ⟨⟨family, last⟩, rfl⟩ := fits <;>
        simp [decode?, digit_eq family (by decide), last, ofKeyByte?]
  | jump target | call target | loadIndex target =>
      obtain ⟨family, rfl⟩ := fits
      simp [decode?, digit_eq family (by decide)]
  | loadByte r byte | addByte r byte | random r mask =>
      obtain ⟨family, rfl, rfl⟩ := fits
      simp [decode?, digit_eq family (by decide)]
  | draw r s rows =>
      obtain ⟨family, rfl, rfl, rfl⟩ := fits
      simp [decode?, digit_eq family (by decide)]
  | loadDelay r | waitKey r | setDelay r | setSound r | addIndex r | loadGlyph r
  | storeDecimal r | storeRegisters r | loadRegisters r =>
      obtain ⟨⟨family, last⟩, rfl⟩ := fits
      simp [decode?, digit_eq family (by decide), last, ofTransferByte?]

/-- The reading of opcodes is the table. -/
theorem decode?_eq_some_iff {opcode : UInt16} {instruction : Instruction} :
    decode? opcode = some instruction ↔ instruction.Matches opcode :=
  ⟨matches_of_decode?, decode?_of_matches⟩

end Instruction

end Chip8
