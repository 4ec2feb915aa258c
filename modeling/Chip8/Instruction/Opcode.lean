import Chip8.Instruction.Basic

/-!
# Opcodes

An opcode is a 16-bit word of four hexadecimal digits.  The first digit names
a family, and the fields `x`, `y`, `n`, `nn` and `nnn` always stand at the same
place.  `Instruction.decode?` reads an opcode and `Instruction.encode` writes
one.  Encoding is a section of decoding: `decode?_encode`.  The other way round
only the second register field of the two shifts is lost.
-/

namespace Chip8

namespace Opcode

/-- The first digit. -/
def family (opcode : UInt16) : Fin 16 := Fin.ofNat 16 (opcode.toNat / 0x1000)

/-- The second digit, a register. -/
def x (opcode : UInt16) : Register := Fin.ofNat 16 (opcode.toNat / 0x100)

/-- The third digit, a register. -/
def y (opcode : UInt16) : Register := Fin.ofNat 16 (opcode.toNat / 0x10)

/-- The last digit. -/
def n (opcode : UInt16) : Fin 16 := Fin.ofNat 16 opcode.toNat

/-- The last two digits. -/
def nn (opcode : UInt16) : UInt8 := UInt8.ofNat opcode.toNat

/-- The last three digits. -/
def nnn (opcode : UInt16) : Fin 4096 := Fin.ofNat 4096 opcode.toNat

/-- The opcode with these four digits. -/
def ofDigits (family x y n : Fin 16) : UInt16 :=
  UInt16.ofNat (((family.val * 16 + x.val) * 16 + y.val) * 16 + n.val)

/-- The opcode with a family, a register and a byte. -/
def ofByte (family x : Fin 16) (byte : UInt8) : UInt16 :=
  UInt16.ofNat ((family.val * 16 + x.val) * 256 + byte.toNat)

/-- The opcode with a family and an address. -/
def ofAddress (family : Fin 16) (address : Fin 4096) : UInt16 :=
  UInt16.ofNat (family.val * 4096 + address.val)

/-! ## The fields of an opcode that was put together -/

section Fields

variable (f a b c : Fin 16) (byte : UInt8) (address : Fin 4096)

theorem toNat_ofDigits :
    (ofDigits f a b c).toNat = ((f.val * 16 + a.val) * 16 + b.val) * 16 + c.val := by
  rw [ofDigits, UInt16.toNat_ofNat']
  omega

theorem toNat_ofByte :
    (ofByte f a byte).toNat = (f.val * 16 + a.val) * 256 + byte.toNat := by
  have := byte.toNat_lt
  rw [ofByte, UInt16.toNat_ofNat']
  omega

theorem toNat_ofAddress :
    (ofAddress f address).toNat = f.val * 4096 + address.val := by
  rw [ofAddress, UInt16.toNat_ofNat']
  omega

@[simp] theorem family_ofDigits : family (ofDigits f a b c) = f := by
  apply Fin.ext
  simp only [family, Fin.val_ofNat, toNat_ofDigits]
  omega

@[simp] theorem x_ofDigits : x (ofDigits f a b c) = a := by
  apply Fin.ext
  simp only [x, Fin.val_ofNat, toNat_ofDigits]
  omega

@[simp] theorem y_ofDigits : y (ofDigits f a b c) = b := by
  apply Fin.ext
  simp only [y, Fin.val_ofNat, toNat_ofDigits]
  omega

@[simp] theorem n_ofDigits : n (ofDigits f a b c) = c := by
  apply Fin.ext
  simp only [n, Fin.val_ofNat, toNat_ofDigits]
  omega

@[simp] theorem family_ofByte : family (ofByte f a byte) = f := by
  have := byte.toNat_lt
  apply Fin.ext
  simp only [family, Fin.val_ofNat, toNat_ofByte]
  omega

@[simp] theorem x_ofByte : x (ofByte f a byte) = a := by
  have := byte.toNat_lt
  apply Fin.ext
  simp only [x, Fin.val_ofNat, toNat_ofByte]
  omega

@[simp] theorem nn_ofByte : nn (ofByte f a byte) = byte := by
  have := byte.toNat_lt
  apply UInt8.toNat.inj
  simp only [nn, UInt8.toNat_ofNat', toNat_ofByte]
  omega

@[simp] theorem family_ofAddress : family (ofAddress f address) = f := by
  apply Fin.ext
  simp only [family, Fin.val_ofNat, toNat_ofAddress]
  omega

@[simp] theorem nnn_ofAddress : nnn (ofAddress f address) = address := by
  apply Fin.ext
  simp only [nnn, Fin.val_ofNat, toNat_ofAddress]
  omega

end Fields

end Opcode

namespace Arithmetic

/-- The operation that the last digit of an opcode of family 8 names. -/
def ofDigit? (digit : Fin 16) : Option Arithmetic :=
  match digit with
  | 0x0 => some .move
  | 0x1 => some .or
  | 0x2 => some .and
  | 0x3 => some .xor
  | 0x4 => some .add
  | 0x5 => some .sub
  | _ => none

/-- The last digit of the opcodes of an operation. -/
def digit : Arithmetic → Fin 16
  | .move => 0x0
  | .or => 0x1
  | .and => 0x2
  | .xor => 0x3
  | .add => 0x4
  | .sub => 0x5

end Arithmetic

namespace Instruction

/-- The instruction on two registers that the last digit of an opcode of
family 8 names. -/
def ofArithmeticDigit? (digit : Fin 16) (x y : Register) : Option Instruction :=
  match digit with
  | 0x6 => some (.shift .right x)
  | 0xE => some (.shift .left x)
  | digit => (Arithmetic.ofDigit? digit).map fun operation => .arithmetic operation x y

/-- The instruction on a key that the last byte of an opcode of family E
names. -/
def ofKeyByte? (byte : UInt8) (x : Register) : Option Instruction :=
  match byte with
  | 0x9E => some (.skipKey true x)
  | 0xA1 => some (.skipKey false x)
  | _ => none

/-- The instruction that the last byte of an opcode of family F names. -/
def ofTransferByte? (byte : UInt8) (x : Register) : Option Instruction :=
  match byte with
  | 0x07 => some (.loadDelay x)
  | 0x0A => some (.waitKey x)
  | 0x15 => some (.setDelay x)
  | 0x18 => some (.setSound x)
  | 0x1E => some (.addIndex x)
  | 0x29 => some (.loadGlyph x)
  | 0x33 => some (.storeDecimal x)
  | 0x55 => some (.storeRegisters x)
  | 0x65 => some (.loadRegisters x)
  | _ => none

/-- The instruction an opcode stands for, if there is one. -/
def decode? (opcode : UInt16) : Option Instruction :=
  let x := Opcode.x opcode
  let y := Opcode.y opcode
  match Opcode.family opcode with
  | 0x0 =>
      if opcode = 0x00E0 then some .clearScreen
      else if opcode = 0x00EE then some .ret
      else none
  | 0x1 => some (.jump (Opcode.nnn opcode))
  | 0x2 => some (.call (Opcode.nnn opcode))
  | 0x3 => some (.skipByte .equal x (Opcode.nn opcode))
  | 0x4 => some (.skipByte .different x (Opcode.nn opcode))
  | 0x5 => if Opcode.n opcode = 0 then some (.skipRegister .equal x y) else none
  | 0x6 => some (.loadByte x (Opcode.nn opcode))
  | 0x7 => some (.addByte x (Opcode.nn opcode))
  | 0x8 => ofArithmeticDigit? (Opcode.n opcode) x y
  | 0x9 => if Opcode.n opcode = 0 then some (.skipRegister .different x y) else none
  | 0xA => some (.loadIndex (Opcode.nnn opcode))
  | 0xC => some (.random x (Opcode.nn opcode))
  | 0xD => some (.draw x y (Opcode.n opcode))
  | 0xE => ofKeyByte? (Opcode.nn opcode) x
  | 0xF => ofTransferByte? (Opcode.nn opcode) x
  | _ => none

/-- An opcode for an instruction.  A shift gets a zero in the field that it
ignores. -/
def encode : Instruction → UInt16
  | .clearScreen => 0x00E0
  | .ret => 0x00EE
  | .jump target => Opcode.ofAddress 0x1 target
  | .call target => Opcode.ofAddress 0x2 target
  | .skipByte .equal x byte => Opcode.ofByte 0x3 x byte
  | .skipByte .different x byte => Opcode.ofByte 0x4 x byte
  | .skipRegister .equal x y => Opcode.ofDigits 0x5 x y 0x0
  | .loadByte x byte => Opcode.ofByte 0x6 x byte
  | .addByte x byte => Opcode.ofByte 0x7 x byte
  | .arithmetic operation x y => Opcode.ofDigits 0x8 x y operation.digit
  | .shift .right x => Opcode.ofDigits 0x8 x 0x0 0x6
  | .shift .left x => Opcode.ofDigits 0x8 x 0x0 0xE
  | .skipRegister .different x y => Opcode.ofDigits 0x9 x y 0x0
  | .loadIndex target => Opcode.ofAddress 0xA target
  | .random x mask => Opcode.ofByte 0xC x mask
  | .draw x y rows => Opcode.ofDigits 0xD x y rows
  | .skipKey true x => Opcode.ofByte 0xE x 0x9E
  | .skipKey false x => Opcode.ofByte 0xE x 0xA1
  | .loadDelay x => Opcode.ofByte 0xF x 0x07
  | .waitKey x => Opcode.ofByte 0xF x 0x0A
  | .setDelay x => Opcode.ofByte 0xF x 0x15
  | .setSound x => Opcode.ofByte 0xF x 0x18
  | .addIndex x => Opcode.ofByte 0xF x 0x1E
  | .loadGlyph x => Opcode.ofByte 0xF x 0x29
  | .storeDecimal x => Opcode.ofByte 0xF x 0x33
  | .storeRegisters x => Opcode.ofByte 0xF x 0x55
  | .loadRegisters x => Opcode.ofByte 0xF x 0x65

/-- Decoding gives back what was encoded. -/
theorem decode?_encode (instruction : Instruction) :
    decode? instruction.encode = some instruction := by
  cases instruction with
  | clearScreen => decide
  | ret => decide
  | skipByte wanted x byte => cases wanted <;> simp [encode, decode?]
  | skipRegister wanted x y => cases wanted <;> simp [encode, decode?]
  | arithmetic operation x y =>
      cases operation <;>
        simp [encode, decode?, ofArithmeticDigit?, Arithmetic.ofDigit?, Arithmetic.digit]
  | shift direction x => cases direction <;> simp [encode, decode?, ofArithmeticDigit?]
  | skipKey held x => cases held <;> simp [encode, decode?, ofKeyByte?]
  | jump _ | call _ | loadByte _ _ | addByte _ _ | loadIndex _ | random _ _ | draw _ _ _ =>
      simp [encode, decode?]
  | loadDelay _ | waitKey _ | setDelay _ | setSound _ | addIndex _ | loadGlyph _
  | storeDecimal _ | storeRegisters _ | loadRegisters _ =>
      simp [encode, decode?, ofTransferByte?]

end Instruction

end Chip8
