import Chip8.Instruction.Opcode

/-!
# Reading an opcode loses nothing

An opcode is what its fields put together, so the instruction that it stands for
encodes to it again: `encode_of_decode?`.  The one exception is a shift, whose
opcode has a field that the instruction does not keep.

With `decode?_encode` this says which opcodes stand for a given instruction.
-/

namespace Chip8

/-! ## An opcode put together from its own fields -/

namespace Opcode

section Whole

variable {opcode : UInt16} {f a b c : Fin 16}

theorem ofDigits_fields (family : family opcode = f) (x : x opcode = a) (y : y opcode = b)
    (n : n opcode = c) : ofDigits f a b c = opcode := by
  have := opcode.toNat_lt
  subst family x y n
  apply UInt16.toNat.inj
  simp only [toNat_ofDigits, Opcode.family, Opcode.x, Opcode.y, Opcode.n, Fin.val_ofNat]
  omega

theorem ofByte_fields (family : family opcode = f) :
    ofByte f (x opcode) (nn opcode) = opcode := by
  have := opcode.toNat_lt
  subst family
  apply UInt16.toNat.inj
  simp only [toNat_ofByte, Opcode.family, x, nn, Fin.val_ofNat, UInt8.toNat_ofNat']
  omega

theorem ofAddress_fields (family : family opcode = f) :
    ofAddress f (nnn opcode) = opcode := by
  have := opcode.toNat_lt
  subst family
  apply UInt16.toNat.inj
  simp only [toNat_ofAddress, Opcode.family, nnn, Fin.val_ofNat]
  omega

end Whole

end Opcode

namespace Instruction

/-! ## Families with a second table -/

/-- In family 8 the last digit is that of a shift or of an operation. -/
theorem ofArithmeticDigit?_eq_some {digit : Fin 16} {x y : Register} {instruction : Instruction}
    (found : ofArithmeticDigit? digit x y = some instruction) :
    (∃ direction, digit = Opcode.n instruction.encode ∧ instruction = .shift direction x) ∨
      ∃ operation, digit = Arithmetic.digit operation ∧
        instruction = .arithmetic operation x y := by
  unfold ofArithmeticDigit? at found
  split at found
  case h_1 =>
    cases found
    exact .inl ⟨.right, (Opcode.n_ofDigits 0x8 x 0x0 0x6).symm, rfl⟩
  case h_2 =>
    cases found
    exact .inl ⟨.left, (Opcode.n_ofDigits 0x8 x 0x0 0xE).symm, rfl⟩
  case h_3 =>
    obtain ⟨operation, named, rfl⟩ := Option.map_eq_some_iff.1 found
    refine .inr ⟨operation, ?_, rfl⟩
    unfold Arithmetic.ofDigit? at named
    split at named <;> cases named <;> rfl

theorem encode_of_ofKeyByte? {byte : UInt8} {x : Register} {instruction : Instruction}
    (found : ofKeyByte? byte x = some instruction) :
    instruction.encode = Opcode.ofByte 0xE x byte := by
  unfold ofKeyByte? at found
  split at found <;> cases found <;> rfl

theorem encode_of_ofTransferByte? {byte : UInt8} {x : Register} {instruction : Instruction}
    (found : ofTransferByte? byte x = some instruction) :
    instruction.encode = Opcode.ofByte 0xF x byte := by
  unfold ofTransferByte? at found
  split at found <;> cases found <;> rfl

/-! ## All families -/

/-- What was decoded encodes to the opcode that it came from, unless it is a
shift.  Of a shift the second register field is lost, and nothing else. -/
theorem encode_of_decode? {opcode : UInt16} {instruction : Instruction}
    (found : decode? opcode = some instruction) :
    instruction.encode = opcode ∨
      ∃ direction, instruction = .shift direction (Opcode.x opcode) ∧
        opcode = Opcode.ofDigits 0x8 (Opcode.x opcode) (Opcode.y opcode)
          (Opcode.n instruction.encode) := by
  unfold decode? at found
  dsimp only at found
  split at found
  case h_1 =>
    left
    split at found
    case isTrue clear =>
      cases found
      exact clear.symm
    case isFalse =>
      split at found
      case isTrue back =>
        cases found
        exact back.symm
      case isFalse => cases found
  case h_2 family => cases found; exact .inl (Opcode.ofAddress_fields family)
  case h_3 family => cases found; exact .inl (Opcode.ofAddress_fields family)
  case h_4 family => cases found; exact .inl (Opcode.ofByte_fields family)
  case h_5 family => cases found; exact .inl (Opcode.ofByte_fields family)
  case h_6 family =>
    split at found
    case isTrue last => cases found; exact .inl (Opcode.ofDigits_fields family rfl rfl last)
    case isFalse => cases found
  case h_7 family => cases found; exact .inl (Opcode.ofByte_fields family)
  case h_8 family => cases found; exact .inl (Opcode.ofByte_fields family)
  case h_9 family =>
    obtain ⟨direction, last, rfl⟩ | ⟨operation, last, rfl⟩ := ofArithmeticDigit?_eq_some found
    · exact .inr ⟨direction, rfl, (Opcode.ofDigits_fields family rfl rfl last).symm⟩
    · exact .inl (Opcode.ofDigits_fields family rfl rfl last)
  case h_10 family =>
    split at found
    case isTrue last => cases found; exact .inl (Opcode.ofDigits_fields family rfl rfl last)
    case isFalse => cases found
  case h_11 family => cases found; exact .inl (Opcode.ofAddress_fields family)
  case h_12 family => cases found; exact .inl (Opcode.ofByte_fields family)
  case h_13 family => cases found; exact .inl (Opcode.ofDigits_fields family rfl rfl rfl)
  case h_14 family =>
    left
    rw [encode_of_ofKeyByte? found, Opcode.ofByte_fields family]
  case h_15 family =>
    left
    rw [encode_of_ofTransferByte? found, Opcode.ofByte_fields family]
  case h_16 => cases found

/-! ## The opcodes of calls and returns -/

theorem decode?_eq_call_iff {opcode : UInt16} {target : Fin 4096} :
    decode? opcode = some (.call target) ↔
      opcode.toNat / 0x1000 = 2 ∧ opcode.toNat % 0x1000 = target.val := by
  have encoded : (encode (.call target)).toNat = 0x2000 + target.val :=
    Opcode.toNat_ofAddress 0x2 target
  constructor
  · intro found
    obtain same | ⟨_, shifted, _⟩ := encode_of_decode? found
    · rw [← same, encoded]
      omega
    · cases shifted
  · rintro ⟨family, address⟩
    have same : opcode = encode (.call target) := by
      apply UInt16.toNat.inj
      rw [encoded]
      omega
    rw [same, decode?_encode]

theorem decode?_eq_ret_iff {opcode : UInt16} :
    decode? opcode = some .ret ↔ opcode = 0x00EE := by
  constructor
  · intro found
    obtain same | ⟨_, shifted, _⟩ := encode_of_decode? found
    · exact same.symm
    · cases shifted
  · rintro rfl
    exact decode?_encode .ret

end Instruction

end Chip8
