import Mathlib.Data.List.Basic
import Chip8.Instruction.Assembly
import Chip8.Proofs.Instruction.Pattern
import Chip8.Proofs.Text.Hex

/-!
# Reading assembly back

An assembly line is read in three steps.  Its words are what stands between the blanks, without the
commas.  The first word is the operation name, and each of the others is an operand, whose kind is
told by its letters and its length.  The kinds of the operands leave at most eight instructions,
which differ in their operation names.  Each step undoes the one that wrote the line, so no two
instructions have the same text: `ofMnemonic?_mnemonic`.

An opcode is told by its instruction as well, but for the digit that a shift ignores.  So it is told
by the text up to this digit: `text_tells_opcode`.
-/

namespace Chip8

/-! ## Operands -/

namespace Operand

/-- A number, if it is below a bound. -/
def below? (bound number : Nat) : Option (Fin bound) :=
  if inside : number < bound then some ⟨number, inside⟩ else none

theorem below?_val {bound : Nat} (i : Fin bound) : below? bound i.val = some i := dif_pos i.isLt

/-- The operand that a word stands for. -/
def ofText? (text : List Char) : Option Operand :=
  match text with
  | ['I'] => some .index
  | ['[', 'I', ']'] => some .atIndex
  | ['D', 'T'] => some .delay
  | ['S', 'T'] => some .sound
  | ['K'] => some .key
  | ['F'] => some .font
  | ['B'] => some .decimal
  | ['V', x] => ((Hex.value? .upper x).bind (below? 16)).map .register
  | ['0', 'x', a, b, c] => ((Hex.number? .lower [a, b, c]).bind (below? 4096)).map .address
  | ['0', 'x', a, b] => (Hex.number? .lower [a, b]).map fun n => .byte (UInt8.ofNat n)
  | text => ((List.finRange 16).find? fun count => (rows count).text == text).map .rows

theorem ofText?_text (operand : Operand) : ofText? operand.text = some operand := by
  cases operand with
  | register x =>
      have read := Hex.value?_digit .upper x.isLt
      simp [text, ofText?, read, below?_val]
  | address target =>
      have short : target.val < 16 ^ 3 := target.isLt
      have read := Hex.number?_field .lower 3 target.val
      obtain ⟨a, b, c, digits⟩ := List.length_eq_three.1 (Hex.length_field .lower 3 target.val)
      rw [digits, Nat.mod_eq_of_lt short] at read
      rw [text, digits]
      exact (congrArg (fun number => (number.bind (below? 4096)).map address) read).trans
        (congrArg (Option.map address) (below?_val target))
  | byte value =>
      have short : value.toNat < 16 ^ 2 := value.toNat_lt
      have read := Hex.number?_field .lower 2 value.toNat
      obtain ⟨a, b, digits⟩ := List.length_eq_two.1 (Hex.length_field .lower 2 value.toNat)
      rw [digits, Nat.mod_eq_of_lt short] at read
      rw [text, digits]
      exact (congrArg (Option.map fun number => byte (UInt8.ofNat number)) read).trans
        (congrArg (some <| byte ·) UInt8.ofNat_toNat)
  | rows count => revert count; decide
  | index | atIndex | delay | sound | key | font | decimal => rfl

/-- Operands are written without blanks and commas. -/
theorem not_mem_text (operand : Operand) : ' ' ∉ operand.text ∧ ',' ∉ operand.text := by
  have plain {letters : Hex.Letters} {width value : Nat} :
      ' ' ∉ Hex.field letters width value ∧ ',' ∉ Hex.field letters width value :=
    ⟨fun member => absurd (Hex.isAlphanum_of_mem_field letters member) (by decide),
      fun member => absurd (Hex.isAlphanum_of_mem_field letters member) (by decide)⟩
  cases operand with
  | register x => revert x; decide
  | address target | byte value => simp [text, plain]
  | rows count => revert count; decide
  | index | atIndex | delay | sound | key | font | decimal => decide

end Operand

/-! ## Lines -/

namespace Assembly

/-- The words of a line: what stands between its blanks, without the commas. -/
def words (text : List Char) : List (List Char) := (text.filter (· != ',')).splitOn ' '

/-- The line that a text stands for. -/
def ofText? (text : List Char) : Option Assembly :=
  match words text with
  | [] => none
  | operation :: operands =>
      (operands.mapM Operand.ofText?).map fun operands => ⟨String.ofList operation, operands⟩

theorem filter_text (operand : Operand) : operand.text.filter (· != ',') = operand.text :=
  List.filter_eq_self.2 fun character member => by
    have := operand.not_mem_text.2
    grind

theorem filter_operandText (operands : List Operand) :
    (operandText operands).filter (· != ',') =
      [' '].intercalate (operands.map Operand.text) := by
  fun_induction operandText operands with
  | case1 => rfl
  | case2 operand => simp [filter_text]
  | case3 operand rest more ih =>
      obtain ⟨next, later, rfl⟩ := List.exists_cons_of_ne_nil more
      simp [filter_text, ih, List.intercalate_cons_cons]

theorem words_text (line : Assembly) (plain : ' ' ∉ line.operation.toList)
    (plain' : ',' ∉ line.operation.toList) :
    words line.text = line.operation.toList :: line.operands.map Operand.text := by
  have name : line.operation.toList.filter (· != ',') = line.operation.toList :=
    List.filter_eq_self.2 fun character member => by grind
  have joined : line.text.filter (· != ',') =
      [' '].intercalate (line.operation.toList :: line.operands.map Operand.text) := by
    obtain ⟨operation, operands⟩ := line
    cases operands with
    | nil => simp [text, name]
    | cons operand rest =>
        simp only [text, List.filter_append, name, filter_operandText]
        simp [List.intercalate_cons_cons]
  rw [words, joined]
  refine List.splitOn_intercalate ' ' ?_ (List.cons_ne_nil _ _)
  rw [List.forall_mem_cons, List.forall_mem_map]
  exact ⟨plain, fun operand _ => operand.not_mem_text.1⟩

theorem mapM_ofText? (operands : List Operand) :
    (operands.map Operand.text).mapM Operand.ofText? = some operands := by
  induction operands with
  | nil => rfl
  | cons operand rest ih => simp [List.mapM_cons, Operand.ofText?_text, ih]

/-- A line is read back if its operation name is a single word. -/
theorem ofText?_text (line : Assembly) (plain : ' ' ∉ line.operation.toList)
    (plain' : ',' ∉ line.operation.toList) : ofText? line.text = some line := by
  rw [ofText?, words_text line plain plain']
  dsimp only
  rw [mapM_ofText?, Option.map_some, String.ofList_toList]

end Assembly

/-! ## Instructions -/

namespace Instruction

/-- The instructions whose assembly has these operands. -/
def withOperands : List Operand → List Instruction
  | [] => [.clearScreen, .ret]
  | [.address target] => [.jump target, .call target]
  | [.register x, .byte value] =>
      [.skipByte .equal x value, .skipByte .different x value, .loadByte x value,
        .addByte x value, .random x value]
  | [.register x, .register y] =>
      [.skipRegister .equal x y, .skipRegister .different x y, .arithmetic .move x y,
        .arithmetic .or x y, .arithmetic .and x y, .arithmetic .xor x y, .arithmetic .add x y,
        .arithmetic .sub x y]
  | [.register x] => [.shift .right x, .shift .left x, .skipKey true x, .skipKey false x]
  | [.index, .address target] => [.loadIndex target]
  | [.register x, .register y, .rows count] => [.draw x y count]
  | [.register x, .delay] => [.loadDelay x]
  | [.register x, .key] => [.waitKey x]
  | [.delay, .register x] => [.setDelay x]
  | [.sound, .register x] => [.setSound x]
  | [.index, .register x] => [.addIndex x]
  | [.font, .register x] => [.loadGlyph x]
  | [.decimal, .register x] => [.storeDecimal x]
  | [.atIndex, .register x] => [.storeRegisters x]
  | [.register x, .atIndex] => [.loadRegisters x]
  | _ => []

/-- The instruction that a line stands for. -/
def ofAssembly? (line : Assembly) : Option Instruction :=
  (withOperands line.operands).find? fun instruction => instruction.assembly = line

/-- The instruction that a text stands for. -/
def ofMnemonic? (text : String) : Option Instruction :=
  (Assembly.ofText? text.toList).bind ofAssembly?

/-- Among the instructions with the same operands each has an operation name of its own. -/
theorem ofAssembly?_assembly (instruction : Instruction) :
    ofAssembly? instruction.assembly = some instruction := by
  cases instruction with
  | skipByte wanted x value => cases wanted <;> simp [ofAssembly?, assembly, withOperands]
  | skipRegister wanted x y => cases wanted <;> simp [ofAssembly?, assembly, withOperands]
  | arithmetic operation x y =>
      cases operation <;> simp [ofAssembly?, assembly, withOperands, Arithmetic.assemblyName]
  | shift direction x => cases direction <;> simp [ofAssembly?, assembly, withOperands]
  | skipKey held x => cases held <;> simp [ofAssembly?, assembly, withOperands]
  | _ => simp [ofAssembly?, assembly, withOperands]

theorem not_mem_operation (instruction : Instruction) :
    ' ' ∉ instruction.assembly.operation.toList ∧
      ',' ∉ instruction.assembly.operation.toList := by
  cases instruction with
  | skipByte wanted _ _ | skipRegister wanted _ _ => cases wanted <;> simp [assembly]
  | arithmetic operation _ _ => cases operation <;> simp [assembly, Arithmetic.assemblyName]
  | shift direction _ => cases direction <;> simp [assembly]
  | skipKey held _ => cases held <;> simp [assembly]
  | _ => simp [assembly]

/-- Every instruction is read back from its text. -/
theorem ofMnemonic?_mnemonic (instruction : Instruction) :
    ofMnemonic? instruction.mnemonic = some instruction := by
  obtain ⟨plain, plain'⟩ := instruction.not_mem_operation
  rw [ofMnemonic?, mnemonic, String.toList_ofList,
    Assembly.ofText?_text instruction.assembly plain plain', Option.bind_some,
    ofAssembly?_assembly]

end Instruction

/-! ## Opcodes -/

namespace Opcode

/-- Two opcodes that are equal, or that shift the same register in the same direction: `8XY6`
twice, or `8XYE` twice, whatever their third digits are. -/
def Synonyms (a b : UInt16) : Prop :=
  a = b ∨ ((Combines a 0x6 ∧ Combines b 0x6 ∨ Combines a 0xE ∧ Combines b 0xE) ∧ x a = x b)

instance (a b : UInt16) : Decidable (Synonyms a b) := inferInstanceAs (Decidable (_ ∨ _))

end Opcode

namespace Instruction

open Opcode (Synonyms)

variable {a b : UInt16} {first second : Instruction}

theorem synonyms_of_shift {direction : Direction} {r : Register}
    (fits : (shift direction r).Matches a) (fits' : (shift direction r).Matches b) :
    Synonyms a b := by
  cases direction with
  | right => exact .inr ⟨.inl ⟨fits.1, fits'.1⟩, fits.2.trans fits'.2.symm⟩
  | left => exact .inr ⟨.inr ⟨fits.1, fits'.1⟩, fits.2.trans fits'.2.symm⟩

/-- The opcodes of one instruction are synonyms. -/
theorem synonyms_of_matches (fits : first.Matches a) (fits' : first.Matches b) :
    Synonyms a b := by
  obtain same | ⟨direction, rfl, _⟩ := encode_of_decode? (decode?_of_matches fits)
  · obtain same' | ⟨direction, rfl, _⟩ := encode_of_decode? (decode?_of_matches fits')
    · exact .inl (same.symm.trans same')
    · exact synonyms_of_shift fits fits'
  · exact synonyms_of_shift fits fits'

/-- Synonyms are opcodes of one instruction. -/
theorem matches_of_synonyms (synonyms : Synonyms a b) (fits : first.Matches a) :
    first.Matches b := by
  obtain rfl | ⟨⟨right, right'⟩ | ⟨left, left'⟩, register⟩ := synonyms
  · exact fits
  · have own : decode? a = some (.shift .right (Opcode.x a)) := decode?_of_matches ⟨right, rfl⟩
    obtain rfl := Option.some.inj ((decode?_of_matches fits).symm.trans own)
    exact ⟨right', register.symm⟩
  · have own : decode? a = some (.shift .left (Opcode.x a)) := decode?_of_matches ⟨left, rfl⟩
    obtain rfl := Option.some.inj ((decode?_of_matches fits).symm.trans own)
    exact ⟨left', register.symm⟩

/-- Two opcodes that stand for instructions.  The texts of the instructions are equal just where
the instructions are, and the instructions are equal just where the opcodes are, or are those of one
shift and may differ in the digit that it ignores.  From its text an instruction is read back, and
encoded again it gives the opcode that it came from, but for that digit. -/
theorem text_tells_opcode (found : decode? a = some first) (found' : decode? b = some second) :
    (first.mnemonic = second.mnemonic ↔ first = second) ∧
      (first = second ↔ Synonyms a b) ∧
      (ofMnemonic? first.mnemonic).map encode = some first.encode ∧
      Synonyms first.encode a := by
  have fits := matches_of_decode? found
  have fits' := matches_of_decode? found'
  refine ⟨⟨fun same => ?_, congrArg mnemonic⟩, ⟨?_, fun synonyms => ?_⟩, ?_,
    synonyms_of_matches (matches_encode first) fits⟩
  · have read := ofMnemonic?_mnemonic second
    rw [← same, ofMnemonic?_mnemonic] at read
    exact Option.some.inj read
  · rintro rfl
    exact synonyms_of_matches fits fits'
  · have both := decode?_of_matches (matches_of_synonyms synonyms fits)
    exact Option.some.inj (both.symm.trans found')
  · rw [ofMnemonic?_mnemonic, Option.map_some]

/-- Two opcodes of one shift.  Both have the text from which a third one is read. -/
theorem text_tells_opcode_shift :
    decode? 0x8126 = some (.shift .right 1) ∧ decode? 0x81F6 = some (.shift .right 1) ∧
      (0x8126 : UInt16) ≠ 0x81F6 ∧ Synonyms 0x8126 0x81F6 ∧
      (ofMnemonic? "SHR V1").map encode = some 0x8106 ∧ Synonyms 0x8106 0x8126 := by
  have found : decode? 0x8126 = some (.shift .right 1) := by decide
  have found' : decode? 0x81F6 = some (.shift .right 1) := by decide
  have text : (shift .right 1).mnemonic = "SHR V1" := by decide +kernel
  obtain ⟨_, opcodes, read, back⟩ := text_tells_opcode found found'
  rw [text] at read
  exact ⟨found, found', by decide, opcodes.1 rfl, read, back⟩

end Instruction

end Chip8
