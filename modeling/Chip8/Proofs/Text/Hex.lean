import Mathlib.Algebra.Group.Nat.Defs
import Chip8.Text.Hex

/-!
# Reading hexadecimal text

A digit names one number below sixteen, so a field can be read back: it shows its number modulo
sixteen to the power of its width (`number?_field`).
-/

namespace Chip8.Hex

variable (letters : Letters)

/-! ## Digits -/

/-- The number that a digit stands for. -/
def value? (character : Char) : Option Nat :=
  (List.range 16).find? fun value => digit letters value == character

theorem value?_digit {value : Nat} (inside : value < 16) :
    value? letters (digit letters value) = some value := by
  have each : ∀ letters, ∀ value < 16, value? letters (digit letters value) = some value := by
    rintro (_ | _) <;> decide
  exact each letters value inside

/-- A digit is a letter or a figure. -/
theorem isAlphanum_digit {value : Nat} (inside : value < 16) :
    (digit letters value).isAlphanum = true := by
  have each : ∀ letters, ∀ value < 16, (digit letters value).isAlphanum = true := by
    rintro (_ | _) <;> decide
  exact each letters value inside

/-! ## Fields -/

/-- The number that a row of digits shows, the most significant first. -/
def number? (digits : List Char) : Option Nat :=
  digits.foldlM (fun number character => (value? letters character).map (16 * number + ·)) 0

theorem number?_append_digit {digits : List Char} {number value : Nat}
    (read : number? letters digits = some number) (inside : value < 16) :
    number? letters (digits ++ [digit letters value]) = some (16 * number + value) := by
  rw [number?] at read ⊢
  simp [List.foldlM_append, read, value?_digit letters inside]

/-- Of a number a field keeps what its width has room for. -/
theorem number?_field (width value : Nat) :
    number? letters (field letters width value) = some (value % 16 ^ width) := by
  induction width generalizing value with
  | zero => exact congrArg some (Nat.mod_one value).symm
  | succ width ih =>
      have inside : value % 16 < 16 := Nat.mod_lt value (by decide)
      rw [field, number?_append_digit letters (ih (value / 16)) inside, Nat.pow_succ,
        Nat.mul_comm (16 ^ width), Nat.mod_mul, Nat.add_comm]

theorem isAlphanum_of_mem_field {width value : Nat} {character : Char}
    (member : character ∈ field letters width value) : character.isAlphanum = true := by
  induction width generalizing value with
  | zero => cases member
  | succ width ih =>
      obtain inside | last := List.mem_append.1 member
      · exact ih inside
      · rw [List.mem_singleton.1 last]
        exact isAlphanum_digit letters (Nat.mod_lt value (by decide))

end Chip8.Hex
