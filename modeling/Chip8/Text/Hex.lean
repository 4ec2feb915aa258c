/-!
# Hexadecimal text

Numbers written in base sixteen.  A *field* has a fixed number of digits and
shows the number modulo sixteen to that power, so two fields of one width are
equal exactly when the numbers agree there.  `address` is the only text here
whose width depends on the number.
-/

namespace Chip8.Hex

/-- The letters used for the digits from ten to fifteen. -/
inductive Letters where
  | lower
  | upper
  deriving DecidableEq, Repr

/-- The digit for a number below sixteen. -/
def digit (letters : Letters) (value : Nat) : Char :=
  if value < 10 then
    Char.ofNat ('0'.toNat + value)
  else
    match letters with
    | .lower => Char.ofNat ('a'.toNat + (value - 10))
    | .upper => Char.ofNat ('A'.toNat + (value - 10))

/-- The last `width` digits of a number, most significant first. -/
def field (letters : Letters) : (width : Nat) → (value : Nat) → List Char
  | 0, _ => []
  | width + 1, value => field letters width (value / 16) ++ [digit letters (value % 16)]

theorem length_field (letters : Letters) (width value : Nat) :
    (field letters width value).length = width := by
  induction width generalizing value with
  | zero => rfl
  | succ width ih => simp [field, ih]

/-- A 16-bit address: three digits, and a fourth only where it is needed. -/
def address (letters : Letters) (value : UInt16) : List Char :=
  if value.toNat < 0x1000 then field letters 3 value.toNat else field letters 4 value.toNat

/-- Two lower-case digits a byte. -/
def bytes (data : List UInt8) : List Char :=
  data.flatMap fun byte => field .lower 2 byte.toNat

/-! ## Closed instances -/

example : field .lower 4 0xD01F = ['d', '0', '1', 'f'] := by decide
example : field .upper 2 0x3A = ['3', 'A'] := by decide
example : address .upper 0x50 = ['0', '5', '0'] := by decide
example : address .upper 0x1002 = ['1', '0', '0', '2'] := by decide

end Chip8.Hex
