import Chip8.Decimal.Shortest

/-!
# Layouts of decimals

How the digits of a number are laid out: with a point in its place, or with a
power of ten behind the digits.  A layout says which numbers get which form and
whether a whole number keeps a zero behind its point.
-/

namespace Chip8.Decimal

/-- The decisions of a way to write numbers. -/
structure Layout where
  /-- Whether a number whose first digit counts this power of ten is written
  without an exponent. -/
  isPositional : (leading : Int) → Bool
  /-- Whether a whole number without an exponent is written with `.0`. -/
  keepsPoint : Bool

namespace Digits

/-- The power of ten of the first digit. -/
def leading (decimal : Digits) : Int :=
  decimal.exponent + (decimal.digits.length : Int) - 1

/-- The digits with zeros up to the point and a point in its place. -/
def positional (decimal : Digits) (keepsPoint : Bool) : List Char :=
  let whole := decimal.leading + 1
  let length : Int := decimal.digits.length
  if whole ≤ 0 then
    ['0', '.'] ++ List.replicate (-whole).toNat '0' ++ decimal.digits
  else if length ≤ whole then
    decimal.digits ++ List.replicate (whole - length).toNat '0' ++
      if keepsPoint then ['.', '0'] else []
  else
    decimal.digits.take whole.toNat ++ ['.'] ++ decimal.digits.drop whole.toNat

/-- The digits with a point behind the first one and a power of ten. -/
def scientific (decimal : Digits) : List Char :=
  let fraction := decimal.digits.drop 1
  decimal.digits.take 1 ++ (if fraction.isEmpty then [] else '.' :: fraction) ++
    ['e'] ++ (toString decimal.leading).toList

end Digits

/-- A number written in a layout, with the fewest digits that read back. -/
def write (layout : Layout) (value : Float) : String :=
  match Binary.ofFloat value with
  | .nan => "NaN"
  | .infinite negative => if negative then "-inf" else "inf"
  | .finite negative mantissa exponent narrow =>
      let decimal := shortest mantissa exponent narrow
      let text :=
        if mantissa = 0 ∨ layout.isPositional decimal.leading then
          decimal.positional layout.keepsPoint
        else
          decimal.scientific
      String.ofList (if negative then '-' :: text else text)

end Chip8.Decimal
