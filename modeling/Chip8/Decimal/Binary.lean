/-!
# Binary numbers

A floating-point number in 64 bits is a sign and either a magnitude
`mantissa * 2 ^ exponent`, an infinity, or no number at all.  `ofFloat` takes
the bits apart, and `roundRatio` finds the bits of the magnitude nearest to a
ratio of natural numbers.
-/

namespace Chip8.Decimal

/-- A floating-point number taken apart. -/
inductive Binary where
  /-- Not a number. -/
  | nan
  /-- An infinity of either sign. -/
  | infinite (negative : Bool)
  /-- A number with a sign.  `narrow` marks a magnitude whose lower neighbour is
  nearer than the upper one. -/
  | finite (negative : Bool) (mantissa : Nat) (exponent : Int) (narrow : Bool)
  deriving DecidableEq, Repr

/-- The parts of a floating-point number. -/
def Binary.ofFloat (value : Float) : Binary :=
  let bits := value.toBits.toNat
  let negative := bits / Nat.pow 2 63 = 1
  let biased : Nat := bits / Nat.pow 2 52 % Nat.pow 2 11
  let fraction := bits % Nat.pow 2 52
  if biased = Nat.pow 2 11 - 1 then
    if fraction = 0 then .infinite negative else .nan
  else if biased = 0 then
    .finite negative fraction (-1074) false
  else
    .finite negative (Nat.pow 2 52 + fraction) ((biased : Int) - 1075) (fraction = 0 ∧ biased ≠ 1)

/-- The bits of positive infinity. -/
def infinityBits : Nat := (Nat.pow 2 11 - 1) * Nat.pow 2 52

/-- A ratio of natural numbers rounded to the nearest whole number, a half to
the even neighbour. -/
def roundHalfEven (numerator denominator : Nat) : Nat :=
  let quotient := numerator / denominator
  let twice := 2 * (numerator % denominator)
  if denominator < twice ∨ (denominator = twice ∧ quotient % 2 = 1) then
    quotient + 1
  else
    quotient

/-- The greatest exponent of two whose power is at most a ratio of positive
numbers. -/
def ratioLog2 (numerator denominator : Nat) : Int :=
  let estimate : Int := numerator.log2 - denominator.log2
  let fits := denominator * Nat.pow 2 estimate.toNat ≤ numerator * Nat.pow 2 (-estimate).toNat
  if fits then estimate else estimate - 1

/-- The bits of the magnitude nearest to a ratio of natural numbers.  The
exponent is chosen so that the mantissa has 53 bits, but not below the lowest
exponent there is, and a mantissa rounded up to 54 bits carries into it. -/
def roundRatio (numerator denominator : Nat) : Nat :=
  if numerator = 0 then
    0
  else
    let exponent := max (ratioLog2 numerator denominator - 52) (-1074)
    let mantissa :=
      roundHalfEven (numerator * Nat.pow 2 (-exponent).toNat) (denominator * Nat.pow 2 exponent.toNat)
    min infinityBits ((exponent + 1074).toNat * Nat.pow 2 52 + mantissa)

end Chip8.Decimal
