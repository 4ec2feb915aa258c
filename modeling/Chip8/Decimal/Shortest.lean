import Chip8.Decimal.Binary

/-!
# Shortest decimals

A floating-point number stands for all reals that round to it.  The shortest
decimal of a number is the one with the fewest digits among these, and of two
with as few digits the nearer, or the greater where both are equally near.

The search is exact.  With the value and the two ends of its interval as natural
numbers over one scale, it looks for one digit, then two, and so on at the two
neighbours of the value on the grid of that many digits.  Seventeen digits
always suffice.
-/

namespace Chip8.Decimal

/-- A decimal: its digits, first to last, and the power of ten of the last one. -/
structure Digits where
  /-- The digits.  Zero has a single one. -/
  digits : List Char
  /-- The power of ten that the last digit counts. -/
  exponent : Int
  deriving DecidableEq, Repr

/-- The digits without the zeros at their end, of which each was worth one
power of ten. -/
def Digits.ofNat (value : Nat) (exponent : Int) : Digits :=
  let all := Nat.toDigits 10 value
  let kept := (all.reverse.dropWhile (· = '0')).reverse
  if kept.isEmpty then ⟨['0'], 0⟩ else ⟨kept, exponent + (all.length - kept.length : Nat)⟩

/-- The number of decimal digits, none for zero. -/
def digitCount (value : Nat) : Nat :=
  if value = 0 then 0 else (Nat.toDigits 10 value).length

/-- The power of ten of the first digit of a positive ratio. -/
def leadingPower (numerator denominator : Nat) : Int :=
  if denominator ≤ numerator then
    digitCount (numerator / denominator) - 1
  else
    -(digitCount ((denominator - 1) / numerator) : Nat)

/-- The reals that round to a magnitude, as a fraction each. -/
structure Interval where
  /-- The magnitude itself. -/
  value : Nat
  /-- The lower end. -/
  low : Nat
  /-- The upper end. -/
  high : Nat
  /-- What the three numbers are to be divided by. -/
  scale : Nat
  /-- Whether the ends round to the magnitude as well. -/
  closed : Bool

namespace Interval

/-- The interval of `mantissa * 2 ^ exponent`, in quarters of the last place. -/
def ofMagnitude (mantissa : Nat) (exponent : Int) (narrow : Bool) : Interval :=
  let quarter := exponent - 2
  let up := Nat.pow 2 quarter.toNat
  { value := 4 * mantissa * up
    low := (4 * mantissa - if narrow then 1 else 2) * up
    high := (4 * mantissa + 2) * up
    scale := Nat.pow 2 (-quarter).toNat
    closed := mantissa % 2 = 0 }

/-- Whether a fraction over the scale lies in the interval. -/
def contains (interval : Interval) (point : Nat) : Bool :=
  if interval.closed then
    interval.low ≤ point && point ≤ interval.high
  else
    interval.low < point && point < interval.high

/-- The interval with everything multiplied by a power of ten. -/
def scaleUp (interval : Interval) (power : Nat) : Interval :=
  { interval with
    value := interval.value * Nat.pow 10 power
    low := interval.low * Nat.pow 10 power
    high := interval.high * Nat.pow 10 power }

/-- A neighbour of the value on the grid of the multiples of `10 ^ power` that
lies in the interval, if there is one. -/
def onGrid? (interval : Interval) (power : Int) : Option Nat :=
  let raised := interval.scaleUp (-power).toNat
  let step := raised.scale * Nat.pow 10 power.toNat
  let below := raised.value / step
  let above := below + 1
  let belowFits := raised.contains (below * step)
  let aboveFits := raised.contains (above * step)
  let belowNearer := 2 * raised.value < (below + above) * step
  if belowFits && (belowNearer || !aboveFits) then some below
  else if aboveFits then some above
  else none

/-- The first grid of `count`, `count + 1`, … digits with a point in the
interval, of at most `more` further ones. -/
def shortestFrom (interval : Interval) (leading : Int) (count : Nat) : (more : Nat) → Digits
  | 0 => Digits.ofNat (interval.value / interval.scale) 0
  | more + 1 =>
      let power := leading - count + 1
      match interval.onGrid? power with
      | some point => Digits.ofNat point power
      | none => shortestFrom interval leading (count + 1) more

end Interval

/-- The shortest decimal of a magnitude. -/
def shortest (mantissa : Nat) (exponent : Int) (narrow : Bool) : Digits :=
  if mantissa = 0 then
    ⟨['0'], 0⟩
  else
    let interval := Interval.ofMagnitude mantissa exponent narrow
    interval.shortestFrom (leadingPower interval.value interval.scale) 1 17

end Chip8.Decimal
