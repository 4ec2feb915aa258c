import Chip8.Decimal.Binary

/-!
# Numerals

The texts that are read as floating-point numbers: a sign, digits with a point
among them or beside them, and a power of ten, or one of the words for infinity
and for no number.  A numeral of any length is rounded once, to the nearest
number.
-/

namespace Chip8.Decimal

/-- A numeral that has been read. -/
inductive Numeral where
  /-- The word for no number. -/
  | nan
  /-- A word for infinity. -/
  | infinite
  /-- The digits as one whole number, and the power of ten they count. -/
  | decimal (digits : Nat) (exponent : Int)
  deriving DecidableEq, Repr

/-- The value of a list of digits. -/
def digitsValue (digits : List Char) : Nat :=
  digits.foldl (fun value digit => value * 10 + (digit.toNat - '0'.toNat)) 0

/-- A whole number of one digit or more, with an optional sign. -/
def readExponent? (text : List Char) : Option Int :=
  let (negative, digits) :=
    match text with
    | '-' :: rest => (true, rest)
    | '+' :: rest => (false, rest)
    | rest => (false, rest)
  if digits.isEmpty || !digits.all Char.isDigit then none
  else if negative then some (-(digitsValue digits))
  else some (digitsValue digits)

/-- The digits before the point, those behind it, and what follows. -/
def splitMantissa (text : List Char) : List Char × List Char × List Char :=
  let (whole, rest) := text.span Char.isDigit
  match rest with
  | '.' :: rest =>
      let (fraction, rest) := rest.span Char.isDigit
      (whole, fraction, rest)
  | rest => (whole, [], rest)

namespace Numeral

/-- A numeral without a sign that is not a word. -/
def readDecimal? (text : List Char) : Option Numeral :=
  let (whole, fraction, rest) := splitMantissa text
  if whole.isEmpty && fraction.isEmpty then
    none
  else
    let digits := digitsValue (whole ++ fraction)
    match rest with
    | [] => some (.decimal digits (-fraction.length))
    | mark :: power =>
        if mark = 'e' || mark = 'E' then
          (readExponent? power).map fun power => .decimal digits (power - fraction.length)
        else
          none

/-- A numeral without a sign.  The words may be in capitals. -/
def readUnsigned? (text : List Char) : Option Numeral :=
  let word := String.ofList (text.map Char.toLower)
  if word = "nan" then some .nan
  else if word = "inf" || word = "infinity" then some .infinite
  else readDecimal? text

/-- The bits of the number nearest to a numeral.  A power of ten that no number
reaches is not computed. -/
def bits : Numeral → Nat
  | .nan => infinityBits + Nat.pow 2 51
  | .infinite => infinityBits
  | .decimal digits exponent =>
      let leading := (Nat.toDigits 10 digits).length + exponent
      if digits = 0 ∨ leading < -400 then 0
      else if 400 < leading then infinityBits
      else roundRatio (digits * Nat.pow 10 exponent.toNat) (Nat.pow 10 (-exponent).toNat)

/-- The number nearest to a numeral with a sign. -/
def toFloat (numeral : Numeral) (negative : Bool) : Float :=
  Float.ofBits (UInt64.ofNat ((if negative then Nat.pow 2 63 else 0) + numeral.bits))

end Numeral

/-- The floating-point number that a text stands for. -/
def read? (text : String) : Option Float :=
  match text.toList with
  | '-' :: rest => (Numeral.readUnsigned? rest).map (·.toFloat true)
  | '+' :: rest => (Numeral.readUnsigned? rest).map (·.toFloat false)
  | rest => (Numeral.readUnsigned? rest).map (·.toFloat false)

end Chip8.Decimal
