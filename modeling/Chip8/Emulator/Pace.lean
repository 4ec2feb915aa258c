/-!
# The pace

A run keeps a pace: each frame begins one period behind the one before, and the
period is a second divided by the frame rate.

A pace can fail in two ways.  Periods are counted with 64 bits of whole seconds,
so there is none that is negative or has `2 ^ 64` seconds: `isKept`.  At an
infinite rate the period is zero, and at a rate that is no number there is none
either.  And a clock counts only `2 ^ 63` seconds, so the time of the next frame
may lie behind its end: `isReached`.
-/

namespace Chip8.Pace

/-- The seconds from the beginning of a frame to the beginning of the next. -/
def period (rate : Float) : Float := 1 / rate

/-- The first number of seconds that is too great for a period. -/
def periodLimit : Float := 18446744073709551616

/-- Whether there is a period for a frame rate. -/
def isKept (rate : Float) : Bool := 0 ≤ period rate && period rate < periodLimit

/-- The first second that a clock does not show. -/
def clockLimit : Nat := 9223372036854775808

/-- Whether a clock that shows `now` at the beginning of a frame will ever show
the beginning of the next one. -/
def isReached (rate : Float) (now : Nat) : Bool :=
  now + (period rate).toUInt64.toNat < clockLimit

end Chip8.Pace
