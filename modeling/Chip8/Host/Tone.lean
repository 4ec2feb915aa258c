/-!
# A silent tone

A tone that is never heard: it remembers whether it would sound, and how often it
was stopped.
-/

namespace Chip8

/-- A tone that is never heard. -/
structure Tone where
  /-- Whether the tone would sound. -/
  sounding : Bool := false
  /-- How often it was stopped. -/
  stops : Nat := 0
  deriving DecidableEq, Repr

namespace Tone

/-- The tone before anything was asked of it. -/
def silent : Tone := {}

/-- The tone after it was started. -/
def beep (tone : Tone) : Tone := { tone with sounding := true }

/-- The tone after it was stopped. -/
def stop (tone : Tone) : Tone := { tone with sounding := false, stops := tone.stops + 1 }

end Tone

end Chip8
