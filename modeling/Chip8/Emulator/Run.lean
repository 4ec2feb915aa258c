import Chip8.Emulator.Frame

/-!
# Running

Frames one after another: a given number of them, or as many as it takes until
the user leaves or a frame fails.  The second need not end, so it is computed up
to a limit; a result that some limit gives is also given by every greater one.
Nothing here depends on the time that passes between two frames.
-/

namespace Chip8.Emulator

variable {η : Type} [Host η]

/-- At most `count` frames, fewer if the user leaves. -/
def runFrames : (count : Nat) → Action η Control
  | 0 => pure .proceed
  | count + 1 => do
      match ← frame with
      | .quit => pure .quit
      | _ => runFrames count

/-- Frames until the user leaves or a frame fails, if fewer than `limit` frames
come before that. -/
def untilDone : (limit : Nat) → Emulator η → Option (Except Failure Unit × Emulator η)
  | 0, _ => none
  | limit + 1, emulator =>
      match frame emulator with
      | (.ok .quit, after) => some (.ok (), after)
      | (.ok _, after) => untilDone limit after
      | (.error failure, after) => some (.error failure, after)

/-- A result found below some limit is found below every greater one. -/
theorem untilDone_add {limit : Nat} {emulator : Emulator η}
    {result : Except Failure Unit × Emulator η} (found : untilDone limit emulator = some result)
    (more : Nat) : untilDone (limit + more) emulator = some result := by
  induction limit generalizing emulator with
  | zero => cases found
  | succ limit ih =>
      rw [Nat.succ_add]
      unfold untilDone at found ⊢
      split at found
      case h_1 => exact found
      case h_2 => exact ih found
      case h_3 => exact found

/-- What is reported in front of the first frame. -/
def announce (emulator : Emulator η) : Emulator η :=
  { emulator with
    journal := .running emulator.frameRate emulator.stepsPerFrame :: emulator.journal }

/-- What follows the last frame: the tone is stopped, and its failure takes the
place of an earlier one. -/
def finish (outcome : Except Failure Unit) : Action η Unit := do
  silence
  let frames ← Action.read Emulator.frames
  Action.note (.stopped frames)
  match outcome with
  | .ok () => pure ()
  | .error failure => Action.fail failure

/-- Running until the user leaves or the program cannot go on, if fewer than
`limit` frames come before that. -/
def run (limit : Nat) (emulator : Emulator η) : Option (Except Failure Unit × Emulator η) :=
  (untilDone limit emulator.announce).map fun (outcome, after) => finish outcome after

end Chip8.Emulator
