import Chip8.Decimal.Layout

/-!
# Settings

Everything that is chosen before a program starts.  `check` refuses settings
under which no frame could be run; it looks at the number of steps first.
-/

namespace Chip8

/-- The choices made before a program starts. -/
structure Settings where
  /-- Where the program is read from. -/
  program : String := ""
  /-- The number of instructions a frame. -/
  stepsPerFrame : Nat := 9
  /-- The number of frames, and of timer ticks, a second. -/
  frameRate : Float := 60
  /-- Fixes the random numbers. -/
  seed : Option UInt64 := none
  /-- Whether the tone is made audible. -/
  beep : Bool := false
  /-- The number of polls for which a key counts as held after a key press. -/
  keyHold : Nat := 6
  /-- Where screenshots are put. -/
  screenshotDirectory : String := "."

/-- Why settings are refused. -/
inductive SettingsError where
  /-- A frame would have no instruction. -/
  | noSteps
  /-- The frame rate is not a positive finite number. -/
  | badFrameRate (rate : Float)

/-- Frame rates are shown in full, and whole ones without a point. -/
def Settings.rateLayout : Decimal.Layout :=
  { isPositional := fun _ => true
    keepsPoint := false }

/-- In diagnostics a frame rate keeps its point, and is written with an exponent
from 10 ^ 16 on and below 10 ^ -4. -/
def Settings.diagnosticLayout : Decimal.Layout :=
  { isPositional := fun leading => -4 ≤ leading && leading < 16
    keepsPoint := true }

namespace SettingsError

/-- The text shown to the user. -/
def message : SettingsError → String
  | .noSteps => "steps per frame must be at least 1"
  | .badFrameRate rate =>
      "frame rate must be positive, got " ++ Decimal.write Settings.rateLayout rate

/-- The diagnostic form. -/
def diagnostic : SettingsError → String
  | .noSteps => "NoSteps"
  | .badFrameRate rate =>
      "BadFrameRate(" ++ Decimal.write Settings.diagnosticLayout rate ++ ")"

end SettingsError

namespace Settings

/-- Whether a program can be run under these settings. -/
def check (settings : Settings) : Except SettingsError Unit :=
  if settings.stepsPerFrame = 0 then
    .error .noSteps
  else if settings.frameRate.isFinite && settings.frameRate > 0 then
    .ok ()
  else
    .error (.badFrameRate settings.frameRate)

/-- A frame rate as it is shown to the user. -/
def rateText (rate : Float) : String := Decimal.write rateLayout rate

end Settings

end Chip8
