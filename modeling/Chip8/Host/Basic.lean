import Chip8.Framebuffer.Basic
import Chip8.Journal
import Chip8.Keypad

/-!
# Hosts

A host is everything around the machine: it brings the keys up to date, shows
the screen, sounds the tone and keeps screenshots.  Its state is a value that
every request may replace, and most requests may fail, which replaces the state
as well.  Nothing more is assumed of a host.
-/

namespace Chip8

/-- What the user wants of the emulator itself. -/
inductive Control where
  /-- Go on. -/
  | proceed
  /-- Pause, or go on after a pause. -/
  | togglePause
  /-- Keep a picture of the screen. -/
  | screenshot
  /-- Leave. -/
  | quit
  deriving DecidableEq, Repr

/-- What a poll of the host brings. -/
structure Polled (η : Type) where
  /-- What the user wants, unless the poll failed. -/
  answer : Except IoError Control
  /-- The keypad, changed also where the poll failed behind the change. -/
  keypad : Keypad
  /-- What the poll reports, first to last. -/
  notices : List Notice
  /-- The host behind the poll. -/
  host : η

/-- What an emulator can ask of a host. -/
class Host (η : Type) where
  /-- Bring the keypad up to date. -/
  poll : Keypad → η → Polled η
  /-- Show a screen. -/
  draw : Framebuffer → η → Except IoError Unit × η
  /-- Show whether the program is paused. -/
  showPaused : Bool → η → η
  /-- Start the tone. -/
  beep : η → Except IoError Unit × η
  /-- Stop the tone. -/
  stop : η → Except IoError Unit × η
  /-- Whether the tone sounds. -/
  isBeeping : η → Bool
  /-- Keep a picture of a screen, and tell where. -/
  save : Framebuffer → η → Except IoError String × η

end Chip8
