import Chip8.Host.Album
import Chip8.Host.Tone
import Chip8.Terminal.Keyboard
import Chip8.Terminal.Screen

/-!
# Consoles

A console is the host that a terminal makes: its keyboard brings the keys, its
screen shows the picture, and the tone is silent.
-/

namespace Chip8.Terminal

/-- A terminal as a host. -/
structure Console where
  /-- The keys held. -/
  keyboard : Keyboard
  /-- The events that wait to be taken. -/
  queue : Queue
  /-- What is shown. -/
  display : Display
  /-- The tone. -/
  tone : Tone
  /-- The screenshots. -/
  album : Album

namespace Console

/-- A poll of the console. -/
def poll (keypad : Keypad) (console : Console) : Polled Console :=
  let taken := console.keyboard.poll console.queue
  { answer := taken.answer
    keypad := Keyboard.keypadAfter taken keypad
    notices := taken.notices
    host := { console with keyboard := taken.keyboard, queue := taken.rest } }

/-- Drawing a picture, if the terminal has room for it. -/
def draw (frame : Framebuffer) (console : Console) : Except IoError Unit × Console :=
  match console.display.draw? frame with
  | some display => (.ok (), { console with display })
  | none => (.error .noRoom, console)

instance : Host Console where
  poll := poll
  draw := draw
  showPaused paused console := { console with display := console.display.showPaused paused }
  beep console := (.ok (), { console with tone := console.tone.beep })
  stop console := (.ok (), { console with tone := console.tone.stop })
  isBeeping console := console.tone.sounding
  save frame console :=
    let (outcome, album) := console.album.save frame.toPicture
    (outcome, { console with album })

end Console

end Chip8.Terminal
