import Chip8.Host.Album
import Chip8.Host.Basic
import Chip8.Host.Tone

/-!
# A host without a terminal

A host that holds down the same keys at every poll, hands out a list of wishes
one a poll, and remembers what it was asked to show.  None of its requests fails
but the keeping of screenshots.
-/

namespace Chip8

/-- A host without a terminal. -/
structure Headless where
  /-- The keys held at every poll. -/
  held : List UInt8
  /-- The wishes still to be handed out. -/
  controls : List Control
  /-- How many screens were shown. -/
  drawn : Nat
  /-- The screen shown last. -/
  shown? : Option Framebuffer
  /-- Whether the program was last shown as paused. -/
  showsPaused : Bool
  /-- The tone. -/
  tone : Tone
  /-- The screenshots. -/
  album : Album

namespace Headless

/-- The host before the first request. -/
def start (held : List UInt8) (controls : List Control) (album : Album) : Headless :=
  { held, controls, drawn := 0, shown? := none, showsPaused := false, tone := Tone.silent, album }

/-- The keypad with these keys held and no other. -/
def keypad (held : List UInt8) : Keypad := held.foldl Keypad.press Keypad.released

/-- A poll of the host. -/
def poll (host : Headless) : Polled Headless :=
  { answer := .ok (host.controls.head?.getD .proceed)
    keypad := keypad host.held
    notices := host.held.flatMap Notice.ofKey
    host := { host with controls := host.controls.tail } }

instance : Host Headless where
  poll _ host := host.poll
  draw frame host := (.ok (), { host with drawn := host.drawn + 1, shown? := some frame })
  showPaused paused host := { host with showsPaused := paused }
  beep host := (.ok (), { host with tone := host.tone.beep })
  stop host := (.ok (), { host with tone := host.tone.stop })
  isBeeping host := host.tone.sounding
  save frame host :=
    let (outcome, album) := host.album.save frame.toPicture
    (outcome, { host with album })

end Headless

end Chip8
