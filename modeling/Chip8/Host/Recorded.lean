import Chip8.Host.Basic

/-!
# Recorded hosts

Any host can be wrapped in one that writes down every request with its outcome
and otherwise does the same.  What a program shows and sounds is then a value: the
list of the calls.
-/

namespace Chip8

/-- A request to a host, and what came of it. -/
inductive Call where
  /-- A poll, with its answer. -/
  | poll (answer : Except IoError Control)
  /-- A screen to be shown, and whether it was. -/
  | draw (frame : Framebuffer) (shown : Bool)
  /-- Whether the program is paused. -/
  | showPaused (paused : Bool)
  /-- The start of the tone, and whether it succeeded. -/
  | beep (started : Bool)
  /-- The stop of the tone, and whether it succeeded. -/
  | stop (stopped : Bool)
  /-- A picture to be kept, and whether it was. -/
  | save (frame : Framebuffer) (kept : Bool)

/-- A host with a record of the requests made to it. -/
structure Recorded (η : Type) where
  /-- The host that answers the requests. -/
  inner : η
  /-- The requests so far, newest first. -/
  calls : List Call

namespace Recorded

variable {η : Type}

/-- A host with nothing recorded. -/
def start (inner : η) : Recorded η := ⟨inner, []⟩

/-- A host with the record dropped. -/
def fresh (host : Recorded η) : Recorded η := { host with calls := [] }

/-- A request that is recorded with its success. -/
def request {α : Type} (host : Recorded η) (ask : η → Except IoError α × η)
    (call : Bool → Call) : Except IoError α × Recorded η :=
  match ask host.inner with
  | (.ok result, inner) => (.ok result, ⟨inner, call true :: host.calls⟩)
  | (.error error, inner) => (.error error, ⟨inner, call false :: host.calls⟩)

instance [Host η] : Host (Recorded η) where
  poll keypad host :=
    let polled := Host.poll keypad host.inner
    { answer := polled.answer
      keypad := polled.keypad
      notices := polled.notices
      host := ⟨polled.host, .poll polled.answer :: host.calls⟩ }
  draw frame host := host.request (Host.draw frame) (.draw frame)
  showPaused paused host :=
    ⟨Host.showPaused paused host.inner, .showPaused paused :: host.calls⟩
  beep host := host.request Host.beep .beep
  stop host := host.request Host.stop .stop
  isBeeping host := Host.isBeeping host.inner
  save frame host := host.request (Host.save frame) (.save frame)

end Recorded

end Chip8
