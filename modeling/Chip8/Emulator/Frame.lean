import Chip8.Emulator.Basic

/-!
# Frames

One frame polls the host, does what the user wants, runs a batch of steps, shows
the screen if it was drawn on, brings the tone in line with the sound timer, and
ticks the timers.  A paused frame runs no step and no tick, but it still polls
and shows.

The keypad changes only between two batches.  The tone is stopped as soon as a
batch leaves the sound timer at zero, when a pause begins, and when the program
faults.  Leaving ends a frame at once.
-/

namespace Chip8.Emulator

variable {η : Type} [Host η]

/-- Polling the host. -/
def poll : Action η Control := fun emulator =>
  let polled := Host.poll emulator.machine.keypad emulator.host
  let after :=
    { emulator with
      machine := { emulator.machine with keypad := polled.keypad }
      host := polled.host
      journal := polled.notices.reverse ++ emulator.journal }
  match polled.answer with
  | .ok control => (.ok control, after)
  | .error error => (.error (.host error), after)

/-- Stopping the tone if it sounds. -/
def silence : Action η Unit := do
  let beeping ← Action.read fun emulator : Emulator η => Host.isBeeping emulator.host
  Action.when beeping (Action.request Host.stop)

/-- Showing the screen. -/
def showScreen : Action η Unit := fun emulator =>
  Action.request (Host.draw emulator.machine.screen) emulator

/-- Pausing, or going on after a pause.  The screen is shown again, so that the
pause can be seen at once. -/
def togglePause : Action η Unit := do
  Action.update fun emulator => { emulator with paused := !emulator.paused }
  let paused ← Action.read Emulator.paused
  Action.note (.paused paused)
  Action.when paused silence
  Action.update fun emulator => { emulator with host := Host.showPaused paused emulator.host }
  showScreen

/-- Keeping a picture of the screen, and telling where.  Where that fails the
action still succeeds, and gives the failure as its result. -/
def keepScreen : Action η (Except IoError String) := fun emulator =>
  match Host.save emulator.machine.screen emulator.host with
  | (.ok path, host) =>
      (.ok (.ok path), { emulator with host, journal := .saved path :: emulator.journal })
  | (.error error, host) => (.ok (.error error), { emulator with host })

/-- Doing what the user wants, as far as it is not leaving. -/
def respond : Control → Action η Unit
  | .togglePause => togglePause
  | .screenshot => do
      match ← keepScreen with
      | .ok _ => pure ()
      | .error error => Action.note (.notSaved error)
  | .proceed | .quit => pure ()

/-- A batch of steps, with the fault that ended it. -/
def runBatch : Action η (Option Fault) := fun emulator =>
  let batch := emulator.machine.batch emulator.stepsPerFrame
  (.ok batch.fault?,
    { emulator with
      machine := batch.machine
      journal := batch.notices ++ emulator.journal })

/-- The steps of a frame.  Behind a fault, and where no tone is due any more, the
tone is stopped. -/
def compute : Action η Unit := do
  match ← runBatch with
  | some fault => do
      Action.note (.halting fault)
      silence
      Action.fail (.fault fault)
  | none => do
      let due ← Action.read fun emulator : Emulator η => emulator.machine.toneDue
      Action.when (!due) silence

/-- Showing the screen if it was drawn on. -/
def present : Action η Unit := do
  let redraw ← Action.read fun emulator : Emulator η => emulator.machine.redraw
  Action.when redraw do
    showScreen
    Action.update fun emulator => emulator.withMachine emulator.machine.clearRedraw

/-- Ticking the timers. -/
def tick : Action η (Option ToneEvent) := fun emulator =>
  match emulator.machine.tick with
  | (event, machine) => (.ok event, emulator.withMachine machine)

/-- Starting the tone if one is due and none sounds, ticking the timers, and
stopping the tone when the sound timer runs out. -/
def keepTime : Action η Unit := do
  let needed ← Action.read fun emulator : Emulator η =>
    emulator.machine.toneDue && !Host.isBeeping emulator.host
  Action.when needed (Action.request Host.beep)
  match ← tick with
  | some .stop => Action.request Host.stop
  | none => pure ()

/-- Everything in a frame behind the poll. -/
def finishFrame (control : Control) : Action η Control := do
  respond control
  let paused ← Action.read Emulator.paused
  Action.when (!paused) compute
  present
  Action.when (!paused) keepTime
  Action.update fun emulator => { emulator with frames := emulator.frames + 1 }
  pure control

/-- One frame, with what the user wanted. -/
def frame : Action η Control := do
  match ← poll with
  | .quit => pure .quit
  | control => finishFrame control

end Chip8.Emulator
