import Chip8.Host.Basic
import Chip8.Machine.Step

/-!
# The emulator

An emulator is a machine with a host around it, a number of steps a frame, and
the knowledge of whether it is paused and how many frames it has run.

An action changes the emulator and either gives a result or fails.  A failure
keeps the changes made up to it, so the state behind a failed action is as much
part of its meaning as the state behind one that succeeds.  Actions run one
after another until one fails: `Action.bind_apply`.
-/

namespace Chip8

/-- A machine with a host around it. -/
structure Emulator (η : Type) where
  /-- The machine. -/
  machine : Machine
  /-- The host. -/
  host : η
  /-- The number of instructions a frame. -/
  stepsPerFrame : Nat
  /-- The number of frames a second. -/
  frameRate : Float
  /-- Whether the program is paused. -/
  paused : Bool
  /-- The number of frames that were completed. -/
  frames : Nat
  /-- What was reported so far, newest first. -/
  journal : List Notice

/-- Why an action failed. -/
inductive Failure where
  /-- The program cannot go on. -/
  | fault (cause : Fault)
  /-- The host failed. -/
  | host (error : IoError)
  deriving DecidableEq, Repr

namespace Failure

/-- The text shown to the user. -/
def message : Failure → String
  | .fault cause => cause.message
  | .host error => error.message

/-- The diagnostic form. -/
def record : Failure → Record
  | .fault cause => cause.record
  | .host error => error.record

end Failure

/-- Something an emulator does. -/
def Action (η α : Type) : Type := Emulator η → Except Failure α × Emulator η

namespace Action

variable {η α β : Type}

/-- The action that changes nothing. -/
def pure (result : α) : Action η α := fun emulator => (.ok result, emulator)

/-- An action, and behind it another one that uses its result, unless the first
one fails. -/
def bind (action : Action η α) (next : α → Action η β) : Action η β := fun emulator =>
  match action emulator with
  | (.ok result, after) => next result after
  | (.error failure, after) => (.error failure, after)

instance : Monad (Action η) where
  pure := pure
  bind := bind

theorem pure_apply (result : α) (emulator : Emulator η) :
    (Pure.pure result : Action η α) emulator = (.ok result, emulator) := rfl

theorem bind_apply (action : Action η α) (next : α → Action η β) (emulator : Emulator η) :
    (action >>= next) emulator =
      match action emulator with
      | (.ok result, after) => next result after
      | (.error failure, after) => (.error failure, after) := rfl

/-- The action that fails. -/
def fail (failure : Failure) : Action η α := fun emulator => (.error failure, emulator)

/-- A look at the emulator. -/
def read (look : Emulator η → α) : Action η α := fun emulator => (.ok (look emulator), emulator)

/-- A change of the emulator. -/
def update (change : Emulator η → Emulator η) : Action η Unit := fun emulator =>
  (.ok (), change emulator)

/-- An action under a condition. -/
def when (condition : Bool) (action : Action η Unit) : Action η Unit :=
  if condition then action else pure ()

/-- A report. -/
def note (notice : Notice) : Action η Unit :=
  update fun emulator => { emulator with journal := notice :: emulator.journal }

/-- A request to the host that may fail. -/
def request (ask : η → Except IoError Unit × η) : Action η Unit := fun emulator =>
  match ask emulator.host with
  | (.ok (), host) => (.ok (), { emulator with host })
  | (.error error, host) => (.error (.host error), { emulator with host })

end Action

namespace Emulator

variable {η : Type}

/-- The emulator before the first frame.  The random numbers come from the seed
of the settings or, if there is none, from elsewhere. -/
def start (settings : Settings) (elsewhere : RandomStream) (host : η) : Emulator η :=
  { machine := Machine.powerOn ((settings.seed.map RandomStream.ofSeed).getD elsewhere)
    host
    stepsPerFrame := settings.stepsPerFrame
    frameRate := settings.frameRate
    paused := false
    frames := 0
    journal := [] }

/-- The emulator with another machine. -/
def withMachine (emulator : Emulator η) (machine : Machine) : Emulator η :=
  { emulator with machine }

/-- Loading a program from a source, of which nothing more is wanted. -/
def load (emulator : Emulator η) (source : ByteSource) : Except LoadError Unit × Emulator η :=
  match emulator.machine.loadFrom source with
  | (outcome, machine, _) =>
      (outcome.map fun _ => (),
        { emulator with
          machine
          journal := Machine.loadNotices outcome ++ emulator.journal })

end Emulator

end Chip8
