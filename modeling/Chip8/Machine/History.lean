import Chip8.Machine.Step

/-!
# Histories

Everything that can be done to a machine, as data: the two moves of its own
clockwork, a step and a tick, and what comes from outside.  Each operation has an
answer, and a history is a list of operations.

Histories compose: `after_append`.
-/

namespace Chip8

/-- Something that is done to a machine. -/
inductive Operation where
  /-- Execute one instruction. -/
  | step
  /-- Tick the timers. -/
  | tick
  /-- Load a program image. -/
  | load (image : List UInt8)
  /-- Load a program from a source. -/
  | loadFrom (source : ByteSource)
  /-- Hold a key or let it go. -/
  | setKey (key : UInt8) (held : Bool)
  /-- Let all keys go. -/
  | releaseAll
  /-- Set a register. -/
  | setRegister (x : Register) (byte : UInt8)
  /-- Take notice that the screen was shown. -/
  | clearRedraw
  deriving DecidableEq, Repr

/-- What comes of an operation. -/
inductive Answer where
  /-- It was done. -/
  | done
  /-- The timers ticked. -/
  | ticked (event : Option ToneEvent)
  /-- The instruction could not be executed. -/
  | fault (cause : Fault)
  /-- The program could not be loaded. -/
  | refused (error : LoadError)
  deriving DecidableEq, Repr

/-- The answer of a step. -/
def Answer.ofStep : Except Fault Unit → Answer
  | .ok () => .done
  | .error cause => .fault cause

/-- The answer of a load. -/
def Answer.ofLoad {α : Type} : Except LoadError α → Answer
  | .ok _ => .done
  | .error error => .refused error

namespace Machine

/-- Doing one thing to a machine. -/
def perform (machine : Machine) : Operation → Answer × Machine
  | .step => machine.step.map Answer.ofStep id
  | .tick => machine.tick.map .ticked id
  | .load image => (machine.load image).map Answer.ofLoad id
  | .loadFrom source => (machine.loadFrom source).map Answer.ofLoad Prod.fst
  | .setKey key held => (.done, machine.setKey key held)
  | .releaseAll => (.done, machine.releaseAll)
  | .setRegister x byte => (.done, machine.setRegister x byte)
  | .clearRedraw => (.done, machine.clearRedraw)

/-- What an operation is reported with. -/
def notices (machine : Machine) : Operation → List Notice
  | .step => machine.stepNotices
  | .load image => loadNotices ((machine.load image).1.map fun _ => image.length)
  | .loadFrom source => loadNotices (machine.loadFrom source).1
  | .setKey key _ => Notice.ofKey key
  | .tick | .releaseAll | .setRegister _ _ | .clearRedraw => []

/-- The machine behind a history. -/
def after (machine : Machine) (history : List Operation) : Machine :=
  history.foldl (fun machine operation => (machine.perform operation).2) machine

/-- The answers of a history, first to last. -/
def answers (machine : Machine) : (history : List Operation) → List Answer
  | [] => []
  | operation :: rest =>
      (machine.perform operation).1 :: answers (machine.perform operation).2 rest
termination_by structural history => history

/-! ## Histories one behind another -/

theorem after_cons (machine : Machine) (operation : Operation) (rest : List Operation) :
    machine.after (operation :: rest) = (machine.perform operation).2.after rest := rfl

theorem after_append (machine : Machine) (history later : List Operation) :
    machine.after (history ++ later) = (machine.after history).after later :=
  List.foldl_append ..

end Machine

end Chip8
