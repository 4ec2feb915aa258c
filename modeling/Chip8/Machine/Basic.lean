import Chip8.CallStack
import Chip8.Framebuffer.Basic
import Chip8.Instruction.Basic
import Chip8.Keypad
import Chip8.Memory.Program
import Chip8.Random.Stream

/-!
# The machine

The whole state that a program can see or change, and the operations on it that
are not instructions: reading and writing a register from outside, the keys, the
timers, loading a program, and taking notice that the screen was shown.

The call stack and the screen are not in memory, so a program owns all of it.
-/

namespace Chip8

/-- The state of the machine. -/
structure Machine where
  /-- The memory. -/
  memory : Memory
  /-- The registers `V0` to `VF`.  The last one also serves as the flag. -/
  registers : Vector UInt8 16
  /-- The index register `I`. -/
  index : UInt16
  /-- The address of the next instruction. -/
  pc : UInt16
  /-- The return addresses. -/
  stack : CallStack
  /-- The delay timer. -/
  delay : UInt8
  /-- The sound timer.  A tone is due while it is not zero. -/
  sound : UInt8
  /-- The screen. -/
  screen : Framebuffer
  /-- Whether the screen was drawn on since it was last shown. -/
  redraw : Bool
  /-- The keys as they were last reported. -/
  keypad : Keypad
  /-- Where random bytes come from. -/
  random : RandomStream

/-- What a tick of the timers may report. -/
inductive ToneEvent where
  /-- The sound timer has just run out. -/
  | stop
  deriving DecidableEq, Repr

namespace Machine

/-- The machine at power-on. -/
def powerOn (random : RandomStream) : Machine :=
  { memory := Memory.initial
    registers := Vector.replicate 16 0
    index := 0
    pc := Memory.programStart
    stack := CallStack.empty
    delay := 0
    sound := 0
    screen := Framebuffer.blank
    redraw := false
    keypad := Keypad.released
    random }

/-- The register that doubles as carry, borrow and collision flag. -/
def flag : Register := Fin.last 15

/-- The contents of a register. -/
def register (machine : Machine) (x : Register) : UInt8 := machine.registers[x]

/-- The machine with a register set. -/
def setRegister (machine : Machine) (x : Register) (byte : UInt8) : Machine :=
  { machine with registers := machine.registers.set x byte }

/-- The register that a number of any size names: only its last hexadecimal
digit counts. -/
def registerOfNat (number : Nat) : Register := ⟨number % 16, Nat.mod_lt number (by decide)⟩

/-- The machine with a key held or let go. -/
def setKey (machine : Machine) (key : UInt8) (held : Bool) : Machine :=
  { machine with keypad := machine.keypad.set key held }

/-- The machine with no key held. -/
def releaseAll (machine : Machine) : Machine :=
  { machine with keypad := Keypad.released }

/-- The machine after its screen was shown. -/
def clearRedraw (machine : Machine) : Machine :=
  { machine with redraw := false }

/-- Whether a tone is due. -/
def toneDue (machine : Machine) : Bool := machine.sound != 0

/-! ## Timers -/

/-- One tick of both timers.  They stop at zero, and the tick that takes the
sound timer there reports it. -/
def tick (machine : Machine) : Option ToneEvent × Machine :=
  let ticked :=
    { machine with
      delay := if machine.delay = 0 then 0 else machine.delay - 1
      sound := if machine.sound = 0 then 0 else machine.sound - 1 }
  (if machine.sound = 1 then some .stop else none, ticked)

/-! ## Loading -/

/-- Loading a program image.  Nothing but memory changes, and nothing at all if
the image does not fit. -/
def load (machine : Machine) (image : List UInt8) : Except LoadError Unit × Machine :=
  match machine.memory.load image with
  | .ok memory => (.ok (), { machine with memory })
  | .error error => (.error error, machine)

/-- Loading a program from a source, with the length of the program and what is
left of the source. -/
def loadFrom (machine : Machine) (source : ByteSource) :
    Except LoadError Nat × Machine × ByteSource :=
  match machine.memory.loadFrom source with
  | (.ok (memory, length), rest) => (.ok length, { machine with memory }, rest)
  | (.error error, rest) => (.error error, machine, rest)

/-! ## Registers -/

theorem register_setRegister (machine : Machine) (x y : Register) (byte : UInt8) :
    (machine.setRegister x byte).register y = if x = y then byte else machine.register y := by
  simp only [register, setRegister, Fin.getElem_fin, Vector.getElem_set, Fin.ext_iff]

end Machine

end Chip8
