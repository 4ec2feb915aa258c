import Chip8.Fault
import Chip8.Framebuffer.Sprite
import Chip8.Machine.Basic

/-!
# Executing instructions

What each instruction does to the machine once the program counter has moved on
to the next one.  `apply` covers all instructions that cannot fail.  A call and a
return may fail for want of a slot or of an address, and then they leave the
machine as it is; `execute` covers all.

An instruction that sets the flag reads both operands first, sets the flag next,
and writes its result last.  So where the flag register is also the destination,
the result is what stays.
-/

namespace Chip8

namespace Arithmetic

/-- The result of an operation on the contents of two registers. -/
def result : Arithmetic → UInt8 → UInt8 → UInt8
  | .move, _, b => b
  | .or, a, b => a ||| b
  | .and, a, b => a &&& b
  | .xor, a, b => a ^^^ b
  | .add, a, b => a + b
  | .sub, a, b => a - b

/-- The flag of an operation, for those that set it: a sum sets it on a carry,
and a difference where the first operand is the greater one. -/
def flag? : Arithmetic → UInt8 → UInt8 → Option UInt8
  | .add, a, b => some (if 255 < a.toNat + b.toNat then 1 else 0)
  | .sub, a, b => some (if b < a then 1 else 0)
  | _, _, _ => none

end Arithmetic

namespace Direction

/-- A byte shifted by one bit. -/
def result : Direction → UInt8 → UInt8
  | .right, a => a >>> 1
  | .left, a => a <<< 1

/-- The bit that a shift drops, at the place where it stood. -/
def flag : Direction → UInt8 → UInt8
  | .right, a => a &&& 0x01
  | .left, a => a &&& 0x80

end Direction

namespace Comparison

/-- Whether two bytes compare as wanted. -/
def holds : Comparison → UInt8 → UInt8 → Bool
  | .equal, a, b => a == b
  | .different, a, b => a != b

end Comparison

namespace Machine

/-- The address of the instruction under execution. -/
def currentAddress (machine : Machine) : UInt16 := machine.pc - 2

/-- The machine with the next instruction skipped under a condition. -/
def skipIf (machine : Machine) (condition : Bool) : Machine :=
  if condition then { machine with pc := machine.pc + 2 } else machine

/-- The machine with the flag register set, if there is something to set. -/
def setFlag? (machine : Machine) : Option UInt8 → Machine
  | some byte => machine.setRegister flag byte
  | none => machine

/-- Combining two registers. -/
def combine (machine : Machine) (operation : Arithmetic) (x y : Register) : Machine :=
  let a := machine.register x
  let b := machine.register y
  (machine.setFlag? (operation.flag? a b)).setRegister x (operation.result a b)

/-- Shifting a register. -/
def shift (machine : Machine) (direction : Direction) (x : Register) : Machine :=
  let a := machine.register x
  (machine.setRegister flag (direction.flag a)).setRegister x (direction.result a)

/-- Putting the next random byte under a mask into a register.  A word of the
stream is used up whatever the mask is. -/
def randomise (machine : Machine) (x : Register) (mask : UInt8) : Machine :=
  { machine.setRegister x (machine.random.byte &&& mask) with
    random := machine.random.advance }

/-- The places that a sprite turns over.  Its corner is taken modulo the size of
the screen, and its rows are the bytes at the index register. -/
def spritePlaces (machine : Machine) (x y : Register) (rows : Fin 16) : List (Nat × Nat) :=
  Framebuffer.spritePlaces
    ((machine.register x).toNat % Framebuffer.width)
    ((machine.register y).toNat % Framebuffer.height)
    (machine.memory.readAll rows.val machine.index)

/-- Drawing a sprite.  The flag tells whether a pixel was turned off. -/
def draw (machine : Machine) (x y : Register) (rows : Fin 16) : Machine :=
  let places := machine.spritePlaces x y rows
  let collided := machine.screen.collides places
  { machine.setRegister flag (if collided then 1 else 0) with
    screen := machine.screen.flipAll places
    redraw := true }

/-- Waiting for a key: the lowest one held goes to a register, and while none is
held the instruction is executed again. -/
def awaitKey (machine : Machine) (x : Register) : Machine :=
  match machine.keypad.first? with
  | some key => machine.setRegister x (UInt8.ofNat key.val)
  | none => { machine with pc := machine.currentAddress }

/-- The decimal digits of a byte: hundreds, tens and units. -/
def decimalDigits (byte : UInt8) : List UInt8 := [byte / 100, byte / 10 % 10, byte % 10]

/-- The registers up to `x`, in order. -/
def registersUpTo (machine : Machine) (x : Register) : List UInt8 :=
  machine.registers.toList.take (x.val + 1)

/-- The index register moved past a block that held the registers up to `x`. -/
def indexPast (machine : Machine) (x : Register) : UInt16 :=
  machine.index + UInt16.ofNat (x.val + 1)

/-- Storing the registers up to `x`. -/
def storeRegisters (machine : Machine) (x : Register) : Machine :=
  { machine with
    memory := machine.memory.writeAll (machine.registersUpTo x) machine.index
    index := machine.indexPast x }

/-- Loading the registers up to `x`. -/
def loadRegisters (machine : Machine) (x : Register) : Machine :=
  { machine with
    registers := Vector.ofFn fun r : Fin 16 =>
      if r ≤ x then machine.memory.read (machine.index + UInt16.ofNat r.val)
      else machine.register r
    index := machine.indexPast x }

/-- The machine after an instruction that cannot fail.  A call and a return are
left to `execute`. -/
def apply (machine : Machine) : Instruction → Machine
  | .clearScreen => { machine with screen := Framebuffer.blank, redraw := true }
  | .ret | .call _ => machine
  | .jump target => { machine with pc := UInt16.ofNat target.val }
  | .skipByte wanted x byte => machine.skipIf (wanted.holds (machine.register x) byte)
  | .skipRegister wanted x y =>
      machine.skipIf (wanted.holds (machine.register x) (machine.register y))
  | .loadByte x byte => machine.setRegister x byte
  | .addByte x byte => machine.setRegister x (machine.register x + byte)
  | .arithmetic operation x y => machine.combine operation x y
  | .shift direction x => machine.shift direction x
  | .loadIndex target => { machine with index := UInt16.ofNat target.val }
  | .random x mask => machine.randomise x mask
  | .draw x y rows => machine.draw x y rows
  | .skipKey held x => machine.skipIf (machine.keypad.isHeld (machine.register x) == held)
  | .loadDelay x => machine.setRegister x machine.delay
  | .waitKey x => machine.awaitKey x
  | .setDelay x => { machine with delay := machine.register x }
  | .setSound x => { machine with sound := machine.register x }
  | .addIndex x => { machine with index := machine.index + (machine.register x).toUInt16 }
  | .loadGlyph x => { machine with index := Memory.glyphAddress (machine.register x) }
  | .storeDecimal x =>
      { machine with
        memory := machine.memory.writeAll (decimalDigits (machine.register x)) machine.index }
  | .storeRegisters x => machine.storeRegisters x
  | .loadRegisters x => machine.loadRegisters x

/-- Calling a subroutine.  The return address is that of the next instruction. -/
def call (machine : Machine) (target : Fin 4096) : Except Fault Unit × Machine :=
  match machine.stack.push? machine.pc with
  | some stack => (.ok (), { machine with stack, pc := UInt16.ofNat target.val })
  | none => (.error (.stackOverflow machine.currentAddress), machine)

/-- Returning from a subroutine. -/
def ret (machine : Machine) : Except Fault Unit × Machine :=
  match machine.stack.pop? with
  | some (address, stack) => (.ok (), { machine with stack, pc := address })
  | none => (.error (.stackUnderflow machine.currentAddress), machine)

/-- Executing an instruction. -/
def execute (machine : Machine) : Instruction → Except Fault Unit × Machine
  | .call target => machine.call target
  | .ret => machine.ret
  | instruction => (.ok (), machine.apply instruction)

/-! ## Blocks of registers -/

theorem length_registersUpTo (machine : Machine) (x : Register) :
    (machine.registersUpTo x).length = x.val + 1 := by
  rw [registersUpTo, List.length_take, Vector.length_toList]
  omega

end Machine

end Chip8
