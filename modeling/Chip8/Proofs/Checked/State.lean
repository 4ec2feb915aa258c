import Chip8.Machine.History
import Chip8.Proofs.Checked.Order

/-!
# The machine with all checks

The state of the machine in plain storage: arrays of any size, and numbers without bounds for
the depth of the call stack and for the positions in arrays.  Every access to an array is
checked here, and so is every sum, product, difference and shift, but for those that are meant
to wrap around or to stop at zero.

Each operation does what it does in small steps, one after another: a block is written byte by
byte, the registers are stored one by one, and a sprite is drawn bit by bit.
-/

namespace Chip8.Checked

/-- The state of the machine in plain storage. -/
structure State where
  /-- The bytes of memory. -/
  memory : Array UInt8
  /-- The registers. -/
  registers : Array UInt8
  /-- The index register. -/
  index : UInt16
  /-- The address of the next instruction. -/
  pc : UInt16
  /-- The slots of the call stack. -/
  stack : Array UInt16
  /-- The number of live slots. -/
  depth : Nat
  /-- The delay timer. -/
  delay : UInt8
  /-- The sound timer. -/
  sound : UInt8
  /-- The pixels of the screen, row by row. -/
  pixels : Array Bool
  /-- Whether the screen was drawn on since it was last shown. -/
  redraw : Bool
  /-- One flag a key. -/
  keys : Array Bool
  /-- Where random bytes come from. -/
  random : RandomStream

/-! ## Memory -/

/-- The position of the byte at an address. -/
def wrap (address : UInt16) : Nat := address.toNat % 4096

/-- The byte at an address. -/
def readByte (memory : Array UInt8) (address : UInt16) : Checked UInt8 :=
  fetch memory (wrap address)

/-- Memory with the byte at an address replaced. -/
def writeByte (memory : Array UInt8) (address : UInt16) (byte : UInt8) : Checked (Array UInt8) :=
  store memory (wrap address) byte

/-- The word at an address, its high byte first. -/
def readWord (memory : Array UInt8) (address : UInt16) : Checked UInt16 := do
  let high ← readByte memory address
  let shifted ← shiftLeft 16 high.toNat 8
  let low ← readByte memory (address + 1)
  return UInt16.ofNat (shifted ||| low.toNat)

/-- Memory with a block written that stands `offset` bytes above an address. -/
def writeBlock (memory : Array UInt8) (address : UInt16) (offset : Nat) :
    (block : List UInt8) → Checked (Array UInt8)
  | [] => return memory
  | byte :: rest => do
      let memory ← writeByte memory (address + UInt16.ofNat offset) byte
      let offset ← plus 16 offset 1
      writeBlock memory address offset rest
termination_by structural block => block

/-- The length of the longest program. -/
def programLimit : Checked Nat := minus 4096 Memory.programStart.toNat

/-- Memory with a program image loaded, unless it is too large. -/
def loadImage (memory : Array UInt8) (image : List UInt8) :
    Checked (Except LoadError (Array UInt8)) := do
  let limit ← programLimit
  if limit < image.length then
    return .error (.tooLarge image.length)
  else
    return .ok (← writeBlock memory Memory.programStart 0 image)

/-! ## The screen -/

/-- The position of a pixel, if it is on the screen. -/
def position (x y : Nat) : Checked (Option Nat) := do
  if x < 64 ∧ y < 32 then
    let row ← times 16 y 64
    return some (← plus 16 row x)
  else
    return none

/-- The pixels with one of them turned over, and whether it was on if there is one. -/
def flip (pixels : Array Bool) (x y : Nat) : Checked (Option Bool × Array Bool) := do
  match ← position x y with
  | none => return (none, pixels)
  | some i =>
      let wasOn ← fetch pixels i
      return (some wasOn, ← store pixels i (!wasOn))

namespace State

variable (state : State)

/-! ## Registers -/

/-- The contents of a register. -/
def register (x : Nat) : Checked UInt8 := fetch state.registers x

/-- The state with a register set. -/
def setRegister (x : Nat) (byte : UInt8) : Checked State :=
  return { state with registers := ← store state.registers x byte }

/-- The position of the flag register. -/
def flag : Nat := 0xF

/-- The state with the flag set, if there is something to set. -/
def setFlag? : Option UInt8 → Checked State
  | some byte => state.setRegister flag byte
  | none => return state

/-! ## Keys -/

/-- Whether a key is held.  A key that there is not is never held. -/
def isHeld (key : UInt8) : Bool := state.keys[key.toNat]?.getD false

/-- The state with a key held or let go, if there is such a key. -/
def setKey (key : UInt8) (held : Bool) : State :=
  { state with keys := state.keys.setIfInBounds key.toNat held }

/-- The state with no key held. -/
def releaseAll : State := { state with keys := Array.replicate 16 false }

/-- The lowest key held. -/
def first? : Option UInt8 := (state.keys.findIdx? id).map UInt8.ofNat

/-! ## Instructions -/

/-- The address of the instruction under execution. -/
def currentAddress : UInt16 := state.pc - 2

/-- The state with the next instruction skipped under a condition. -/
def skipIf (condition : Bool) : State :=
  if condition then { state with pc := state.pc + 2 } else state

/-- The state with a byte of memory replaced. -/
def write (address : UInt16) (byte : UInt8) : Checked State :=
  return { state with memory := ← writeByte state.memory address byte }

/-- Combining two registers. -/
def combine (operation : Arithmetic) (x y : Nat) : Checked State := do
  let a ← state.register x
  let b ← state.register y
  let state ← state.setFlag? (operation.flag? a b)
  state.setRegister x (operation.result a b)

/-- A byte shifted by one bit. -/
def shifted : Direction → UInt8 → Checked UInt8
  | .right, a => return UInt8.ofNat (← shiftRight 8 a.toNat 1)
  | .left, a => return UInt8.ofNat (← shiftLeft 8 a.toNat 1)

/-- Shifting a register. -/
def shift (direction : Direction) (x : Nat) : Checked State := do
  let a ← state.register x
  let state ← state.setRegister flag (direction.flag a)
  state.setRegister x (← shifted direction a)

/-- Turning a pixel over.  The flag is set where it was on. -/
def turn (x y : Nat) : Checked State := do
  match ← flip state.pixels x y with
  | (some true, pixels) => setRegister { state with pixels } flag 1
  | (_, pixels) => return { state with pixels }

/-- Drawing one bit of a sprite row. -/
def drawBit (bits : UInt8) (left top row column : Nat) : Checked State := do
  let mask ← shiftRight 8 0x80 column
  if bits.toNat &&& mask = 0 then
    return state
  else
    let x ← plus 16 left column
    let y ← plus 16 top row
    state.turn x y

/-- Drawing one row of a sprite. -/
def drawRow (left top row : Nat) : Checked State := do
  let bits ← readByte state.memory (state.index + UInt16.ofNat row)
  (List.range 8).foldlM (fun state column => state.drawBit bits left top row column) state

/-- Drawing a sprite. -/
def draw (x y rows : Nat) : Checked State := do
  let left := (← state.register x).toNat % 64
  let top := (← state.register y).toNat % 32
  let state ← state.setRegister flag 0
  let state ← (List.range rows).foldlM (fun state row => state.drawRow left top row) state
  return { state with redraw := true }

/-- Waiting for a key. -/
def awaitKey (x : Nat) : Checked State :=
  match state.first? with
  | some key => state.setRegister x key
  | none => return { state with pc := state.currentAddress }

/-- The address of a glyph. -/
def glyphAddress (digit : UInt8) : Checked UInt16 := do
  let distance ← times 16 digit.toNat Memory.glyphHeight.toNat
  return UInt16.ofNat (← plus 16 Memory.fontStart.toNat distance)

/-- Storing the decimal digits of a register. -/
def storeDecimal (x : Nat) : Checked State := do
  let byte ← state.register x
  let state ← state.write state.index (byte / 100)
  let state ← state.write (state.index + 1) (byte / 10 % 10)
  state.write (state.index + 2) (byte % 10)

/-- The state with the index register moved past a block that holds the registers up to `x`. -/
def moveIndex (x : Nat) : Checked State := do
  let length ← plus 16 (UInt16.ofNat x).toNat 1
  return { state with index := state.index + UInt16.ofNat length }

/-- Storing one register, as many bytes above the index register as its number is. -/
def storeOne (r : Nat) : Checked State := do
  state.write (state.index + UInt16.ofNat r) (← state.register r)

/-- Storing the registers up to `x`. -/
def storeRegisters (x : Nat) : Checked State := do
  let state ← (List.range (x + 1)).foldlM (fun state r => state.storeOne r) state
  state.moveIndex x

/-- Loading one register. -/
def loadOne (r : Nat) : Checked State := do
  state.setRegister r (← readByte state.memory (state.index + UInt16.ofNat r))

/-- Loading the registers up to `x`. -/
def loadRegisters (x : Nat) : Checked State := do
  let state ← (List.range (x + 1)).foldlM (fun state r => state.loadOne r) state
  state.moveIndex x

/-- The state after an order that cannot fail. -/
def apply : Order → Checked State
  | .clearScreen =>
      return { state with pixels := Array.replicate state.pixels.size false, redraw := true }
  | .ret | .call _ => return state
  | .jump target => return { state with pc := target }
  | .skipByte wanted x byte => return state.skipIf (wanted.holds (← state.register x) byte)
  | .skipRegister wanted x y =>
      return state.skipIf (wanted.holds (← state.register x) (← state.register y))
  | .loadByte x byte => state.setRegister x byte
  | .addByte x byte => do state.setRegister x ((← state.register x) + byte)
  | .arithmetic operation x y => state.combine operation x y
  | .shift direction x => state.shift direction x
  | .loadIndex target => return { state with index := target }
  | .random x mask => do
      let after ← state.setRegister x (state.random.byte &&& mask)
      return { after with random := state.random.advance }
  | .draw x y rows => state.draw x y rows
  | .skipKey held x => return state.skipIf (state.isHeld (← state.register x) == held)
  | .loadDelay x => state.setRegister x state.delay
  | .waitKey x => state.awaitKey x
  | .setDelay x => return { state with delay := ← state.register x }
  | .setSound x => return { state with sound := ← state.register x }
  | .addIndex x => return { state with index := state.index + (← state.register x).toUInt16 }
  | .loadGlyph x => return { state with index := ← glyphAddress (← state.register x) }
  | .storeDecimal x => state.storeDecimal x
  | .storeRegisters x => state.storeRegisters x
  | .loadRegisters x => state.loadRegisters x

/-- Calling a subroutine. -/
def call (target : UInt16) : Checked (Except Fault Unit × State) := do
  if state.depth = 16 then
    return (.error (.stackOverflow state.currentAddress), state)
  else
    let stack ← store state.stack state.depth state.pc
    let depth ← plus 16 state.depth 1
    return (.ok (), { state with stack, depth, pc := target })

/-- Returning from a subroutine. -/
def ret : Checked (Except Fault Unit × State) := do
  if state.depth = 0 then
    return (.error (.stackUnderflow state.currentAddress), state)
  else
    let depth ← minus state.depth 1
    let pc ← fetch state.stack depth
    return (.ok (), { state with depth, pc })

/-- Executing an order. -/
def execute : Order → Checked (Except Fault Unit × State)
  | .call target => state.call target
  | .ret => state.ret
  | order => return (.ok (), ← state.apply order)

/-- One step. -/
def step : Checked (Except Fault Unit × State) := do
  let pc := state.pc
  let opcode ← readWord state.memory pc
  match ← decode opcode with
  | none => return (.error (.unknownOpcode opcode pc), state)
  | some order =>
      match ← execute { state with pc := pc + 2 } order with
      | (.ok (), after) => return (.ok (), after)
      | (.error fault, after) => return (.error fault, { after with pc })

/-! ## Other operations -/

/-- One tick of both timers. -/
def tick : Checked (Option ToneEvent × State) := do
  let state := { state with delay := if state.delay = 0 then 0 else state.delay - 1 }
  if 0 < state.sound then
    let sound := UInt8.ofNat (← minus state.sound.toNat 1)
    let state := { state with sound }
    if sound = 0 then return (some .stop, state) else return (none, state)
  else
    return (none, state)

/-- Loading a program image. -/
def load (image : List UInt8) : Checked (Except LoadError Unit × State) := do
  match ← loadImage state.memory image with
  | .ok memory => return (.ok (), { state with memory })
  | .error error => return (.error error, state)

/-- Loading a program from a source, with the length of the program and what is left of the
source. -/
def loadFrom (source : ByteSource) : Checked (Except LoadError Nat × State × ByteSource) := do
  let most ← plus 64 (← programLimit) 1
  let portion := source.take most
  match portion.outcome with
  | .error error => return (.error (.reading error), state, portion.rest)
  | .ok image =>
      let (loaded, after) ← state.load image
      return (loaded.map fun () => image.length, after, portion.rest)

/-- The machine at power-on. -/
def powerOn (random : RandomStream) : Checked State := do
  let memory ← writeBlock (Array.replicate 4096 0) Memory.fontStart 0 Memory.font
  return {
    memory
    registers := Array.replicate 16 0
    index := 0
    pc := Memory.programStart
    stack := Array.replicate 16 0
    depth := 0
    delay := 0
    sound := 0
    pixels := Array.replicate 2048 false
    redraw := false
    keys := Array.replicate 16 false
    random }

end State

/-! ## Requests -/

/-- What can be asked of the machine from outside.  Keys are named by bytes, and registers by
numbers of any size. -/
inductive Request where
  /-- Execute one instruction. -/
  | step
  /-- Tick the timers. -/
  | tick
  /-- Load a program image. -/
  | load (image : List UInt8)
  /-- Load a program from a source. -/
  | loadFrom (source : ByteSource)
  /-- Hold a key or let it go. -/
  | setKey (key : UInt8) (held : Bool)
  /-- Let all keys go. -/
  | releaseAll
  /-- Tell whether a key is held. -/
  | isHeld (key : UInt8)
  /-- Tell the lowest key held. -/
  | firstHeld
  /-- Set a register. -/
  | setRegister (number : Nat) (byte : UInt8)
  /-- Tell the contents of a register. -/
  | register (number : Nat)
  /-- Take notice that the screen was shown. -/
  | clearRedraw

/-- What a request is answered with. -/
inductive Reply where
  /-- The answer of an operation. -/
  | did (answer : Answer)
  /-- Whether the key is held. -/
  | held (held : Bool)
  /-- The lowest key held, if there is one. -/
  | first (key? : Option UInt8)
  /-- The contents of the register. -/
  | contents (byte : UInt8)

namespace State

variable (state : State)

/-- Doing what is asked for.  Of the number of a register only the last digit counts. -/
def perform : Request → Checked (Reply × State)
  | .step => return (← state.step).map (.did ∘ Answer.ofStep) id
  | .tick => return (← state.tick).map (.did ∘ .ticked) id
  | .load image => return (← state.load image).map (.did ∘ Answer.ofLoad) id
  | .loadFrom source => return (← state.loadFrom source).map (.did ∘ Answer.ofLoad) Prod.fst
  | .setKey key held => return (.did .done, state.setKey key held)
  | .releaseAll => return (.did .done, state.releaseAll)
  | .isHeld key => return (.held (state.isHeld key), state)
  | .firstHeld => return (.first state.first?, state)
  | .setRegister number byte => return (.did .done, ← state.setRegister (number &&& 0xF) byte)
  | .register number => return (.contents (← state.register (number &&& 0xF)), state)
  | .clearRedraw => return (.did .done, { state with redraw := false })

/-- The state behind some requests. -/
def after (requests : List Request) : Checked State :=
  requests.foldlM (fun state request => return (← state.perform request).2) state

end State

end Chip8.Checked
