import Mathlib.Data.List.Forall2
import Chip8.Proofs.CallStack
import Chip8.Proofs.Machine.Step
import Chip8.Proofs.Memory.Congruence

/-!
# Only the cell of an address matters

The program counter, the index register and the return addresses have sixteen
bits, and memory takes them modulo its size.  Two machines are alike if they
differ in nothing but these addresses, and there only by multiples of the size of
memory; a slot of the call stack that is not live may hold anything.

Whatever is done to two machines that are alike, they answer alike and stay
alike: `history_alike`.  The proof goes through the parts of a machine that an
instruction can write, one lemma each, then through the instructions.
-/

namespace Chip8

/-! ## Call stacks -/

/-- Two call stacks with congruent live addresses. -/
structure CallStack.Alike (s t : CallStack) : Prop where
  depth : s.depth = t.depth
  live : ∀ slot < s.depth, Congruent (s.slots[slot]?.getD 0) (t.slots[slot]?.getD 0)

namespace CallStack.Alike

variable {s t : CallStack} (alike : s.Alike t)
include alike

theorem push?_eq_none {p q : UInt16} (full : s.push? p = none) : t.push? q = none := by
  rw [push?_eq_none_iff] at full ⊢
  rwa [← alike.depth]

theorem push?_eq_some {p q : UInt16} (close : Congruent p q) {s' : CallStack}
    (pushed : s.push? p = some s') : ∃ t', t.push? q = some t' ∧ s'.Alike t' := by
  have room := room_of_push? pushed
  rw [alike.depth] at room
  obtain ⟨t', pushed'⟩ := exists_push? room q
  obtain ⟨deeper, slots⟩ := eq_of_push? pushed
  obtain ⟨deeper', slots'⟩ := eq_of_push? pushed'
  refine ⟨t', pushed', by rw [deeper, deeper', alike.depth], fun slot inside => ?_⟩
  rw [slots, slots', ← alike.depth]
  split
  case isTrue => exact close
  case isFalse older => exact alike.live slot (by omega)

theorem pop?_eq_none (void : s.pop? = none) : t.pop? = none := by
  rw [pop?_eq_none_iff] at void ⊢
  rwa [← alike.depth]

theorem pop?_eq_some {p : UInt16} {s' : CallStack} (popped : s.pop? = some (p, s')) :
    ∃ q t', t.pop? = some (q, t') ∧ Congruent p q ∧ s'.Alike t' := by
  have depth := alike.depth
  cases popped' : t.pop? with
  | none =>
      rw [pop?_eq_none_iff.2 (depth.trans (pop?_eq_none_iff.1 popped'))] at popped
      cases popped
  | some top =>
      obtain ⟨q, t'⟩ := top
      obtain ⟨above, slots, newest⟩ := eq_of_pop? popped
      obtain ⟨above', slots', newest'⟩ := eq_of_pop? popped'
      have same : s'.depth = t'.depth := by omega
      refine ⟨q, t', rfl, ?_, same, fun slot inside => ?_⟩
      · rw [newest, newest', ← same]
        exact alike.live _ (by omega)
      · rw [slots, slots']
        exact alike.live slot (by omega)

end CallStack.Alike

/-! ## Faults and answers -/

/-- Two faults of one kind, with the same opcode, at congruent addresses. -/
inductive Fault.Alike : Fault → Fault → Prop where
  | unknownOpcode (opcode : UInt16) {p q : UInt16} (close : Congruent p q) :
      Alike (.unknownOpcode opcode p) (.unknownOpcode opcode q)
  | stackOverflow {p q : UInt16} (close : Congruent p q) :
      Alike (.stackOverflow p) (.stackOverflow q)
  | stackUnderflow {p q : UInt16} (close : Congruent p q) :
      Alike (.stackUnderflow p) (.stackUnderflow q)

/-- Two answers that agree but for the address of a fault. -/
inductive Answer.Alike : Answer → Answer → Prop where
  | done : Alike .done .done
  | ticked (event : Option ToneEvent) : Alike (.ticked event) (.ticked event)
  | fault {f g : Fault} (alike : f.Alike g) : Alike (.fault f) (.fault g)
  | refused (error : LoadError) : Alike (.refused error) (.refused error)

/-! ## Machines -/

/-- Two machines that agree but for multiples of the size of memory in their
addresses, and for what is in slots that are not live. -/
structure Machine.Alike (a b : Machine) : Prop where
  memory : a.memory = b.memory
  registers : a.registers = b.registers
  index : Congruent a.index b.index
  pc : Congruent a.pc b.pc
  stack : a.stack.Alike b.stack
  delay : a.delay = b.delay
  sound : a.sound = b.sound
  screen : a.screen = b.screen
  redraw : a.redraw = b.redraw
  keypad : a.keypad = b.keypad
  random : a.random = b.random

namespace Machine.Alike

section Parts

variable {a b : Machine} (alike : a.Alike b)
include alike

theorem register (x : Register) : a.register x = b.register x := by
  rw [Machine.register, Machine.register, alike.registers]

theorem setRegister (x : Register) (byte : UInt8) :
    (a.setRegister x byte).Alike (b.setRegister x byte) :=
  { alike with registers := by simp only [Machine.setRegister, alike.registers] }

theorem setFlag? (flag? : Option UInt8) : (a.setFlag? flag?).Alike (b.setFlag? flag?) := by
  cases flag? with
  | none => exact alike
  | some byte => exact alike.setRegister flag byte

theorem advance : a.advance.Alike b.advance :=
  { alike with pc := alike.pc.add 2 }

theorem skipIf (condition : Bool) : (a.skipIf condition).Alike (b.skipIf condition) := by
  cases condition with
  | false => exact alike
  | true => exact { alike with pc := alike.pc.add 2 }

theorem indexPast (x : Register) : Congruent (a.indexPast x) (b.indexPast x) :=
  alike.index.add _

theorem currentAddress : Congruent a.currentAddress b.currentAddress :=
  alike.pc.sub 2

theorem opcode : a.opcode = b.opcode := by
  rw [Machine.opcode, Machine.opcode, alike.memory, Memory.readWord_congruent _ alike.pc]

theorem instruction? : a.instruction? = b.instruction? := by
  rw [Machine.instruction?, Machine.instruction?, alike.opcode]

theorem writeAll (block : List UInt8) :
    a.memory.writeAll block a.index = b.memory.writeAll block b.index := by
  rw [alike.memory, Memory.writeAll_congruent _ alike.index]

end Parts

/-! ### Instructions -/

section Instructions

variable {a b : Machine} (alike : a.Alike b)
include alike

theorem combine (operation : Arithmetic) (x y : Register) :
    (a.combine operation x y).Alike (b.combine operation x y) := by
  rw [Machine.combine, Machine.combine, alike.register x, alike.register y]
  exact (alike.setFlag? _).setRegister x _

theorem shift (direction : Direction) (x : Register) :
    (a.shift direction x).Alike (b.shift direction x) := by
  rw [Machine.shift, Machine.shift, alike.register x]
  exact (alike.setRegister flag _).setRegister x _

theorem randomise (x : Register) (mask : UInt8) :
    (a.randomise x mask).Alike (b.randomise x mask) := by
  rw [Machine.randomise, Machine.randomise, alike.random]
  exact { alike.setRegister x _ with random := rfl }

theorem spritePlaces (x y : Register) (rows : Fin 16) :
    a.spritePlaces x y rows = b.spritePlaces x y rows := by
  rw [Machine.spritePlaces, Machine.spritePlaces, alike.register x, alike.register y,
    alike.memory, Memory.readAll_congruent _ alike.index]

theorem draw (x y : Register) (rows : Fin 16) : (a.draw x y rows).Alike (b.draw x y rows) := by
  rw [Machine.draw, Machine.draw, alike.spritePlaces x y rows, alike.screen]
  exact { alike.setRegister flag _ with screen := rfl, redraw := rfl }

theorem awaitKey (x : Register) : (a.awaitKey x).Alike (b.awaitKey x) := by
  rw [Machine.awaitKey, Machine.awaitKey, alike.keypad]
  cases b.keypad.first? with
  | none => exact { alike with pc := alike.currentAddress, keypad := rfl }
  | some key => exact alike.setRegister x _

theorem storeRegisters (x : Register) :
    (a.storeRegisters x).Alike (b.storeRegisters x) := by
  have block : a.registersUpTo x = b.registersUpTo x := by
    rw [registersUpTo, registersUpTo, alike.registers]
  rw [Machine.storeRegisters, Machine.storeRegisters, block, alike.writeAll]
  exact { alike with memory := rfl, index := alike.indexPast x }

theorem loadRegisters (x : Register) : (a.loadRegisters x).Alike (b.loadRegisters x) := by
  have read (r : Fin 16) : a.memory.read (a.index + UInt16.ofNat r.val) =
      b.memory.read (b.index + UInt16.ofNat r.val) := by
    rw [alike.memory, Memory.read_congruent _ (alike.index.add _)]
  simp only [Machine.loadRegisters, read, alike.register]
  exact { alike with registers := rfl, index := alike.indexPast x }

theorem apply (instruction : Instruction) :
    (a.apply instruction).Alike (b.apply instruction) := by
  cases instruction with
  | clearScreen => exact { alike with screen := rfl, redraw := rfl }
  | ret | call _ => exact alike
  | jump target => exact { alike with pc := .refl _ }
  | skipByte wanted x byte =>
      rw [Machine.apply, Machine.apply, alike.register x]
      exact alike.skipIf _
  | skipRegister wanted x y =>
      rw [Machine.apply, Machine.apply, alike.register x, alike.register y]
      exact alike.skipIf _
  | loadByte x byte => exact alike.setRegister x byte
  | addByte x byte =>
      rw [Machine.apply, Machine.apply, alike.register x]
      exact alike.setRegister x _
  | arithmetic operation x y => exact alike.combine operation x y
  | shift direction x => exact alike.shift direction x
  | loadIndex target => exact { alike with index := .refl _ }
  | random x mask => exact alike.randomise x mask
  | draw x y rows => exact alike.draw x y rows
  | skipKey held x =>
      rw [Machine.apply, Machine.apply, alike.register x, alike.keypad]
      exact alike.skipIf _
  | loadDelay x =>
      rw [Machine.apply, Machine.apply, alike.delay]
      exact alike.setRegister x _
  | waitKey x => exact alike.awaitKey x
  | setDelay x => exact { alike with delay := alike.register x }
  | setSound x => exact { alike with sound := alike.register x }
  | addIndex x =>
      rw [Machine.apply, Machine.apply, alike.register x]
      exact { alike with index := alike.index.add _ }
  | loadGlyph x =>
      rw [Machine.apply, Machine.apply, alike.register x]
      exact { alike with index := .refl _ }
  | storeDecimal x =>
      rw [Machine.apply, Machine.apply, alike.register x, alike.writeAll]
      exact { alike with memory := rfl }
  | storeRegisters x => exact alike.storeRegisters x
  | loadRegisters x => exact alike.loadRegisters x

end Instructions

end Machine.Alike

/-! ## Operations -/

namespace Machine

variable {a b : Machine} (alike : a.Alike b)
include alike

theorem Alike.step :
    (a.perform .step).1.Alike (b.perform .step).1 ∧
      (a.perform .step).2.Alike (b.perform .step).2 := by
  have same := alike.instruction?
  rw [perform_step, perform_step]
  cases move a with
  | unknown missing moved =>
      rw [same] at missing
      rw [moved, step_of_unknown missing, alike.opcode]
      exact ⟨.fault (.unknownOpcode _ alike.pc), alike⟩
  | called target stack found pushed moved =>
      rw [same] at found
      obtain ⟨stack', pushed', called⟩ := alike.stack.push?_eq_some (alike.pc.add 2) pushed
      rw [moved, step_of_executed found (call_of_room b.advance target pushed')]
      exact ⟨.done, { alike with stack := called, pc := .refl _ }⟩
  | overflowed target found full moved =>
      rw [same] at found
      have full' : b.advance.stack.push? b.advance.pc = none := alike.stack.push?_eq_none full
      rw [moved, step_of_failed found (call_of_full b.advance target full'),
        currentAddress_advance]
      exact ⟨.fault (.stackOverflow alike.pc), alike⟩
  | returned address stack found popped moved =>
      rw [same] at found
      obtain ⟨address', stack', popped', close, freed⟩ := alike.stack.pop?_eq_some popped
      rw [moved, step_of_executed found (ret_of_live b.advance popped')]
      exact ⟨.done, { alike with stack := freed, pc := close }⟩
  | underflowed found void moved =>
      rw [same] at found
      have void' : b.advance.stack.pop? = none := alike.stack.pop?_eq_none void
      rw [moved, step_of_failed found (ret_of_void b.advance void'), currentAddress_advance]
      exact ⟨.fault (.stackUnderflow alike.pc), alike⟩
  | applied instruction found infallible moved =>
      rw [same] at found
      rw [moved, step_of_executed found (execute_eq_apply b.advance infallible)]
      exact ⟨.done, alike.advance.apply instruction⟩

theorem Alike.tick :
    (a.perform .tick).1.Alike (b.perform .tick).1 ∧
      (a.perform .tick).2.Alike (b.perform .tick).2 := by
  simp only [perform, Machine.tick, Prod.map_apply, id_eq, alike.delay, alike.sound]
  exact ⟨.ticked _, { alike with delay := rfl, sound := rfl }⟩

theorem Alike.load (image : List UInt8) :
    (a.perform (.load image)).1.Alike (b.perform (.load image)).1 ∧
      (a.perform (.load image)).2.Alike (b.perform (.load image)).2 := by
  simp only [perform, Machine.load, alike.memory]
  cases b.memory.load image with
  | ok memory => exact ⟨.done, { alike with memory := rfl }⟩
  | error error => exact ⟨.refused error, alike⟩

theorem Alike.loadFrom (source : ByteSource) :
    (a.perform (.loadFrom source)).1.Alike (b.perform (.loadFrom source)).1 ∧
      (a.perform (.loadFrom source)).2.Alike (b.perform (.loadFrom source)).2 := by
  simp only [perform, Machine.loadFrom, alike.memory]
  obtain ⟨error | _, _⟩ := b.memory.loadFrom source
  · exact ⟨.refused error, alike⟩
  · exact ⟨.done, { alike with memory := rfl }⟩

/-- Whatever is done to two machines that are alike, they answer alike and stay
alike. -/
theorem Alike.perform (operation : Operation) :
    (a.perform operation).1.Alike (b.perform operation).1 ∧
      (a.perform operation).2.Alike (b.perform operation).2 := by
  cases operation with
  | step => exact alike.step
  | tick => exact alike.tick
  | load image => exact alike.load image
  | loadFrom source => exact alike.loadFrom source
  | setKey key held =>
      have keypad := congrArg (fun keypad => keypad.set key held) alike.keypad
      exact ⟨.done, { alike with keypad := keypad }⟩
  | releaseAll => exact ⟨.done, { alike with keypad := rfl }⟩
  | setRegister x byte => exact ⟨.done, alike.setRegister x byte⟩
  | clearRedraw => exact ⟨.done, { alike with redraw := rfl }⟩

end Machine

/-! ## Histories -/

/-- Only the cells of addresses matter.  Two machines that are alike give the
same answers to whatever is done to them, one operation after another, up to the
addresses of faults, and are alike behind it. -/
theorem history_alike {a b : Machine} (alike : a.Alike b) (history : List Operation) :
    List.Forall₂ Answer.Alike (a.answers history) (b.answers history) ∧
      (a.after history).Alike (b.after history) := by
  induction history generalizing a b with
  | nil => exact ⟨.nil, alike⟩
  | cons operation rest ih =>
      obtain ⟨answer, next⟩ := alike.perform operation
      obtain ⟨answers, last⟩ := ih next
      exact ⟨.cons answer answers, last⟩

/-- A machine at power-on, but one memory higher up, with the index register
fifteen memories higher up and something left in every slot. -/
def movedUp (random : RandomStream) : Machine :=
  { Machine.powerOn random with
    pc := 0x1200
    index := 0xF000
    stack := ⟨Vector.replicate 16 0xABCD, 0⟩ }

/-- It calls, returns and fails as the machine at power-on does. -/
theorem history_alike_movedUp :
    let history := [.load [0x22, 0x04, 0x00, 0x00, 0x00, 0xEE], .step, .step, .step, .tick]
    let machine := Machine.powerOn (RandomStream.cycle #[])
    let moved := movedUp (RandomStream.cycle #[])
    machine.Alike moved ∧
      List.Forall₂ Answer.Alike (machine.answers history) (moved.answers history) ∧
      (machine.after history).Alike (moved.after history) := by
  intro history machine moved
  have alike : machine.Alike moved :=
    { memory := rfl
      registers := rfl
      index := by decide
      pc := by decide
      stack := ⟨rfl, nofun⟩
      delay := rfl
      sound := rfl
      screen := rfl
      redraw := rfl
      keypad := rfl
      random := rfl }
  exact ⟨alike, history_alike alike history⟩

end Chip8
