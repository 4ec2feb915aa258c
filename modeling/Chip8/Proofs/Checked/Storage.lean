import Chip8.Proofs.Checked.State

/-!
# The machine in plain storage

A machine whose parts have their bounds by their types is put into plain storage by `ofMachine`.
What reads or writes one part of the storage then passes its checks, and does what the machine
does with that part.
-/

namespace Chip8.Checked

/-! ## Memory -/

section Memory

variable (memory : Memory) (address : UInt16)

@[simp] theorem readByte_cells :
    readByte memory.cells.toArray address = .ok (memory.read address) :=
  fetch_toArray memory.cells (Nat.mod_lt _ (by decide))

@[simp] theorem writeByte_cells (byte : UInt8) :
    writeByte memory.cells.toArray address byte = .ok (memory.write address byte).cells.toArray :=
  store_toArray memory.cells (Nat.mod_lt _ (by decide)) byte

@[simp] theorem readWord_cells :
    readWord memory.cells.toArray address = .ok (memory.readWord address) := by
  rw [readWord, readByte_cells, ok_bind, shiftLeft_of_lt (by decide), ok_bind, readByte_cells,
    ok_bind, pure_eq_ok]
  apply congrArg Except.ok
  apply UInt16.toNat.inj
  simp [Memory.readWord]

theorem writeBlock_cells {offset : Nat} {block : List UInt8}
    (fits : offset + block.length < 2 ^ 16) :
    writeBlock memory.cells.toArray address offset block =
      .ok (memory.writeAll block (address + UInt16.ofNat offset)).cells.toArray := by
  induction block generalizing memory offset with
  | nil => rfl
  | cons byte rest ih =>
      rw [List.length_cons] at fits
      rw [writeBlock, writeByte_cells, ok_bind, plus_of_lt (by omega), ok_bind, ih _ (by omega),
        Memory.writeAll_cons, UInt16.ofNat_add, UInt16.add_assoc]
      rfl

theorem programLimit_eq : programLimit = .ok Memory.programLimit := rfl

theorem loadImage_cells (image : List UInt8) :
    loadImage memory.cells.toArray image =
      .ok ((memory.load image).map fun memory => memory.cells.toArray) := by
  rw [loadImage, programLimit_eq, ok_bind, Memory.load]
  by_cases fits : image.length ≤ Memory.programLimit
  · have limit : Memory.programLimit = 3584 := rfl
    have short : 0 + image.length < 2 ^ 16 := by omega
    rw [if_neg (Nat.not_lt.2 fits), if_pos fits, writeBlock_cells memory _ short]
    rfl
  · rw [if_pos (Nat.lt_of_not_le fits), if_neg fits]
    rfl

end Memory

/-! ## The screen -/

section Screen

variable (frame : Framebuffer) (x y : Nat)

/-- The position of a pixel is computed without overflow. -/
theorem position_eq : position x y = .ok ((Framebuffer.index? x y).map Fin.val) := by
  unfold position Framebuffer.index?
  by_cases inside : x < 64 ∧ y < 32
  · rw [if_pos inside, dif_pos inside, times_of_lt (by omega), ok_bind, plus_of_lt (by omega)]
    rfl
  · rw [if_neg inside, dif_neg inside]
    rfl

theorem flip_pixels :
    flip frame.pixels.toArray x y = .ok (frame.at? x y, (frame.flip x y).pixels.toArray) := by
  rw [flip, position_eq, ok_bind, Framebuffer.at?, Framebuffer.flip]
  cases Framebuffer.index? x y with
  | none => rfl
  | some i =>
      dsimp only [Option.map_some]
      rw [fetch_toArray frame.pixels i.isLt, ok_bind, store_toArray frame.pixels i.isLt]
      rfl

end Screen

namespace State

/-- A machine in plain storage. -/
def ofMachine (machine : Machine) : State :=
  { memory := machine.memory.cells.toArray
    registers := machine.registers.toArray
    index := machine.index
    pc := machine.pc
    stack := machine.stack.slots.toArray
    depth := machine.stack.depth
    delay := machine.delay
    sound := machine.sound
    pixels := machine.screen.pixels.toArray
    redraw := machine.redraw
    keys := machine.keypad.keys.toArray
    random := machine.random }

variable (machine : Machine)

/-! ## Registers -/

@[simp] theorem register_ofMachine (x : Register) :
    (ofMachine machine).register x.val = .ok (machine.register x) :=
  fetch_toArray machine.registers x.isLt

@[simp] theorem setRegister_ofMachine (x : Register) (byte : UInt8) :
    (ofMachine machine).setRegister x.val byte = .ok (ofMachine (machine.setRegister x byte)) := by
  rw [setRegister, ofMachine, store_toArray machine.registers x.isLt]
  rfl

@[simp] theorem setRegister_flag_ofMachine (byte : UInt8) :
    (ofMachine machine).setRegister flag byte =
      .ok (ofMachine (machine.setRegister Machine.flag byte)) :=
  setRegister_ofMachine machine Machine.flag byte

@[simp] theorem setFlag?_ofMachine (byte? : Option UInt8) :
    (ofMachine machine).setFlag? byte? = .ok (ofMachine (machine.setFlag? byte?)) := by
  cases byte? with
  | none => rfl
  | some byte => exact setRegister_flag_ofMachine machine byte

/-! ## Keys -/

@[simp] theorem isHeld_ofMachine (key : UInt8) :
    (ofMachine machine).isHeld key = machine.keypad.isHeld key := by
  simp [isHeld, ofMachine, Keypad.isHeld]

theorem setKey_ofMachine (key : UInt8) (held : Bool) :
    (ofMachine machine).setKey key held = ofMachine (machine.setKey key held) := by
  have keys : machine.keypad.keys.toArray.setIfInBounds key.toNat held =
      (machine.keypad.set key held).keys.toArray := by
    unfold Keypad.set
    by_cases inside : key.toNat < 16
    · rw [dif_pos inside, Array.setIfInBounds, dif_pos (by simpa using inside)]
      rfl
    · rw [dif_neg inside, Array.setIfInBounds, dif_neg (by simpa using inside)]
  simp only [setKey, ofMachine, Machine.setKey, keys]

theorem first?_ofMachine :
    (ofMachine machine).first? = machine.keypad.first?.map fun key => UInt8.ofNat key.val := by
  have found : machine.keypad.keys.toArray.findIdx? id = machine.keypad.first?.map Fin.val := by
    rw [Keypad.first?, ← Fin.find?_eq_find?_finRange]
    cases first : Fin.find? fun key => machine.keypad.keys[key] with
    | none =>
        rw [Option.map_none, Array.findIdx?_eq_none_iff]
        intro held member
        obtain ⟨key, inside, rfl⟩ := Array.mem_iff_getElem.1 member
        exact Fin.find?_eq_none_iff.1 first ⟨key, by simpa using inside⟩
    | some key =>
        obtain ⟨held, lower⟩ := Fin.find?_eq_some_iff.1 first
        rw [Option.map_some, Array.findIdx?_eq_some_iff_getElem]
        refine ⟨by simp, held, fun other below => ?_⟩
        have free := lower ⟨other, Nat.lt_trans below key.isLt⟩ below
        simpa using free
  rw [first?, ofMachine, found, Option.map_map]
  rfl

end State

end Chip8.Checked
