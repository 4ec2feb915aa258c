import Mathlib.Data.Nat.Bitwise
import Chip8.Proofs.Checked.Storage
import Chip8.Proofs.Memory.Blocks

/-!
# Instructions pass their checks

What each instruction does in plain storage, in small steps with checks, is what it does to the
machine: `apply_ofMachine`.  Three instructions are loops: a sprite is drawn bit by bit, and the
registers are stored and loaded one by one.
-/

namespace Chip8.Checked.State

variable (machine : Machine)

/-! ## Instructions without loops -/

theorem skipIf_ofMachine (condition : Bool) :
    (ofMachine machine).skipIf condition = ofMachine (machine.skipIf condition) := by
  cases condition <;> rfl

@[simp] theorem write_ofMachine (address : UInt16) (byte : UInt8) :
    (ofMachine machine).write address byte =
      .ok (ofMachine { machine with memory := machine.memory.write address byte }) := by
  rw [write, ofMachine, writeByte_cells]
  rfl

theorem combine_ofMachine (operation : Arithmetic) (x y : Register) :
    (ofMachine machine).combine operation x.val y.val =
      .ok (ofMachine (machine.combine operation x y)) := by
  simp [combine, Machine.combine]

/-- A shift by one bit stays within the byte. -/
theorem shifted_eq (direction : Direction) (byte : UInt8) :
    shifted direction byte = .ok (direction.result byte) := by
  have bound := byte.toNat_lt
  cases direction with
  | right =>
      rw [shifted, shiftRight_of_lt (by decide), ok_bind, pure_eq_ok]
      apply congrArg Except.ok
      apply UInt8.toNat.inj
      have narrow : byte.toNat >>> 1 < 2 ^ 8 := by
        rw [Nat.shiftRight_eq_div_pow]
        omega
      simp only [Direction.result, UInt8.toNat_ofNat', UInt8.toNat_shiftRight, UInt8.reduceToNat,
        Nat.mod_eq_of_lt narrow, Nat.reduceMod]
  | left =>
      rw [shifted, shiftLeft_of_lt (by decide), ok_bind, pure_eq_ok]
      apply congrArg Except.ok
      apply UInt8.toNat.inj
      simp only [Direction.result, UInt8.toNat_ofNat', UInt8.toNat_shiftLeft, UInt8.reduceToNat,
        Nat.mod_mod, Nat.reduceMod]

theorem shift_ofMachine (direction : Direction) (x : Register) :
    (ofMachine machine).shift direction x.val = .ok (ofMachine (machine.shift direction x)) := by
  simp [shift, Machine.shift, shifted_eq]

theorem awaitKey_ofMachine (x : Register) :
    (ofMachine machine).awaitKey x.val = .ok (ofMachine (machine.awaitKey x)) := by
  rw [awaitKey, first?_ofMachine, Machine.awaitKey]
  cases machine.keypad.first? with
  | none => rfl
  | some key => exact setRegister_ofMachine machine x _

/-- The glyph of any byte has an address. -/
theorem glyphAddress_eq (digit : UInt8) : glyphAddress digit = .ok (Memory.glyphAddress digit) := by
  have bound := digit.toNat_lt
  have height : Memory.glyphHeight.toNat = 5 := rfl
  have start : Memory.fontStart.toNat = 0 := rfl
  rw [glyphAddress, height, start, times_of_lt (by omega), ok_bind, plus_of_lt (by omega), ok_bind,
    pure_eq_ok]
  apply congrArg Except.ok
  apply UInt16.toNat.inj
  rw [Memory.glyphAddress_toNat, UInt16.toNat_ofNat']
  omega

theorem storeDecimal_ofMachine (x : Register) :
    (ofMachine machine).storeDecimal x.val =
      .ok (ofMachine (machine.apply (.storeDecimal x))) := by
  have digits (byte : UInt8) :
      machine.memory.writeAll (Machine.decimalDigits byte) machine.index =
        ((machine.memory.write machine.index (byte / 100)).write (machine.index + 1)
          (byte / 10 % 10)).write (machine.index + 2) (byte % 10) := by
    have last : machine.index + 2 = machine.index + 1 + 1 := by rw [UInt16.add_assoc]; rfl
    rw [last]
    rfl
  rw [storeDecimal, register_ofMachine, ok_bind, write_ofMachine, ok_bind, write_ofMachine, ok_bind,
    write_ofMachine, Machine.apply, digits]
  rfl

/-! ## Sprites

While a sprite is drawn, only the screen and the flag change. -/

/-- A machine in plain storage with a sprite drawn in part: the screen and the flag so far. -/
def drawn (drawing : Framebuffer × UInt8) : State :=
  ofMachine { machine.setRegister Machine.flag drawing.2 with screen := drawing.1 }

/-- One more pixel turned over. -/
def turnOne (drawing : Framebuffer × UInt8) (place : Nat × Nat) : Framebuffer × UInt8 :=
  (drawing.1.flip place.1 place.2, if drawing.1.get place.1 place.2 then 1 else drawing.2)

theorem turn_drawn (drawing : Framebuffer × UInt8) (x y : Nat) :
    (drawn machine drawing).turn x y = .ok (drawn machine (turnOne drawing (x, y))) := by
  have pixels : (drawn machine drawing).pixels = drawing.1.pixels.toArray := rfl
  rw [turn, pixels, flip_pixels, ok_bind, turnOne, Framebuffer.get]
  cases drawing.1.at? x y with
  | none => rfl
  | some wasOn =>
      cases wasOn with
      | false => rfl
      | true =>
          refine (setRegister_flag_ofMachine
            { machine.setRegister Machine.flag drawing.2 with
              screen := drawing.1.flip x y } 1).trans ?_
          simp only [drawn, Machine.setRegister, Vector.set_set, Option.getD_some, if_true]

theorem drawBit_drawn (drawing : Framebuffer × UInt8) (bits : UInt8) {left top row column : Nat}
    (left_lt : left < 64) (top_lt : top < 32) (row_lt : row < 16) (column_lt : column < 8) :
    (drawn machine drawing).drawBit bits left top row column =
      .ok (drawn machine
        (if bits.toNat.testBit (7 - column) then turnOne drawing (left + column, top + row)
          else drawing)) := by
  have mask : 0x80 >>> column = 2 ^ (7 - column) := by
    rw [Nat.shiftRight_eq_div_pow, show 0x80 = 2 ^ 7 from rfl,
      Nat.pow_div (Nat.le_of_lt_succ column_lt) (by decide)]
  rw [drawBit, shiftRight_of_lt column_lt, ok_bind, mask, Nat.and_two_pow]
  cases bits.toNat.testBit (7 - column) with
  | false => rw [if_pos (by simp), if_neg Bool.false_ne_true, pure_eq_ok]
  | true =>
      rw [if_neg (by simp), if_pos rfl, plus_of_lt (by omega), ok_bind, plus_of_lt (by omega),
        ok_bind, turn_drawn]

/-- The places that a row of a sprite turns over. -/
def rowPlaces (memory : Memory) (index : UInt16) (left top row : Nat) : List (Nat × Nat) :=
  (Framebuffer.spriteColumns (memory.read (index + UInt16.ofNat row))).map
    fun column => (left + column, top + row)

theorem drawRow_drawn (drawing : Framebuffer × UInt8) {left top row : Nat}
    (left_lt : left < 64) (top_lt : top < 32) (row_lt : row < 16) :
    (drawn machine drawing).drawRow left top row =
      .ok (drawn machine
        ((rowPlaces machine.memory machine.index left top row).foldl turnOne drawing)) := by
  let bits := machine.memory.read (machine.index + UInt16.ofNat row)
  have fetched : readByte (drawn machine drawing).memory
      ((drawn machine drawing).index + UInt16.ofNat row) = .ok bits :=
    readByte_cells machine.memory (machine.index + UInt16.ofNat row)
  have each (drawing : Framebuffer × UInt8) (column : Nat) (inside : column ∈ List.range 8) :=
    drawBit_drawn machine drawing bits left_lt top_lt row_lt (List.mem_range.1 inside)
  rw [drawRow, fetched, ok_bind, foldlM_ok each, rowPlaces, List.foldl_map,
    Framebuffer.spriteColumns, List.foldl_filter]

/-- Turning over places one by one. -/
theorem foldl_turnOne (frame : Framebuffer) (flag : UInt8) (places : List (Nat × Nat)) :
    places.foldl turnOne (frame, flag) =
      (frame.flipAll places, if frame.collides places then 1 else flag) := by
  induction places generalizing frame flag with
  | nil => rfl
  | cons place rest ih =>
      rw [List.foldl_cons, turnOne, ih, Framebuffer.collides, Framebuffer.flipAll,
        Framebuffer.flipAll, List.foldl_cons]
      cases frame.get place.1 place.2 <;> simp

/-- A sprite is drawn row by row. -/
theorem spritePlaces_readAll (memory : Memory) (index : UInt16) (left top rows : Nat) :
    Framebuffer.spritePlaces left top (memory.readAll rows index) =
      (List.range rows).flatMap (rowPlaces memory index left top) := by
  induction rows generalizing index top with
  | zero => rfl
  | succ rows ih =>
      have first : rowPlaces memory index left top 0 =
          (Framebuffer.spriteColumns (memory.read index)).map
            fun column => (left + column, top) := by
        rw [rowPlaces, Memory.address_add_zero]
        rfl
      have later (row : Nat) : rowPlaces memory index left top (row + 1) =
          rowPlaces memory (index + 1) left (top + 1) row := by
        rw [rowPlaces, rowPlaces, Memory.address_add_succ, Nat.add_right_comm, Nat.add_assoc top]
      rw [Memory.readAll, Framebuffer.spritePlaces, ih, List.range_succ_eq_map, List.flatMap_cons,
        List.flatMap_map, first]
      simp only [Nat.succ_eq_add_one, later]

theorem draw_ofMachine (x y : Register) (rows : Fin 16) :
    (ofMachine machine).draw x.val y.val rows.val = .ok (ofMachine (machine.draw x y rows)) := by
  let left := (machine.register x).toNat % 64
  let top := (machine.register y).toNat % 32
  have left_lt : left < 64 := Nat.mod_lt _ (by decide)
  have top_lt : top < 32 := Nat.mod_lt _ (by decide)
  have each (drawing : Framebuffer × UInt8) (row : Nat) (inside : row ∈ List.range rows.val) :=
    drawRow_drawn machine drawing left_lt top_lt
      (Nat.lt_trans (List.mem_range.1 inside) rows.isLt)
  rw [draw, register_ofMachine, ok_bind, register_ofMachine, ok_bind, setRegister_flag_ofMachine,
    ok_bind]
  -- The corner was read before the flag was cleared, so nothing in the loop depends on the flag.
  have looped : (List.range rows.val).foldlM (fun state row => drawRow state left top row)
        (drawn machine (machine.screen, 0)) =
      .ok (drawn machine ((List.range rows.val).foldl
        (fun drawing row =>
          (rowPlaces machine.memory machine.index left top row).foldl turnOne drawing)
        (machine.screen, 0))) :=
    foldlM_ok each _
  rw [← List.foldl_flatMap, ← spritePlaces_readAll, foldl_turnOne] at looped
  exact congrArg (· >>= fun state => pure { state with redraw := true }) looped

/-! ## Blocks of registers -/

theorem moveIndex_ofMachine (x : Register) :
    (ofMachine machine).moveIndex x.val =
      .ok (ofMachine { machine with index := machine.indexPast x }) := by
  have bound := x.isLt
  have narrow : (UInt16.ofNat x.val).toNat = x.val :=
    UInt16.toNat_ofNat_of_lt' (Nat.lt_trans bound (by decide))
  rw [moveIndex, narrow, plus_of_lt (by omega)]
  rfl

/-- A block is written byte by byte. -/
theorem foldl_write (memory : Memory) (address : UInt16) (block : List UInt8) :
    (List.range block.length).foldl
        (fun memory r => memory.write (address + UInt16.ofNat r) (block[r]?.getD 0)) memory =
      memory.writeAll block address := by
  induction block generalizing memory address with
  | nil => rfl
  | cons byte rest ih =>
      rw [List.length_cons, List.range_succ_eq_map, List.foldl_cons, List.foldl_map,
        Memory.writeAll_cons, ← ih]
      simp only [Nat.succ_eq_add_one, Memory.address_add_succ, Memory.address_add_zero,
        List.getElem?_cons_succ, List.getElem?_cons_zero, Option.getD_some]

theorem storeRegisters_ofMachine (x : Register) :
    (ofMachine machine).storeRegisters x.val = .ok (ofMachine (machine.storeRegisters x)) := by
  let stored (memory : Memory) : State := ofMachine { machine with memory }
  have each (memory : Memory) (r : Nat) (upTo : r ∈ List.range (x.val + 1)) :
      (stored memory).storeOne r = .ok (stored (memory.write (machine.index + UInt16.ofNat r)
        ((machine.registersUpTo x)[r]?.getD 0))) := by
    have inside : r < x.val + 1 := List.mem_range.1 upTo
    have within : r < 16 := Nat.lt_of_lt_of_le inside x.isLt
    have value : (machine.registersUpTo x)[r]?.getD 0 = machine.register ⟨r, within⟩ := by
      rw [Machine.registersUpTo, List.getElem?_take_of_lt inside, Vector.getElem?_toList,
        Vector.getElem?_eq_getElem within]
      rfl
    have fetched : (stored memory).register r = .ok (machine.register ⟨r, within⟩) :=
      register_ofMachine { machine with memory } ⟨r, within⟩
    rw [storeOne, fetched, ok_bind, value]
    exact write_ofMachine { machine with memory } _ _
  have looped : (List.range (x.val + 1)).foldlM (fun state r => state.storeOne r)
      (ofMachine machine) =
        .ok (stored (machine.memory.writeAll (machine.registersUpTo x) machine.index)) := by
    rw [← foldl_write, Machine.length_registersUpTo]
    exact foldlM_ok each machine.memory
  rw [storeRegisters, looped]
  exact moveIndex_ofMachine
    { machine with memory := machine.memory.writeAll (machine.registersUpTo x) machine.index } x

/-- Registers are loaded one by one. -/
theorem foldl_set (registers : Vector UInt8 16) (byte : Nat → UInt8) (count : Nat) :
    (List.range count).foldl (fun registers r => registers.setIfInBounds r (byte r)) registers =
      Vector.ofFn fun r : Fin 16 => if r.val < count then byte r.val else registers.get r := by
  induction count with
  | zero =>
      apply Vector.ext
      intro r inside
      rw [Vector.getElem_ofFn, if_neg (Nat.not_lt_zero r)]
      rfl
  | succ count ih =>
      rw [List.range_succ, List.foldl_append, ih]
      apply Vector.ext
      intro r inside
      rw [List.foldl_cons, List.foldl_nil, Vector.getElem_setIfInBounds, Vector.getElem_ofFn,
        Vector.getElem_ofFn]
      by_cases last : count = r
      · subst last
        simp
      · have same : r < count + 1 ↔ r < count := by omega
        simp only [last, if_false, same]

theorem loadRegisters_ofMachine (x : Register) :
    (ofMachine machine).loadRegisters x.val = .ok (ofMachine (machine.loadRegisters x)) := by
  let byte (r : Nat) : UInt8 := machine.memory.read (machine.index + UInt16.ofNat r)
  let loaded (registers : Vector UInt8 16) : State := ofMachine { machine with registers }
  have each (registers : Vector UInt8 16) (r : Nat) (upTo : r ∈ List.range (x.val + 1)) :
      (loaded registers).loadOne r = .ok (loaded (registers.setIfInBounds r (byte r))) := by
    have within : r < 16 := Nat.lt_of_lt_of_le (List.mem_range.1 upTo) x.isLt
    have fetched : readByte (loaded registers).memory
        ((loaded registers).index + UInt16.ofNat r) = .ok (byte r) := readByte_cells ..
    have set : registers.setIfInBounds r (byte r) = registers.set r (byte r) := by
      apply Vector.ext
      simp [Vector.getElem_setIfInBounds, Vector.getElem_set]
    rw [loadOne, fetched, ok_bind, set]
    exact setRegister_ofMachine { machine with registers } ⟨r, within⟩ (byte r)
  have looped : (List.range (x.val + 1)).foldlM (fun state r => state.loadOne r)
      (ofMachine machine) =
        .ok (loaded (machine.loadRegisters x).registers) := by
    have upTo (r : Register) : r ≤ x ↔ r.val < x.val + 1 := Nat.lt_succ_iff.symm
    simp only [Machine.loadRegisters, Machine.register, upTo]
    refine (foldlM_ok each machine.registers).trans ?_
    rw [foldl_set]
    rfl
  rw [loadRegisters, looped]
  exact moveIndex_ofMachine { machine with registers := (machine.loadRegisters x).registers } x

/-! ## All instructions -/

theorem apply_ofMachine (instruction : Instruction) :
    (ofMachine machine).apply (.ofInstruction instruction) =
      .ok (ofMachine (machine.apply instruction)) := by
  cases instruction with
  | clearScreen => simp [Order.ofInstruction, apply, Machine.apply, ofMachine, Framebuffer.blank]
  | ret | call _ | jump _ | loadIndex _ => rfl
  | skipByte _ _ _ | skipRegister _ _ _ | skipKey _ _ =>
      simp [Order.ofInstruction, apply, Machine.apply, skipIf_ofMachine]
  | loadByte x byte => exact setRegister_ofMachine machine x byte
  | addByte x byte => simp [Order.ofInstruction, apply, Machine.apply]
  | arithmetic operation x y => exact combine_ofMachine machine operation x y
  | shift direction x => exact shift_ofMachine machine direction x
  | random x mask =>
      exact congrArg (· >>= fun after => pure { after with random := machine.random.advance })
        (setRegister_ofMachine machine x (machine.random.byte &&& mask))
  | draw x y rows => exact draw_ofMachine machine x y rows
  | loadDelay x => exact setRegister_ofMachine machine x machine.delay
  | waitKey x => exact awaitKey_ofMachine machine x
  | setDelay _ | setSound _ | addIndex _ =>
      simp [Order.ofInstruction, apply, Machine.apply]
      rfl
  | loadGlyph _ =>
      simp [Order.ofInstruction, apply, Machine.apply, glyphAddress_eq]
      rfl
  | storeDecimal x => exact storeDecimal_ofMachine machine x
  | storeRegisters x => exact storeRegisters_ofMachine machine x
  | loadRegisters x => exact loadRegisters_ofMachine machine x

end Chip8.Checked.State
