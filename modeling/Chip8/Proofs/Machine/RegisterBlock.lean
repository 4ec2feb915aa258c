import Chip8.Proofs.Machine.Step
import Chip8.Proofs.Memory.Blocks

/-!
# Registers stored and loaded

`FX55` copies the registers up to `X` to the cells above the index register, and `FX65` copies
these cells to the registers.  Both move the index register past the block.  A block has at most
sixteen cells, so it covers none of them twice, also where it goes around the top of memory or of
the address range.

So either instruction undoes the other one as soon as the index register is back: what was stored
is loaded again whatever the registers hold by then, and to store what was loaded changes nothing
(`blocks_copied_exactly`).
-/

namespace Chip8

/-! ## Blocks of bytes that are there already -/

namespace Memory

theorem write_read (memory : Memory) (address : UInt16) :
    memory.write address (memory.read address) = memory := by
  simp only [write, read, Fin.getElem_fin, Vector.set_getElem_self]

/-- A block changes nothing where its cells hold its bytes. -/
theorem writeAll_eq_self (memory : Memory) {address : UInt16} {block : List UInt8}
    (held : ∀ (index : Nat) (inside : index < block.length),
      memory.byteAt (address.toNat + index) = block[index]) :
    memory.writeAll block address = memory := by
  induction block generalizing address with
  | nil => rfl
  | cons byte rest ih =>
      have first : byte = memory.read address := by
        rw [← address_add_zero address, read_add_ofNat, held 0 (Nat.succ_pos _)]
        rfl
      rw [writeAll_cons, first, write_read]
      apply ih
      intro index inside
      have next := held (index + 1) (Nat.succ_lt_succ inside)
      rw [← read_add_ofNat, address_add_succ, read_add_ofNat] at next
      exact next

end Memory

namespace Machine

/-! ## The two instructions -/

/-- The registers up to `x` are in the cells above the index register that the machine had. -/
structure Stored (x : Register) (before after : Machine) : Prop where
  /-- The cells of the block hold the registers. -/
  inside : ∀ r ≤ x, after.memory.byteAt (before.index.toNat + r.val) = before.register r
  /-- All other cells hold what they held. -/
  outside : ∀ cell < 4096, (∀ r ≤ x, (before.index.toNat + r.val) % 4096 ≠ cell) →
    after.memory.byteAt cell = before.memory.byteAt cell
  /-- The index register has moved past the block. -/
  index : after.index.toNat = (before.index.toNat + x.val + 1) % 65536
  /-- Nothing else has changed. -/
  others : after = { before with memory := after.memory, index := after.index }

/-- The cells above the index register that the machine had are in the registers up to `x`. -/
structure Loaded (x : Register) (before after : Machine) : Prop where
  /-- The registers of the block hold the cells. -/
  inside : ∀ r ≤ x, after.register r = before.memory.byteAt (before.index.toNat + r.val)
  /-- All other registers hold what they held. -/
  outside : ∀ r, x < r → after.register r = before.register r
  /-- The index register has moved past the block. -/
  index : after.index.toNat = (before.index.toNat + x.val + 1) % 65536
  /-- Nothing else has changed. -/
  others : after = { before with registers := after.registers, index := after.index }

section Copies

variable (machine : Machine) (x : Register)

theorem toNat_indexPast :
    (machine.indexPast x).toNat = (machine.index.toNat + x.val + 1) % 65536 := by
  rw [indexPast, UInt16.toNat_add, UInt16.toNat_ofNat', Nat.add_mod_mod, Nat.add_assoc]

theorem getElem_registersUpTo {r : Nat} (inside : r < (machine.registersUpTo x).length) :
    (machine.registersUpTo x)[r] =
      machine.register ⟨r, Nat.lt_of_lt_of_le inside
        (by rw [length_registersUpTo]; exact x.isLt)⟩ := by
  simp only [registersUpTo, List.getElem_take, Vector.getElem_toList, register, Fin.getElem_fin]

theorem length_registersUpTo_le : (machine.registersUpTo x).length ≤ 4096 := by
  rw [length_registersUpTo]
  omega

theorem stored_storeRegisters : Stored x machine (machine.storeRegisters x) where
  inside r below := by
    have inside : r.val < (machine.registersUpTo x).length := by
      rw [length_registersUpTo]
      exact Nat.lt_succ_of_le below
    exact (Memory.byteAt_writeAll_add machine.memory (length_registersUpTo_le machine x) inside).trans
      (getElem_registersUpTo machine x inside)
  outside cell bound apart := by
    apply Classical.byContradiction
    intro changed
    rw [Memory.byteAt, Memory.byteAt, Nat.mod_eq_of_lt bound] at changed
    obtain ⟨distance, inside, place⟩ :=
      Memory.exists_of_cells_writeAll_ne fun same => changed (congrArg (Option.getD · 0) same)
    rw [length_registersUpTo] at inside
    have within : distance < 16 := by omega
    exact apart ⟨distance, within⟩ (Nat.le_of_lt_succ inside) place.symm
  index := toNat_indexPast machine x
  others := rfl

theorem loaded_loadRegisters : Loaded x machine (machine.loadRegisters x) where
  inside r below := by
    simp only [register, loadRegisters, Fin.getElem_fin, Vector.getElem_ofFn]
    rw [if_pos below, Memory.read_add_ofNat]
  outside r above := by
    simp only [register, loadRegisters, Fin.getElem_fin, Vector.getElem_ofFn]
    exact if_neg (Fin.not_le.2 above)
  index := toNat_indexPast machine x
  others := rfl

end Copies

/-! ## One behind the other -/

section Undo

variable {x : Register} {before after later last : Machine}

/-- What was stored is loaded again. -/
theorem Loaded.register_of_stored (stored : Stored x before after) (loaded : Loaded x later last)
    (memory : later.memory = after.memory) (index : later.index = before.index) (r : Register) :
    last.register r = if r ≤ x then before.register r else later.register r := by
  split
  case isTrue below => rw [loaded.inside r below, memory, index, stored.inside r below]
  case isFalse above => exact loaded.outside r (Fin.not_le.1 above)

/-- What was loaded is there already. -/
theorem memory_storeRegisters_of_loaded (loaded : Loaded x before after)
    (memory : later.memory = after.memory) (index : later.index = before.index)
    (registers : ∀ r ≤ x, later.register r = after.register r) :
    (later.storeRegisters x).memory = before.memory := by
  have kept : later.memory = before.memory := by rw [memory, loaded.others]
  refine (Memory.writeAll_eq_self _ fun r inside => ?_).trans kept
  have below := inside
  rw [length_registersUpTo] at below
  rw [getElem_registersUpTo, registers _ (Nat.le_of_lt_succ below),
    loaded.inside _ (Nat.le_of_lt_succ below), kept, index]

end Undo

/-- `FX55` and `FX65` copy the block of the registers up to `X` as `Stored` and `Loaded` say, on
every machine and for every index register.  Once the index register is back where it was, `FX65`
behind `FX55` brings back what the registers of the block held, whatever was done to them and to
all other parts but memory, and `FX55` behind `FX65` leaves memory as it was. -/
theorem blocks_copied_exactly (machine : Machine) (x : Register) :
    (machine.opcode = Opcode.ofByte 0xF x 0x55 →
      machine.step = machine.advance.execute (.storeRegisters x)) ∧
    (machine.opcode = Opcode.ofByte 0xF x 0x65 →
      machine.step = machine.advance.execute (.loadRegisters x)) ∧
    (∃ stored, machine.execute (.storeRegisters x) = (.ok (), stored) ∧ Stored x machine stored ∧
      ∀ later : Machine, later.memory = stored.memory → later.index = machine.index →
        ∃ loaded, later.execute (.loadRegisters x) = (.ok (), loaded) ∧ Loaded x later loaded ∧
          ∀ r, loaded.register r = if r ≤ x then machine.register r else later.register r) ∧
    ∃ loaded, machine.execute (.loadRegisters x) = (.ok (), loaded) ∧ Loaded x machine loaded ∧
      ∀ later : Machine, later.memory = loaded.memory → later.index = machine.index →
        (∀ r ≤ x, later.register r = loaded.register r) →
        ∃ stored, later.execute (.storeRegisters x) = (.ok (), stored) ∧ Stored x later stored ∧
          stored.memory = machine.memory := by
  have stored := stored_storeRegisters machine x
  have loaded := loaded_loadRegisters machine x
  refine ⟨fun storing => step_of_encode (.storeRegisters x) storing rfl,
    fun loading => step_of_encode (.loadRegisters x) loading rfl, ⟨_, rfl, stored, ?_⟩,
    ⟨_, rfl, loaded, ?_⟩⟩
  · intro later memory index
    have again := loaded_loadRegisters later x
    exact ⟨_, rfl, again, again.register_of_stored stored memory index⟩
  · intro later memory index registers
    exact ⟨_, rfl, stored_storeRegisters later x,
      memory_storeRegisters_of_loaded loaded memory index registers⟩

/-- Four registers are stored around the end of the address range, where memory begins again.  One
of them is set, and with the index register back all four are loaded.  To store them there again
changes nothing. -/
theorem blocks_copied_exactly_aroundTop :
    let machine : Machine :=
      { (powerOn (RandomStream.cycle #[])).after
          [.load [0xF3, 0x55, 0xF3, 0x65], .setRegister 0 7, .setRegister 3 9] with
        index := 0xFFFE }
    let later : Machine := { machine.step.2.setRegister 3 1 with index := 0xFFFE }
    let last : Machine := { later.step.2 with index := 0xFFFE }
    machine.opcode = Opcode.ofByte 0xF 3 0x55 ∧ later.opcode = Opcode.ofByte 0xF 3 0x65 ∧
      machine.step.2.memory.byteAt (0xFFFE + 3) = 9 ∧ later.step.2.register 3 = 9 ∧
      (last.execute (.storeRegisters 3)).2.memory = later.memory := by
  intro machine later last
  have facts : machine.opcode = Opcode.ofByte 0xF 3 0x55 ∧
      later.opcode = Opcode.ofByte 0xF 3 0x65 ∧ machine.register 3 = 9 ∧
      machine.index = 0xFFFE := by
    decide +kernel
  clear_value machine
  obtain ⟨storing, loading, held, top⟩ := facts
  obtain ⟨stores, _⟩ := blocks_copied_exactly machine 3
  obtain ⟨_, loads, _⟩ := blocks_copied_exactly later 3
  obtain ⟨_, _, ⟨stored, executed, copied, undone⟩, _⟩ := blocks_copied_exactly machine.advance 3
  have moved : machine.step = (.ok (), stored) := (stores storing).trans executed
  have memory : later.advance.memory = stored.memory := congrArg (·.2.memory) moved
  obtain ⟨loaded', executed', _, same⟩ := undone later.advance memory top.symm
  obtain ⟨_, _, _, ⟨loaded, executed'', _, kept⟩⟩ := blocks_copied_exactly later.advance 3
  have moved' : later.step = (.ok (), loaded) := (loads loading).trans executed''
  have one : loaded' = loaded := congrArg Prod.snd (executed'.symm.trans executed'')
  rw [one] at same
  have back : last.memory = loaded.memory := congrArg (·.2.memory) moved'
  obtain ⟨_, executed, _, unchanged⟩ := kept last back rfl fun r _ =>
    congrArg (·.2.register r) moved'
  have cell := (copied.inside 3 (by decide)).trans held
  rw [show machine.advance.index = 0xFFFE from top] at cell
  rw [moved, moved', executed]
  exact ⟨storing, loading, cell, (same 3).trans held, unchanged⟩

end Machine

end Chip8
