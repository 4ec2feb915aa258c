import Mathlib.Data.List.Induction
import Mathlib.Order.Bounds.Basic
import Chip8.Memory.Basic

/-!
# Reading a block back

The bytes of a block go to successive addresses, which wrap with the range of addresses and
again with memory.  The one range is a multiple of the other, so the cell of a byte is told by
its distance from the start of the block alone, however long the block is.  Where several bytes
go to one cell the last one stays, and where none does the cell keeps what it held:
`cells_writeAll`, and with reading beside it `blocks_wrap_exactly`.

A block of no more than 4096 bytes covers no cell twice, so what an address holds behind it
is told by how many cells the address lies above the block's own, counted around the top of
memory: `read_writeAll`.
-/

namespace Chip8

namespace Memory

variable {address other : UInt16} {block : List UInt8} {index : Nat}

/-! ## Successive addresses -/

theorem address_add_zero (address : UInt16) : address + UInt16.ofNat 0 = address :=
  UInt16.add_zero address

theorem address_add_succ (address : UInt16) (distance : Nat) :
    address + UInt16.ofNat (distance + 1) = address + 1 + UInt16.ofNat distance := by
  rw [UInt16.ofNat_add, UInt16.add_comm (UInt16.ofNat distance), ← UInt16.add_assoc]
  rfl

/-- The cell that lies some cells above an address, around the top of memory. -/
theorem cell_add_ofNat (address : UInt16) (distance : Nat) :
    (cell (address + UInt16.ofNat distance)).val = (address.toNat + distance) % 4096 := by
  rw [cell]
  dsimp only
  rw [UInt16.toNat_add, UInt16.toNat_ofNat']
  omega

/-- Successive bytes are read at successive addresses. -/
theorem getElem?_readAll (memory : Memory) (count : Nat) (address : UInt16) (row : Nat) :
    (memory.readAll count address)[row]? =
      if row < count then some (memory.read (address + UInt16.ofNat row)) else none := by
  induction count generalizing address row with
  | zero => rfl
  | succ count ih =>
      cases row with
      | zero => simp [readAll]
      | succ row =>
          simp only [readAll, List.getElem?_cons_succ, ih, address_add_succ,
            Nat.add_lt_add_iff_right]

/-! ## Single cells -/

/-- An address reads the cell that it means. -/
theorem cells_read (memory : Memory) (address : UInt16) :
    memory.cells[address.toNat % 4096]? = some (memory.read address) :=
  Vector.getElem?_eq_getElem (cell address).isLt

theorem getElem?_cells_write (memory : Memory) (address : UInt16) (byte : UInt8) (place : Nat) :
    (memory.write address byte).cells[place]? =
      if (cell address).val = place then some byte else memory.cells[place]? := by
  rw [write, Vector.getElem?_set]

/-- The byte in the cell of a number, which is taken modulo the size of memory. -/
def byteAt (memory : Memory) (number : Nat) : UInt8 := memory.cells[number % 4096]?.getD 0

theorem read_add_ofNat (memory : Memory) (address : UInt16) (distance : Nat) :
    memory.read (address + UInt16.ofNat distance) = memory.byteAt (address.toNat + distance) := by
  have inside : (address.toNat + distance) % 4096 < 4096 := Nat.mod_lt _ (by decide)
  simp only [read, byteAt, Fin.getElem_fin, cell_add_ofNat, Vector.getElem?_eq_getElem inside,
    Option.getD_some]

theorem cells_eq_byteAt (memory : Memory) (inside : index < 4096) :
    memory.cells[index]? = some (memory.byteAt index) := by
  rw [byteAt, Nat.mod_eq_of_lt inside, Vector.getElem?_eq_getElem inside, Option.getD_some]

/-! ## Blocks of any length -/

/-- How far above an address the bytes of a block lie that go to a cell. -/
def distancesTo (address : UInt16) (length place : Nat) : Set Nat :=
  {distance | distance < length ∧ (address.toNat + distance) % 4096 = place}

section Distances

variable {length place last : Nat}

/-- The last byte that goes to a cell is among the last 4096 bytes of its block. -/
theorem isGreatest_distancesTo_iff :
    IsGreatest (distancesTo address length place) last ↔
      (last < length ∧ (address.toNat + last) % 4096 = place) ∧ length ≤ last + 4096 := by
  constructor
  · rintro ⟨lands, latest⟩
    refine ⟨lands, ?_⟩
    by_contra early
    have again : last + 4096 ∈ distancesTo address length place := by
      refine ⟨Nat.lt_of_not_le early, ?_⟩
      rw [← Nat.add_assoc, Nat.add_mod_right]
      exact lands.2
    exact absurd (latest again) (by omega)
  · rintro ⟨lands, late⟩
    refine ⟨lands, fun other there => ?_⟩
    have here := lands.2
    obtain ⟨inside, there⟩ := there
    omega

theorem isGreatest_distancesTo_of_lands (lands : (address.toNat + length) % 4096 = place) :
    IsGreatest (distancesTo address (length + 1) place) length :=
  ⟨⟨Nat.lt_succ_self length, lands⟩, fun _ earlier => Nat.le_of_lt_succ earlier.1⟩

theorem distancesTo_succ_of_misses (misses : (address.toNat + length) % 4096 ≠ place) :
    distancesTo address (length + 1) place = distancesTo address length place := by
  ext distance
  constructor
  · rintro ⟨inside, lands⟩
    refine ⟨Nat.lt_of_le_of_ne (Nat.le_of_lt_succ inside) ?_, lands⟩
    rintro rfl
    exact misses lands
  · rintro ⟨inside, lands⟩
    exact ⟨Nat.lt_succ_of_lt inside, lands⟩

end Distances

section Blocks

variable (memory : Memory) (block : List UInt8) (address : UInt16)

/-- The last byte of a block is written last, as far up as the block is long. -/
theorem writeAll_concat (byte : UInt8) :
    memory.writeAll (block ++ [byte]) address =
      (memory.writeAll block address).write (address + UInt16.ofNat block.length) byte := by
  induction block generalizing memory address with
  | nil =>
      rw [List.length_nil, address_add_zero]
      rfl
  | cons first rest ih =>
      rw [List.cons_append, writeAll_cons, writeAll_cons, ih, List.length_cons, address_add_succ]

/-- The bytes are numbered, and each goes its number above the address. -/
theorem writeAll_eq_foldl :
    memory.writeAll block address = block.zipIdx.foldl
      (fun memory item => memory.write (address + UInt16.ofNat item.2) item.1) memory := by
  induction block using List.reverseRecOn with
  | nil => rfl
  | append_singleton block byte ih =>
      rw [writeAll_concat, ih, List.zipIdx_append, List.foldl_append, Nat.zero_add]
      rfl

/-- A cell holds the last byte of a block that goes to it, or what it held if none does. -/
theorem cells_writeAll (place : Nat) :
    (∃ last, IsGreatest (distancesTo address block.length place) last ∧
      (memory.writeAll block address).cells[place]? = block[last]?) ∨
    distancesTo address block.length place = ∅ ∧
      (memory.writeAll block address).cells[place]? = memory.cells[place]? := by
  -- From the end of the block: its last byte either takes the cell or leaves it alone.
  induction block using List.reverseRecOn with
  | nil => exact .inr ⟨Set.eq_empty_of_forall_notMem fun _ lands => Nat.not_lt_zero _ lands.1, rfl⟩
  | append_singleton block byte ih =>
      rw [writeAll_concat, getElem?_cells_write, cell_add_ofNat, List.length_append,
        List.length_singleton]
      by_cases lands : (address.toNat + block.length) % 4096 = place
      · refine .inl ⟨block.length, isGreatest_distancesTo_of_lands lands, ?_⟩
        rw [if_pos lands, List.getElem?_concat_length]
      · rw [if_neg lands, distancesTo_succ_of_misses lands]
        refine ih.imp_left ?_
        rintro ⟨last, greatest, holds⟩
        refine ⟨last, greatest, ?_⟩
        rw [holds, List.getElem?_append_left greatest.1.1]

end Blocks

section Cells

variable (memory : Memory) {last place : Nat}

/-- Of the bytes that go to one cell the last one stays. -/
theorem cells_writeAll_of_isGreatest
    (greatest : IsGreatest (distancesTo address block.length place) last) :
    (memory.writeAll block address).cells[place]? = block[last]? := by
  obtain ⟨other, greatest', holds⟩ | ⟨missed, -⟩ := cells_writeAll memory block address place
  · rw [greatest.unique greatest', holds]
  · exact absurd greatest.1 (missed ▸ Set.notMem_empty last)

/-- A cell that no byte goes to keeps what it held. -/
theorem cells_writeAll_of_missed (missed : distancesTo address block.length place = ∅) :
    (memory.writeAll block address).cells[place]? = memory.cells[place]? := by
  obtain ⟨last, greatest, -⟩ | ⟨-, kept⟩ := cells_writeAll memory block address place
  · exact absurd greatest.1 (missed ▸ Set.notMem_empty last)
  · exact kept

end Cells

/-- A block changes no cell but those that it is written to. -/
theorem exists_of_cells_writeAll_ne {memory : Memory} {cell : Nat}
    (changed : (memory.writeAll block address).cells[cell]? ≠ memory.cells[cell]?) :
    ∃ distance < block.length, cell = (address.toNat + distance) % 4096 := by
  obtain ⟨last, greatest, -⟩ | ⟨-, kept⟩ := cells_writeAll memory block address cell
  · exact ⟨last, greatest.1.1, greatest.1.2.symm⟩
  · exact absurd kept changed

/-! ## Blocks that cover no cell twice -/

/-- How many cells one address lies above another, counted around the top of memory. -/
def above (address other : UInt16) : Nat := (other - address).toNat % 4096

theorem above_of_lands {distance : Nat} (inside : distance < 4096)
    (lands : (address.toNat + distance) % 4096 = other.toNat % 4096) :
    above address other = distance := by
  have bound := address.toNat_lt
  rw [above, UInt16.toNat_sub]
  omega

theorem lands_above (address other : UInt16) :
    (address.toNat + above address other) % 4096 = other.toNat % 4096 := by
  have bound := address.toNat_lt
  rw [above, UInt16.toNat_sub]
  omega

theorem above_add_ofNat {distance : Nat} (inside : distance < 4096) :
    above address (address + UInt16.ofNat distance) = distance :=
  above_of_lands inside (cell_add_ofNat address distance).symm

/-- Behind a block its cells hold its bytes, and all others what they held before. -/
theorem read_writeAll (memory : Memory) (fits : block.length ≤ 4096) :
    (memory.writeAll block address).read other =
      block[above address other]?.getD (memory.read other) := by
  apply Option.some.inj
  rw [← cells_read]
  obtain ⟨last, greatest, holds⟩ | ⟨missed, kept⟩ :=
    cells_writeAll memory block address (other.toNat % 4096)
  · have inside : last < block.length := greatest.1.1
    rw [holds, above_of_lands (Nat.lt_of_lt_of_le inside fits) greatest.1.2,
      List.getElem?_eq_getElem inside, Option.getD_some]
  · have past : block.length ≤ above address other := by
      by_contra inside
      have lands : above address other ∈ distancesTo address block.length (other.toNat % 4096) :=
        ⟨Nat.lt_of_not_le inside, lands_above address other⟩
      rw [missed] at lands
      exact lands
    rw [kept, cells_read, List.getElem?_eq_none past, Option.getD_none]

/-- A block is read back where it was written. -/
theorem byteAt_writeAll_add (memory : Memory) (fits : block.length ≤ 4096)
    (inside : index < block.length) :
    (memory.writeAll block address).byteAt (address.toNat + index) = block[index] := by
  rw [← read_add_ofNat, read_writeAll memory fits, above_add_ofNat (Nat.lt_of_lt_of_le inside fits),
    List.getElem?_eq_getElem inside, Option.getD_some]

/-! ## Both wraps -/

/-- The bytes of a block of any length are numbered, and one after another each is written its
number above the address.  Behind that a cell holds the last byte whose distance leads there modulo
4096, and it holds what it held if there is none.  One of the two is always the case.  An address
reads the cell that it leaves modulo 4096.  A word has its high byte there and its low byte one
cell further up, where the lowest cell comes after the highest. -/
theorem blocks_wrap_exactly (memory : Memory) :
    (∀ (block : List UInt8) (address : UInt16),
      let written := memory.writeAll block address
      written = block.zipIdx.foldl
        (fun memory item => memory.write (address + UInt16.ofNat item.2) item.1) memory ∧
      ∀ place < 4096,
        let distances := distancesTo address block.length place
        (∀ last, IsGreatest distances last → written.cells[place]? = block[last]?) ∧
        (distances = ∅ → written.cells[place]? = memory.cells[place]?) ∧
        (distances = ∅ ∨ ∃ last, IsGreatest distances last)) ∧
    ∀ address : UInt16,
      memory.cells[address.toNat % 4096]? = some (memory.read address) ∧
      memory.cells[(address.toNat + 1) % 4096]? = some (memory.read (address + 1)) ∧
      (memory.readWord address).toNat =
        256 * (memory.read address).toNat + (memory.read (address + 1)).toNat := by
  constructor
  · intro block address
    refine ⟨writeAll_eq_foldl memory block address, fun place _ => ⟨fun last => ?_, ?_, ?_⟩⟩
    · exact cells_writeAll_of_isGreatest memory
    · exact cells_writeAll_of_missed memory
    · obtain ⟨last, greatest, -⟩ | ⟨missed, -⟩ := cells_writeAll memory block address place
      · exact .inr ⟨last, greatest⟩
      · exact .inl missed
  · intro address
    refine ⟨cells_read memory address, ?_, readWord_toNat memory address⟩
    rw [← cells_read, UInt16.toNat_add, Nat.mod_mod_of_dvd _ (by decide)]
    rfl

/-- A block that is two bytes longer than the range of addresses and begins two below its top.  Its
last two bytes have the numbers 65536 and 65537 and go where its first two went.  The lowest cell
is written sixteen times, last by the byte 61442.  A block of one byte leaves the cell above it
alone. -/
theorem blocks_wrap_exactly_twiceAround :
    let written := zero.writeAll (List.replicate 65536 0x11 ++ [0x22, 0x33]) 0xFFFE
    written.cells[4094]? = some 0x22 ∧ written.cells[4095]? = some 0x33 ∧
      written.cells[0]? = some 0x11 ∧ (written.readWord 0xFFFF).toNat = 0x3311 ∧
      (zero.writeAll [0x44] 0xFFFF).cells[0]? = zero.cells[0]? := by
  -- The long part of the block stays a variable, so that nothing computes it.
  have behind (filler : List UInt8) (size : filler.length = 65536)
      (filled : filler[61442]? = some 0x11) :
      let written := zero.writeAll (filler ++ [0x22, 0x33]) 0xFFFE
      written.cells[4094]? = some 0x22 ∧ written.cells[4095]? = some 0x33 ∧
        written.cells[0]? = some 0x11 ∧ (written.readWord 0xFFFF).toNat = 0x3311 := by
    intro written
    obtain ⟨-, cells⟩ := (blocks_wrap_exactly zero).1 (filler ++ [0x22, 0x33]) 0xFFFE
    have last (place number : Nat) (latest : (number < 65538 ∧
        (65534 + number) % 4096 = place) ∧ 65538 ≤ number + 4096) :
        IsGreatest (distancesTo 0xFFFE (filler ++ [0x22, 0x33]).length place) number := by
      rw [List.length_append, size]
      exact isGreatest_distancesTo_iff.2 latest
    have low : written.cells[4094]? = some 0x22 := by
      rw [(cells 4094 (by decide)).1 65536 (last _ _ (by decide)),
        List.getElem?_append_right (Nat.le_of_eq size), size]
      rfl
    have top : written.cells[4095]? = some 0x33 := by
      rw [(cells 4095 (by decide)).1 65537 (last _ _ (by decide)),
        List.getElem?_append_right (by omega), size]
      rfl
    have bottom : written.cells[0]? = some 0x11 := by
      rw [(cells 0 (by decide)).1 61442 (last _ _ (by decide)),
        List.getElem?_append_left (by omega), filled]
    obtain ⟨high, next, word⟩ := (blocks_wrap_exactly written).2 0xFFFF
    refine ⟨low, top, bottom, ?_⟩
    rw [word, ← Option.some.inj (top.symm.trans high), ← Option.some.inj (bottom.symm.trans next)]
    rfl
  obtain ⟨low, top, bottom, word⟩ := behind (List.replicate 65536 0x11) List.length_replicate
    (by rw [List.getElem?_replicate, if_pos (by decide)])
  obtain ⟨-, cells⟩ := (blocks_wrap_exactly zero).1 [0x44] 0xFFFF
  refine ⟨low, top, bottom, word, (cells 0 (by decide)).2.1 ?_⟩
  refine Set.eq_empty_of_forall_notMem fun distance lands => ?_
  obtain ⟨inside, lands⟩ := lands
  rw [Nat.lt_one_iff.1 inside] at lands
  exact absurd lands (by decide)

end Memory

end Chip8
