import Chip8.Proofs.Machine.Footprint
import Chip8.Proofs.Machine.Loading

/-!
# The font survives

Nothing protects the cells of the font.  A program may store over them, but nothing else comes
near: an image that is loaded ends with memory and does not go around to its bottom, an image that
is refused is not written at all, and of all instructions only `FX33` and `FX55` write to memory.
So a run in which these two spare the font ends with the font that was there at power-on, and so
does every part of it.

`FX29` then points at the glyph of a digit, and the five bytes from there on are its rows:
`font_survives`.
-/

namespace Chip8

namespace Memory

variable {memory before after : Memory}

/-! ## The cells of the font -/

/-- The lowest cells hold the font. -/
def HoldsFont (memory : Memory) : Prop := memory.cells.toList.take 80 = font

instance (memory : Memory) : Decidable memory.HoldsFont := inferInstanceAs (Decidable (_ = _))

theorem HoldsFont.getElem?_cells (held : memory.HoldsFont) {place : Nat} (inside : place < 80) :
    memory.cells[place]? = font[place]? := by
  rw [← held, List.getElem?_take_of_lt inside, Vector.getElem?_toList]

/-- The font is where it was if its cells are what they were. -/
theorem HoldsFont.of_kept (held : before.HoldsFont)
    (kept : ∀ place < 80, after.cells[place]? = before.cells[place]?) : after.HoldsFont := by
  refine Eq.trans (List.ext_getElem? fun place => ?_) held
  rw [List.getElem?_take, List.getElem?_take, Vector.getElem?_toList, Vector.getElem?_toList]
  split
  case isTrue inside => exact kept place inside
  case isFalse => rfl

/-- The font is written at power-on. -/
theorem holdsFont_initial : initial.HoldsFont := by
  have size : font.length = 80 := length_font
  refine List.ext_getElem? fun place => ?_
  rw [List.getElem?_take, Vector.getElem?_toList]
  split
  case isTrue inside =>
    have short : place < font.length := by omega
    have written : initial.byteAt (fontStart.toNat + place) = font[place] :=
      byteAt_writeAll_add zero (by omega) short
    rw [show fontStart.toNat = 0 from rfl, Nat.zero_add] at written
    rw [cells_eq_byteAt initial (by omega), written, List.getElem?_eq_getElem short]
  case isFalse outside => exact (List.getElem?_eq_none (by omega)).symm

/-- A glyph is a piece of the font. -/
theorem getElem?_font (digit : Fin 16) (row : Fin 5) :
    font[5 * digit.val + row.val]? = (glyph digit)[row.val]? := by
  revert digit row
  decide

/-- The bytes from the address of a glyph on are its rows. -/
theorem HoldsFont.readAll_glyph (held : memory.HoldsFont) {address : UInt16} {digit : Fin 16}
    (place : address.toNat = 5 * digit.val) : memory.readAll 5 address = glyph digit := by
  refine List.ext_getElem? fun row => ?_
  rw [getElem?_readAll]
  split
  case isTrue inside =>
    have low : 5 * digit.val + row < 80 := by omega
    rw [read_add_ofNat, place, ← cells_eq_byteAt memory (by omega), held.getElem?_cells low]
    exact getElem?_font digit ⟨row, inside⟩
  case isFalse outside =>
    exact (List.getElem?_eq_none (by rw [length_glyph]; omega)).symm

end Memory

namespace Machine

open Opcode (Transfers)

variable {machine : Machine} {operation : Operation} {history : List Operation}

/-! ## Runs that spare the font -/

/-- The next instruction stores nothing over the font: neither do the three bytes of `FX33` go
there, nor the registers up to `X` of `FX55`. -/
def SparesFont (machine : Machine) : Prop :=
  (Transfers machine.opcode 0x33 →
    ∀ distance < 3, 80 ≤ (machine.index.toNat + distance) % 4096) ∧
  (Transfers machine.opcode 0x55 →
    ∀ distance ≤ (Opcode.x machine.opcode).val, 80 ≤ (machine.index.toNat + distance) % 4096)

instance (machine : Machine) : Decidable machine.SparesFont :=
  inferInstanceAs (Decidable (_ ∧ _))

/-- A step writes to the cells that it stores to, and to no others. -/
theorem holdsFont_step (held : machine.memory.HoldsFont) (spares : machine.SparesFont) :
    machine.step.2.memory.HoldsFont := by
  refine held.of_kept fun place inside => ?_
  apply Classical.byContradiction
  intro changed
  obtain ⟨stores, distance, near, target⟩ | ⟨stores, distance, near, target⟩ :=
    (confined_step machine).memory place changed
  · have := spares.1 stores distance near
    omega
  · have := spares.2 stores distance near
    omega

/-- An image begins above the font and ends with memory, and one that does not fit is not
written. -/
theorem holdsFont_load (held : machine.memory.HoldsFont) (image : List UInt8) :
    (machine.load image).2.memory.HoldsFont := by
  by_cases fits : image.length ≤ Memory.programLimit
  · have carries := carries_load machine fits
    exact held.of_kept fun place inside => carries.outside place (.inl (by omega))
  · rw [load_of_gt machine (Nat.lt_of_not_le fits)]
    exact held

theorem holdsFont_loadFrom (held : machine.memory.HoldsFont) (source : ByteSource) :
    (machine.loadFrom source).2.1.memory.HoldsFont := by
  cases taken : (source.take (Memory.programLimit + 1)).outcome with
  | error error =>
      rw [loadFrom_of_error machine taken]
      exact held
  | ok image =>
      rw [loadFrom_of_ok machine taken]
      exact holdsFont_load held image

theorem holdsFont_perform (held : machine.memory.HoldsFont)
    (spares : operation = .step → machine.SparesFont) :
    (machine.perform operation).2.memory.HoldsFont := by
  cases operation with
  | step => exact holdsFont_step held (spares rfl)
  | load image => exact holdsFont_load held image
  | loadFrom source => exact holdsFont_loadFrom held source
  | tick | setKey _ _ | releaseAll | setRegister _ _ | clearRedraw => exact held

theorem holdsFont_after (held : machine.memory.HoldsFont)
    (spares : ∀ time < history.length, history[time]? = some .step →
      (machine.after (history.take time)).SparesFont) :
    (machine.after history).memory.HoldsFont := by
  induction history generalizing machine with
  | nil => exact held
  | cons operation rest ih =>
      refine ih (holdsFont_perform held fun steps => ?_) fun time inside steps => ?_
      · exact spares 0 (Nat.succ_pos _) (congrArg some steps)
      · exact spares (time + 1) (Nat.succ_lt_succ inside) steps

/-- `FX29` sets the index register and nothing else. -/
theorem execute_loadGlyph (machine : Machine) (x : Register) :
    machine.execute (.loadGlyph x) =
      (.ok (), { machine with index := Memory.glyphAddress (machine.register x) }) := rfl

/-- A run from power-on in which no `FX33` and no `FX55` stores over the font, with any loads,
refused ones among them, and anything else in between.  At every time of the run the lowest 80
cells hold the font.  `FX29` there succeeds with every register, and changes nothing but the index
register, which is then five times what the register holds, as a number.  Where that is a digit,
the five bytes from the index register on are its glyph. -/
theorem font_survives (random : RandomStream) (history : List Operation)
    (spares : ∀ time < history.length, history[time]? = some .step →
      ((powerOn random).after (history.take time)).SparesFont) (time : Nat) :
    let now := (powerOn random).after (history.take time)
    now.memory.cells.toList.take 80 = Memory.font ∧
      ∀ x : Register,
        (now.opcode = Opcode.ofByte 0xF x 0x29 → now.step = now.advance.execute (.loadGlyph x)) ∧
        ∃ index, now.advance.execute (.loadGlyph x) = (.ok (), { now.advance with index }) ∧
          index.toNat = 5 * (now.register x).toNat ∧
          ∀ digit : Fin 16, (now.register x).toNat = digit.val →
            now.advance.memory.readAll 5 index = Memory.glyph digit := by
  intro now
  have held : now.memory.HoldsFont := by
    refine holdsFont_after Memory.holdsFont_initial fun before inside steps => ?_
    rw [List.length_take] at inside
    rw [List.getElem?_take_of_lt (by omega)] at steps
    rw [List.take_take, Nat.min_eq_left (by omega)]
    exact spares before (by omega) steps
  refine ⟨held, fun x => ⟨fun written => step_of_encode (.loadGlyph x) written rfl, _,
    execute_loadGlyph now.advance x, Memory.glyphAddress_toNat (now.register x), ?_⟩⟩
  intro digit same
  exact held.readAll_glyph ((Memory.glyphAddress_toNat (now.register x)).trans
    (congrArg (5 * ·) same))

/-- A source fails before its program is there.  The program of the next one stores the digits of 11
in the cells just above the font, and the register in the last cell of memory, just below it.  So
the glyph that `FX29` finds is that of the digit. -/
theorem font_survives_between :
    let program : List UInt8 :=
      [0x60, 0x0B, 0xA0, 0x50, 0xF0, 0x33, 0xAF, 0xFF, 0xF0, 0x55, 0xF0, 0x29]
    let history : List Operation :=
      [.loadFrom ⟨[.bytes 0xFF [0xFF]], .failing (.custom "gone"), 0⟩, .load program, .step, .step,
        .tick, .step, .setKey 3 true, .step, .step]
    let now := (powerOn (RandomStream.cycle #[])).after history
    (∀ time < history.length, history[time]? = some .step →
        ((powerOn (RandomStream.cycle #[])).after (history.take time)).SparesFont) ∧
      now.memory.cells.toList.take 80 = Memory.font ∧
      now.memory.byteAt 81 = 1 ∧ now.memory.byteAt 0xFFF = 0x0B ∧
      now.step.2.index.toNat = 5 * 0x0B ∧
      now.step.2.memory.readAll 5 now.step.2.index = Memory.glyph 0x0B := by
  intro program history now
  have facts : (∀ time < history.length, history[time]? = some .step →
        ((powerOn (RandomStream.cycle #[])).after (history.take time)).SparesFont) ∧
      now.memory.byteAt 81 = 1 ∧ now.memory.byteAt 0xFFF = 0x0B ∧
      now.opcode = Opcode.ofByte 0xF 0 0x29 ∧ (now.register 0).toNat = 0x0B := by
    decide +kernel
  obtain ⟨spares, facts⟩ := facts
  have reached : (powerOn (RandomStream.cycle #[])).after (history.take history.length) = now :=
    congrArg (powerOn (RandomStream.cycle #[])).after List.take_length
  have law := font_survives (RandomStream.cycle #[]) history spares history.length
  rw [reached] at law
  clear_value now
  obtain ⟨above, below, written, digit⟩ := facts
  obtain ⟨held, finds⟩ := law
  obtain ⟨steps, index, executed, place, glyph⟩ := finds 0
  have moved : now.step = (.ok (), { now.advance with index }) := (steps written).trans executed
  rw [moved]
  exact ⟨spares, held, above, below, place.trans (congrArg (5 * ·) digit), glyph 0x0B digit⟩

end Machine

end Chip8
