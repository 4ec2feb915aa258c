import Chip8.Proofs.Framebuffer.Area
import Chip8.Proofs.Framebuffer.Sprite
import Chip8.Proofs.Machine.Step
import Chip8.Proofs.Memory.Blocks

/-!
# Drawing a sprite

The sprite of `DXYN` is a shape on the screen: its upper left corner is held by two registers,
modulo the size of the screen, its rows are the bits of successive bytes of memory, and it ends
at the edges of the screen.  Drawing turns over exactly the pixels under this shape, and
nothing else changes but the flag register, the redraw flag and the program counter:
`draw_blits`.

Both registers are read before the flag is written, so the shape is that of the machine before
the instruction, also where one of the registers is the flag register.
-/

namespace Chip8

namespace Machine

/-- Whether a place lies under the sprite of `DXYN`. -/
def sprite (machine : Machine) (x y : Register) (rows : Fin 16) (px py : Nat) : Bool :=
  let left := (machine.register x).toNat % 64
  let top := (machine.register y).toNat % 32
  decide (left ≤ px ∧ px < left + 8 ∧ top ≤ py ∧ py < top + rows.val) &&
    (machine.memory.byteAt (machine.index.toNat + (py - top))).toNat.testBit (7 - (px - left))

theorem mem_spritePlaces_iff (machine : Machine) (x y : Register) (rows : Fin 16) (px py : Nat) :
    (px, py) ∈ machine.spritePlaces x y rows ↔ machine.sprite x y rows px py = true := by
  simp only [spritePlaces, Framebuffer.mem_spritePlaces, Memory.getElem?_readAll,
    Memory.read_add_ofNat, sprite, Framebuffer.width, Framebuffer.height, Bool.and_eq_true,
    decide_eq_true_eq, Option.ite_none_right_eq_some, Option.some.injEq]
  constructor
  · rintro ⟨left, right, below, bits, ⟨inside, rfl⟩, set⟩
    exact ⟨⟨left, right, below, by omega⟩, set⟩
  · rintro ⟨⟨left, right, below, inside⟩, set⟩
    exact ⟨left, right, below, _, ⟨by omega, rfl⟩, set⟩

theorem nodup_spritePlaces (machine : Machine) (x y : Register) (rows : Fin 16) :
    (machine.spritePlaces x y rows).Nodup :=
  Framebuffer.nodup_spritePlaces _ _ _

/-- `DXYN` draws its sprite. -/
theorem draw_blits (machine : Machine) (x y : Register) (rows : Fin 16)
    (drawing : machine.opcode = Opcode.ofDigits 0xD x y rows) :
    let sprite := machine.sprite x y rows
    ∃ (screen : Framebuffer) (collided : Bool),
      machine.step = (.ok (),
        { machine.setRegister flag (if collided then 1 else 0) with
          screen, redraw := true, pc := machine.pc + 2 }) ∧
      (∀ px < 64, ∀ py < 32,
        screen.get px py = (machine.screen.get px py ^^ sprite px py)) ∧
      (collided = true ↔
        ∃ px < 64, ∃ py < 32, machine.screen.get px py = true ∧ sprite px py = true) ∧
      screen.litCount +
          2 * Framebuffer.area (fun px py => machine.screen.get px py && sprite px py) =
        machine.screen.litCount + Framebuffer.area sprite := by
  intro sprite
  have found : machine.instruction? = some (.draw x y rows) := by
    rw [instruction?, drawing]
    exact Instruction.decode?_encode (.draw x y rows)
  have once := nodup_spritePlaces machine x y rows
  have turned (px : Nat) (across : px < 64) (py : Nat) (down : py < 32) :
      (machine.screen.flipAll (machine.spritePlaces x y rows)).get px py =
        (machine.screen.get px py ^^ sprite px py) := by
    rw [Framebuffer.get_flipAll_of_nodup _ once ⟨across, down⟩]
    simp only [mem_spritePlaces_iff, Bool.decide_eq_true]
    rfl
  refine ⟨machine.screen.flipAll (machine.spritePlaces x y rows),
    machine.screen.collides (machine.spritePlaces x y rows),
    step_of_executed found (execute_eq_apply machine.advance rfl), turned, ?_,
    Framebuffer.litCount_of_turned turned⟩
  rw [Framebuffer.collides_iff _ once]
  constructor
  · rintro ⟨⟨px, py⟩, under, lit⟩
    obtain ⟨across, down⟩ := Framebuffer.inside_of_get lit
    exact ⟨px, across, py, down, lit, (mem_spritePlaces_iff machine x y rows px py).1 under⟩
  · rintro ⟨px, _, py, _, lit, under⟩
    exact ⟨(px, py), (mem_spritePlaces_iff machine x y rows px py).2 under, lit⟩

/-- A glyph in the lower right corner is drawn a second time, at the column that the flag
register holds. -/
theorem draw_blits_corner :
    let machine := (powerOn (RandomStream.cycle #[])).after
      (.load [0x6F, 0x3E, 0x60, 0x1E, 0xDF, 0x05, 0x6F, 0x3E, 0xDF, 0x05] ::
        List.replicate 4 .step)
    machine.opcode = Opcode.ofDigits 0xD 0xF 0x0 5 ∧
      ∃ screen,
        machine.step = (.ok (),
          { machine.setRegister flag 1 with screen, redraw := true, pc := machine.pc + 2 }) ∧
        screen.get 62 30 = false := by
  intro machine
  have facts : machine.opcode = Opcode.ofDigits 0xD 0xF 0x0 5 ∧
      machine.screen.get 62 30 = true ∧ machine.sprite 0xF 0x0 5 62 30 = true := by
    decide +kernel
  clear_value machine
  obtain ⟨drawing, lit, under⟩ := facts
  obtain ⟨screen, collided, moved, turned, collides, _⟩ := draw_blits machine 0xF 0x0 5 drawing
  have hit : collided = true := collides.2 ⟨62, by decide, 30, by decide, lit, under⟩
  rw [hit, if_pos rfl] at moved
  refine ⟨drawing, screen, moved, ?_⟩
  rw [turned 62 (by decide) 30 (by decide), lit, under]
  rfl

end Machine

end Chip8
