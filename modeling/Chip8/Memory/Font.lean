import Chip8.Memory.Basic

/-!
# The font

Sixteen glyphs of five rows each stand at the bottom of memory, one for every
hexadecimal digit.  A glyph is four pixels wide, in the high half of its bytes.
-/

namespace Chip8.Memory

/-- The address of the first glyph. -/
def fontStart : UInt16 := 0x000

/-- The number of bytes of a glyph. -/
def glyphHeight : UInt16 := 5

/-- The rows of the glyph of a digit. -/
def glyph (digit : Fin 16) : List UInt8 :=
  match digit with
  | 0x0 => [0xF0, 0x90, 0x90, 0x90, 0xF0]
  | 0x1 => [0x20, 0x60, 0x20, 0x20, 0x70]
  | 0x2 => [0xF0, 0x10, 0xF0, 0x80, 0xF0]
  | 0x3 => [0xF0, 0x10, 0xF0, 0x10, 0xF0]
  | 0x4 => [0x90, 0x90, 0xF0, 0x10, 0x10]
  | 0x5 => [0xF0, 0x80, 0xF0, 0x10, 0xF0]
  | 0x6 => [0xF0, 0x80, 0xF0, 0x90, 0xF0]
  | 0x7 => [0xF0, 0x10, 0x20, 0x40, 0x40]
  | 0x8 => [0xF0, 0x90, 0xF0, 0x90, 0xF0]
  | 0x9 => [0xF0, 0x90, 0xF0, 0x10, 0xF0]
  | 0xA => [0xF0, 0x90, 0xF0, 0x90, 0x90]
  | 0xB => [0xE0, 0x90, 0xE0, 0x90, 0xE0]
  | 0xC => [0xF0, 0x80, 0x80, 0x80, 0xF0]
  | 0xD => [0xE0, 0x90, 0x90, 0x90, 0xE0]
  | 0xE => [0xF0, 0x80, 0xF0, 0x80, 0xF0]
  | _ => [0xF0, 0x80, 0xF0, 0x80, 0x80]

/-- All glyphs, in the order of their digits. -/
def font : List UInt8 := (List.finRange 16).flatMap glyph

/-- Memory at power-on: the font at the bottom, zeros above it. -/
def initial : Memory := zero.writeAll font fontStart

/-- The address of the glyph of a digit.  It is computed for every byte, also
for those past the last digit, and the product always fits. -/
def glyphAddress (digit : UInt8) : UInt16 := fontStart + digit.toUInt16 * glyphHeight

theorem length_glyph (digit : Fin 16) : (glyph digit).length = 5 := by
  revert digit
  decide

theorem length_font : font.length = 80 := by decide

theorem glyphAddress_toNat (digit : UInt8) :
    (glyphAddress digit).toNat = 5 * digit.toNat := by
  have := digit.toNat_lt
  simp only [glyphAddress, fontStart, glyphHeight, UInt16.toNat_add, UInt16.toNat_mul,
    UInt8.toNat_toUInt16]
  rw [show (0x000 : UInt16).toNat = 0 from rfl, show (5 : UInt16).toNat = 5 from rfl]
  omega

end Chip8.Memory
