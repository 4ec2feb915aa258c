import Chip8.Framebuffer.Basic

/-!
# Sprites

A sprite is a column of bytes, and each set bit of a byte asks for one pixel to
be turned over, the highest bit leftmost.  What runs off the right or the lower
edge is clipped, because turning over a place off the grid does nothing.
Drawing also tells whether a pixel went from on to off.
-/

namespace Chip8.Framebuffer

/-- The columns of the set bits of a sprite row, from the left. -/
def spriteColumns (bits : UInt8) : List Nat :=
  (List.range 8).filter fun column => bits.toNat.testBit (7 - column)

/-- The places that a sprite with its upper left corner at `x`, `y` turns over,
row by row. -/
def spritePlaces (x : Nat) : (y : Nat) → (sprite : List UInt8) → List (Nat × Nat)
  | _, [] => []
  | y, bits :: rest =>
      (spriteColumns bits).map (fun column => (x + column, y)) ++ spritePlaces x (y + 1) rest
termination_by structural _ sprite => sprite

/-- The screen with places turned over one after another. -/
def flipAll (frame : Framebuffer) (places : List (Nat × Nat)) : Framebuffer :=
  places.foldl (fun frame place => frame.flip place.1 place.2) frame

/-- Whether turning over the places one after another turns a pixel off. -/
def collides (frame : Framebuffer) : (places : List (Nat × Nat)) → Bool
  | [] => false
  | place :: rest => frame.get place.1 place.2 || collides (frame.flip place.1 place.2) rest
termination_by structural places => places

/-! ## Closed instances -/

example : spriteColumns 0x90 = [0, 3] := by decide
example : spritePlaces 2 3 [0x20, 0x60] = [(4, 3), (3, 4), (4, 4)] := by decide

end Chip8.Framebuffer
