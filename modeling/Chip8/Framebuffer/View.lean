import Chip8.Framebuffer.Basic

/-!
# Views of the framebuffer

The same pixels in three forms: four bytes a pixel for pictures, one character a
pixel for text, and, for plotting, the coordinates of the pixels in one of the
two states.
-/

namespace Chip8.Framebuffer

/-- Opaque white for a pixel that is on and opaque black for one that is off. -/
def rgbaPixel : Bool → List UInt8
  | true => [0xFF, 0xFF, 0xFF, 0xFF]
  | false => [0x00, 0x00, 0x00, 0xFF]

/-- The picture as red, green, blue and opacity bytes, row by row. -/
def toRgba (frame : Framebuffer) : List UInt8 :=
  frame.pixels.toList.flatMap rgbaPixel

/-- The character for a pixel. -/
def mark : Bool → Char
  | true => 'X'
  | false => '.'

/-- The picture as one line of text a row. -/
def toLines (frame : Framebuffer) : List String :=
  frame.rows.map fun row => String.ofList (row.map mark)

/-- The picture as text, with a line feed behind every row. -/
def toText (frame : Framebuffer) : String :=
  String.ofList (frame.rows.flatMap fun row => row.map mark ++ ['\n'])

/-- The pixels of the first `count` places of a grid `width` wide that are in
the state `lit`, from the last place to the first.  The second coordinate points
down from zero. -/
def planeBelow (frame : Framebuffer) (width : Nat) (lit : Bool) : (count : Nat) → List (Nat × Int)
  | 0 => []
  | count + 1 =>
      let x := count % width
      let y := count / width
      if frame.get x y = lit then
        (x, -(y : Int)) :: planeBelow frame width lit count
      else
        planeBelow frame width lit count

/-- The coordinates of the pixels in the state `lit` on a grid of any size.  They are exact
numbers in place of floating-point ones, which hold every coordinate below `2 ^ 53`. -/
def plane (frame : Framebuffer) (width height : Nat) (lit : Bool) : List (Nat × Int) :=
  planeBelow frame width lit (width * height)

end Chip8.Framebuffer
