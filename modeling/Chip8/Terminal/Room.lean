/-!
# Room on a terminal

What is drawn needs its place on the terminal.  A terminal of more than 65535
cells is not drawn on as a whole, but only on a part in its upper left corner
that has the proportions of the terminal and, but for rounding, 65535 cells.
-/

namespace Chip8.Terminal

/-- The greatest number of cells that can be drawn on. -/
def cellLimit : Nat := 65535

/-- Whether there is room for `height` rows of `width` cells.  The part of a terminal
that is too large has sides `w` and `h` with `w * rows = h * columns` and
`w * h = cellLimit`, rounded down, so `width ≤ w` says that
`width * width * rows ≤ cellLimit * columns`. -/
def fits (width height columns rows : Nat) : Bool :=
  if columns * rows ≤ cellLimit then
    width ≤ columns && height ≤ rows
  else
    width * width * rows ≤ cellLimit * columns && height * height * columns ≤ cellLimit * rows

end Chip8.Terminal
