import Chip8.Framebuffer.View
import Chip8.Terminal.Room

/-!
# The screen of a terminal

The picture is shown in a box in the upper left corner of the terminal, one
pixel a cell.  Pixels are half blocks that differ in colour only, dark pixels
are drawn first and lit ones on top of them, and the title stands in the upper
edge of the box.  A terminal without room for the box is never drawn on.
-/

namespace Chip8.Terminal

/-- A colour of a cell. -/
inductive Colour where
  /-- The colour that the terminal uses by itself. -/
  | reset
  | black
  | white
  deriving DecidableEq, Repr

/-- The name of a colour. -/
def Colour.name : Colour → String
  | .reset => "reset"
  | .black => "black"
  | .white => "white"

/-- One cell of the screen. -/
structure Cell where
  /-- The character in the cell. -/
  symbol : Char
  /-- The colour of the character. -/
  foreground : Colour
  /-- The colour behind it. -/
  background : Colour
  deriving DecidableEq, Repr

namespace Cell

/-- A cell of an empty screen. -/
def empty : Cell := ⟨' ', .reset, .reset⟩

/-- A cell of the box around the picture. -/
def frame (symbol : Char) : Cell := ⟨symbol, .reset, .black⟩

/-- A pixel. -/
def pixel (colour : Colour) : Cell := ⟨'▄', colour, .reset⟩

end Cell

/-- The rows of a screen, from the top. -/
abbrev Screen := List (List Cell)

namespace Screen

/-- An empty screen. -/
def empty (columns rows : Nat) : Screen :=
  List.replicate rows (List.replicate columns Cell.empty)

/-- The cells of the pixels of a picture before any is drawn. -/
def canvas (width height : Nat) : Array Cell := Array.replicate (width * height) Cell.empty

/-- The cells with pixels of one colour drawn at some coordinates. -/
def plot (width : Nat) (colour : Colour) (cells : Array Cell) (points : List (Nat × Int)) :
    Array Cell :=
  points.foldl
    (fun cells point => cells.setIfInBounds ((-point.2).toNat * width + point.1) (Cell.pixel colour))
    cells

/-- The cells of a picture, row by row. -/
def picture (frame : Framebuffer) (width height : Nat) : Array Cell :=
  let dark := plot width .black (canvas width height) (frame.plane width height false)
  plot width .white dark (frame.plane width height true)

/-- Cells cut into rows. -/
def rowsOf (width height : Nat) (cells : Array Cell) : Screen :=
  (List.range height).map fun y =>
    (List.range width).map fun x => cells.getD (y * width + x) Cell.empty

/-- The upper edge of a box, with a title from its second cell on. -/
def topEdge (width : Nat) (title : List Char) : List Cell :=
  let line := title.take width ++ List.replicate (width - title.length) '─'
  (['┌'] ++ line ++ ['┐']).map Cell.frame

/-- The lower edge of a box. -/
def bottomEdge (width : Nat) : List Cell :=
  (['└'] ++ List.replicate width '─' ++ ['┘']).map Cell.frame

/-- A picture in a box with a title. -/
def box (frame : Framebuffer) (title : String) : Screen :=
  let width := Framebuffer.width
  let height := Framebuffer.height
  let side := [Cell.frame '│']
  [topEdge width title.toList] ++
    (rowsOf width height (picture frame width height)).map (fun row => side ++ row ++ side) ++
    [bottomEdge width]

/-- The width of the box. -/
def boxWidth : Nat := Framebuffer.width + 2

/-- The height of the box. -/
def boxHeight : Nat := Framebuffer.height + 2

/-- A screen with cells put over its upper left corner, for which there is room. -/
def cover (screen cells : Screen) : Screen :=
  (screen.zipIdx).map fun (row, y) =>
    let covering := (cells[y]?).getD []
    covering ++ row.drop covering.length

/-- The title of the box. -/
def title (paused : Bool) : String := if paused then "CHIP-8 (Paused)" else "CHIP-8"

end Screen

/-- A terminal that shows a picture. -/
structure Display where
  /-- What the terminal shows. -/
  screen : Screen
  /-- Whether there is room for the box. -/
  hasRoom : Bool
  /-- Whether the title says that the program is paused. -/
  paused : Bool
  /-- Whether the cursor can be seen. -/
  cursor : Bool
  deriving DecidableEq

namespace Display

/-- A terminal that was cleared, with its cursor hidden. -/
def start (columns rows : Nat) : Display :=
  { screen := Screen.empty columns rows
    hasRoom := fits Screen.boxWidth Screen.boxHeight columns rows
    paused := false
    cursor := false }

/-- The terminal with a picture drawn, if there is room for it. -/
def draw? (display : Display) (frame : Framebuffer) : Option Display :=
  if display.hasRoom then
    let box := Screen.box frame (Screen.title display.paused)
    some { display with screen := display.screen.cover box }
  else
    none

/-- The terminal with another title from the next picture on. -/
def showPaused (display : Display) (paused : Bool) : Display := { display with paused }

/-- The terminal when it is given back: its cursor can be seen again. -/
def leave (display : Display) : Display := { display with cursor := true }

end Display

end Chip8.Terminal
