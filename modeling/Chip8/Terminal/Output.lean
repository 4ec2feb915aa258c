import Chip8.Terminal.Screen

/-!
# What is sent to a terminal

A screen is sent as its rows from the top, with a colour sequence wherever the
colours change from one cell to the next.  Apart from that a terminal is only
cleared, and its cursor hidden and shown.
-/

namespace Chip8.Terminal.Output

/-- The control sequence with these parameters and this last character. -/
def sequence (parameters : List Char) (last : Char) : List Char :=
  ['\x1b', '['] ++ parameters ++ [last]

/-- The parameter for characters of a colour. -/
def foreground : Colour → List Char
  | .reset => ['3', '9']
  | .black => ['3', '0']
  | .white => ['9', '7']

/-- The parameter for a colour behind characters. -/
def background : Colour → List Char
  | .reset => ['4', '9']
  | .black => ['4', '0']
  | .white => ['1', '0', '7']

/-- The colours of a cell. -/
def colours (cell : Cell) : Colour × Colour := (cell.foreground, cell.background)

/-- The cells of a row behind one of some colours. -/
def cells (before : Colour × Colour) : List Cell → List Char
  | [] => []
  | cell :: rest =>
      let change :=
        if colours cell = before then []
        else sequence (foreground cell.foreground ++ [';'] ++ background cell.background) 'm'
      change ++ cell.symbol :: cells (colours cell) rest

/-- A row, with the terminal's own colours in front of it and behind it. -/
def row (line : List Cell) : List Char :=
  cells (.reset, .reset) line ++ sequence ['0'] 'm'

/-- A screen, painted from the upper left corner. -/
def screen (screen : Screen) : String :=
  String.ofList (sequence [] 'H' ++ List.intercalate ['\r', '\n'] (screen.map row))

/-- The terminal cleared and its cursor hidden. -/
def enter : String :=
  String.ofList (sequence ['2'] 'J' ++ sequence [] 'H' ++ sequence ['?', '2', '5'] 'l')

/-- The cursor shown again. -/
def leave : String := String.ofList (sequence ['?', '2', '5'] 'h')

/-! ## Closed instances -/

example : row [Cell.pixel .white, Cell.pixel .white] =
    ['\x1b', '[', '9', '7', ';', '4', '9', 'm', '▄', '▄', '\x1b', '[', '0', 'm'] := by decide

end Chip8.Terminal.Output
