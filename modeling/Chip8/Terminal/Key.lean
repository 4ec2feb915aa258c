/-!
# Terminal events

What a terminal reports: a key, with its modifiers dropped, or a press of the
mouse.  A terminal never reports that a key was let go.

A new size, any other event of the mouse and the null key are left out.  Nothing
would be made of them but to pass over them, as over a press of the mouse.
-/

namespace Chip8.Terminal

/-- A key that is known by a name. -/
inductive NamedKey where
  | enter
  | tab
  | backTab
  | backspace
  | up
  | down
  | left
  | right
  | home
  | finish
  | insert
  | delete
  | pageUp
  | pageDown
  deriving DecidableEq, Repr

namespace NamedKey

/-- The name of a key. -/
def name : NamedKey → String
  | .enter => "Enter"
  | .tab => "Tab"
  | .backTab => "BackTab"
  | .backspace => "Backspace"
  | .up => "Up"
  | .down => "Down"
  | .left => "Left"
  | .right => "Right"
  | .home => "Home"
  | .finish => "End"
  | .insert => "Insert"
  | .delete => "Delete"
  | .pageUp => "PageUp"
  | .pageDown => "PageDown"

end NamedKey

/-- A key of the terminal. -/
inductive Key where
  /-- A character, as typed. -/
  | character (c : Char)
  /-- A function key. -/
  | function (number : Nat)
  /-- The escape key. -/
  | escape
  /-- Any other key. -/
  | named (key : NamedKey)
  deriving DecidableEq, Repr

/-- Something a terminal reports. -/
inductive Event where
  /-- A key was pressed. -/
  | key (key : Key)
  /-- The left mouse button was pressed over a cell. -/
  | click (column row : Nat)
  deriving DecidableEq, Repr

end Chip8.Terminal
