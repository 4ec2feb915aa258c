import Chip8.Terminal.Key

/-!
# What a terminal sends

A terminal sends characters.  Most keys send the character they stand for, some
send one of the controls, and the others send a sequence that starts with the
escape control.  The escape key sends that control alone, so it is known only
when nothing follows, or nothing on the same line.

Reading goes character by character with a mode that remembers the sequence
under way.  A sequence without a meaning is dropped as a whole.
-/

namespace Chip8.Terminal.Input

/-- What the characters read so far leave open. -/
inductive Mode where
  /-- Nothing. -/
  | plain
  /-- What follows the escape control. -/
  | escape
  /-- The key of a sequence with a single letter. -/
  | letter
  /-- The rest of a sequence with numbers, the newest first.  `pointer` marks one
  that tells of the mouse. -/
  | numbers (pointer : Bool) (given : List Nat)
  deriving DecidableEq, Repr

/-- The letter that is `offset` places behind the first one. -/
def letterAt (offset : Nat) : Char := Char.ofNat ('a'.toNat + offset)

/-- The key that sends a character by itself. -/
def plainKey (c : Char) : Key :=
  match c with
  | '\r' | '\n' => .named .enter
  | '\t' => .named .tab
  | '\x7f' => .named .backspace
  | '\x00' => .character ' '
  | c => if c.toNat ≤ 26 then .character (letterAt (c.toNat - 1)) else .character c

/-- The key that ends a sequence with a letter. -/
def letterKey? (c : Char) : Option Key :=
  match c with
  | 'A' => some (.named .up)
  | 'B' => some (.named .down)
  | 'C' => some (.named .right)
  | 'D' => some (.named .left)
  | 'F' => some (.named .finish)
  | 'H' => some (.named .home)
  | 'Z' => some (.named .backTab)
  | 'P' => some (.function 1)
  | 'Q' => some (.function 2)
  | 'R' => some (.function 3)
  | 'S' => some (.function 4)
  | _ => none

/-- The key that a sequence names by a number.  The function keys have gaps
between their numbers. -/
def numberedKey? (number : Nat) : Option Key :=
  match number with
  | 1 | 7 => some (.named .home)
  | 2 => some (.named .insert)
  | 3 => some (.named .delete)
  | 4 | 8 => some (.named .finish)
  | 5 => some (.named .pageUp)
  | 6 => some (.named .pageDown)
  | number =>
      if 11 ≤ number && number ≤ 15 then some (.function (number - 10))
      else if 17 ≤ number && number ≤ 21 then some (.function (number - 11))
      else if 23 ≤ number && number ≤ 24 then some (.function (number - 12))
      else none

/-- The event of a sequence with numbers, the first number first. -/
def event? (pointer : Bool) (given : List Nat) (last : Char) : Option Event :=
  match pointer, given, last with
  | true, [0, column, row], 'M' => some (.click (column - 1) (row - 1))
  | true, _, _ => none
  | false, number :: _, '~' => (numberedKey? number).map .key
  | false, _, last => (letterKey? last).map .key

/-- The numbers with one more digit at the newest. -/
def withDigit (digit : Char) : List Nat → List Nat
  | [] => []
  | newest :: older => (10 * newest + (digit.toNat - '0'.toNat)) :: older

/-- The mode behind one more character, and the events that it completes. -/
def Mode.next (mode : Mode) (c : Char) : Mode × List Event :=
  match mode, c with
  | .plain, '\x1b' => (.escape, [])
  | .plain, c => (.plain, [.key (plainKey c)])
  | .escape, '[' => (.numbers false [0], [])
  | .escape, 'O' => (.letter, [])
  | .escape, '\x1b' => (.escape, [.key .escape])
  | .escape, '\n' => (.plain, [.key .escape, .key (.named .enter)])
  | .escape, c => (.plain, [.key (plainKey c)])
  | .letter, c => (.plain, ((letterKey? c).map .key).toList)
  | .numbers _ given, '<' => (.numbers true given, [])
  | .numbers pointer given, ';' => (.numbers pointer (0 :: given), [])
  | .numbers pointer given, c =>
      if c.isDigit then (.numbers pointer (withDigit c given), [])
      else (.plain, (event? pointer given.reverse c).toList)

/-- The events that characters stand for behind those of some mode. -/
def eventsFrom : Mode → List Char → List Event
  | .escape, [] => [.key .escape]
  | _, [] => []
  | mode, c :: rest =>
      let (mode, events) := mode.next c
      events ++ eventsFrom mode rest
termination_by structural _ text => text

/-- The events that characters stand for. -/
def events (text : List Char) : List Event := eventsFrom .plain text

/-! ## Closed instances -/

example : events ['q', '\x1b'] = [.key (.character 'q'), .key .escape] := by decide
example : events ['\x1b', '[', '2', '3', '~', 'x'] =
    [.key (.function 11), .key (.character 'x')] := by decide
example : events ['\x1b', 'O', 'A', '\x03'] = [.key (.named .up), .key (.character 'c')] := by
  decide
example : events ['\x1b', '[', '<', '0', ';', '3', ';', '5', 'M'] = [.click 2 4] := by decide

end Chip8.Terminal.Input
