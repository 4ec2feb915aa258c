import Chip8.Host.Basic

/-!
# The keyboard of a terminal

The keypad is laid out on the left of a keyboard, in four rows of four keys.  A
terminal reports that a key went down and never that it came up, so every key
pressed counts as held for a number of polls, that of the press included.

A poll first lets one poll pass for every key and then takes the events that
wait in the queue.  The escape key ends the taking at once and leaves the rest
for the next poll.  So does a failure, which also leaves the keypad as it was,
though what was taken before it still counts.
-/

namespace Chip8.Terminal

/-- The events that wait to be taken, each of which may turn out to be a
failure. -/
abbrev Queue := List (Except IoError Event)

/-- The characters of the keys, from key zero on. -/
def keyChars : List Char :=
  ['x', '1', '2', '3', 'q', 'w', 'e', 'a', 's', 'd', 'z', 'c', '4', 'r', 'f', 'v']

/-- The key that a character stands for, in small or capital letters. -/
def keyOf? (c : Char) : Option (Fin 16) :=
  (List.finRange 16).find? fun key => keyChars[key.val]? = some c.toLower

/-- For how many more polls each key counts as held. -/
structure Keyboard where
  /-- The number of polls for which a press counts. -/
  hold : Nat
  /-- The polls left for each key. -/
  left : Vector Nat 16
  deriving DecidableEq, Repr

/-- What became of taking events. -/
structure Taken where
  /-- What the user wants, unless an event turned out to be a failure. -/
  answer : Except IoError Control
  /-- The keyboard behind the events taken. -/
  keyboard : Keyboard
  /-- The events left in the queue. -/
  rest : Queue
  /-- What the events taken are reported with, first to last. -/
  notices : List Notice

namespace Keyboard

/-- A keyboard with no key held. -/
def idle (hold : Nat) : Keyboard := ⟨hold, Vector.replicate 16 0⟩

/-- The keyboard after one poll has passed. -/
def age (keyboard : Keyboard) : Keyboard :=
  { keyboard with left := keyboard.left.map (· - 1) }

/-- The keyboard after a key was pressed. -/
def press (keyboard : Keyboard) (key : Fin 16) : Keyboard :=
  { keyboard with left := keyboard.left.setIfInBounds key keyboard.hold }

/-- For how many more polls a key counts as held. -/
def leftFor (keyboard : Keyboard) (key : Fin 16) : Nat := keyboard.left.getD key 0

/-- The keys that count as held. -/
def keypad (keyboard : Keyboard) : Keypad :=
  Keypad.ofHeld fun key => 0 < keyboard.leftFor key

/-- What a key asks of the emulator, unless it asks nothing or asks to leave. -/
def wish? : Key → Option Control
  | .character ' ' => some .togglePause
  | .function 11 => some .screenshot
  | _ => none

/-- The keyboard after a key that asks nothing of the emulator, and what the key
is reported with. -/
def strike (keyboard : Keyboard) : Key → Keyboard × List Notice
  | .character c =>
      match keyOf? c with
      | some key => (keyboard.press key, [])
      | none => (keyboard, [.unmapped c])
  | key => (keyboard, [.ignoredKey key])

/-- Taking events from a queue.  The last wish among them is the answer, unless
the escape key is met. -/
def take (keyboard : Keyboard) (control : Control) : Queue → Taken
  | [] => ⟨.ok control, keyboard, [], []⟩
  | .error error :: rest => ⟨.error error, keyboard, rest, []⟩
  | .ok (.click column row) :: rest =>
      let taken := take keyboard control rest
      { taken with notices := .ignoredClick column row :: taken.notices }
  | .ok (.key .escape) :: rest => ⟨.ok .quit, keyboard, rest, []⟩
  | .ok (.key key) :: rest =>
      match wish? key with
      | some wish => take keyboard wish rest
      | none =>
          let (struck, notices) := keyboard.strike key
          let taken := take struck control rest
          { taken with notices := notices ++ taken.notices }

/-- A poll. -/
def poll (keyboard : Keyboard) (queue : Queue) : Taken :=
  keyboard.age.take .proceed queue

/-- The keypad after a poll that found it in some state. -/
def keypadAfter (taken : Taken) (before : Keypad) : Keypad :=
  match taken.answer with
  | .ok _ => taken.keyboard.keypad
  | .error _ => before

end Keyboard

end Chip8.Terminal
