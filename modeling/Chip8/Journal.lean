import Chip8.Fault
import Chip8.Instruction.Assembly
import Chip8.IoError
import Chip8.Settings
import Chip8.Terminal.Key
import Chip8.Text.Quoted

/-!
# The journal

What happens while a program runs is reported in notices.  A notice is a value:
it names what happened, and its level and its text are functions of it.  A
threshold decides which notices are shown, so no part of the library needs to
know what will be.
-/

namespace Chip8

/-- How serious a notice is, the most serious first. -/
inductive Level where
  | error
  | warn
  | info
  | debug
  | trace
  deriving DecidableEq, Repr

namespace Level

/-- The place of a level, zero for the most serious one. -/
def rank : Level → Nat
  | .error => 0
  | .warn => 1
  | .info => 2
  | .debug => 3
  | .trace => 4

/-- The name of a level, as it is written in front of a notice. -/
def name : Level → String
  | .error => "ERROR"
  | .warn => "WARN"
  | .info => "INFO"
  | .debug => "DEBUG"
  | .trace => "TRACE"

/-- All levels. -/
def all : List Level := [.error, .warn, .info, .debug, .trace]

end Level

/-- The least serious level that is shown, or nothing where all notices are
dropped. -/
abbrev Threshold := Option Level

namespace Threshold

/-- Whether notices of a level are shown. -/
def admits (threshold : Threshold) (level : Level) : Bool :=
  match threshold with
  | none => false
  | some least => level.rank ≤ least.rank

/-- The threshold that a word names, in small or capital letters. -/
def ofName? (word : String) : Option Threshold :=
  let word := word.map Char.toUpper
  if word = "OFF" then some none
  else (Level.all.find? fun level => level.name = word).map some

end Threshold

/-- Something worth reporting. -/
inductive Notice where
  /-- A program is about to be read from a file. -/
  | opening (path : String)
  /-- A program of this length was put into memory. -/
  | loaded (length : Nat)
  /-- The instruction at an address is about to be executed. -/
  | executing (address opcode : UInt16) (instruction : Instruction)
  /-- A byte that names no key was pressed or released. -/
  | noSuchKey (key : UInt8)
  /-- A character was typed that stands for no key. -/
  | unmapped (c : Char)
  /-- A key of the terminal was pressed that has no meaning. -/
  | ignoredKey (key : Terminal.Key)
  /-- The mouse was pressed over a cell. -/
  | ignoredClick (column row : Nat)
  /-- Frames are about to be run at a rate, with a number of steps each. -/
  | running (rate : Float) (steps : Nat)
  /-- No more frames will be run. -/
  | stopped (frames : Nat)
  /-- The program was paused, or goes on. -/
  | paused (now : Bool)
  /-- A screenshot was written. -/
  | saved (path : String)
  /-- A screenshot could not be written. -/
  | notSaved (error : IoError)
  /-- The program cannot go on. -/
  | halting (fault : Fault)

namespace Notice

/-- The level of a notice. -/
def level : Notice → Level
  | .halting _ => .error
  | .noSuchKey _ | .unmapped _ | .notSaved _ => .warn
  | .opening _ | .running _ _ | .stopped _ | .paused _ | .saved _ => .info
  | .loaded _ | .ignoredKey _ | .ignoredClick _ _ => .debug
  | .executing _ _ _ => .trace

/-- The name of a terminal key. -/
def keyName : Terminal.Key → String
  | .character c => "Char(" ++ Text.quote c ++ ")"
  | .function number => "F(" ++ toString number ++ ")"
  | .escape => "Esc"
  | .named key => key.name

/-- A press of the mouse. -/
def clickRecord (column row : Nat) : Record :=
  { name := "MouseEvent"
    fields := [("kind", "Down(Left)"), Record.number "column" column, Record.number "row" row,
      ("modifiers", "NONE")] }

/-- The text of a notice. -/
def text : Notice → String
  | .opening path => "loading " ++ path
  | .loaded length => "loaded " ++ toString length ++ " byte program at 0x200"
  | .executing address opcode instruction =>
      "0x" ++ String.ofList (Hex.address .lower address) ++ ": " ++
        String.ofList (Hex.field .lower 4 opcode.toNat) ++ " " ++ instruction.mnemonic
  | .noSuchKey key =>
      "ignoring keypad index 0x" ++ String.ofList (Hex.field .lower 2 key.toNat) ++
        "; only 0x0-0xf exist"
  | .unmapped c => "can't map " ++ Text.quote c ++ " to a COSMAC key"
  | .ignoredKey key => "ignoring key " ++ keyName key
  | .ignoredClick column row =>
      "ignoring terminal event Mouse(" ++ (clickRecord column row).render ++ ")"
  | .running rate steps =>
      "running at " ++ Settings.rateText rate ++ " frames/s, " ++ toString steps ++
        " instructions a frame"
  | .stopped frames => "stopped after " ++ toString frames ++ " frames"
  | .paused true => "paused"
  | .paused false => "resumed"
  | .saved path => "saved " ++ path
  | .notSaved error => "couldn't save screenshot: " ++ error.message
  | .halting fault => "halting: " ++ fault.message

/-- What pressing or releasing the key that a byte names is reported with. -/
def ofKey (key : UInt8) : List Notice :=
  if key.toNat < 16 then [] else [.noSuchKey key]

/-- A notice as a line of a log. -/
def line (notice : Notice) : String :=
  notice.level.name ++ " " ++ notice.text

end Notice

/-- The lines of the notices that a threshold admits. -/
def Threshold.lines (threshold : Threshold) (notices : List Notice) : List String :=
  (notices.filter fun notice => threshold.admits notice.level).map Notice.line

end Chip8
