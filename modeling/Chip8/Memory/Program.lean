import Chip8.ByteSource
import Chip8.Memory.Font

/-!
# Loading a program

A program image goes to a fixed address and may fill memory up to its end.  An
image that does not fit is refused before a byte is written.  From a source of
bytes no more is taken than it takes to see that the program does not fit, and
the rest of the source is given back.
-/

namespace Chip8

/-- Why a program could not be loaded. -/
inductive LoadError where
  /-- The image has this many bytes, which is too many. -/
  | tooLarge (size : Nat)
  /-- The source failed. -/
  | reading (error : IoError)
  deriving DecidableEq, Repr

namespace Memory

/-- Where a program is put and where it starts. -/
def programStart : UInt16 := 0x200

/-- The longest program. -/
def programLimit : Nat := size - programStart.toNat

/-- Memory with a program image loaded. -/
def load (memory : Memory) (image : List UInt8) : Except LoadError Memory :=
  if image.length ≤ programLimit then
    .ok (memory.writeAll image programStart)
  else
    .error (.tooLarge image.length)

/-- Memory with the program of a source loaded and the length of it, and what is
left of the source. -/
def loadFrom (memory : Memory) (source : ByteSource) :
    Except LoadError (Memory × Nat) × ByteSource :=
  let portion := source.take (programLimit + 1)
  match portion.outcome with
  | .error error => (.error (.reading error), portion.rest)
  | .ok image => ((memory.load image).map fun loaded => (loaded, image.length), portion.rest)

end Memory

namespace LoadError

/-- The text shown to the user. -/
def message : LoadError → String
  | .tooLarge size =>
      "program is too large (" ++ toString size ++ " bytes), max size is " ++
        toString Memory.programLimit ++ " bytes"
  | .reading error => error.message

/-- The diagnostic form of a program that is too large. -/
def tooLargeRecord (size : Nat) : Record :=
  { name := "RomTooLarge"
    fields := [Record.number "size" size, Record.number "max_size" Memory.programLimit] }

/-- The diagnostic form. -/
def diagnostic : LoadError → String
  | .tooLarge size => (tooLargeRecord size).render
  | .reading error => "Io(" ++ error.record.render ++ ")"

end LoadError

end Chip8
