import Chip8.Text.Record

/-!
# Failures of the outside world

Reading a program, drawing a picture or saving a file may fail.  The failure is
passed on unchanged: one that the operating system numbers, one that only has a
text, or a terminal on which there is no room for the picture.
-/

namespace Chip8

/-- A failure that the operating system reports under a number. -/
structure SystemError where
  /-- The number. -/
  code : Nat
  /-- What class of failure it is. -/
  kind : String
  /-- The system's own text. -/
  message : String
  deriving DecidableEq, Repr

namespace SystemError

/-- There is no file of that name. -/
def notFound : SystemError := ⟨2, "NotFound", "No such file or directory"⟩

/-- The file may not be used in that way. -/
def permissionDenied : SystemError := ⟨13, "PermissionDenied", "Permission denied"⟩

/-- A file stands where a directory is needed. -/
def notADirectory : SystemError := ⟨20, "NotADirectory", "Not a directory"⟩

/-- A directory stands where a file is needed. -/
def isADirectory : SystemError := ⟨21, "IsADirectory", "Is a directory"⟩

/-- The path, or a name in it, has too many bytes. -/
def nameTooLong : SystemError := ⟨36, "InvalidFilename", "File name too long"⟩

end SystemError

/-- A failure of the outside world. -/
inductive IoError where
  /-- One with a number. -/
  | system (error : SystemError)
  /-- One with a text only. -/
  | custom (text : String)
  /-- The terminal has no room for the picture. -/
  | noRoom
  deriving DecidableEq, Repr

namespace IoError

/-- The text shown to the user. -/
def message : IoError → String
  | .system error => error.message ++ " (os error " ++ toString error.code ++ ")"
  | .custom text => text
  | .noRoom => "no room for the picture"

/-- The diagnostic form. -/
def record : IoError → Record
  | .system error =>
      { name := "Os"
        fields := [Record.number "code" error.code, ("kind", error.kind),
          ("message", "\"" ++ error.message ++ "\"")] }
  | .custom text =>
      { name := "Custom", fields := [("kind", "Other"), ("error", "\"" ++ text ++ "\"")] }
  | .noRoom => { name := "NoRoom", fields := [] }

end IoError

end Chip8
