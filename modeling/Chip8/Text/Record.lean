/-!
# Records as text

The diagnostic form of a value: its name, and behind it the named fields in
braces.  A value without fields is its name alone.
-/

namespace Chip8

/-- A name with named fields. -/
structure Record where
  /-- What kind of value it is. -/
  name : String
  /-- The fields in the order in which they are shown. -/
  fields : List (String × String) := []

namespace Record

/-- A field whose value is a number, shown in decimal. -/
def number (label : String) (value : Nat) : String × String := (label, toString value)

/-- The record on one line. -/
def render (record : Record) : String :=
  match record.fields with
  | [] => record.name
  | fields =>
      let shown := fields.map fun field => field.1 ++ ": " ++ field.2
      record.name ++ " \x7b " ++ String.intercalate ", " shown ++ " \x7d"

end Record

end Chip8
