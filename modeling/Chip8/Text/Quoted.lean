import Chip8.Text.Shape

/-!
# Quoted characters

A character in single quotes.  The quote, the backslash and four controls have
a short escape, everything else without a shape of its own is written as its
code point, and the rest stands for itself.
-/

namespace Chip8.Text

/-- A character as it stands between single quotes. -/
def escape (c : Char) : List Char :=
  match c with
  | '\x00' => ['\\', '0']
  | '\t' => ['\\', 't']
  | '\r' => ['\\', 'r']
  | '\n' => ['\\', 'n']
  | '\x27' => ['\\', '\x27']
  | '\\' => ['\\', '\\']
  | c =>
      if hasShape c then [c]
      else ['\\', 'u', '\x7b'] ++ Nat.toDigits 16 c.toNat ++ ['\x7d']

/-- A character in single quotes. -/
def quote (c : Char) : String :=
  String.ofList (['\x27'] ++ escape c ++ ['\x27'])

end Chip8.Text
