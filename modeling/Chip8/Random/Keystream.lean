/-!
# Keystream words

The words that random bytes are taken from: the ChaCha block function with
twelve rounds, a 256-bit key, a 64-bit block counter and a zero nonce.  The
stream is the sixteen words of block 0, then those of block 1, and so on.

A block is four rows of four words.  A round mixes its four columns, and every
other one its four diagonals, which become columns when the rows are turned.
-/

namespace Chip8.Keystream

/-- Four words side by side. -/
structure Row where
  /-- The first word. -/
  first : UInt32
  /-- The second word. -/
  second : UInt32
  /-- The third word. -/
  third : UInt32
  /-- The fourth word. -/
  fourth : UInt32
  deriving DecidableEq, Repr

namespace Row

/-- The words of a row. -/
def toList (row : Row) : List UInt32 := [row.first, row.second, row.third, row.fourth]

/-- A function applied to every word. -/
def map (f : UInt32 → UInt32) (row : Row) : Row :=
  ⟨f row.first, f row.second, f row.third, f row.fourth⟩

/-- A function applied to the words of two rows that stand at the same place. -/
def zipWith (f : UInt32 → UInt32 → UInt32) (row other : Row) : Row :=
  ⟨f row.first other.first, f row.second other.second, f row.third other.third,
    f row.fourth other.fourth⟩

/-- A row turned to the left by one place. -/
def turn (row : Row) : Row := ⟨row.second, row.third, row.fourth, row.first⟩

end Row

/-- The eight words of a key. -/
structure Key where
  /-- The first four words. -/
  low : Row
  /-- The last four words. -/
  high : Row
  deriving DecidableEq, Repr

/-- The sixteen words of a block under way. -/
structure Block where
  /-- The first row. -/
  a : Row
  /-- The second row. -/
  b : Row
  /-- The third row. -/
  c : Row
  /-- The fourth row. -/
  d : Row
  deriving DecidableEq, Repr

namespace Block

/-- The words of a block, row by row. -/
def toList (block : Block) : List UInt32 :=
  block.a.toList ++ block.b.toList ++ block.c.toList ++ block.d.toList

/-- The sums of the words of two blocks. -/
def add (block other : Block) : Block :=
  { a := block.a.zipWith (· + ·) other.a
    b := block.b.zipWith (· + ·) other.b
    c := block.c.zipWith (· + ·) other.c
    d := block.d.zipWith (· + ·) other.d }

end Block

/-- A word turned to the left by less than 32 places. -/
def rotateLeft (places : UInt32) (word : UInt32) : UInt32 :=
  word <<< places ||| word >>> (32 - places)

/-- The exclusive or of two rows, turned to the left word by word. -/
def blend (places : UInt32) (row other : Row) : Row :=
  (row.zipWith (· ^^^ ·) other).map (rotateLeft places)

/-- Half a round: the first row gains the second, the fourth is blended with it,
and the same again for the third row and the second. -/
def halfRound (block : Block) (places places' : UInt32) : Block :=
  let a := block.a.zipWith (· + ·) block.b
  let d := blend places block.d a
  let c := block.c.zipWith (· + ·) d
  let b := blend places' block.b c
  ⟨a, b, c, d⟩

/-- One round on the columns of a block. -/
def round (block : Block) : Block := halfRound (halfRound block 16 12) 8 7

/-- The block with its diagonals as columns. -/
def toColumns (block : Block) : Block :=
  { block with
    b := block.b.turn
    c := block.c.turn.turn
    d := block.d.turn.turn.turn }

/-- The block with its columns as diagonals. -/
def toDiagonals (block : Block) : Block :=
  { block with
    b := block.b.turn.turn.turn
    c := block.c.turn.turn
    d := block.d.turn }

/-- Two rounds, on the columns of a block and on its diagonals. -/
def doubleRound (block : Block) : Block := toDiagonals (round (toColumns (round block)))

/-- A block before the rounds: four constants, the key, the counter with its
low word first, and the nonce. -/
def start (key : Key) (counter : UInt64) : Block :=
  { a := ⟨0x61707865, 0x3320646E, 0x79622D32, 0x6B206574⟩
    b := key.low
    c := key.high
    d := ⟨counter.toUInt32, (counter >>> 32).toUInt32, 0, 0⟩ }

/-- Some number of double rounds. -/
def rounds : (count : Nat) → Block → Block
  | 0, block => block
  | count + 1, block => rounds count (doubleRound block)

/-- A finished block. -/
def block (key : Key) (counter : UInt64) : Block :=
  let initial := start key counter
  (rounds 6 initial).add initial

/-- The word at a position of the stream. -/
def word (key : Key) (position : Nat) : UInt32 :=
  (block key (UInt64.ofNat (position / 16))).toList.getD (position % 16) 0

end Chip8.Keystream
