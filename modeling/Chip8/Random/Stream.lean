import Chip8.Random.Seed

/-!
# Random streams

A source of random numbers is an endless stream of 32-bit words and a place in
it.  A random byte is the low byte of the word at that place, and taking one
moves the place by one word.
-/

namespace Chip8

/-- An endless stream of words and the place of the next one. -/
structure RandomStream where
  /-- The word at each place. -/
  word : Nat → UInt32
  /-- The place of the next word. -/
  position : Nat

namespace RandomStream

/-- The byte that is taken next. -/
def byte (stream : RandomStream) : UInt8 :=
  (stream.word stream.position).toUInt8

/-- The stream with one word taken. -/
def advance (stream : RandomStream) : RandomStream :=
  { stream with position := stream.position + 1 }

/-- The stream of a seed.  Equal seeds give equal streams. -/
def ofSeed (seed : UInt64) : RandomStream :=
  let key := Seed.key seed
  ⟨Keystream.word key, 0⟩

/-- The stream that repeats these words, or zeros if there are none. -/
def cycle (words : Array UInt32) : RandomStream :=
  ⟨fun position => words.getD (position % words.size) 0, 0⟩

/-- The first bytes of a stream. -/
def bytes (stream : RandomStream) : (count : Nat) → List UInt8
  | 0 => []
  | count + 1 => stream.byte :: bytes stream.advance count

end RandomStream

end Chip8
