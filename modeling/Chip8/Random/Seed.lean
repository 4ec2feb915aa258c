import Chip8.Random.Keystream

/-!
# Keys from seeds

A 64-bit seed is spread over the eight words of a key by a linear congruential
generator whose state is permuted before a word is taken from it.
-/

namespace Chip8.Seed

/-- The state after another one. -/
def advance (state : UInt64) : UInt64 :=
  state * 6364136223846793005 + 11634580027462260723

/-- The word that a state gives: some of its middle bits, turned to the right by
its five highest. -/
def output (state : UInt64) : UInt32 :=
  let mixed := (((state >>> 18) ^^^ state) >>> 27).toUInt32
  let places := (state >>> 59).toUInt32
  mixed >>> places ||| mixed <<< ((32 - places) % 32)

/-- The state after some number of steps. -/
def state (seed : UInt64) : (steps : Nat) → UInt64
  | 0 => seed
  | steps + 1 => advance (state seed steps)

/-- The word that a seed gives after some number of steps. -/
def word (seed : UInt64) (steps : Nat) : UInt32 := output (state seed steps)

/-- The key of a seed. -/
def key (seed : UInt64) : Keystream.Key :=
  { low := ⟨word seed 1, word seed 2, word seed 3, word seed 4⟩
    high := ⟨word seed 5, word seed 6, word seed 7, word seed 8⟩ }

end Chip8.Seed
