/-!
# Checksums of picture files

A picture file protects its chunks with a cyclic redundancy check and its pixel
data with a pair of running sums.
-/

namespace Chip8.Picture

/-- The remainder with one bit shifted out. -/
def shiftRemainder (remainder : UInt32) : UInt32 :=
  if remainder &&& 1 = 1 then (remainder >>> 1) ^^^ 0xEDB88320 else remainder >>> 1

/-- The remainder with some number of bits shifted out. -/
def shiftRemainders : (bits : Nat) → UInt32 → UInt32
  | 0, remainder => remainder
  | bits + 1, remainder => shiftRemainders bits (shiftRemainder remainder)

/-- The cyclic redundancy check of a list of bytes. -/
def cyclicCheck (data : List UInt8) : UInt32 :=
  data.foldl (fun remainder byte => shiftRemainders 8 (remainder ^^^ byte.toUInt32)) 0xFFFFFFFF ^^^
    0xFFFFFFFF

/-- The modulus of the running sums, the largest prime below `2 ^ 16`. -/
def sumModulus : Nat := 65521

/-- The running sums of a list of bytes: that of the bytes, and that of the
sums so far. -/
def runningSums (data : List UInt8) : Nat × Nat :=
  data.foldl
    (fun sums byte =>
      let sum := (sums.1 + byte.toNat) % sumModulus
      (sum, (sums.2 + sum) % sumModulus))
    (1, 0)

/-- The running sums in one word, that of the sums in its upper half. -/
def sumCheck (data : List UInt8) : UInt32 :=
  let (sum, total) := runningSums data
  UInt32.ofNat (total * 0x10000 + sum)

end Chip8.Picture
