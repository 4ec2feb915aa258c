import Chip8.Framebuffer.View
import Chip8.Picture.Checksum

/-!
# Pictures and their files

A picture has red, green, blue and opacity for every pixel.  Its file is a
signature and three chunks: the measures of the picture, its pixel data, and an
end mark.  The pixel data is packed without being made smaller.
-/

namespace Chip8

/-- A picture with four channels a pixel. -/
structure Picture where
  /-- The number of pixels in a row. -/
  width : Nat
  /-- The number of rows. -/
  height : Nat
  /-- Four bytes a pixel, row by row. -/
  data : List UInt8
  deriving DecidableEq, Repr

namespace Framebuffer

/-- The screen as a picture. -/
def toPicture (frame : Framebuffer) : Picture := ⟨width, height, frame.toRgba⟩

end Framebuffer

namespace Picture

/-- The bits of a channel. -/
def channelBits : UInt8 := 8

/-- The number that stands for pixels with colour and opacity. -/
def colourKind : UInt8 := 6

/-- A number in four bytes, the highest first. -/
def wordBytes (number : UInt32) : List UInt8 :=
  [(number >>> 24).toUInt8, (number >>> 16).toUInt8, (number >>> 8).toUInt8, number.toUInt8]

/-- A chunk: the length of its contents, its kind, the contents, and the check
of both. -/
def chunk (kind : String) (contents : List UInt8) : List UInt8 :=
  let body := kind.toUTF8.toList ++ contents
  wordBytes (UInt32.ofNat contents.length) ++ body ++ wordBytes (cyclicCheck body)

/-- The first bytes of every file. -/
def signature : List UInt8 := [0x89, 0x50, 0x4E, 0x47, 0x0D, 0x0A, 0x1A, 0x0A]

/-- The measures of a picture, the kind of its pixels, and no special methods. -/
def header (picture : Picture) : List UInt8 :=
  wordBytes (UInt32.ofNat picture.width) ++ wordBytes (UInt32.ofNat picture.height) ++
    [channelBits, colourKind, 0, 0, 0]

/-- The rows of a picture, each behind a byte that says that its pixels stand
for themselves. -/
def markedRows (width : Nat) : (height : Nat) → List UInt8 → List UInt8
  | 0, _ => []
  | height + 1, data =>
      0 :: data.take (4 * width) ++ markedRows width height (data.drop (4 * width))

/-- The length of the longest block of unpacked data. -/
def blockLimit : Nat := 0xFFFF

/-- Data in blocks that are not made smaller.  A block says whether it is the
last one, and gives its length and the complement of its length. -/
def blocks (data : List UInt8) : List UInt8 :=
  let block := data.take blockLimit
  let length := UInt16.ofNat block.length
  let last : Bool := data.length ≤ blockLimit
  let marks : List UInt8 :=
    [if last then 1 else 0, length.toUInt8, (length >>> 8).toUInt8,
      (~~~length).toUInt8, (~~~length >>> 8).toUInt8]
  if data.length ≤ blockLimit then
    marks ++ block
  else
    marks ++ block ++ blocks (data.drop blockLimit)
termination_by data.length
decreasing_by
  simp only [List.length_drop, blockLimit] at *
  omega

/-- Data packed as a stream of blocks with its check behind it. -/
def packed (data : List UInt8) : List UInt8 :=
  [0x78, 0x01] ++ blocks data ++ wordBytes (sumCheck data)

/-- The file of a picture. -/
def toPng (picture : Picture) : List UInt8 :=
  signature ++ chunk "IHDR" picture.header ++
    chunk "IDAT" (packed (markedRows picture.width picture.height picture.data)) ++
    chunk "IEND" []

end Picture

end Chip8
