import DeviceAssets.Bytes
import DeviceAssets.Png.Error

/-!
# The header of a PNG image

The header tells the size of an image and how its pixels are written. It is read field by
field, and a field is checked before the next one is read.
-/

namespace DeviceAssets.Png

/-- What the samples of a pixel mean. -/
inductive ColorType where
  | gray
  | rgb
  | indexed
  | grayAlpha
  | rgba
  deriving DecidableEq, Repr

namespace ColorType

def ofNumber? : Nat → Option ColorType
  | 0 => some gray
  | 2 => some rgb
  | 3 => some indexed
  | 4 => some grayAlpha
  | 6 => some rgba
  | _ => none

def number : ColorType → Nat
  | gray => 0
  | rgb => 2
  | indexed => 3
  | grayAlpha => 4
  | rgba => 6

def name : ColorType → String
  | gray => "Grayscale"
  | rgb => "RGB"
  | indexed => "Indexed"
  | grayAlpha => "GrayscaleAlpha"
  | rgba => "RGBA"

def channels : ColorType → Nat
  | gray => 1
  | rgb => 3
  | indexed => 1
  | grayAlpha => 2
  | rgba => 4

/-- The samples of a pixel in memory, where an index is replaced by its color. -/
def channelsInMemory : ColorType → Nat
  | indexed => 3
  | color => color.channels

def admits (color : ColorType) (depth : Nat) : Bool :=
  match color with
  | gray => true
  | indexed => depth < 16
  | _ => 8 ≤ depth

end ColorType

def depthName : Nat → String
  | 1 => "One"
  | 2 => "Two"
  | 4 => "Four"
  | 8 => "Eight"
  | _ => "Sixteen"

structure Header where
  width : Nat
  height : Nat
  /-- The bits of one sample. -/
  depth : Nat
  color : ColorType
  /-- Whether the pixels come in seven passes. -/
  interlaced : Bool
  deriving DecidableEq, Repr

namespace Header

/-- The octets of a sample that is given octets of its own. -/
def sampleLength (header : Header) : Nat := (header.depth + 7) / 8

/-- The octets of all pixels in memory, without any for opacity that the header does not
tell of. -/
def lengthInMemory (header : Header) : Nat :=
  header.width * header.height * (header.color.channelsInMemory * header.sampleLength)

end Header

/-- Lengths are counted up to here. -/
def lengthLimit : Nat := 1 <<< 64

def nextOctet : Bytes → Except Error (Nat × Bytes)
  | [] => .error .shortChunk
  | octet :: rest => .ok (octet.toNat, rest)

/-- The next `width` octets of the contents of a chunk as a number, and the rest. -/
def nextNumber (width : Nat) (bytes : Bytes) : Except Error (Nat × Bytes) := do
  let (digits, rest) ← Bytes.splitOr width bytes .shortChunk
  return (Bytes.bigEndian digits, rest)

def nextWord (bytes : Bytes) : Except Error (Nat × Bytes) := nextNumber 4 bytes

def nextHalf (bytes : Bytes) : Except Error (Nat × Bytes) := nextNumber 2 bytes

def require (condition : Bool) (e : Error) : Except Error Unit :=
  if condition then .ok () else .error e

/-- The header in the contents of its chunk. Fields are checked as they are read, and
the size of the image last. -/
def readHeader (contents : Bytes) : Except Error Header := do
  let (width, rest) ← nextWord contents
  let (height, rest) ← nextWord rest
  let (depth, rest) ← nextOctet rest
  require ([1, 2, 4, 8, 16].contains depth) (.invalidBitDepth depth)
  let (colorNumber, rest) ← nextOctet rest
  match ColorType.ofNumber? colorNumber with
  | none => .error (.invalidColorType colorNumber)
  | some color =>
    let (compression, rest) ← nextOctet rest
    require (compression = 0) (.unknownCompression compression)
    let (filter, rest) ← nextOctet rest
    require (filter = 0) (.unknownFilterMethod filter)
    let (interlace, _) ← nextOctet rest
    require (interlace ≤ 1) (.unknownInterlace interlace)
    let header : Header := ⟨width, height, depth, color, interlace = 1⟩
    require (header.lengthInMemory < lengthLimit) .outOfMemory
    return header

end DeviceAssets.Png
