import DeviceAssets.Checksum
import DeviceAssets.Png.Frame
import DeviceAssets.Text.Utf8

/-!
# The head of a PNG file

A PNG file is a signature and a list of chunks. `readHead` reads the chunks up to the
first one with pixel data: they tell the size of the image and how its pixels are
written. A chunk has a length, a type, its contents and a checksum; what is wrong with
the contents is found before the checksum.
-/

namespace DeviceAssets.Png

def signature : Bytes := [0x89, 0x50, 0x4E, 0x47, 0x0D, 0x0A, 0x1A, 0x0A]

/-- The greatest number of octets of a chunk that are looked at together. -/
def pieceLength : Nat := 32768

structure Head where
  header : Header
  /-- The colors of an indexed image, three octets each. -/
  palette? : Option Bytes
  /-- What tells which pixels are transparent. -/
  transparency? : Option Bytes
  /-- The part of the image that the pixel data fill, if that is not all of it. -/
  frame? : Option Frame
  /-- The last sequence number. -/
  sequence? : Option Nat
  /-- Whether there have been pixel data. -/
  dataSeen : Bool
  deriving DecidableEq, Repr

namespace Head

def ofHeader (header : Header) : Head := ⟨header, none, none, none, none, false⟩

/-- The part of the image that the pixel data fill. -/
def frame (head : Head) : Frame :=
  head.frame?.getD ⟨head.header.width, head.header.height⟩

/-- Whether a frame was described which a later header has made void. -/
def hasVoidFrame (head : Head) : Bool :=
  head.sequence?.isSome && head.frame?.isNone

end Head

def checkTransparency (color : ColorType) (contents : Bytes) : Except Error Unit :=
  match color with
  | .gray => require (2 ≤ contents.length) .shortTransparency
  | .rgb => require (6 ≤ contents.length) .shortTransparency
  | .indexed => .ok ()
  | _ => .error (.unexpectedTransparency color.number)

def checkPixelSize (contents : Bytes) : Except Error Unit := do
  let (_, rest) ← nextWord contents
  let (_, rest) ← nextWord rest
  let (unit, _) ← nextOctet rest
  require (unit ≤ 1) (.invalidUnit unit)

/-- The types of the chunks that are looked into. -/
def headerType : Bytes := Bytes.ofString "IHDR"
def paletteType : Bytes := Bytes.ofString "PLTE"
def transparencyType : Bytes := Bytes.ofString "tRNS"
def pixelSizeType : Bytes := Bytes.ofString "pHYs"
def animationType : Bytes := Bytes.ofString "acTL"
def frameType : Bytes := Bytes.ofString "fcTL"
def endType : Bytes := Bytes.ofString "IEND"

inductive DataKind where
  | plain
  /-- The contents begin with a sequence number. -/
  | numbered
  deriving DecidableEq, Repr

namespace DataKind

def type : DataKind → Bytes
  | plain => Bytes.ofString "IDAT"
  | numbered => Bytes.ofString "fdAT"

def ofType? (type : Bytes) : Option DataKind :=
  [plain, numbered].find? (·.type = type)

end DataKind

def chunkName (type : Bytes) : String := String.ofList (Utf8.decodeLenient type)

/-- What is known after a chunk that is not empty. A later header replaces the earlier
one, and the palette and the frame with it, but sequence numbers go on. -/
def readContents (head? : Option Head) (type contents : Bytes) : Except Error Head :=
  if type = headerType then
    (readHeader contents).map fun header =>
      { Head.ofHeader header with
        sequence? := head?.bind (·.sequence?), dataSeen := head?.any (·.dataSeen) }
  else match head? with
  | none => .error (.beforeHeader (chunkName type))
  | some head =>
    if type = paletteType then .ok { head with palette? := some contents }
    else if type = transparencyType then
      (checkTransparency head.header.color contents).map fun _ =>
        { head with transparency? := some contents }
    else if head.dataSeen && [pixelSizeType, animationType].contains type then
      .error (.afterData (chunkName type))
    else if type = pixelSizeType then (checkPixelSize contents).map fun _ => head
    else if type = animationType then (checkAnimation contents).map fun _ => head
    else if type = frameType then
      (readFrame head.header head.sequence? contents).map fun (number, frame) =>
        { head with frame? := some frame, sequence? := some number }
    else .ok head

def readChecksum (type contents bytes : Bytes) : Except Error Bytes := do
  let (sum, rest) ← Bytes.splitOr 4 bytes .unexpectedEnd
  require (Bytes.bigEndian sum = (Checksum.crc32 (type ++ contents)).toNat) .wrongChecksum
  return rest

def readStart (bytes : Bytes) : Except Error (Nat × Bytes × Bytes) := do
  let (length, rest) ← Bytes.splitOr 4 bytes .unexpectedEnd
  let (type, rest) ← Bytes.splitOr 4 rest .unexpectedEnd
  return (Bytes.bigEndian length, type, rest)

/-- The head of a file, together with the kind and the length of the first chunk with
pixel data and the octets that follow its type. -/
structure Opening where
  head : Head
  kind : DataKind
  dataLength : Nat
  rest : Bytes
  deriving DecidableEq, Repr

def lastPiece (contents : Bytes) : Bytes :=
  contents.drop ((contents.length - 1) / pieceLength * pieceLength)

/-- Reads the contents of a chunk without pixel data and its checksum. The last piece is
looked at once more of the file is there, and the last chunk ends the search for data. -/
def readPlainChunk (head? : Option Head) (length : Nat) (type bytes : Bytes) :
    Except Error (Option Head × Bytes) := do
  let (contents, rest) ← Bytes.splitOr length bytes .unexpectedEnd
  require (!rest.isEmpty) .unexpectedEnd
  let head? ← if contents = [] then .ok head?
    else (readContents head? type (lastPiece contents)).map some
  let rest ← readChecksum type contents rest
  if type = endType then .error .dataMissing else return (head?, rest)

/-- Reads chunks up to pixel data, beginning behind the length and the type of a chunk.
Each takes an octet, so the number of octets bounds their number. -/
def readChunks : Nat → Option Head → Nat → Bytes → Bytes → Except Error Opening
  | 0, _, _, _, _ => .error .unexpectedEnd
  | bound + 1, head?, length, type, bytes =>
    match DataKind.ofType? type with
    | some kind =>
      match head? with
      | none => .error .headerMissing
      | some head => .ok ⟨head, kind, length, bytes⟩
    | none => do
      let (head?, rest) ← readPlainChunk head? length type bytes
      let (length, type, rest) ← readStart rest
      readChunks bound head? length type rest

def readHead (file : Bytes) : Except Error Opening := do
  let (first, rest) ← Bytes.splitOr 8 file .unexpectedEnd
  require (first = signature) .invalidSignature
  let (length, type, rest) ← readStart rest
  let opening ← readChunks (file.length + 1) none length type rest
  let header := opening.head.header
  require (header.color.admits header.depth)
    (.invalidCombination header.color.name (depthName header.depth))
  return opening

end DeviceAssets.Png
