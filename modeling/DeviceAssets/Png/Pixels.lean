import DeviceAssets.Bitmap.Threshold
import DeviceAssets.Png.Data

/-!
# The pixels of a PNG file

The pixel data hold rows of samples, each with a filter that predicts an octet from its
neighbours, in one pass or in seven. The pixels are painted on a canvas of octets, of
which only the luminance is kept: transparency is ignored. A fault in a row comes before
a fault that is met later in the pixel data.
-/

namespace DeviceAssets.Png

/-! ### Rows -/

/-- The prediction from the left, upper and upper left neighbours: the one that is
nearest to left + upper - upper left, in this order of preference. -/
def paeth (left upper upperLeft : Nat) : Nat :=
  let distance (a b : Nat) : Nat := (a - b) + (b - a)
  let fromLeft := distance upper upperLeft
  let fromUpper := distance left upperLeft
  let fromBoth := distance (left + upper) (2 * upperLeft)
  if fromLeft ≤ fromUpper && fromLeft ≤ fromBoth then left
  else if fromUpper ≤ fromBoth then upper
  else upperLeft

def predict (filter left upper upperLeft : Nat) : Nat :=
  match filter with
  | 0 => 0
  | 1 => left
  | 2 => upper
  | 3 => (left + upper) / 2
  | _ => paeth left upper upperLeft

/-- The octets of a row from the differences to their predictions. Neighbours are `reach`
octets apart, and outside the image they are zero. -/
def unfilter (filter reach : Nat) (above : Array UInt8) (differences : Bytes) : Array UInt8 :=
  differences.foldl
    (fun row difference =>
      let i := row.size
      let earlier (octets : Array UInt8) : Nat :=
        if reach ≤ i then (octets.getD (i - reach) 0).toNat else 0
      let predicted := predict filter (earlier row) (above.getD i 0).toNat (earlier above)
      row.push (difference + UInt8.ofNat predicted)) #[]

def sample (depth : Nat) (row : Array UInt8) (i : Nat) : Nat :=
  if depth = 16 then (row.getD (2 * i) 0).toNat * 256 + (row.getD (2 * i + 1) 0).toNat
  else
    let octet := (row.getD (i * depth / 8) 0).toNat
    (octet >>> (8 - depth - i * depth % 8)) % (1 <<< depth)

/-! ### Pixels in memory -/

namespace Head

/-- Whether pixels get a sample for opacity because of a transparent color. -/
def addsOpacity (head : Head) : Bool := head.transparency?.isSome

def pixelLength (head : Head) : Nat :=
  (head.header.color.channelsInMemory + if head.addsOpacity then 1 else 0) *
    head.header.sampleLength

end Head

/-- A color of a palette; one that is not there is black. -/
def paletteColor (palette : Bytes) (index : Nat) : Bytes :=
  match palette.drop (3 * index) with
  | red :: green :: blue :: _ => [red, green, blue]
  | _ => [0, 0, 0]

/-- The octets of the color and of the opacity of pixel number `x` of a row: an index is
replaced by its color, a sample of less than eight bits is stretched to eight, and all
others stay as they are. -/
def colorAndOpacity (head : Head) (row : Array UInt8) (x : Nat) : Bytes × UInt8 :=
  let header := head.header
  let channels := header.color.channels
  let transparency := head.transparency?.getD []
  let value (channel : Nat) : Nat := sample header.depth row (x * channels + channel)
  let clear (holds : Bool) : UInt8 := if holds then 0 else 255
  let own : Bytes :=
    let length := channels * header.sampleLength
    (List.range length).map fun i => row.getD (x * length + i) 0
  match header.color with
  | .indexed => (paletteColor (head.palette?.getD []) (value 0), transparency.getD (value 0) 255)
  | .gray | .grayAlpha =>
    if header.depth < 8 then
      let stretched (channel : Nat) : UInt8 :=
        UInt8.ofNat (value channel * (255 / ((1 <<< header.depth) - 1)))
      ((List.range channels).map stretched,
        clear (value 0 = (transparency.getD 1 0).toNat))
    else (own, clear (own = key transparency header.depth channels))
  | _ => (own, clear (own = key transparency header.depth channels))
where
  /-- The octets of a transparent color, of which every sample is written with two. -/
  key (transparency : Bytes) (depth channels : Nat) : Bytes :=
    if depth = 16 then transparency
    else (List.range channels).map fun channel => transparency.getD (2 * channel + 1) 0

def pixelOctets (head : Head) (row : Array UInt8) (x : Nat) : Bytes :=
  let (color, opacity) := colorAndOpacity head row x
  if head.addsOpacity then color ++ List.replicate head.header.sampleLength opacity else color

/-- The luminance of a color, weighted in single precision and cut to a whole number. -/
def luminance (red green blue : Nat) : Nat :=
  let weighted : Float32 :=
    0.2126 * red.toFloat32 + 0.7152 * green.toFloat32 + 0.0722 * blue.toFloat32
  weighted.toUInt16.toNat

/-- The luminance, from 0 to 255, of a pixel that begins at a place in memory. -/
def luminanceAt (header : Header) (memory : Array UInt8) (place : Nat) : UInt8 :=
  let octet (i : Nat) : Nat := (memory.getD (place + i) 0).toNat
  let wide := header.depth = 16
  let value (channel : Nat) : Nat :=
    if wide then octet (2 * channel) * 256 + octet (2 * channel + 1) else octet channel
  let light :=
    match header.color with
    | .gray | .grayAlpha => value 0
    | _ => luminance (value 0) (value 1) (value 2)
  UInt8.ofNat (if wide then light / 256 else light)

/-! ### Passes -/

/-- A pass over an image: its first column and row, and the steps to the next ones. -/
structure Pass where
  left : Nat
  top : Nat
  across : Nat
  down : Nat
  deriving DecidableEq, Repr

def passes (interlaced : Bool) : List Pass :=
  if interlaced then
    [⟨0, 0, 8, 8⟩, ⟨4, 0, 8, 8⟩, ⟨0, 4, 4, 8⟩, ⟨2, 0, 4, 4⟩, ⟨0, 2, 2, 4⟩, ⟨1, 0, 2, 2⟩,
     ⟨0, 1, 1, 2⟩]
  else [⟨0, 0, 1, 1⟩]

/-- The number of places from `first` on, `step` apart, that are below `bound`. -/
def placeCount (first step bound : Nat) : Nat :=
  (bound - first + (step - 1)) / step

abbrev Canvas := Array UInt8

def Canvas.write (canvas : Canvas) (place : Nat) (octets : Bytes) : Canvas :=
  (octets.foldl
    (fun (canvas, place) octet => (canvas.setIfInBounds place octet, place + 1))
    (canvas, place)).1

/-- The width of the rows that a canvas is made of. The seven passes go to rows of the
image, but a single pass fills the canvas from its beginning. -/
def Head.pitch (head : Head) : Nat :=
  if head.header.interlaced then head.header.width else head.frame.width

def checkFilter (filter : UInt8) (length : Nat) : Except Error Unit := do
  require (filter ≤ 4) (.invalidFilter filter.toNat)
  require (filter < 3 || 0 < length) .filterWithoutPixels

/-- Checks that the samples of a row can be replaced by the colors of a palette. -/
def checkPalette (head : Head) : Except Error Unit := do
  if head.header.color = .indexed then
    require head.palette?.isSome .paletteMissing
    require (head.header.depth < 16) .wideIndices

/-- Reads `count` rows of a pass, the first of which goes to row `y` of the canvas. -/
def readRows (head : Head) (pass : Pass) (width : Nat) :
    Nat → Nat → Array UInt8 → Bytes → Canvas → Except Error (Bytes × Canvas)
  | 0, _, _, octets, canvas => .ok (octets, canvas)
  | count + 1, y, above, octets, canvas => do
    let header := head.header
    let bits := header.color.channels * header.depth
    match Bytes.splitAt? ((width * bits + 7) / 8 + 1) octets with
    | none | some ([], _) => .error .notEnoughData
    | some (filter :: differences, rest) =>
      checkFilter filter differences.length
      checkPalette head
      let reach := header.color.channels * header.sampleLength
      let row := unfilter filter.toNat reach above differences
      let canvas := (List.range width).foldl
        (fun canvas i =>
          let pixel := y * head.pitch + pass.left + i * pass.across
          canvas.write (pixel * head.pixelLength) (pixelOctets head row i)) canvas
      readRows head pass width count (y + pass.down) row rest canvas

/-- Reads all rows of a list of passes. Of seven passes, one without columns has no rows. -/
def readPasses (head : Head) : List Pass → Bytes → Canvas → Except Error Canvas
  | [], _, canvas => .ok canvas
  | pass :: rest, octets, canvas => do
    let width := placeCount pass.left pass.across head.frame.width
    let height := placeCount pass.top pass.down head.frame.height
    let (octets, canvas) ←
      readRows head pass width (if head.header.interlaced && width = 0 then 0 else height)
        pass.top #[] octets canvas
    readPasses head rest octets canvas

/-- The canvas for an image, which is black. -/
def Canvas.blank (head : Head) : Canvas :=
  Array.replicate (head.header.width * head.header.height * head.pixelLength) 0

def Canvas.image (canvas : Canvas) (head : Head) : GrayImage where
  width := head.header.width
  height := head.header.height
  pixels := (List.range (head.header.width * head.header.height)).map fun i =>
    luminanceAt head.header canvas (i * head.pixelLength)
  length_pixels := by simp

/-- Paints the pixels in uncompressed data on a canvas; what they leave out stays. -/
def paint (head : Head) (octets : Bytes) (canvas : Canvas) : Except Error Canvas :=
  readPasses head (passes head.header.interlaced) octets canvas

/-- Paints the pixels in a run of data chunks on a canvas. Where the data are interrupted,
a fault in the rows before that comes first. -/
def Source.paint (source : Source) (canvas : Canvas) : Except Error Canvas :=
  match source.octets with
  | .ok octets => Png.paint source.head octets canvas
  | .error ⟨octets, cause⟩ =>
    match Png.paint source.head octets canvas with
    | .ok _ => .error cause.afterImage
    | .error .notEnoughData => .error cause
    | .error e => .error e

/-- The image in a file of which the head has been read. The canvas is made for what the
opening tells, whatever follows. -/
def readImage (opening : Opening) : Except Error GrayImage := do
  let source ← opening.source
  let canvas := Canvas.blank opening.head
  let header := source.head.header
  require (header.width * header.height * source.head.pixelLength ≤ canvas.size) .outgrown
  return (← source.paint canvas).image opening.head

end DeviceAssets.Png
