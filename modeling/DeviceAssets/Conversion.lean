import DeviceAssets.Action
import DeviceAssets.Bitmap.Image
import DeviceAssets.Bitmap.Packed
import DeviceAssets.Document.Archive
import DeviceAssets.Header.Render
import DeviceAssets.Qr.Symbol

/-!
# Conversions

The steps from a source to a file for the device, and the three chains made of them:
a text becomes a header with its QR symbol, a small image becomes a header with its
pixels, and a document becomes its plain text.
-/

namespace DeviceAssets

/-- The rows and columns of a bitmap of fixed size. -/
def bitmapSide : Nat := 32

def bitmapLength : Nat := 128

namespace Conversion

open DeviceAssets.Action

def moduleGrid (content : String) (level : Qr.Level) : Action Grid := do
  let octets := Bytes.ofString content
  let symbol ← ofResult ((Qr.Symbol.encode octets level).mapError .qr)
  note .debug .symbol <|
    s!"encoded {octets.length} bytes as Normal({symbol.version.number}) symbol, " ++
      s!"{symbol.side} modules"
  return symbol.grid

def packGrid (grid : Grid) : Action Packed := do
  let packed ← ofResult (pack grid)
  let n := packed.modules
  note .debug .packing
    s!"packed {n}x{n} grid into {packed.bytes.length} bytes (stride {packed.stride})"
  return packed

/-- Writes the header for a packed bitmap that is said to be of some extent. -/
def emitAs (path : Files.Path) (layout : Header.Layout) (extent : Extent) (bytes : Bytes)
    (content : String) : Action Unit := do
  let text ← ofResult (Header.renderAs layout extent bytes content)
  note .debug .header
    s!"rendered header {layout.arrayName} with {Header.dataLineCount bytes} lines of data"
  write path (Bytes.ofString text)
  note .info .header s!"wrote {Error.shown path} ({bytes.length} bytes of data)"

def emit (path : Files.Path) (layout : Header.Layout) (n : Nat) (bytes : Bytes)
    (content : String) : Action Unit :=
  emitAs path layout (.ofSide n) bytes content

/-- Writes the header for a bitmap of fixed size; its length is looked at first. -/
def emitBitmap32 (path : Files.Path) (bytes : Bytes) (content : String) : Action Unit :=
  if bytes.length = bitmapLength then
    emit path Header.Layout.bitmap32 bitmapSide bytes content
  else fail (.sizeMismatch bitmapLength bytes.length)

def loadBitmap32 [ImageReader] (path : Files.Path) : Action Grid := do
  requireInput path
  let contents ← read .io path
  let size ← ofResult ((ImageReader.size path contents).mapError .image)
  note .debug .bitmap s!"{Error.shown path} is {size.1}x{size.2}"
  if size = (bitmapSide, bitmapSide) then
    let image ← ofResult ((ImageReader.decode path contents).mapError .image)
    return image.threshold
  else fail (.dimensionMismatch (bitmapSide, bitmapSide) size)

def extract (path : Files.Path) : Action (List String) := do
  requireInput path
  let archive ← read (fun e => .zip (.unreadable e)) path
  let body ← ofResult (Document.body archive)
  note .debug .document s!"{Document.memberName} is {body.length} bytes"
  ofResult (Document.paragraphs body)

/-- Lines as one text, with a line feed between any two. -/
def joinLines (lines : List String) : String :=
  String.ofList (['\n'].intercalate (lines.map String.toList))

/-- Writes lines as a text, and gives the number of octets written. -/
def writeText (path : Files.Path) (lines : List String) : Action Nat := do
  let octets := Bytes.ofString (joinLines lines)
  write path octets
  return octets.length

def qrToHeader (content : String) (level : Qr.Level) (path : Files.Path) : Action Packed := do
  let grid ← moduleGrid content level
  let packed ← packGrid grid
  emit path Header.Layout.qrModules packed.modules packed.bytes content
  return packed

/-- From an image of fixed size to a header with its pixels; the label is the path of the
image. -/
def pngToHeader [ImageReader] (source path : Files.Path) : Action Packed := do
  let grid ← loadBitmap32 source
  let packed ← packGrid grid
  emitBitmap32 path packed.bytes (Error.shown source)
  return packed

def docxToText (source path : Files.Path) : Action (List String × Nat) := do
  let lines ← extract source
  let count ← writeText path lines
  return (lines, count)

end Conversion

end DeviceAssets
