import DeviceAssets.Conversion
import DeviceAssets.Proofs.Action.Effect

/-!
# The stages of a conversion

Without the log and without the files that change, a conversion is a chain of stages each
of which gives a value or the failure that ends the chain. The sources look at the files,
the stages behind them only at what they are given, and the last one makes the contents
of the output. What a conversion does to files is what these chains say.
-/

namespace DeviceAssets.Conversion

open DeviceAssets.Action (Reads Writes)
open Files (Path Tree)

/-! ### Sources -/

def symbolGrid (content : String) (level : Qr.Level) : Except Error Grid :=
  ((Qr.Symbol.encode (Bytes.ofString content) level).mapError .qr).map Qr.Symbol.grid

def inputAt (path : Path) (files : Tree) : Except Error Unit :=
  if files.contains path then .ok () else .error (.notFound path)

/-- The dark and light pixels in the contents of a file, which have to declare the fixed size. -/
def bitmapIn [ImageReader] (path : Path) (contents : Bytes) : Except Error Grid := do
  let size ← (ImageReader.size path contents).mapError .image
  if size = (bitmapSide, bitmapSide) then
    return (← (ImageReader.decode path contents).mapError .image).threshold
  else .error (.dimensionMismatch (bitmapSide, bitmapSide) size)

/-- The pixels of an image of fixed size, where there are files to read it from. -/
def bitmapAt [ImageReader] (path : Path) (files : Tree) : Except Error Grid := do
  inputAt path files
  let contents ← (files.read path).mapError .io
  bitmapIn path contents

def paragraphsAt (path : Path) (files : Tree) : Except Error (List String) := do
  inputAt path files
  let archive ← (files.read path).mapError fun e => .zip (.unreadable e)
  let body ← Document.body archive
  Document.paragraphs body

/-! ### Outputs -/

def headerFileAs (layout : Header.Layout) (extent : Extent) (bytes : Bytes) (content : String) :
    Except Error Bytes :=
  (Header.renderAs layout extent bytes content).map Bytes.ofString

def headerFile (layout : Header.Layout) (n : Nat) (bytes : Bytes) (content : String) :
    Except Error Bytes :=
  (Header.render layout n bytes content).map Bytes.ofString

def bitmap32File (bytes : Bytes) (content : String) : Except Error Bytes :=
  if bytes.length = bitmapLength then
    headerFile Header.Layout.bitmap32 bitmapSide bytes content
  else .error (.sizeMismatch bitmapLength bytes.length)

def textFile (lines : List String) : Bytes :=
  Bytes.ofString (joinLines lines)

/-! ### Chains

Each gives what is reported and the contents of the output. -/

def qrFile (content : String) (level : Qr.Level) : Except Error (Packed × Bytes) := do
  let grid ← symbolGrid content level
  let packed ← pack grid
  let file ← headerFile Header.Layout.qrModules packed.modules packed.bytes content
  return (packed, file)

def pngFile [ImageReader] (source : Path) (files : Tree) : Except Error (Packed × Bytes) := do
  let grid ← bitmapAt source files
  let packed ← pack grid
  let file ← bitmap32File packed.bytes (Error.shown source)
  return (packed, file)

def docxFile (source : Path) (files : Tree) : Except Error ((List String × Nat) × Bytes) := do
  let lines ← paragraphsAt source files
  return ((lines, (textFile lines).length), textFile lines)

/-! ### What conversions do to files -/

theorem moduleGrid_reads (content : String) (level : Qr.Level) :
    Reads (moduleGrid content level) fun _ => symbolGrid content level := by
  refine ((Reads.ofResult ((Qr.Symbol.encode (Bytes.ofString content) level).mapError
    .qr)).bind fun symbol =>
      (Reads.note _ _ _).bind fun _ => Reads.pure symbol.grid).congr fun _ => ?_
  rw [symbolGrid]
  cases Qr.Symbol.encode (Bytes.ofString content) level <;> rfl

theorem packGrid_reads (grid : Grid) : Reads (packGrid grid) fun _ => pack grid := by
  refine ((Reads.ofResult (pack grid)).bind fun packed =>
    (Reads.note _ _ _).bind fun _ => Reads.pure packed).congr fun _ => ?_
  cases pack grid <;> rfl

theorem emitAs_writes (path : Path) (layout : Header.Layout) (extent : Extent) (bytes : Bytes)
    (content : String) :
    Writes (emitAs path layout extent bytes content) path fun _ =>
      (headerFileAs layout extent bytes content).map fun file => ((), file) := by
  refine ((Reads.ofResult (Header.renderAs layout extent bytes content)).bind_writes fun text =>
    (Reads.note _ _ _).bind_writes fun _ =>
      (Writes.write path (Bytes.ofString text)).bind_pure fun _ => Reads.note _ _ _).congr
        fun _ => ?_
  rw [headerFileAs]
  cases Header.renderAs layout extent bytes content <;> rfl

theorem emit_writes (path : Path) (layout : Header.Layout) (n : Nat) (bytes : Bytes)
    (content : String) :
    Writes (emit path layout n bytes content) path fun _ =>
      (headerFile layout n bytes content).map fun file => ((), file) :=
  emitAs_writes path layout (.ofSide n) bytes content

theorem emitBitmap32_writes (path : Path) (bytes : Bytes) (content : String) :
    Writes (emitBitmap32 path bytes content) path fun _ =>
      (bitmap32File bytes content).map fun file => ((), file) := by
  rw [emitBitmap32, bitmap32File]
  split
  · exact emit_writes path Header.Layout.bitmap32 bitmapSide bytes content
  · exact Writes.fail _ path

theorem loadBitmap32_reads [ImageReader] (path : Path) :
    Reads (loadBitmap32 path) (bitmapAt path) :=
  (Reads.requireInput path).bind fun _ => (Reads.read .io path).bind fun contents =>
    (Reads.ofResult ((ImageReader.size path contents).mapError .image)).bind fun _ =>
      (Reads.note _ _ _).bind fun _ =>
        ((Reads.ofResult ((ImageReader.decode path contents).mapError .image)).bind fun image =>
          Reads.pure image.threshold).ite (Reads.fail _)

theorem extract_reads (path : Path) : Reads (extract path) (paragraphsAt path) :=
  (Reads.requireInput path).bind fun _ => (Reads.read _ path).bind fun archive =>
    (Reads.ofResult (Document.body archive)).bind fun body =>
      (Reads.note _ _ _).bind fun _ => Reads.ofResult (Document.paragraphs body)

theorem writeText_writes (path : Path) (lines : List String) :
    Writes (writeText path lines) path fun _ =>
      .ok ((textFile lines).length, textFile lines) :=
  (Writes.write path (textFile lines)).bind_pure fun _ => Reads.pure _

theorem qrToHeader_writes (content : String) (level : Qr.Level) (path : Path) :
    Writes (qrToHeader content level path) path fun _ => qrFile content level := by
  refine ((moduleGrid_reads content level).bind_writes fun grid =>
    (packGrid_reads grid).bind_writes fun packed =>
      (emit_writes path _ packed.modules packed.bytes content).bind_pure fun _ =>
        Reads.pure packed).congr fun _ => ?_
  refine congrArg _ (funext fun grid => congrArg _ (funext fun packed => ?_))
  cases headerFile Header.Layout.qrModules packed.modules packed.bytes content <;> rfl

theorem pngToHeader_writes [ImageReader] (source path : Path) :
    Writes (pngToHeader source path) path (pngFile source) := by
  refine ((loadBitmap32_reads source).bind_writes fun grid =>
    (packGrid_reads grid).bind_writes fun packed =>
      (emitBitmap32_writes path packed.bytes (Error.shown source)).bind_pure fun _ =>
        Reads.pure packed).congr fun _ => ?_
  refine congrArg _ (funext fun grid => congrArg _ (funext fun packed => ?_))
  cases bitmap32File packed.bytes (Error.shown source) <;> rfl

theorem docxToText_writes (source path : Path) :
    Writes (docxToText source path) path (docxFile source) :=
  (extract_reads source).bind_writes fun lines =>
    (writeText_writes path lines).bind_pure fun _ => Reads.pure _

end DeviceAssets.Conversion
