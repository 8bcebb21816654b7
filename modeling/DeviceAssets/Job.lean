import DeviceAssets.Conversion
import DeviceAssets.Png.Reader

/-!
# Jobs

A job is a conversion with its arguments, so that runs of several conversions can be
spoken of. Jobs that read give what they read; those that write give how much. The number of
modules that a header is said to be for comes in a word of 64 bits, and what is worked out from
it is kept in such words, too: what is too large for one loses its upper digits. Where words are
made to stop the program instead, such a job is no part of a run.
-/

namespace DeviceAssets

inductive Job where
  | emit (path : Files.Path) (layout : Header.Layout) (n : UInt64) (bytes : Bytes)
      (content : String)
  | emitBitmap32 (path : Files.Path) (bytes : Bytes) (content : String)
  | writeText (path : Files.Path) (lines : List String)
  | loadBitmap32 (path : Files.Path)
  | extract (path : Files.Path)
  | qrToHeader (path : Files.Path) (content : String) (level : Qr.Level)
  | pngToHeader (source path : Files.Path)
  | docxToText (source path : Files.Path)
  deriving DecidableEq

/-- A number that is given for a word is cut down to one. -/
instance wordOfNat : Coe Nat UInt64 := ⟨UInt64.ofNat⟩

namespace Job

inductive Answer where
  | done
  | count (n : Nat)
  | grid (rows : Grid)
  | lines (list : List String)
  deriving DecidableEq, Repr

def perform [ImageReader] : Job → Action Answer
  | emit path layout n bytes content => do
    Conversion.emitAs path layout (.ofWord n) bytes content
    return .done
  | emitBitmap32 path bytes content => do
    Conversion.emitBitmap32 path bytes content
    return .done
  | writeText path lines => return .count (← Conversion.writeText path lines)
  | loadBitmap32 path => return .grid (← Conversion.loadBitmap32 path)
  | extract path => return .lines (← Conversion.extract path)
  | qrToHeader path content level =>
    return .count (← Conversion.qrToHeader content level path).modules
  | pngToHeader source path =>
    return .count (← Conversion.pngToHeader source path).bytes.length
  | docxToText source path => return .count (← Conversion.docxToText source path).2

/-- What a job gives on a file tree, and the tree after it. -/
def run [ImageReader] (job : Job) (files : Files.Tree) : Except Error Answer × Files.Tree :=
  let (result, session) := job.perform.runOn files
  (result, session.files)

/-- The tree after a list of jobs, whether they succeed or not. -/
def runAll [ImageReader] (jobs : List Job) (files : Files.Tree) : Files.Tree :=
  jobs.foldl (fun files job => (job.run files).2) files

end Job

end DeviceAssets
