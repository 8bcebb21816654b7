import DeviceAssets.Bitmap.Image
import DeviceAssets.Png.Pixels

/-!
# PNG files as images

The contents of a file say more about its format than its name does: a file that begins with the
signature is a PNG file under any name.
-/

namespace DeviceAssets.Png

/-- Whether a file is taken for a PNG file: its first octets say so, or failing that its
extension. -/
def recognizes (path : Files.Path) (contents : Bytes) : Bool :=
  signature.isPrefixOf contents || path.hasExtension "png"

def openFile (path : Files.Path) (contents : Bytes) : Except ImageError Opening :=
  if recognizes path contents then (readHead contents).mapError .png else .error .unknownFormat

def Opening.size (opening : Opening) : Nat × Nat :=
  (opening.head.header.width, opening.head.header.height)

/-- A reader that knows no other format. -/
instance imageReader : ImageReader where
  size path contents := (openFile path contents).map Opening.size
  decode path contents := do
    let opening ← openFile path contents
    (readImage opening).mapError .png

end DeviceAssets.Png
