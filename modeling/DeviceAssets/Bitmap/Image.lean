import DeviceAssets.Bitmap.Threshold
import DeviceAssets.Error
import DeviceAssets.Files.Path

/-!
# Image files

Which formats an image file may have is left open. A reader of images tells the size that a file
declares, and decodes its pixels; the two are asked separately, so that an image of the wrong
size is turned away before any of its pixels are looked at.
-/

namespace DeviceAssets

/-- A reader of image files. It is given the name of a file along with its contents, since the
contents of some formats do not tell which they are. -/
class ImageReader where
  /-- The width and the height that a file declares. -/
  size : Files.Path → Bytes → Except ImageError (Nat × Nat)
  /-- The luminance of the pixels of a file. -/
  decode : Files.Path → Bytes → Except ImageError GrayImage

end DeviceAssets
