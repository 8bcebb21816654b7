import DeviceAssets.Grid

/-!
# Cutting gray images at the midpoint

A pixel is dark when its luminance is below `blackThreshold`; there is no
dithering.
-/

namespace DeviceAssets

def blackThreshold : UInt8 := 128

/-- Whether a pixel of this luminance is dark. -/
def isBlack (luma : UInt8) : Bool :=
  luma < blackThreshold

/-- An image of one luminance sample per pixel, row by row. -/
structure GrayImage where
  width : Nat
  height : Nat
  pixels : List UInt8
  length_pixels : pixels.length = width * height
  deriving DecidableEq

def GrayImage.threshold (image : GrayImage) : Grid :=
  rows image.height image.pixels
where
  /-- The first `count` rows of the pixels given. -/
  rows : Nat → List UInt8 → Grid
    | 0, _ => []
    | count + 1, pixels =>
      (pixels.take image.width).map isBlack :: rows count (pixels.drop image.width)

end DeviceAssets
