import DeviceAssets.Png.Header

/-!
# Frames of an animated image

An animated image may say before its pixel data which part of the image they fill. Such
descriptions and the data of later frames carry sequence numbers, which count from zero
over both.
-/

namespace DeviceAssets.Png

/-- The size of the part that the next pixel data fill. -/
structure Frame where
  width : Nat
  height : Nat
  deriving DecidableEq, Repr

def checkSequence (last? : Option Nat) (number : Nat) : Except Error Unit :=
  let expected := (last?.map (· + 1)).getD 0
  require (number = expected) (.outOfSequence expected number)

/-- The frame in the contents of its chunk, and its sequence number. `last?` is the
sequence number before it, and the frame has to lie inside the image. -/
def readFrame (header : Header) (last? : Option Nat) (contents : Bytes) :
    Except Error (Nat × Frame) := do
  let (number, rest) ← nextWord contents
  checkSequence last? number
  let (width, rest) ← nextWord rest
  let (height, rest) ← nextWord rest
  let (left, rest) ← nextWord rest
  let (top, rest) ← nextWord rest
  let (_, rest) ← nextHalf rest
  let (_, rest) ← nextHalf rest
  let (disposal, rest) ← nextOctet rest
  require (disposal ≤ 2) .invalidDisposal
  let (blending, _) ← nextOctet rest
  require (blending ≤ 1) .invalidBlending
  require (left + width ≤ header.width && top + height ≤ header.height) .frameOutOfBounds
  return (number, ⟨width, height⟩)

def checkAnimation (contents : Bytes) : Except Error Unit := do
  let (_, rest) ← nextWord contents
  let _ ← nextWord rest
  return ()

end DeviceAssets.Png
