/-!
# Why a PNG file could not be read
-/

namespace DeviceAssets.Png

inductive Error where
  /-- The file does not begin with the eight octets of every PNG file. -/
  | invalidSignature
  /-- The file ends before the pixels are complete. -/
  | unexpectedEnd
  /-- A chunk does not have the checksum that stands behind it. -/
  | wrongChecksum
  /-- The contents of a chunk end before its last field. -/
  | shortChunk
  /-- A chunk stands before the image header. -/
  | beforeHeader (chunk : String)
  /-- A chunk that belongs before the pixel data stands behind them. -/
  | afterData (chunk : String)
  | headerMissing
  | dataMissing
  | invalidBitDepth (value : Nat)
  | invalidColorType (value : Nat)
  | unknownCompression (value : Nat)
  | unknownFilterMethod (value : Nat)
  | unknownInterlace (value : Nat)
  /-- The color type does not admit the bit depth. -/
  | invalidCombination (color depth : String)
  | invalidUnit (value : Nat)
  /-- The transparent color has fewer samples than the color type. -/
  | shortTransparency
  /-- The color type already carries an alpha channel. -/
  | unexpectedTransparency (color : Nat)
  | paletteMissing
  /-- A palette has no colors for samples of sixteen bits. -/
  | wideIndices
  | corruptData
  /-- The decompressed data end before the last row. -/
  | notEnoughData
  /-- A row is marked with a filter that does not exist. -/
  | invalidFilter (value : Nat)
  /-- A row without pixels is marked with a filter that looks to the left. -/
  | filterWithoutPixels
  /-- The file ends behind the last row, but before its pixel data do. -/
  | endAfterImage
  /-- The sequence number of a frame is not the one that follows. -/
  | outOfSequence (expected actual : Nat)
  | invalidDisposal
  | invalidBlending
  | frameOutOfBounds
  /-- Frame data come before any frame has been described. -/
  | frameMissing
  /-- The octets of the pixels cannot be counted in a word of 64 bits. -/
  | outOfMemory
  /-- A later header makes the pixels take more room than was set aside for them. -/
  | outgrown
  deriving DecidableEq, Repr

namespace Error

/-- What is said about the failure; all but a few count as format errors. -/
def message : Error → String
  | shortChunk => "failed to fill whole buffer"
  | outOfMemory => "Insufficient memory"
  | outgrown => "The parameter is malformed: supplied buffer is too small to hold the image"
  | invalidSignature => formatError "invalid signature"
  | unexpectedEnd => formatError "unexpected EOF"
  | wrongChecksum => formatError "CRC error"
  | beforeHeader chunk => formatError s!"{chunk} chunk appeared before IHDR chunk"
  | afterData chunk => formatError s!"{chunk} chunk appeared after first IDAT chunk"
  | headerMissing => formatError "IHDR chunk missing"
  | dataMissing => formatError "IDAT chunk missing"
  | invalidBitDepth value => formatError s!"invalid bit depth ({value})"
  | invalidColorType value => formatError s!"invalid color type ({value})"
  | unknownCompression value => formatError s!"unknown compression method ({value})"
  | unknownFilterMethod value => formatError s!"unknown filter method ({value})"
  | unknownInterlace value => formatError s!"unknown interlace method ({value})"
  | invalidCombination color depth =>
    formatError s!"Invalid color/depth combination in header: {color}/{depth}"
  | invalidUnit value => formatError s!"invalid unit ({value})"
  | shortTransparency => formatError "not enough palette entries"
  | unexpectedTransparency color =>
    formatError s!"tRNS chunk found for color type ({color})"
  | paletteMissing => formatError "missing palette"
  | wideIndices => formatError "Bit depth '16' is not valid for paletted images"
  | corruptData => formatError "compressed data stream corrupted"
  | notEnoughData => formatError "not enough data for image"
  | invalidFilter value => formatError s!"invalid filter method ({value})"
  | filterWithoutPixels =>
    formatError "Filtering failed: bytes per pixel is greater than length of row"
  | endAfterImage => formatError "unexpected EOF after image"
  | outOfSequence expected actual =>
    formatError s!"Sequence is not in order, expected #{expected} got #{actual}."
  | invalidDisposal => formatError "invalid dispose operation"
  | invalidBlending => formatError "invalid blend operation"
  | frameOutOfBounds => formatError "Sub frame is out-of-bounds"
  | frameMissing => formatError "fcTL chunk missing before fdAT chunk."
where
  /-- How a violation of the format is introduced. -/
  formatError (text : String) : String := "Format error decoding Png: " ++ text

/-- The failure, once the last row is complete. -/
def afterImage : Error → Error
  | unexpectedEnd => endAfterImage
  | e => e

end Error

end DeviceAssets.Png
