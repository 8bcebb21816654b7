import DeviceAssets.Files.Error
import DeviceAssets.Png.Error
import DeviceAssets.Qr.Error
import DeviceAssets.Xml.Error
import DeviceAssets.Zip.Error

/-!
# Why a conversion failed

Every failure ends the conversion that it meets. A conversion checks everything
before it writes, so a failure leaves no partial output behind.
-/

namespace DeviceAssets

inductive ImageError where
  /-- Neither the contents nor the name of the file tell its format. -/
  | unknownFormat
  | png (cause : Png.Error)
  /-- What a reader says of a file of another format. -/
  | other (text : String)
  deriving DecidableEq, Repr

def ImageError.message : ImageError → String
  | .unknownFormat => "The image format could not be determined"
  | .png cause => cause.message
  | .other text => text

inductive Error where
  /-- The grid has no rows. -/
  | emptyGrid
  /-- Row number `row` does not have as many cells as the grid has rows. -/
  | notSquare (row length rows : Nat)
  /-- A packed buffer does not have the length that its module count calls for. -/
  | sizeMismatch (expected actual : Nat)
  /-- An image of fixed size has other dimensions. -/
  | dimensionMismatch (expected actual : Nat × Nat)
  /-- The number of arguments is wrong; carries the usage line. -/
  | usage (line : String)
  /-- An argument that is used as text is not valid UTF-8. -/
  | nonUnicodeArgument (argument : Bytes)
  /-- Nothing exists at the path of an input. -/
  | notFound (path : Bytes)
  /-- The archive lacks a member. -/
  | missingEntry (name : String)
  | qr (cause : Qr.Error)
  | io (cause : Files.Error)
  | image (cause : ImageError)
  | zip (cause : Zip.Error)
  | xml (cause : Xml.Error)
  deriving DecidableEq, Repr

namespace Error

def shown (octets : Bytes) : String :=
  String.ofList (Utf8.decodeLenient octets)

def message : Error → String
  | emptyGrid => "Expected square matrix NxN, got an empty grid"
  | notSquare row length rows =>
    s!"Expected square matrix NxN: row {row} has {length} cells, grid has {rows} rows"
  | sizeMismatch expected actual => s!"Expected {expected} bytes, got {actual}"
  | dimensionMismatch expected actual =>
    s!"Expected {expected.1}x{expected.2}, got {actual.1}x{actual.2}"
  | usage line => line
  | nonUnicodeArgument argument => "Argument is not valid UTF-8: " ++ shown argument
  | notFound path => "Input not found: " ++ shown path
  | missingEntry name => "Archive entry " ++ name ++ " is missing"
  | qr cause => "QR encoding failed: " ++ cause.message
  | io cause => cause.message
  | image cause => cause.message
  | zip cause => cause.message
  | xml cause => cause.message

/-- Whether the invocation was wrong, rather than its conversion a failure. -/
def isUsage : Error → Bool
  | usage _ => true
  | _ => false

/-- The failure with its fields, as a debug line shows it. -/
def debugText : Error → String
  | emptyGrid => "EmptyGrid"
  | notSquare row length rows =>
    s!"NotSquare \x7b row: {row}, len: {length}, rows: {rows} \x7d"
  | sizeMismatch expected actual =>
    s!"SizeMismatch \x7b expected: {expected}, actual: {actual} \x7d"
  | dimensionMismatch expected actual =>
    s!"DimensionMismatch \x7b expected: ({expected.1}, {expected.2}), " ++
      s!"actual: ({actual.1}, {actual.2}) \x7d"
  | usage line => "Usage(" ++ quotedText line.toList ++ ")"
  | nonUnicodeArgument argument =>
    "NonUnicodeArgument(" ++ String.ofList (Text.quotedOctets argument) ++ ")"
  | notFound path => "NotFound(" ++ String.ofList (Text.quotedOctets path) ++ ")"
  | missingEntry name => "MissingEntry(" ++ quotedText name.toList ++ ")"
  | qr cause => "Qr(" ++ cause.name ++ ")"
  | io cause => "Io(" ++ cause.message ++ ")"
  | image cause => "Image(" ++ cause.message ++ ")"
  | zip cause => "Zip(" ++ cause.message ++ ")"
  | xml cause => "Xml(" ++ cause.message ++ ")"
where
  /-- A text between quotation marks. -/
  quotedText (text : List Char) : String := String.ofList (Text.quoted text)

end Error

end DeviceAssets
