import DeviceAssets.Files.Error

/-!
# Why a ZIP archive could not be read
-/

namespace DeviceAssets.Zip

inductive Error where
  /-- The file is shorter than the record that ends every archive. -/
  | tooShort
  | noDirectoryEnd
  /-- The directory would begin before the file does. -/
  | misplacedDirectory
  /-- The directory would begin behind every position that can be addressed. -/
  | unreachableDirectory
  | badDirectoryHeader
  /-- There is no room for the 64-bit end record that a locator points to. -/
  | noRoomForDirectoryEnd64
  | noDirectoryEnd64
  /-- A member would begin behind every position that can be addressed. -/
  | unreachableMember
  | badLocalHeader
  | multipleDisks
  | encrypted
  | unsupportedMethod
  /-- The file ends inside a record. -/
  | truncated
  /-- A record would stand behind every position that can be addressed. -/
  | unseekable
  /-- The file of the archive cannot be read. -/
  | unreadable (cause : Files.Error)
  deriving DecidableEq, Repr

namespace Error

def message : Error → String
  | tooShort => invalid "Invalid zip header"
  | noDirectoryEnd => invalid "Could not find central directory end"
  | misplacedDirectory => invalid "Invalid central directory size or offset"
  | unreachableDirectory => invalid "Could not seek to start of central directory"
  | badDirectoryHeader => invalid "Invalid Central Directory header"
  | noRoomForDirectoryEnd64 => invalid "File cannot contain ZIP64 central directory end"
  | noDirectoryEnd64 => invalid "Could not find ZIP64 central directory end"
  | unreachableMember => invalid "Archive header is too large"
  | badLocalHeader => invalid "Invalid local file header"
  | multipleDisks => unsupported "Support for multi-disk files is not implemented"
  | encrypted => unsupported "Password required to decrypt file"
  | unsupportedMethod => unsupported "Compression method not supported"
  | truncated => "failed to fill whole buffer"
  | unseekable => "Invalid argument (os error 22)"
  | unreadable cause => cause.message
where
  /-- How a violation of the format is introduced. -/
  invalid (text : String) : String := "invalid Zip archive: " ++ text
  /-- How an unsupported feature is introduced. -/
  unsupported (text : String) : String := "unsupported Zip archive: " ++ text

end Error

end DeviceAssets.Zip
