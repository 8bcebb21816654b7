/-!
# Why a file could not be read or written

The failures of the file system, and those of the stored data while a file's
contents are being unpacked.
-/

namespace DeviceAssets.Files

inductive Error where
  /-- Nothing exists at the path, or its parent directory does not exist. -/
  | noEntry
  /-- A directory stands where a file is wanted. -/
  | isDirectory
  /-- A file stands where a directory is wanted. -/
  | notDirectory
  /-- The path, or one of the names in it, is longer than the system allows. -/
  | nameTooLong
  /-- The path contains a zero octet. -/
  | nulInPath
  /-- The compressed data are not what a compressor writes. -/
  | corruptDeflate
  /-- The compressed data end early. -/
  | incompleteDeflate
  /-- The contents do not have the checksum that was stored with them. -/
  | wrongChecksum
  deriving DecidableEq, Repr

namespace Error

def message : Error → String
  | noEntry => "No such file or directory (os error 2)"
  | isDirectory => "Is a directory (os error 21)"
  | notDirectory => "Not a directory (os error 20)"
  | nameTooLong => "File name too long (os error 36)"
  | nulInPath => "file name contained an unexpected NUL byte"
  | corruptDeflate => "corrupt deflate stream"
  | incompleteDeflate => "incomplete deflate stream"
  | wrongChecksum => "Invalid checksum"

end Error

end DeviceAssets.Files
