/-!
# Why a text has no QR symbol
-/

namespace DeviceAssets.Qr

inductive Error where
  | dataTooLong
  | invalidVersion
  | unsupportedCharacterSet
  | invalidEciDesignator
  | invalidCharacter
  deriving DecidableEq, Repr

namespace Error

def message : Error → String
  | dataTooLong => "data too long"
  | invalidVersion => "invalid version"
  | unsupportedCharacterSet => "unsupported character set"
  | invalidEciDesignator => "invalid ECI designator"
  | invalidCharacter => "invalid character"

def name : Error → String
  | dataTooLong => "DataTooLong"
  | invalidVersion => "InvalidVersion"
  | unsupportedCharacterSet => "UnsupportedCharacterSet"
  | invalidEciDesignator => "InvalidEciDesignator"
  | invalidCharacter => "InvalidCharacter"

end Error

end DeviceAssets.Qr
