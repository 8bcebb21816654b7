/-!
# Header layouts

A layout holds all that a header says besides its data: the lines that describe
the bitmap, and the names under which the program finds its numbers.
-/

namespace DeviceAssets.Header

structure Layout where
  /-- The lines at the head of the comment. -/
  description : List String
  /-- The macro for the number of modules on one side. -/
  countMacro : String
  /-- The macro for the octets of one row. -/
  strideMacro : String
  /-- The macro for the octets of the whole array. -/
  lengthMacro : String
  /-- The name of the array. -/
  arrayName : String
  deriving DecidableEq, Repr

namespace Layout

/-- The layout for the modules of a QR symbol, which the device scales as it draws. -/
def qrModules : Layout where
  description :=
    ["QR module matrix (1bpp).",
     "- Layout: row-major, MSB-first, stride=ceil(N/8) bytes",
     "- Value:  1 = black module"]
  countMacro := "QR_MODULES"
  strideMacro := "QR_STRIDE_BYTES"
  lengthMacro := "QR_BITS_LEN"
  arrayName := "qr_module_bits"

def bitmap32 : Layout where
  description :=
    ["32x32 QR code bitmap (1bpp).",
     "- Layout: row-major, MSB-first, 4 bytes per row",
     "- Value:  1 = black pixel"]
  countMacro := "QR_32X32_SIZE"
  strideMacro := "QR_32X32_STRIDE_BYTES"
  lengthMacro := "QR_32X32_BITS_LEN"
  arrayName := "qr_32x32_bits"

end Layout

end DeviceAssets.Header
