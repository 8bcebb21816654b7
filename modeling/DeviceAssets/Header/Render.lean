import DeviceAssets.Bitmap.Packed
import DeviceAssets.Header.Comment
import DeviceAssets.Header.Layout

/-!
# The text of a header

A header is a comment that describes the bitmap, three macros for its side, its
stride and its length, and an array of its octets. Stride and length are worked
out here from the module count, so a buffer that was packed in another way is
refused.
-/

namespace DeviceAssets.Header

def octetsPerLine : Nat := 16

def decimal (n : Nat) : List Char :=
  Nat.toDigits 10 n

def hexDigit (n : Nat) : Char :=
  if n < 10 then Char.ofNat (0x30 + n) else Char.ofNat (0x41 + (n - 10))

def literal (octet : UInt8) : List Char :=
  ['0', 'x', hexDigit (octet.toNat / 16), hexDigit (octet.toNat % 16)]

def dataLine (octets : Bytes) : List Char :=
  "    ".toList ++ [',', ' '].intercalate (octets.map literal) ++ [',', '\n']

/-- The lines between the braces of the array. -/
def dataBlock (bytes : Bytes) : List Char :=
  (chunks octetsPerLine bytes).flatMap dataLine

def commentLine (text : List Char) : List Char :=
  " * ".toList ++ text ++ ['\n']

/-- The comment at the head: the description, then the label. -/
def comment (layout : Layout) (content : String) : List Char :=
  "/*\n".toList ++
    layout.description.flatMap (fun line => commentLine (escape line.toList)) ++
    commentLine ("- Content: ".toList ++ escape content.toList) ++
    " */\n".toList

def define (name : String) (value : Nat) : List Char :=
  "#define ".toList ++ name.toList ++ [' '] ++ decimal value ++ ['\n']

def defines (layout : Layout) (extent : Extent) : List Char :=
  define layout.countMacro extent.side ++ define layout.strideMacro extent.stride ++
    define layout.lengthMacro extent.length

def arrayOpening (layout : Layout) : List Char :=
  "static const uint8_t ".toList ++ layout.arrayName.toList ++ ['['] ++
    layout.lengthMacro.toList ++ "] = \x7b\n".toList

def textAs (layout : Layout) (extent : Extent) (bytes : Bytes) (content : String) : List Char :=
  "#pragma once\n\n#include <stdint.h>\n\n".toList ++ comment layout content ++ ['\n'] ++
    defines layout extent ++ ['\n'] ++ arrayOpening layout ++ dataBlock bytes ++
    "\x7d;\n".toList

/-- The header for a bitmap of some extent. It is refused unless there are modules and the
buffer has the length that is said. -/
def renderAs (layout : Layout) (extent : Extent) (bytes : Bytes) (content : String) :
    Except Error String :=
  if 0 < extent.side ∧ bytes.length = extent.length then
    .ok (String.ofList (textAs layout extent bytes content))
  else .error (.sizeMismatch extent.length bytes.length)

def text (layout : Layout) (n : Nat) (bytes : Bytes) (content : String) : List Char :=
  textAs layout (.ofSide n) bytes content

/-- The header for a bitmap with `n` modules on a side. It is refused unless `n`
is positive and the buffer has the length that `n` calls for. -/
def render (layout : Layout) (n : Nat) (bytes : Bytes) (content : String) :
    Except Error String :=
  renderAs layout (.ofSide n) bytes content

theorem render_eq (layout : Layout) (n : Nat) (bytes : Bytes) (content : String) :
    render layout n bytes content =
      if 0 < n ∧ bytes.length = packedLength n then
        .ok (String.ofList (text layout n bytes content))
      else .error (.sizeMismatch (packedLength n) bytes.length) := rfl

theorem render_eq_ok {n : Nat} (positive : 0 < n) {bytes : Bytes}
    (whole : bytes.length = packedLength n) (layout : Layout) (content : String) :
    render layout n bytes content = .ok (String.ofList (text layout n bytes content)) := by
  rw [render_eq, if_pos ⟨positive, whole⟩]

def dataLineCount (bytes : Bytes) : Nat :=
  (bytes.length + (octetsPerLine - 1)) / octetsPerLine

end DeviceAssets.Header
