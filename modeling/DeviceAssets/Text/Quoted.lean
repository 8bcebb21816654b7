import DeviceAssets.Text.Printable
import DeviceAssets.Text.Utf8

/-!
# Quoted text

Diagnostics quote a name or a path so that its extent and its hidden characters
can be seen: between quotation marks, with a backslash before what would be
mistaken for a quotation mark or an escape, and code points in braces for
characters that do not show on their own. Octets that spell no character stand as two
digits each.
-/

namespace DeviceAssets.Text

def lowerHex (n : Nat) : List Char :=
  Nat.toDigits 16 n

def quotedChar (c : Char) : List Char :=
  if c = '\x00' then ['\\', '0']
  else if c = '\t' then ['\\', 't']
  else if c = '\r' then ['\\', 'r']
  else if c = '\n' then ['\\', 'n']
  else if c = '"' then ['\\', '"']
  else if c = '\\' then ['\\', '\\']
  else if isPrintable c then [c]
  else ['\\', 'u', '\x7b'] ++ lowerHex c.toNat ++ ['\x7d']

def quoted (text : List Char) : List Char :=
  '"' :: text.flatMap quotedChar ++ ['"']

def upperHex (octet : UInt8) : List Char :=
  let digits := (Nat.toDigits 16 octet.toNat).map Char.toUpper
  List.replicate (2 - digits.length) '0' ++ digits

/-- How a piece of an octet string stands between quotation marks; `octets` are those that
it covers. -/
def quotedPiece (octets : Bytes) : Utf8.Piece → List Char
  | .char c _ => quotedChar c
  | _ => octets.flatMap fun octet => ['\\', 'x'] ++ upperHex octet

def quotedPieces : Bytes → List Utf8.Piece → List Char
  | _, [] => []
  | bytes, piece :: rest =>
    quotedPiece (bytes.take piece.width) piece ++ quotedPieces (bytes.drop piece.width) rest

def quotedOctets (bytes : Bytes) : List Char :=
  '"' :: quotedPieces bytes (Utf8.pieces bytes) ++ ['"']

end DeviceAssets.Text
