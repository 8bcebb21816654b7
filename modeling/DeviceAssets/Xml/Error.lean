import DeviceAssets.Text.Quoted
import DeviceAssets.Text.Utf8

/-!
# Why an XML document could not be read
-/

namespace DeviceAssets.Xml

inductive Unfinished where
  /-- Markup that begins with an exclamation mark, and no more is known of it. -/
  | bang
  | cdata
  | comment
  | doctype
  | declaration
  deriving DecidableEq, Repr

def Unfinished.name : Unfinished → String
  | .bang => "Bang"
  | .cdata => "CData"
  | .comment => "Comment"
  | .doctype => "DOCTYPE"
  | .declaration => "XmlDecl"

/-- Why an XML document could not be read. Ranges are octet positions in the
text that holds the reference. -/
inductive Error where
  | unexpectedEnd (markup : Unfinished)
  /-- An exclamation mark is followed by an octet that begins no known markup. -/
  | unknownMarkup (octet : UInt8)
  | emptyDoctype
  /-- An end tag does not close the innermost open element. -/
  | mismatchedEnd (expected found : List Char)
  /-- A reserved prefix or a reserved namespace takes part in a declaration. -/
  | reservedBinding (qualifier uri : Bytes)
  | malformedText (fault : Utf8.Fault)
  /-- An ampersand is not followed by a semicolon. -/
  | unterminatedReference (start stop : Nat)
  | unknownReference (start stop : Nat) (name : List Char)
  | decimalTooLong
  | hexadecimalTooLong
  | badDecimal (octet : UInt8)
  | badHexadecimal (octet : UInt8)
  | nullCharacter (start stop : Nat)
  | invalidCodePoint (value : Nat)
  deriving DecidableEq, Repr

namespace Error

/-- An octet in a diagnostic: quotation marks are escaped, and what is not
printable ASCII is given by its number to the base sixteen. -/
def shownOctet (octet : UInt8) : List Char :=
  if octet = 0x22 then ['\\', '"']
  else if 0x20 ≤ octet && octet ≤ 0x7E then [Char.ofNat octet.toNat]
  else ['0', 'x'] ++ (Nat.toDigits 16 octet.toNat).map Char.toUpper

def shownOctets (octets : Bytes) : String :=
  "\"" ++ String.ofList (octets.flatMap shownOctet) ++ "\""

def latin (octet : UInt8) : String :=
  String.singleton (Char.ofNat octet.toNat)

def message : Error → String
  | unexpectedEnd markup => "Unexpected EOF during reading " ++ markup.name
  | unknownMarkup octet =>
    "Only Comment (\x60--\x60), CDATA (\x60[CDATA[\x60) and DOCTYPE (\x60DOCTYPE\x60) " ++
      "nodes can start with a '!', but symbol \x60" ++ latin octet ++ "\x60 found"
  | emptyDoctype => "DOCTYPE declaration must not be empty"
  | mismatchedEnd expected found =>
    "Expecting </" ++ String.ofList expected ++ "> found </" ++ String.ofList found ++ ">"
  | reservedBinding qualifier uri =>
    "The namespace prefix '" ++ shownOctets qualifier ++ "' cannot be bound to '" ++
      shownOctets uri ++ "'"
  | malformedText fault => "Malformed UTF-8 input: " ++ fault.message
  | unterminatedReference start stop => escaping start stop "Cannot find ';' after '&'"
  | unknownReference start stop name =>
    escaping start stop
      ("Unrecognized escape symbol: " ++ String.ofList (Text.quoted name))
  | decimalTooLong => "Cannot convert decimal to utf8"
  | hexadecimalTooLong => "Cannot convert hexadecimal to utf8"
  | badDecimal octet => "'" ++ latin octet ++ "' is not a valid decimal character"
  | badHexadecimal octet => "'" ++ latin octet ++ "' is not a valid hexadecimal character"
  | nullCharacter start stop => escaping start stop "Null character entity not allowed"
  | invalidCodePoint value => "'" ++ toString value ++ "' is not a valid codepoint"
where
  /-- How a fault in a reference is introduced. -/
  escaping (start stop : Nat) (text : String) : String :=
    s!"Error while escaping character at range {start}..{stop}: " ++ text

end Error

end DeviceAssets.Xml
