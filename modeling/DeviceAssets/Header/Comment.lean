/-!
# Text inside a comment

A label is free text, and a header shows it inside a block comment. `escape`
parts the two characters that would end the comment; all else stands as it is.
-/

namespace DeviceAssets.Header

/-- `text` with a backslash inside every `*/`. -/
def escape : List Char → List Char
  | '*' :: '/' :: rest => '*' :: '\\' :: '/' :: escape rest
  | c :: rest => c :: escape rest
  | [] => []

def escapeComment (text : String) : String :=
  String.ofList (escape text.toList)

end DeviceAssets.Header
