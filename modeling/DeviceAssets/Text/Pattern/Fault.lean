import DeviceAssets.Split
import DeviceAssets.Text.Pattern.Cursor

/-!
# Faults of written patterns

A fault has a cause and the stretches of the written pattern that it is about. It is
shown with the pattern and with marks below these stretches; a stretch of several lines
is told by its ends instead.
-/

namespace DeviceAssets.Text.Pattern

def depthLimit : Nat := 250

/-- The greatest number of octets that an automaton for a pattern may take. -/
def memoryLimit : Nat := 10 <<< 20

inductive Cause where
  | groupUnclosed
  | groupUnopened
  | classUnclosed
  | classRangeInvalid
  /-- An end of a range is more than one character. -/
  | classRangeOfSets
  /-- A condition on a place is no set of characters. -/
  | classEscapeInvalid
  | escapeUnfinished
  | escapeUnknown
  | hexEmpty
  | hexInvalid
  | hexDigitInvalid
  | propertyInvalid
  | repetitionMissing
  | repetitionUnclosed
  | repetitionNumberMissing
  | repetitionRangeInvalid
  | numberInvalid
  | edgeUnfinished
  | edgeUnclosed
  | edgeUnknown
  | flagUnknown
  | flagRepeated
  | flagNegationRepeated
  | flagNegationDangling
  | flagsUnfinished
  | groupNameEmpty
  | groupNameInvalid
  | groupNameUnfinished
  | groupNameRepeated
  | backreference
  | lookAround
  | tooDeep
  /-- Only octets are matched, and these may be no character. -/
  | noCharacter
  /-- Only octets are matched, and this is more than one. -/
  | noOctet
  | propertyUnknown
  | propertyValueUnknown
  /-- There is no table of the digits, blanks and letters of all scripts. -/
  | classUnknown
  /-- There is no table of the cases of letters of all scripts. -/
  | caseUnknown
  deriving DecidableEq, Repr

def Cause.message : Cause → String
  | groupUnclosed => "unclosed group"
  | groupUnopened => "unopened group"
  | classUnclosed => "unclosed character class"
  | classRangeInvalid => "invalid character class range, the start must be <= the end"
  | classRangeOfSets => "invalid range boundary, must be a literal"
  | classEscapeInvalid => "invalid escape sequence found in character class"
  | escapeUnfinished => "incomplete escape sequence, reached end of pattern prematurely"
  | escapeUnknown => "unrecognized escape sequence"
  | hexEmpty => "hexadecimal literal empty"
  | hexInvalid => "hexadecimal literal is not a Unicode scalar value"
  | hexDigitInvalid => "invalid hexadecimal digit"
  | propertyInvalid => "invalid Unicode character class"
  | repetitionMissing => "repetition operator missing expression"
  | repetitionUnclosed => "unclosed counted repetition"
  | repetitionNumberMissing => "repetition quantifier expects a valid decimal"
  | repetitionRangeInvalid =>
    "invalid repetition count range, the start must be <= the end"
  | numberInvalid => "decimal literal invalid"
  | edgeUnfinished =>
    "found either the beginning of a special word boundary or a bounded repetition on a " ++
      "\\b with an opening brace, but no closing brace"
  | edgeUnclosed =>
    "special word boundary assertion is either unclosed or contains an invalid character"
  | edgeUnknown =>
    "unrecognized special word boundary assertion, valid choices are: " ++
      "start, end, start-half or end-half"
  | flagUnknown => "unrecognized flag"
  | flagRepeated => "duplicate flag"
  | flagNegationRepeated => "flag negation operator repeated"
  | flagNegationDangling => "dangling flag negation operator"
  | flagsUnfinished => "expected flag but got end of regex"
  | groupNameEmpty => "empty capture group name"
  | groupNameInvalid => "invalid capture group character"
  | groupNameUnfinished => "unclosed capture group name"
  | groupNameRepeated => "duplicate capture group name"
  | backreference => "backreferences are not supported"
  | lookAround => "look-around, including look-ahead and look-behind, is not supported"
  | tooDeep =>
    s!"exceed the maximum number of nested parentheses/brackets ({depthLimit})"
  | noCharacter => "pattern can match invalid UTF-8"
  | noOctet => "Unicode not allowed here"
  | propertyUnknown => "Unicode property not found"
  | propertyValueUnknown => "Unicode property value not found"
  | classUnknown =>
    "Unicode-aware Perl class not found (make sure the unicode-perl feature is enabled)"
  | caseUnknown =>
    "Unicode-aware case insensitivity matching is not available " ++
      "(make sure the unicode-case feature is enabled)"

structure Fault where
  cause : Cause
  /-- The stretches that the fault is about, in the order in which they stand. -/
  extents : List Extent
  deriving DecidableEq, Repr

def fault {α : Type} (cause : Cause) (extent : Extent) : Except Fault α :=
  .error ⟨cause, [extent]⟩

namespace Fault

/-- Marks from `column` on below stretches of one line; an empty one has a single mark. -/
def marks (column : Nat) : List Extent → List Char
  | [] => []
  | extent :: rest =>
    let width := max 1 (extent.stop.column - extent.start.column)
    List.replicate (extent.start.column - column) ' ' ++ List.replicate width '^' ++
      marks (max column extent.start.column + width) rest

/-- A line of a pattern between the margin for its number and the marks below it, if there
are any. -/
def markedLine (margin : String) (line : List Char) (extents : List Extent) : String :=
  let text := margin ++ String.ofList line ++ "\n"
  if extents = [] then text
  else
    text ++ String.ofList (List.replicate margin.length ' ' ++ marks 1 extents) ++ "\n"

def padded (width number : Nat) : String :=
  let digits := toString number
  String.ofList (List.replicate (width - digits.length) ' ') ++ digits

/-- What a line holds without the carriage return in front of its line feed. -/
def withoutReturn (line : List Char) : List Char :=
  if line.getLast? = some '\r' then line.dropLast else line

def ends (extent : Extent) : String :=
  s!"on line {extent.start.line} (column {extent.start.column}) " ++
    s!"through line {extent.stop.line} (column {extent.stop.column - 1})\n"

/-- What is said about a fault of this written pattern. A pattern of several lines is shown
with their numbers between two rules; an empty last line counts, but is not shown. -/
def message (fault : Fault) (written : String) : String :=
  let introduction := "regex parse error:\n"
  let conclusion := "error: " ++ fault.cause.message
  let isOneLine (extent : Extent) : Bool := extent.start.line = extent.stop.line
  match splitAt '\n' written.toList with
  | [line] => introduction ++ markedLine "    " line fault.extents ++ conclusion
  | lines =>
    let width := (toString lines.length).length
    let ended := lines.dropLast.map withoutReturn
    let last := lines.getLast?.getD []
    let shown := (if last = [] then ended else ended ++ [last]).zipIdx.map fun (line, i) =>
      markedLine (padded width (i + 1) ++ ": ") line
        (fault.extents.filter fun extent => isOneLine extent && extent.start.line = i + 1)
    let rule := String.ofList (List.replicate 79 '~') ++ "\n"
    introduction ++ rule ++ String.join shown ++ rule ++
      String.join ((fault.extents.filter (!isOneLine ·)).map ends) ++ conclusion

end Fault

inductive Refusal where
  | fault (found : Fault)
  /-- An automaton for the pattern takes too much memory. -/
  | tooLarge
  /-- The pattern has a condition that cannot be decided. -/
  | undecidable
  deriving DecidableEq, Repr

def Refusal.message (refusal : Refusal) (written : String) : String :=
  match refusal with
  | .fault found => found.message written
  | .tooLarge => s!"Compiled regex exceeds size limit of {memoryLimit} bytes."
  | .undecidable => "error building NFA"

end DeviceAssets.Text.Pattern
