/-!
# Log lines

The tools say what they are doing in log lines of graded importance. A line tells which
part of the library it comes from, so that a setting can choose by that, too.
-/

namespace DeviceAssets.Log

/-- How important a line is, the most important first. -/
inductive Severity where
  | error
  | warn
  | info
  | debug
  | trace
  deriving DecidableEq, Repr

namespace Severity

def rank : Severity → Nat
  | error => 1
  | warn => 2
  | info => 3
  | debug => 4
  | trace => 5

def name : Severity → String
  | error => "ERROR"
  | warn => "WARN"
  | info => "INFO"
  | debug => "DEBUG"
  | trace => "TRACE"

end Severity

/-- The part of the library that a line comes from. -/
inductive Source where
  | symbol
  | packing
  | header
  | bitmap
  | document
  | commandLine
  deriving DecidableEq, Repr

def Source.name : Source → String
  | symbol => "qr"
  | packing => "pack"
  | header => "header"
  | bitmap => "bitmap"
  | document => "docx"
  | commandLine => "cli"

/-- The full name of a part, behind that of the program. -/
def Source.target (source : Source) (program : String) : String :=
  program ++ "::" ++ source.name

structure Line where
  severity : Severity
  source : Source
  text : String
  deriving DecidableEq, Repr

/-- A line as it is shown, behind the place that it comes from, in brackets. -/
def Line.shown (place : Line → String) (line : Line) : String :=
  "[" ++ place line ++ "] " ++ line.severity.name ++ " - " ++ line.text ++ "\n"

end DeviceAssets.Log
