import DeviceAssets.Log
import DeviceAssets.Split
import DeviceAssets.Text.Blank
import DeviceAssets.Text.Pattern.Reader

/-!
# Log settings

A setting is a list of directives between commas, and perhaps a pattern behind a slash. A
directive tells how important a line must be to be shown, either a line of any part or one
of the parts whose full names begin with a given name; the longest name decides. Of the
lines chosen so far, those are shown in which the pattern is found. What cannot be
understood is passed over with a warning.
-/

namespace DeviceAssets.Log

/-- The least important severity that is shown, or none if no line is. -/
abbrev Threshold := Option Severity

namespace Threshold

def everything : Threshold := some .trace

/-- The threshold with a name, in any case. -/
def ofName? (name : String) : Option Threshold :=
  match name.map Char.toLower with
  | "off" => some none
  | "error" => some (some .error)
  | "warn" => some (some .warn)
  | "info" => some (some .info)
  | "debug" => some (some .debug)
  | "trace" => some (some .trace)
  | _ => none

def admits (threshold : Threshold) (severity : Severity) : Bool :=
  threshold.any fun least => severity.rank ≤ least.rank

end Threshold

/-- What a setting says about the parts whose names begin with `name?`, or about all. -/
structure Directive where
  name? : Option String
  threshold : Threshold
  deriving DecidableEq, Repr

namespace Directive

def concerns (directive : Directive) (target : String) : Bool :=
  directive.name?.all fun name => name.toList.isPrefixOf target.toList

/-- How much a directive says about the parts that it is about. -/
def precision (directive : Directive) : Nat :=
  (directive.name?.map String.length).getD 0

end Directive

structure Setting where
  directives : List Directive
  pattern? : Option Text.Pattern
  /-- What could not be understood, in the order in which it stands. -/
  warnings : List String
  deriving DecidableEq, Repr

namespace Setting

def default : Setting := ⟨[⟨none, some .warn⟩], none, []⟩

def invalid (part : String) : String :=
  "warning: invalid logging spec '" ++ part ++ "', ignoring it"

/-- Reads one directive, which is not empty: a threshold, a name, or both around an equals
sign. A name alone shows every line. -/
def readDirective (text : List Char) : Except String Directive :=
  match (splitAt '=' text).map String.ofList with
  | [single] =>
    match Threshold.ofName? single with
    | some threshold => .ok ⟨none, threshold⟩
    | none => .ok ⟨some single, Threshold.everything⟩
  | [name, level] =>
    let level := String.ofList (Text.trim level.toList)
    if level = "" then .ok ⟨some name, Threshold.everything⟩
    else
      match Threshold.ofName? level with
      | some threshold => .ok ⟨some name, threshold⟩
      | none => .error (invalid level)
  | _ => .error (invalid (String.ofList text))

def add (setting : Setting) (text : List Char) : Setting :=
  match readDirective text with
  | .ok directive => { setting with directives := setting.directives ++ [directive] }
  | .error warning => { setting with warnings := setting.warnings ++ [warning] }

def restrict (setting : Setting) (text : List Char) : Setting :=
  let written := String.ofList text
  match Text.Pattern.ofText written with
  | .ok pattern => { setting with pattern? := some pattern }
  | .error refusal =>
    { setting with warnings :=
        setting.warnings ++ ["warning: invalid regex filter - " ++ refusal.message written] }

def ofDirectives (text : List Char) : Setting :=
  let parts := ((splitAt ',' text).map Text.trim).filter (· ≠ [])
  parts.foldl add ⟨[], none, []⟩

def ofText (text : String) : Setting :=
  match splitAt '/' text.toList with
  | [directives] => ofDirectives directives
  | [directives, pattern] => (ofDirectives directives).restrict pattern
  | _ => ⟨[], none, [invalid text ++ " (too many '/'s)"]⟩

/-- The threshold for the part with this full name: that of the last one among the most
precise directives about it. Without any directive, errors are shown. -/
def threshold (setting : Setting) (target : String) : Threshold :=
  if setting.directives = [] then some .error
  else
    let concerned := setting.directives.filter (·.concerns target)
    let best := (concerned.map (·.precision)).foldl max 0
    ((concerned.filter (·.precision = best)).getLast?.map (·.threshold)).getD none

def shows (setting : Setting) (program : String) (line : Line) : Bool :=
  (setting.threshold (line.source.target program)).admits line.severity &&
    setting.pattern?.all (·.isFoundIn line.text.toList)

def warningText (setting : Setting) : String :=
  String.join (setting.warnings.map (· ++ "\n"))

def shown (setting : Setting) (program : String) (place : Line → String) (lines : List Line) :
    String :=
  String.join ((lines.filter (setting.shows program)).map (Line.shown place))

end Setting

end DeviceAssets.Log
