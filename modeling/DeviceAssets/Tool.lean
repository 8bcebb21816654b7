import DeviceAssets.Conversion
import DeviceAssets.Log.Setting
import DeviceAssets.Png.Reader

/-!
# Command-line tools

Each tool takes two arguments, a source and the path of its output. A wrong number of
arguments gives the usage line and status 2, a failed conversion gives a diagnostic and
status 1, and a success gives a summary and status 0.
-/

namespace DeviceAssets

def twoPositional {α : Type} (arguments : List α) (usage : String) : Except Error (α × α) :=
  match arguments with
  | [_, first, second] => .ok (first, second)
  | _ => .error (.usage usage)

def utf8Argument (argument : Bytes) : Except Error String :=
  match Utf8.decode? argument with
  | some text => .ok (String.ofList text)
  | none => .error (.nonUnicodeArgument argument)

inductive Tool where
  | genQrHeader
  | pngToHeader
  | extractDocxText
  deriving DecidableEq, Repr

namespace Tool

def name : Tool → String
  | genQrHeader => "gen-qr-header"
  | pngToHeader => "png-to-header"
  | extractDocxText => "extract-docx-text"

def ofName? (name : String) : Option Tool :=
  [genQrHeader, pngToHeader, extractDocxText].find? (·.name = name)

def arguments : Tool → String
  | genQrHeader => "<text-or-url> <out.h>"
  | pngToHeader => "<in.png> <out.h>"
  | extractDocxText => "<in.docx> <out.txt>"

def usage (tool : Tool) : String :=
  "Usage: " ++ tool.name ++ " " ++ tool.arguments

/-- Converts a source to an output, and gives the summary. -/
def convert [ImageReader] (tool : Tool) (source output : Bytes) : Action String := do
  let shownOutput := Error.shown output
  match tool with
  | genQrHeader =>
    let content ← Action.ofResult (utf8Argument source)
    let packed ← Conversion.qrToHeader content .default output
    return s!"Wrote {shownOutput} ({packed.bytes.length} bytes) " ++
      s!"modules={packed.modules} for: {content}\n"
  | pngToHeader =>
    let packed ← Conversion.pngToHeader source output
    return s!"Wrote {shownOutput} ({packed.bytes.length} bytes)\n"
  | extractDocxText =>
    let (lines, count) ← Conversion.docxToText source output
    return s!"extracted_lines={lines.length}\nwrote={shownOutput} bytes={count}\n"

/-- All that a tool does with its arguments; the first one is the name of the program. -/
def act [ImageReader] (tool : Tool) (arguments : List Bytes) : Action String := do
  let (source, output) ← Action.ofResult (twoPositional arguments tool.usage)
  tool.convert source output

structure Outcome where
  status : Nat
  stdout : String
  stderr : String
  files : Files.Tree
  deriving DecidableEq

/-- What chooses the log lines of a run, and how they are shown. -/
structure Journal where
  /-- The name of the program, with which the full names of its parts begin. -/
  program : String
  setting : Log.Setting
  /-- What tells where in the program a line comes from. -/
  place : Log.Line → String

/-- The journal of a program for the text of a setting, if there is one; it does not tell where
lines come from. -/
def Journal.ofText? (program : String) (text? : Option String) : Journal :=
  ⟨program, (text?.map Log.Setting.ofText).getD Log.Setting.default, fun _ => ""⟩

/-- What is shown of log lines, behind the warnings about the setting. -/
def Journal.shown (journal : Journal) (lines : List Log.Line) : String :=
  journal.setting.warningText ++ journal.setting.shown journal.program journal.place lines

/-- Reports a finished action. The log comes before the diagnostic, and a failure that is
not one of usage is logged with its fields. -/
def report (journal : Journal) : Except Error String × Session → Outcome
  | (.ok summary, session) => ⟨0, summary, journal.shown session.log, session.files⟩
  | (.error e, session) =>
    if e.isUsage then ⟨2, e.message ++ "\n", journal.shown session.log, session.files⟩
    else
      let log := session.log ++ [⟨.debug, .commandLine, e.debugText⟩]
      ⟨1, "", journal.shown log ++ "error: " ++ e.message ++ "\n", session.files⟩

/-- Runs a tool on files; `arguments` are those behind the name of the program. -/
def run [ImageReader] (tool : Tool) (journal : Journal) (arguments : List Bytes)
    (files : Files.Tree) : Outcome :=
  report journal ((tool.act (Bytes.ofString tool.name :: arguments)).runOn files)

end Tool

end DeviceAssets
