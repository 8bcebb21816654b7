import DeviceAssets.Tool

/-!
# The program

The first argument names the tool, and the others are those of the tool. The program
takes a picture of the files that the tool may look at, lets the tool work on the
picture, and writes the files that have changed.
-/

namespace DeviceAssets.Program

/-- The name with which the full names of the program's parts begin. -/
def name : String := "fw_assets"

/-- The variable of the environment that chooses the log lines. -/
def settingVariable : String := "RUST_LOG"

def probe (location : Files.Location) : IO (Option Files.Node) := do
  let path := Error.shown (Files.Tree.shownLocation location)
  let place := (← IO.currentDir) / path
  if location = [[]] || (← place.isDir) then return some .directory
  else
    try return some (.file (← IO.FS.readBinFile place).toList)
    catch _ => return none

/-- Adds what there is on disk at a list of names, the first of which are those of a
location. -/
def addNames (files : Files.Tree) (location : Files.Location) :
    List Bytes → IO Files.Tree
  | [] => return files
  | name :: rest => do
    if name = Files.Path.here then addNames files location rest
    else if name = Files.Path.above then addNames files location.dropLast rest
    else
      let location := location ++ [name]
      match ← probe location with
      | some node => addNames (files.set location node) location rest
      | none => addNames files location rest

def runTool (tool : Tool) (arguments : List String) : IO UInt32 := do
  let arguments := arguments.map Bytes.ofString
  let files ← arguments.foldlM
    (fun files argument => addNames files [] (Files.Path.names argument)) Files.Tree.empty
  let journal :=
    { Tool.Journal.ofText? name (← IO.getEnv settingVariable) with
      place := fun line => line.source.target name }
  let outcome := tool.run journal arguments files
  for (path, contents) in Files.Tree.changes files outcome.files do
    IO.FS.writeBinFile (Error.shown path) ⟨contents.toArray⟩
  IO.print outcome.stdout
  IO.eprint outcome.stderr
  return UInt32.ofNat outcome.status

/-- The line that is shown where no tool is named. -/
def usage : String :=
  "Usage: gen-qr-header | png-to-header | extract-docx-text <input> <output>"

end DeviceAssets.Program

def main (arguments : List String) : IO UInt32 := do
  match arguments with
  | name :: rest =>
    match DeviceAssets.Tool.ofName? name with
    | some tool => DeviceAssets.Program.runTool tool rest
    | none =>
      IO.println DeviceAssets.Program.usage
      return 2
  | [] =>
    IO.println DeviceAssets.Program.usage
    return 2
