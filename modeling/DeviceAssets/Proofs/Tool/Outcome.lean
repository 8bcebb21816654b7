import DeviceAssets.Proofs.Conversion.Failures
import DeviceAssets.Proofs.Files.Writing
import DeviceAssets.Tool

/-!
# All or nothing

A run of a tool ends in one of three ways. With a wrong number of arguments it gives the
usage line and looks at no file. Otherwise the stages of the tool decide: the first one
that fails is reported and no file has changed, and where none fails the output holds what
the stages make of the files as they were, and no other file has changed. This is so even
where the output is the input.
-/

namespace DeviceAssets.Tool

open DeviceAssets.Action (Reads Writes settled written)
open Files (Path Tree)

/-! ### The stages of a tool -/

/-- What a tool makes of its source: the summary, and the contents of the output. -/
def product [ImageReader] (tool : Tool) (source output : Path) (files : Tree) :
    Except Error (String × Bytes) :=
  match tool with
  | genQrHeader => do
    let content ← utf8Argument source
    let (packed, file) ← Conversion.qrFile content .default
    return (s!"Wrote {Error.shown output} ({packed.bytes.length} bytes) " ++
      s!"modules={packed.modules} for: {content}\n", file)
  | pngToHeader => do
    let (packed, file) ← Conversion.pngFile source files
    return (s!"Wrote {Error.shown output} ({packed.bytes.length} bytes)\n", file)
  | extractDocxText => do
    let ((lines, count), file) ← Conversion.docxFile source files
    return (s!"extracted_lines={lines.length}\nwrote={Error.shown output} bytes={count}\n", file)

/-- All stages of a tool; the last one finds the place of the output. -/
def stages [ImageReader] (tool : Tool) (source output : Path) (files : Tree) :
    Except Error (String × Bytes) := do
  let made ← tool.product source output files
  let _ ← (files.target output).mapError .io
  return made

theorem utf8Argument_failsIn (argument : Bytes) :
    FailsIn [.nonUnicodeArgument] (utf8Argument argument) := by
  rw [utf8Argument]
  split
  · exact .ok _
  · exact .error (by simp)

def stageFailures : Tool → List Error.Kind
  | genQrHeader => [.nonUnicodeArgument, .qr, .io]
  | pngToHeader => [.notFound, .dimensionMismatch, .io, .image]
  | extractDocxText => [.notFound, .missingEntry, .io, .zip, .xml]

def checkFailures : List Error.Kind :=
  [.emptyGrid, .notSquare, .sizeMismatch]

/-- Only behind an image can a check between stages come in. -/
theorem product_failsIn_of [ImageReader] {checks : List Error.Kind} {source : Path} {files : Tree}
    (image : FailsIn (pngToHeader.stageFailures ++ checks) (Conversion.pngFile source files))
    (tool : Tool) (output : Path) :
    FailsIn (tool.stageFailures ++ checks) (tool.product source output files) := by
  cases tool with
  | genQrHeader =>
    have hstages : FailsIn genQrHeader.stageFailures (genQrHeader.product source output files) := by
      refine .bind ((utf8Argument_failsIn source).mono (by decide)) fun content _ => ?_
      exact .bind ((Conversion.qrFile_failsIn content .default).mono (by decide)) fun _ _ => .ok _
    exact hstages.mono (List.subset_append_left _ checks)
  | pngToHeader => exact .bind image fun _ _ => .ok _
  | extractDocxText =>
    have hstages : FailsIn extractDocxText.stageFailures
        (extractDocxText.product source output files) :=
      .bind ((Conversion.docxFile_failsIn source files).mono (by decide)) fun _ _ => .ok _
    exact hstages.mono (List.subset_append_left _ checks)

theorem product_failsIn_checks [ImageReader] (tool : Tool) (source output : Path) (files : Tree) :
    FailsIn (tool.stageFailures ++ checkFailures) (tool.product source output files) :=
  product_failsIn_of ((Conversion.pngFile_failsIn_checks source files).mono (by decide)) tool output

theorem io_mem_stageFailures (tool : Tool) : .io ∈ tool.stageFailures := by
  cases tool <;> decide

section

variable [ImageReader] {tool : Tool} {source output : Path} {files : Tree}

/-- No stage fails in the way in which a wrong number of arguments does. -/
theorem not_isUsage_of_stages {e : Error} (h : tool.stages source output files = .error e) :
    e.isUsage = false := by
  have hio : .io ∈ tool.stageFailures ++ checkFailures :=
    List.mem_append_left _ (io_mem_stageFailures tool)
  have hkind := (product_failsIn_checks tool source output files).bind
    (fun made _ => .bind (.mapError (fun _ => hio) (files.target output)) fun _ _ => .ok made) e h
  rw [Error.isUsage_eq, decide_eq_false_iff_not]
  intro heq
  rw [heq] at hkind
  cases tool <;> exact absurd hkind (by decide)

/-! ### What a tool does to files -/

theorem convert_writes (tool : Tool) (source output : Path) :
    Writes (tool.convert source output) output (tool.product source output) := by
  cases tool with
  | genQrHeader =>
    refine ((Reads.ofResult (utf8Argument source)).bind_writes fun content =>
      (Conversion.qrToHeader_writes content .default output).bind_pure fun packed =>
        Reads.pure _).congr fun files => ?_
    refine congrArg _ (funext fun content => ?_)
    cases Conversion.qrFile content .default <;> rfl
  | pngToHeader =>
    refine ((Conversion.pngToHeader_writes source output).bind_pure fun packed =>
      Reads.pure _).congr fun files => ?_
    simp only [product]
    cases Conversion.pngFile source files <;> rfl
  | extractDocxText =>
    refine ((Conversion.docxToText_writes source output).bind_pure fun made =>
      Reads.pure _).congr fun files => ?_
    simp only [product]
    cases Conversion.docxFile source files <;> rfl

theorem written_of_stages_error {e : Error} (h : tool.stages source output files = .error e) :
    written output (tool.product source output files) files = .error e := by
  rw [stages] at h
  cases hproduct : tool.product source output files with
  | error cause =>
    rw [hproduct] at h
    cases h
    rfl
  | ok made =>
    rw [hproduct] at h
    cases htarget : files.target output with
    | error cause =>
      rw [htarget] at h
      cases h
      rw [written, Tree.write, htarget]
      rfl
    | ok location =>
      rw [htarget] at h
      cases h

/-- All stages go well where the product is made and can be written. -/
theorem stages_eq_ok_iff {made : String × Bytes} :
    tool.stages source output files = .ok made ↔
      tool.product source output files = .ok made ∧
        ∃ location, files.target output = .ok location := by
  rw [stages, bind_eq_ok_iff]
  constructor
  · rintro ⟨found, hproduct, h⟩
    obtain ⟨location, htarget, hmade⟩ := bind_eq_ok_iff.mp h
    cases hmade
    exact ⟨hproduct, location, mapError_eq_ok_iff.mp htarget⟩
  · rintro ⟨hproduct, location, htarget⟩
    exact ⟨made, hproduct,
      bind_eq_ok_iff.mpr ⟨location, mapError_eq_ok_iff.mpr htarget, rfl⟩⟩

theorem exists_write_of_stages {summary : String} {contents : Bytes}
    (h : tool.stages source output files = .ok (summary, contents)) :
    ∃ later, files.write output contents = .ok later ∧
      written output (tool.product source output files) files = .ok (summary, later) := by
  obtain ⟨hproduct, location, htarget⟩ := stages_eq_ok_iff.mp h
  have hwrite : files.write output contents = .ok (files.set location (.file contents)) :=
    Tree.write_eq_ok_iff.mpr ⟨location, htarget, rfl⟩
  exact ⟨_, hwrite, by rw [hproduct, written, hwrite]⟩

/-- With two arguments, a run reports what its stages made and wrote. -/
theorem exists_run_eq (tool : Tool) (journal : Journal) (source output : Path) (files : Tree) :
    ∃ lines, tool.run journal [source, output] files =
      report journal (settled ⟨files, lines⟩
        (written output (tool.product source output files) files)) := by
  obtain ⟨lines, hrun⟩ := tool.convert_writes source output ⟨files, []⟩
  exact ⟨lines, congrArg (report journal) hrun⟩

/-- With any other number of arguments, nothing depends on the files. -/
theorem run_usage (tool : Tool) (journal : Journal) {arguments : List Bytes}
    (h : arguments.length ≠ 2) (files : Tree) :
    tool.run journal arguments files = ⟨2, tool.usage ++ "\n", journal.shown [], files⟩ := by
  have husage : twoPositional (Bytes.ofString tool.name :: arguments) tool.usage =
      .error (.usage tool.usage) := by
    match arguments, h with
    | [], _ | [_], _ | _ :: _ :: _ :: _, _ => rfl
    | [_, _], h => exact absurd rfl h
  simp only [run, act, Action.runOn, Action.run_bind, Action.run_ofResult, husage]
  rfl

end

/-! ### How a run ends -/

/-- A run that failed: the diagnostic is the last that is said, and the files are as they
were. -/
structure Outcome.Failed (outcome : Outcome) (e : Error) (files : Tree) : Prop where
  status : outcome.status = 1
  stdout : outcome.stdout = ""
  stderr : ∃ log, outcome.stderr = log ++ "error: " ++ e.message ++ "\n"
  files : outcome.files = files

/-- A run that succeeded: the output holds the contents, and all else is as it was. -/
structure Outcome.Succeeded (outcome : Outcome) (summary : String) (output : Path)
    (contents : Bytes) (files : Tree) : Prop where
  status : outcome.status = 0
  stdout : outcome.stdout = summary
  changed : ∃ location, files.target output = .ok location ∧
    Tree.Changed files outcome.files location contents
  read : outcome.files.read output = .ok contents

theorem failed_report (journal : Journal) {e : Error} (h : e.isUsage = false)
    (session : Session) : (report journal (.error e, session)).Failed e session.files := by
  rw [report, if_neg (by simp [h])]
  exact ⟨rfl, rfl, ⟨_, rfl⟩, rfl⟩

theorem succeeded_report (journal : Journal) (summary : String) (lines : List Log.Line)
    {files later : Tree} {output : Path} {contents : Bytes}
    (h : files.write output contents = .ok later) :
    (report journal (.ok summary, ⟨later, lines⟩)).Succeeded summary output contents files :=
  ⟨rfl, rfl, Tree.changed_of_write h, Tree.read_of_write h⟩

section

variable [ImageReader] {tool : Tool} {source output : Path} {files : Tree}

theorem run_failed {e : Error} (h : tool.stages source output files = .error e)
    (journal : Journal) :
    (tool.run journal [source, output] files).Failed e files := by
  obtain ⟨lines, hrun⟩ := tool.exists_run_eq journal source output files
  rw [hrun, written_of_stages_error h]
  exact failed_report journal (not_isUsage_of_stages h) ⟨files, lines⟩

theorem run_succeeded {summary : String} {contents : Bytes}
    (h : tool.stages source output files = .ok (summary, contents)) (journal : Journal) :
    (tool.run journal [source, output] files).Succeeded summary output contents files := by
  obtain ⟨lines, hrun⟩ := tool.exists_run_eq journal source output files
  obtain ⟨later, hwrite, hwritten⟩ := exists_write_of_stages h
  rw [hrun, hwritten]
  exact succeeded_report journal summary lines hwrite

/-- A run that reports success had two arguments, and its product is in the output. -/
theorem exists_succeeded_of_status {journal : Journal} {arguments : List Bytes}
    (succeeds : (tool.run journal arguments files).status = 0) :
    ∃ source output summary contents, arguments = [source, output] ∧
      tool.product source output files = .ok (summary, contents) ∧
      (tool.run journal arguments files).Succeeded summary output contents files := by
  by_cases htwo : arguments.length = 2
  · obtain ⟨source, output, rfl⟩ := List.length_eq_two.mp htwo
    cases hstages : tool.stages source output files with
    | error e =>
      rw [(run_failed hstages journal).status] at succeeds
      exact absurd succeeds (by decide)
    | ok made =>
      exact ⟨source, output, made.1, made.2, rfl, (stages_eq_ok_iff.mp hstages).1,
        run_succeeded hstages journal⟩
  · have husage : (tool.run journal arguments files).status = 2 := by
      rw [run_usage tool journal htwo files]
    omega

end

/-- An archive in which the member that holds the text is empty. -/
def emptyArchive : Bytes :=
  Zip.marks Zip.localSignature ++ List.replicate 22 0 ++ [17, 0, 0, 0] ++
    Bytes.ofString Document.memberName ++
    Zip.marks Zip.Entry.signature ++ List.replicate 24 0 ++ [17, 0] ++ List.replicate 16 0 ++
    Bytes.ofString Document.memberName ++
    Zip.marks Zip.EndRecord.signature ++ [0, 0, 0, 0, 1, 0, 1, 0, 63, 0, 0, 0, 47, 0, 0, 0, 0, 0]

def emptyArchiveTree : Tree := ⟨[([['d'.toUInt8]], .file emptyArchive)]⟩

theorem body_emptyArchive : Document.body emptyArchive = .ok [] := by
  rw [← toOption_eq_some_iff]
  decide +kernel

theorem paragraphs_nil : Document.paragraphs [] = .ok [] := by
  rw [Document.paragraphs, Xml.transcript, Xml.Reader.run]
  rfl

theorem paragraphsAt_emptyArchiveTree :
    Conversion.paragraphsAt ['d'.toUInt8] emptyArchiveTree = .ok [] := by
  have hinput : Conversion.inputAt ['d'.toUInt8] emptyArchiveTree = .ok () := rfl
  have hread : emptyArchiveTree.read ['d'.toUInt8] = .ok emptyArchive := rfl
  rw [Conversion.paragraphsAt, hinput, hread]
  simp only [Except.mapError, bind, Except.bind, body_emptyArchive, paragraphs_nil]

theorem stages_emptyArchiveTree :
    extractDocxText.stages ['d'.toUInt8] ['d'.toUInt8] emptyArchiveTree =
      .ok ("extracted_lines=0\nwrote=d bytes=0\n", []) := by
  have htarget : emptyArchiveTree.target ['d'.toUInt8] = .ok [['d'.toUInt8]] := rfl
  rw [stages, product, Conversion.docxFile]
  simp only
  rw [paragraphsAt_emptyArchiveTree, htarget, ← toOption_eq_some_iff]
  decide +kernel

end DeviceAssets.Tool
