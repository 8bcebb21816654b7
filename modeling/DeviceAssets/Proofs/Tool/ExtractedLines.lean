import DeviceAssets.Proofs.Text.Lines
import DeviceAssets.Proofs.Text.Utf8
import DeviceAssets.Proofs.Tool.Outcome

/-!
# Paragraphs and lines of the output

The paragraphs of a document are written one behind the other with a line feed between any
two. None of them is empty, but the text of a paragraph may hold line feeds of its own, which
trimming leaves where they are. So the output has one line for each paragraph, and the number
that the tool reports is that of its lines, exactly where no paragraph holds a line feed.
-/

namespace DeviceAssets.Tool

open DeviceAssets.Action (written)
open Files (Path Tree)

/-! ### What is written -/

theorem ne_nil_of_mem_kept {lines : List (List Char)} :
    ∀ line ∈ Document.kept lines, line.toList ≠ [] := by
  intro line hline
  obtain ⟨text, htext, rfl⟩ := List.mem_map.mp hline
  have hfilled := (List.mem_filter.mp htext).2
  rw [String.toList_ofList]
  rintro rfl
  exact absurd hfilled (by decide)

/-- What is reported of a document are lines that have been trimmed and are not empty. -/
theorem exists_kept_of_paragraphs {document : Bytes} {paragraphs : List String}
    (h : Document.paragraphs document = .ok paragraphs) :
    ∃ lines, paragraphs = Document.kept lines := by
  obtain ⟨collector, _, hlines⟩ := bind_eq_ok_iff.mp (mapError_eq_ok_iff.mp h)
  cases hfailure : (Xml.transcript document).failure? with
  | some e =>
    simp only [hfailure] at hlines
    cases hlines
  | none =>
    simp only [hfailure] at hlines
    cases hlines
    exact ⟨collector.texts, rfl⟩

/-- No paragraph that is reported is empty. -/
theorem ne_nil_of_mem_paragraphs {document : Bytes} {paragraphs : List String}
    (h : Document.paragraphs document = .ok paragraphs) :
    ∀ paragraph ∈ paragraphs, paragraph.toList ≠ [] := by
  obtain ⟨lines, rfl⟩ := exists_kept_of_paragraphs h
  exact ne_nil_of_mem_kept

theorem decode?_textFile (lines : List String) :
    Utf8.decode? (Conversion.textFile lines) =
      some (['\n'].intercalate (lines.map String.toList)) := by
  rw [Utf8.decode?, Conversion.textFile, Bytes.ofString, Utf8.decode_ofChars, Conversion.joinLines,
    String.toList_ofList]
  rfl

theorem read_of_writeText {path : Path} {lines : List String} {count : Nat}
    {session later : Session}
    (h : (Conversion.writeText path lines).run session = (.ok count, later)) :
    later.files.read path = .ok (Conversion.textFile lines) := by
  obtain ⟨log, hrun⟩ := Conversion.writeText_writes path lines session
  rw [hrun, written] at h
  cases hwrite : session.files.write path (Conversion.textFile lines) with
  | error e =>
    rw [hwrite] at h
    cases h
  | ok files =>
    rw [hwrite] at h
    cases h
    exact Tree.read_of_write hwrite

/-! ### What is reported -/

def extractionSummary (output : Path) (paragraphs : List String) : String :=
  let count := (Conversion.textFile paragraphs).length
  s!"extracted_lines={paragraphs.length}\nwrote={Error.shown output} bytes={count}\n"

theorem product_extractDocxText [ImageReader] {source : Path} {files : Tree}
    {paragraphs : List String} (h : Conversion.paragraphsAt source files = .ok paragraphs) (output : Path) :
    extractDocxText.product source output files =
      .ok (extractionSummary output paragraphs, Conversion.textFile paragraphs) := by
  simp only [product, Conversion.docxFile, h]
  rfl

theorem succeeded_of_paragraphsAt [ImageReader] {source output : Path} {files : Tree}
    {paragraphs : List String} (h : Conversion.paragraphsAt source files = .ok paragraphs)
    {journal : Journal}
    (succeeds : (extractDocxText.run journal [source, output] files).status = 0) :
    (extractDocxText.run journal [source, output] files).Succeeded
      (extractionSummary output paragraphs) output (Conversion.textFile paragraphs) files := by
  obtain ⟨_, _, summary, contents, harguments, hmade, hsucceeded⟩ :=
    exists_succeeded_of_status succeeds
  cases harguments
  rw [product_extractDocxText h output] at hmade
  cases hmade
  exact hsucceeded

/-! ### Paragraphs and lines -/

/-- The paragraphs of a document, written to a file, are read again as its lines, and the
number that is reported for them is that of the lines, exactly where no paragraph holds a
line feed. In any case the lines of the file are those of the paragraphs, one after the
other. -/
theorem paragraphs_are_lines_iff [ImageReader] {document : Bytes} {paragraphs : List String}
    (h : Document.paragraphs document = .ok paragraphs) :
    (∃ text, Utf8.decode? (Conversion.textFile paragraphs) = some text ∧
      Text.lines text = (paragraphs.map String.toList).flatMap (·.splitOn '\n') ∧
      (Text.lines text = paragraphs.map String.toList ↔
        ∀ paragraph ∈ paragraphs, '\n' ∉ paragraph.toList) ∧
      ((Text.lines text).length = paragraphs.length ↔
        ∀ paragraph ∈ paragraphs, '\n' ∉ paragraph.toList)) ∧
    (∀ path session count later,
      (Conversion.writeText path paragraphs).run session = (.ok count, later) →
      later.files.read path = .ok (Conversion.textFile paragraphs)) ∧
    ∀ journal source output files, Conversion.paragraphsAt source files = .ok paragraphs →
      (extractDocxText.run journal [source, output] files).status = 0 →
      (extractDocxText.run journal [source, output] files).Succeeded
        (extractionSummary output paragraphs) output (Conversion.textFile paragraphs) files := by
  have hfilled : ∀ piece ∈ paragraphs.map String.toList, piece ≠ [] := by
    rw [List.forall_mem_map]
    exact ne_nil_of_mem_paragraphs h
  have hsingle : (∀ paragraph ∈ paragraphs, '\n' ∉ paragraph.toList) ↔
      ∀ piece ∈ paragraphs.map String.toList, '\n' ∉ piece := by
    rw [List.forall_mem_map]
  refine ⟨⟨_, decode?_textFile paragraphs, ?_⟩, fun _ _ _ _ => read_of_writeText,
    fun _ _ _ _ hread hsucceeds => succeeded_of_paragraphsAt hread hsucceeds⟩
  rw [Text.lines_intercalate hfilled, hsingle]
  refine ⟨rfl, Text.flatMap_splitOn_eq_iff, ?_⟩
  rw [← List.length_map String.toList]
  exact Text.length_flatMap_splitOn_eq_iff

/-- A document whose only paragraph has a text of two lines. -/
def brokenParagraph : Bytes :=
  Bytes.ofString <| "<p xmlns=\"http://schemas.openxmlformats.org/wordprocessingml/2006/main\">" ++
    "<t>a\nb</t></p>"

theorem paragraphs_brokenParagraph : Document.paragraphs brokenParagraph = .ok ["a\nb"] := by
  rw [← toOption_eq_some_iff]
  decide +kernel

/-- The document's paragraph is written into an empty directory; and the tool is run on an
archive whose document has no paragraphs. -/
theorem paragraphs_are_lines_iff_brokenParagraph :
    Document.paragraphs brokenParagraph = .ok ["a\nb"] ∧
    (∃ text, Utf8.decode? (Conversion.textFile ["a\nb"]) = some text ∧
      Text.lines text = (["a\nb"].map String.toList).flatMap (·.splitOn '\n') ∧
      (Text.lines text = ["a\nb"].map String.toList ↔
        ∀ paragraph ∈ ["a\nb"], '\n' ∉ paragraph.toList) ∧
      ((Text.lines text).length = ["a\nb"].length ↔
        ∀ paragraph ∈ ["a\nb"], '\n' ∉ paragraph.toList)) ∧
    (∃ later, (Conversion.writeText ['o'.toUInt8] ["a\nb"]).run ⟨Tree.empty, []⟩ = (.ok 3, later) ∧
      later.files.read ['o'.toUInt8] = .ok (Conversion.textFile ["a\nb"])) ∧
    (extractDocxText.run (Journal.ofText? "" none) [['d'.toUInt8], ['d'.toUInt8]]
      emptyArchiveTree).Succeeded (extractionSummary ['d'.toUInt8] []) ['d'.toUInt8]
        (Conversion.textFile []) emptyArchiveTree := by
  obtain ⟨hlines, hwritten, -⟩ := paragraphs_are_lines_iff paragraphs_brokenParagraph
  obtain ⟨-, -, hrun⟩ := paragraphs_are_lines_iff paragraphs_nil
  obtain ⟨later, hdone⟩ : ∃ later,
      (Conversion.writeText ['o'.toUInt8] ["a\nb"]).run ⟨Tree.empty, []⟩ = (.ok 3, later) :=
    ⟨_, rfl⟩
  refine ⟨paragraphs_brokenParagraph, hlines, ⟨later, hdone, hwritten _ _ _ _ hdone⟩, ?_⟩
  have hsucceeds := run_succeeded stages_emptyArchiveTree (Journal.ofText? "" none)
  exact hrun _ _ _ _ paragraphsAt_emptyArchiveTree hsucceeds.status

/-- The file of a document's paragraphs need not have one line for each of them. -/
theorem paragraph_of_two_lines :
    ¬ ∀ (document : Bytes) (paragraphs : List String),
      Document.paragraphs document = .ok paragraphs →
      ∃ text, Utf8.decode? (Conversion.textFile paragraphs) = some text ∧
        Text.lines text = paragraphs.map String.toList := by
  intro h
  obtain ⟨text, hdecode, hlines⟩ := h _ _ paragraphs_brokenParagraph
  rw [decode?_textFile, Option.some.injEq] at hdecode
  subst hdecode
  exact absurd hlines (by decide)

end DeviceAssets.Tool
