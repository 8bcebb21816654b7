import DeviceAssets.Proofs.Conversion.SymbolGrid
import DeviceAssets.Proofs.Header.DataLines
import DeviceAssets.Proofs.Tool.Checks
import DeviceAssets.Proofs.Tool.ExtractedLines

/-!
# What a tool says of its output

A tool that succeeds prints numbers about the file that it has written. They come from what its
stages hand on, while the file is made by the last stage alone, which works out its own numbers
or joins what it is given. Here it is said that both agree: the numbers of a header stand in its
macros and are those of its octets, and the size of a text is that of the file, counted in octets.
-/

namespace DeviceAssets

/-! ### What a header declares -/

namespace Header

/-- A header that gives `n` as its number of modules and `length` as that of its octets, which
is what `n` rows take, and between whose braces as many literals stand. -/
structure Declares (layout : Layout) (n length : Nat) (header : String) : Prop where
  macros : macroValues? layout header = some ([n, n ⌈/⌉ 8, length].map (Nat.toDigits 10))
  product : length = n * (n ⌈/⌉ 8)
  literals : ∃ octets, readOctets? header = some octets ∧ octets.length = length

/-- The numbers in a header are those of the buffer that it was rendered for. -/
theorem declares_of_render {layout : Layout} {n : Nat} {bytes : Bytes} {content header : String}
    (h : render layout n bytes content = .ok header) : Declares layout n bytes.length header := by
  obtain ⟨⟨_, fits⟩, hheader⟩ := render_eq_ok_iff.mp h
  refine ⟨?_, fits.trans (packedLength_eq n), bytes, readOctets?_of_render h, rfl⟩
  rw [hheader, macroValues?_text, stride_eq_ceilDiv, fits]

end Header

namespace Conversion

open Files (Path Tree)

theorem headerFile_eq_ok_iff {layout : Header.Layout} {n : Nat} {bytes file : Bytes}
    {content : String} :
    headerFile layout n bytes content = .ok file ↔
      ∃ header, Header.render layout n bytes content = .ok header ∧
        Bytes.ofString header = file :=
  map_eq_ok_iff

theorem qrFile_eq_ok {content : String} {level : Qr.Level} {packed : Packed} {file : Bytes}
    (h : qrFile content level = .ok (packed, file)) :
    ∃ grid header, symbolGrid content level = .ok grid ∧ packed.modules = grid.length ∧
      Bytes.ofString header = file ∧
      Header.Declares Header.Layout.qrModules grid.length packed.bytes.length header := by
  obtain ⟨grid, hgrid, h⟩ := bind_eq_ok_iff.mp h
  obtain ⟨made, hpack, h⟩ := bind_eq_ok_iff.mp h
  obtain ⟨contents, hfile, h⟩ := bind_eq_ok_iff.mp h
  cases h
  obtain ⟨_, _, hmodules, _⟩ := pack_eq_ok_iff.mp hpack
  obtain ⟨header, hrender, hheader⟩ := headerFile_eq_ok_iff.mp hfile
  rw [hmodules] at hrender
  exact ⟨grid, header, hgrid, hmodules, hheader, Header.declares_of_render hrender⟩

theorem pngFile_eq_ok [ImageReader] {source : Path} {files : Tree} {packed : Packed} {file : Bytes}
    (h : pngFile source files = .ok (packed, file)) :
    ∃ header, Bytes.ofString header = file ∧
      Header.Declares Header.Layout.bitmap32 bitmapSide packed.bytes.length header := by
  obtain ⟨grid, _, h⟩ := bind_eq_ok_iff.mp h
  obtain ⟨made, _, h⟩ := bind_eq_ok_iff.mp h
  obtain ⟨contents, hfile, h⟩ := bind_eq_ok_iff.mp h
  cases h
  rw [bitmap32File] at hfile
  split at hfile
  · obtain ⟨header, hrender, hheader⟩ := headerFile_eq_ok_iff.mp hfile
    exact ⟨header, hheader, Header.declares_of_render hrender⟩
  · cases hfile

theorem exists_paragraphs_of_paragraphsAt {source : Path} {files : Tree}
    {paragraphs : List String} (h : paragraphsAt source files = .ok paragraphs) :
    ∃ document, Document.paragraphs document = .ok paragraphs := by
  obtain ⟨_, _, h⟩ := bind_eq_ok_iff.mp h
  obtain ⟨_, _, h⟩ := bind_eq_ok_iff.mp h
  obtain ⟨document, _, h⟩ := bind_eq_ok_iff.mp h
  exact ⟨document, h⟩

/-! ### The size of a text -/

/-- A text takes the octets of its lines and of the line feeds between them. -/
theorem utf8ByteSize_joinLines (lines : List String) :
    (joinLines lines).utf8ByteSize =
      (lines.map String.utf8ByteSize).sum + (lines.length - 1) := by
  have hsizes : (lines.map String.toList).map String.utf8Len =
      lines.map String.utf8ByteSize := by
    rw [List.map_map]
    exact List.map_congr_left fun line _ => String.utf8Len_toList line
  rw [joinLines, String.utf8ByteSize_ofList, Text.utf8Len_intercalate, hsizes, List.length_map]

/-- As paragraphs are trimmed, their text does not end with a line feed. -/
theorem getLast?_joinLines_ne {document : Bytes} {paragraphs : List String}
    (h : Document.paragraphs document = .ok paragraphs) :
    (joinLines paragraphs).toList.getLast? ≠ some '\n' := by
  have hfilled : ∀ piece ∈ paragraphs.map String.toList, piece ≠ [] := by
    rw [List.forall_mem_map]
    exact Tool.ne_nil_of_mem_paragraphs h
  rw [joinLines, String.toList_ofList]
  intro hlast
  obtain ⟨piece, hpiece, hfeed⟩ := Text.exists_getLast?_of_intercalate hfilled hlast
  obtain ⟨paragraph, hparagraph, rfl⟩ := List.mem_map.mp hpiece
  obtain ⟨lines, rfl⟩ := Tool.exists_kept_of_paragraphs h
  obtain ⟨text, htext, rfl⟩ := List.mem_map.mp hparagraph
  obtain ⟨line, _, rfl⟩ := List.mem_map.mp (List.mem_filter.mp htext).1
  rw [String.toList_ofList] at hfeed
  -- What has been trimmed ends with no blank, and a line feed is one.
  have hblank : Text.isBlank '\n' = false := Text.isBlank_of_getLast?_trim hfeed
  exact absurd hblank (by decide)

end Conversion

namespace Tool

open Files (Path Tree)

theorem utf8Argument_ofString (text : String) :
    utf8Argument (Bytes.ofString text) = .ok text := by
  rw [utf8Argument, Utf8.decode?, Bytes.ofString, Utf8.decode_ofChars]
  exact congrArg Except.ok String.ofList_toList

theorem product_genQrHeader_eq_ok_iff [ImageReader] {source output : Path} {files : Tree}
    {summary : String} {contents : Bytes} :
    genQrHeader.product source output files = .ok (summary, contents) ↔
      ∃ content packed, utf8Argument source = .ok content ∧
        Conversion.qrFile content .default = .ok (packed, contents) ∧
        summary = s!"Wrote {Error.shown output} ({packed.bytes.length} bytes) " ++
          s!"modules={packed.modules} for: {content}\n" := by
  constructor
  · intro h
    obtain ⟨content, hcontent, h⟩ := bind_eq_ok_iff.mp h
    obtain ⟨⟨packed, file⟩, hfile, h⟩ := bind_eq_ok_iff.mp h
    cases h
    exact ⟨content, packed, hcontent, hfile, rfl⟩
  · rintro ⟨content, packed, hcontent, hfile, rfl⟩
    exact bind_eq_ok_iff.mpr ⟨content, hcontent, bind_eq_ok_iff.mpr ⟨_, hfile, rfl⟩⟩

theorem product_pngToHeader_eq_ok_iff [ImageReader] {source output : Path} {files : Tree}
    {summary : String} {contents : Bytes} :
    pngToHeader.product source output files = .ok (summary, contents) ↔
      ∃ packed, Conversion.pngFile source files = .ok (packed, contents) ∧
        summary = s!"Wrote {Error.shown output} ({packed.bytes.length} bytes)\n" := by
  constructor
  · intro h
    obtain ⟨⟨packed, file⟩, hfile, h⟩ := bind_eq_ok_iff.mp h
    cases h
    exact ⟨packed, hfile, rfl⟩
  · rintro ⟨packed, hfile, rfl⟩
    exact bind_eq_ok_iff.mpr ⟨_, hfile, rfl⟩

theorem product_extractDocxText_eq_ok_iff [ImageReader] {source output : Path} {files : Tree}
    {summary : String} {contents : Bytes} :
    extractDocxText.product source output files = .ok (summary, contents) ↔
      ∃ paragraphs, Conversion.paragraphsAt source files = .ok paragraphs ∧
        contents = Conversion.textFile paragraphs ∧
        summary = extractionSummary output paragraphs := by
  constructor
  · intro h
    obtain ⟨made, hfile, h⟩ := bind_eq_ok_iff.mp h
    obtain ⟨paragraphs, hparagraphs, hmade⟩ := bind_eq_ok_iff.mp hfile
    cases hmade
    cases h
    exact ⟨paragraphs, hparagraphs, rfl, rfl⟩
  · rintro ⟨paragraphs, hparagraphs, rfl, rfl⟩
    exact product_extractDocxText hparagraphs output

theorem succeeds_of_product [ImageReader] {tool : Tool} {source output : Path} {files : Tree}
    {made : String × Bytes} {location : Files.Location}
    (hproduct : tool.product source output files = .ok made)
    (htarget : files.target output = .ok location) (journal : Journal) :
    (tool.run journal [source, output] files).status = 0 :=
  (run_succeeded (stages_eq_ok_iff.mpr ⟨hproduct, location, htarget⟩) journal).status

/-- The summary of a successful run agrees with the file that was written. For a text, the
header declares the number of modules that is printed, which is that of its symbol, and the
number of octets that is printed, and has as many literals; for an image, it declares the number of
octets that is printed, and has as many literals. For a document, the number of octets that is
printed is the size of the file: the sizes of the paragraphs, and one for each line feed between two
of them; there is none behind the last one. -/
theorem summary_agrees_with_file [ImageReader] (journal : Journal) (arguments : List Bytes)
    (files : Tree) :
    (∀ outcome, genQrHeader.run journal arguments files = outcome → outcome.status = 0 →
      ∃ source output content grid header length, arguments = [source, output] ∧
        utf8Argument source = .ok content ∧
        Conversion.symbolGrid content .default = .ok grid ∧
        outcome.files.read output = .ok (Bytes.ofString header) ∧
        Header.Declares Header.Layout.qrModules grid.length length header ∧
        outcome.stdout = s!"Wrote {Error.shown output} ({length} bytes) " ++
          s!"modules={grid.length} for: {content}\n") ∧
    (∀ outcome, pngToHeader.run journal arguments files = outcome → outcome.status = 0 →
      ∃ source output header length, arguments = [source, output] ∧
        outcome.files.read output = .ok (Bytes.ofString header) ∧
        Header.Declares Header.Layout.bitmap32 bitmapSide length header ∧
        outcome.stdout = s!"Wrote {Error.shown output} ({length} bytes)\n") ∧
    ∀ outcome, extractDocxText.run journal arguments files = outcome → outcome.status = 0 →
      ∃ source output paragraphs text size, arguments = [source, output] ∧
        Conversion.paragraphsAt source files = .ok paragraphs ∧
        outcome.files.read output = .ok (Bytes.ofString text) ∧
        text.toList = ['\n'].intercalate (paragraphs.map String.toList) ∧
        text.toList.getLast? ≠ some '\n' ∧
        outcome.stdout =
          s!"extracted_lines={paragraphs.length}\nwrote={Error.shown output} bytes={size}\n" ∧
        (Bytes.ofString text).length = size ∧ text.utf8ByteSize = size ∧
        size = (paragraphs.map String.utf8ByteSize).sum + (paragraphs.length - 1) := by
  refine ⟨?_, ?_, ?_⟩
  · rintro outcome rfl succeeds
    obtain ⟨source, output, summary, contents, harguments, hproduct, hsucceeded⟩ :=
      exists_succeeded_of_status succeeds
    obtain ⟨content, packed, hcontent, hfile, rfl⟩ := product_genQrHeader_eq_ok_iff.mp hproduct
    obtain ⟨grid, header, hgrid, hmodules, rfl, hdeclares⟩ := Conversion.qrFile_eq_ok hfile
    refine ⟨source, output, content, grid, header, packed.bytes.length, harguments, hcontent,
      hgrid, hsucceeded.read, hdeclares, ?_⟩
    rw [hsucceeded.stdout, hmodules]
  · rintro outcome rfl succeeds
    obtain ⟨source, output, summary, contents, harguments, hproduct, hsucceeded⟩ :=
      exists_succeeded_of_status succeeds
    obtain ⟨packed, hfile, rfl⟩ := product_pngToHeader_eq_ok_iff.mp hproduct
    obtain ⟨header, rfl, hdeclares⟩ := Conversion.pngFile_eq_ok hfile
    exact ⟨source, output, header, packed.bytes.length, harguments, hsucceeded.read, hdeclares,
      hsucceeded.stdout⟩
  · rintro outcome rfl succeeds
    obtain ⟨source, output, summary, contents, harguments, hproduct, hsucceeded⟩ :=
      exists_succeeded_of_status succeeds
    obtain ⟨paragraphs, hparagraphs, rfl, rfl⟩ := product_extractDocxText_eq_ok_iff.mp hproduct
    obtain ⟨document, hdocument⟩ := Conversion.exists_paragraphs_of_paragraphsAt hparagraphs
    have hsize : (Conversion.textFile paragraphs).length =
        (Conversion.joinLines paragraphs).utf8ByteSize := Utf8.length_ofString _
    exact ⟨source, output, paragraphs, Conversion.joinLines paragraphs, _, harguments,
      hparagraphs, hsucceeded.read, String.toList_ofList,
      Conversion.getLast?_joinLines_ne hdocument, hsucceeded.stdout, rfl, hsize.symm,
      hsize.trans (Conversion.utf8ByteSize_joinLines paragraphs)⟩

/-- A document with a paragraph of one letter, an empty one and one of two letters, which take
two, none and six octets; in three parts. -/
def lettersDocument : Bytes :=
  Bytes.ofString "<b xmlns=\"http://schemas.openxmlformats.org" ++
    Bytes.ofString "/wordprocessingml/2006/main\">" ++
    Bytes.ofString "<p><t>é</t></p><p/><p><t>日本 </t></p></b>"

def lettersArchive : Bytes :=
  let fields := [0xF2, 0x76, 0xC8, 0xB7, 117, 0, 0, 0, 117, 0, 0, 0, 17, 0]
  Zip.marks Zip.localSignature ++ List.replicate 10 0 ++ fields ++ [0, 0] ++
    Bytes.ofString Document.memberName ++ lettersDocument ++
    Zip.marks Zip.Entry.signature ++ List.replicate 12 0 ++ fields ++ List.replicate 16 0 ++
    Bytes.ofString Document.memberName ++
    Zip.marks Zip.EndRecord.signature ++
    [0, 0, 0, 0, 1, 0, 1, 0, 63, 0, 0, 0, 164, 0, 0, 0, 0, 0]

/-- The checksum is worked out part by part: over the whole document, the kernel would nest its
steps too deep. -/
theorem crc32_lettersDocument : (Checksum.crc32 lettersDocument).toNat = 0xB7C876F2 := by
  have hname : (Bytes.ofString "<b xmlns=\"http://schemas.openxmlformats.org").foldl
      Checksum.crcStep 0xFFFFFFFF = 0x13DBBEDA := by decide +kernel
  have hnamespace : (Bytes.ofString "/wordprocessingml/2006/main\">").foldl
      Checksum.crcStep 0x13DBBEDA = 0x1A1A758A := by decide +kernel
  have hparagraphs : (Bytes.ofString "<p><t>é</t></p><p/><p><t>日本 </t></p></b>").foldl
      Checksum.crcStep 0x1A1A758A = 0x4837890D := by decide +kernel
  rw [Checksum.crc32, lettersDocument, List.foldl_append, List.foldl_append, hname, hnamespace,
    hparagraphs]
  decide

def lettersEntry : Zip.Entry :=
  ⟨Bytes.ofString Document.memberName, 0, 0, 0xB7C876F2, 117, 0⟩

def lettersMember : Zip.Member :=
  ⟨.stored, lettersDocument, 0xB7C876F2⟩

theorem contents_lettersMember : lettersMember.contents = .ok lettersDocument := by
  have hunpack : lettersMember.unpack = .ok lettersDocument := rfl
  have hchecksum : (Checksum.crc32 lettersDocument).toNat = lettersMember.checksum :=
    crc32_lettersDocument
  rw [Zip.Member.contents, bind_eq_ok_iff]
  refine ⟨lettersDocument, hunpack, ?_⟩
  rw [if_pos hchecksum]
  rfl

theorem directory_lettersArchive : Zip.directory lettersArchive = .ok [lettersEntry] := by
  rw [← toOption_eq_some_iff]
  decide +kernel

theorem locate_lettersEntry : Zip.locate lettersArchive lettersEntry = .ok lettersMember := by
  rw [← toOption_eq_some_iff]
  decide +kernel

theorem body_lettersArchive : Document.body lettersArchive = .ok lettersDocument := by
  have hfind : Zip.find? [lettersEntry] (Bytes.ofString Document.memberName) =
      some lettersEntry := by decide +kernel
  rw [Document.body, bind_eq_ok_iff]
  refine ⟨[lettersEntry], mapError_eq_ok_iff.mpr directory_lettersArchive, ?_⟩
  rw [hfind, bind_eq_ok_iff]
  exact ⟨lettersMember, mapError_eq_ok_iff.mpr locate_lettersEntry,
    mapError_eq_ok_iff.mpr contents_lettersMember⟩

theorem paragraphs_lettersDocument :
    Document.paragraphs lettersDocument = .ok ["é", "日本"] := by
  rw [← toOption_eq_some_iff]
  decide +kernel

def lettersTree : Tree := ⟨[([['d'.toUInt8]], .file lettersArchive)]⟩

/-- The archive is not looked into to find the file. -/
theorem find_lettersTree :
    Conversion.inputAt ['d'.toUInt8] lettersTree = .ok () ∧
      lettersTree.read ['d'.toUInt8] = .ok lettersArchive ∧
      lettersTree.target ['d'.toUInt8] = .ok [['d'.toUInt8]] := by
  unfold lettersTree
  generalize lettersArchive = contents
  refine ⟨?_, ?_, ?_⟩ <;> rfl

theorem paragraphsAt_lettersTree :
    Conversion.paragraphsAt ['d'.toUInt8] lettersTree = .ok ["é", "日本"] := by
  obtain ⟨hinput, hread, _⟩ := find_lettersTree
  rw [Conversion.paragraphsAt, bind_eq_ok_iff]
  refine ⟨(), hinput, ?_⟩
  rw [bind_eq_ok_iff]
  refine ⟨lettersArchive, mapError_eq_ok_iff.mpr hread, ?_⟩
  rw [bind_eq_ok_iff]
  exact ⟨lettersDocument, body_lettersArchive, paragraphs_lettersDocument⟩

theorem succeeds_letters : (extractDocxText.run (Journal.ofText? "" none)
    [['d'.toUInt8], ['d'.toUInt8]] lettersTree).status = 0 :=
  succeeds_of_product (product_extractDocxText paragraphsAt_lettersTree _)
    find_lettersTree.2.2 _

theorem succeeds_letter : ∃ grid, Conversion.symbolGrid "é" .default = .ok grid ∧
    grid.length = 21 ∧ (genQrHeader.run (Journal.ofText? "" none)
      [Bytes.ofString "é", ['o'.toUInt8]] Tree.empty).status = 0 := by
  have hside : (Qr.fit .default (Bytes.ofString "é")).toOption.map
      (fun fitted => fitted.1.side) = some 21 := by decide +kernel
  have htarget : Tree.empty.target ['o'.toUInt8] = .ok [['o'.toUInt8]] := rfl
  obtain ⟨fitted, hfit, hside⟩ := Option.map_eq_some_iff.mp hside
  obtain ⟨grid, hgrid, hlength⟩ :=
    Conversion.exists_symbolGrid_of_fit (toOption_eq_some_iff.mp hfit)
  obtain ⟨⟨packed, file⟩, hfile⟩ := Conversion.exists_qrFile_of_symbolGrid hgrid
  obtain ⟨summary, hproduct⟩ : ∃ summary,
      genQrHeader.product (Bytes.ofString "é") ['o'.toUInt8] Tree.empty = .ok (summary, file) :=
    ⟨_, product_genQrHeader_eq_ok_iff.mpr ⟨"é", packed, utf8Argument_ofString "é", hfile, rfl⟩⟩
  exact ⟨grid, hgrid, hlength.trans hside, succeeds_of_product hproduct htarget _⟩

theorem succeeds_blackBitmap : (pngToHeader.run (Journal.ofText? "" none)
    [['b'.toUInt8], ['o'.toUInt8]] blackBitmapTree).status = 0 := by
  have htarget : blackBitmapTree.target ['o'.toUInt8] = .ok [['o'.toUInt8]] := by
    -- The place of the output does not depend on the image, which would be spelt out.
    unfold blackBitmapTree
    generalize blackBitmap = contents
    rfl
  obtain ⟨grid, hgrid⟩ := exists_bitmapAt_blackBitmapTree
  obtain ⟨⟨packed, file⟩, hfile⟩ :=
    Conversion.exists_pngFile_of_bitmapAt Png.imageReader_keepsSize hgrid
  obtain ⟨summary, hproduct⟩ : ∃ summary,
      pngToHeader.product ['b'.toUInt8] ['o'.toUInt8] blackBitmapTree = .ok (summary, file) :=
    ⟨_, product_pngToHeader_eq_ok_iff.mpr ⟨packed, hfile, rfl⟩⟩
  exact succeeds_of_product hproduct htarget _

/-- The symbol for one letter, a header for it and one for an image; and two paragraphs that take
the place of the document they are from. -/
theorem summary_agrees_with_file_letters :
    (∃ outcome header, genQrHeader.run (Journal.ofText? "" none)
        [Bytes.ofString "é", ['o'.toUInt8]] Tree.empty = outcome ∧ outcome.status = 0 ∧
      outcome.files.read ['o'.toUInt8] = .ok (Bytes.ofString header) ∧
      Header.Declares Header.Layout.qrModules 21 63 header ∧
      outcome.stdout = "Wrote o (63 bytes) modules=21 for: é\n") ∧
    (∃ outcome header, pngToHeader.run (Journal.ofText? "" none)
        [['b'.toUInt8], ['o'.toUInt8]] blackBitmapTree = outcome ∧ outcome.status = 0 ∧
      outcome.files.read ['o'.toUInt8] = .ok (Bytes.ofString header) ∧
      Header.Declares Header.Layout.bitmap32 32 128 header ∧
      outcome.stdout = "Wrote o (128 bytes)\n") ∧
    ∃ outcome, extractDocxText.run (Journal.ofText? "" none)
        [['d'.toUInt8], ['d'.toUInt8]] lettersTree = outcome ∧ outcome.status = 0 ∧
      outcome.files.read ['d'.toUInt8] = .ok (Bytes.ofString "é\n日本") ∧
      outcome.stdout = "extracted_lines=2\nwrote=d bytes=9\n" := by
  refine ⟨?_, ?_, ?_⟩
  · obtain ⟨grid, hgrid, hside, hstatus⟩ := succeeds_letter
    obtain ⟨h, -, -⟩ := summary_agrees_with_file (Journal.ofText? "" none)
      [Bytes.ofString "é", ['o'.toUInt8]] Tree.empty
    obtain ⟨source, output, content, found, header, length, harguments, hcontent, hfound, hread,
      hdeclares, hstdout⟩ := h _ rfl hstatus
    cases harguments
    rw [utf8Argument_ofString, Except.ok.injEq] at hcontent
    subst hcontent
    rw [hgrid, Except.ok.injEq] at hfound
    subst hfound
    rw [hside] at hdeclares hstdout
    have hlength : length = 63 := hdeclares.product
    rw [hlength] at hdeclares hstdout
    exact ⟨_, header, rfl, hstatus, hread, hdeclares, hstdout.trans (by decide +kernel)⟩
  · obtain ⟨-, h, -⟩ := summary_agrees_with_file (Journal.ofText? "" none)
      [['b'.toUInt8], ['o'.toUInt8]] blackBitmapTree
    obtain ⟨source, output, header, length, harguments, hread, hdeclares, hstdout⟩ :=
      h _ rfl succeeds_blackBitmap
    cases harguments
    have hlength : length = 128 := hdeclares.product
    rw [hlength] at hdeclares hstdout
    exact ⟨_, header, rfl, succeeds_blackBitmap, hread, hdeclares,
      hstdout.trans (by decide +kernel)⟩
  · obtain ⟨-, -, h⟩ := summary_agrees_with_file (Journal.ofText? "" none)
      [['d'.toUInt8], ['d'.toUInt8]] lettersTree
    obtain ⟨source, output, paragraphs, text, size, harguments, hparagraphs, hread, htext, -,
      hstdout, -, -, hsize⟩ := h _ rfl succeeds_letters
    cases harguments
    rw [paragraphsAt_lettersTree, Except.ok.injEq] at hparagraphs
    subst hparagraphs
    have hjoined : text = "é\n日本" := String.toList_inj.mp (htext.trans (by decide))
    have hnine : size = 9 := hsize.trans (by decide)
    rw [hjoined] at hread
    rw [hnine] at hstdout
    exact ⟨_, rfl, succeeds_letters, hread, hstdout.trans (by decide +kernel)⟩

end Tool

end DeviceAssets
