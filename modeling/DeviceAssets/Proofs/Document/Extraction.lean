import DeviceAssets.Proofs.Document.Collector
import DeviceAssets.Proofs.Document.Content
import DeviceAssets.Proofs.Document.Reading
import DeviceAssets.Proofs.Text.Utf8
import DeviceAssets.Proofs.Xml.Writing

/-!
# Extracting what has been written

The paragraphs of a document that has been written are the lines that it was made of.
Reading goes tag by tag: a stretch that writes some content does to a collector what the
content says, whatever is read behind it, so elements around the content and siblings of
it can be taken one at a time.
-/

namespace DeviceAssets.Document

open Xml (Assignment Event Frame Name Namespaces Reader)

/-! ### Text -/

theorem lt_notMem_writtenText (text : List Char) : '<'.toUInt8 ∉ writtenText text :=
  fun h => Xml.lt_notMem_escape text (Utf8.mem_of_toUInt8_mem_ofChars (by decide) h)

theorem shownText_writtenText (text : List Char) :
    Collector.shownText (writtenText text) = .ok text := by
  rw [Collector.shownText, writtenText, Utf8.decode_ofChars]
  exact Xml.unescape_escape text

theorem linesFrom_loose {collector : Collector} (outside : collector.textDepth = 0)
    (text : List Char) (rest : Bytes) (frames : List Frame) :
    linesFrom collector (Reader.run ⟨writtenText text ++ rest, frames⟩) =
      linesFrom collector (Reader.run ⟨rest, frames⟩) := by
  have hfree := Xml.bne_of_mem (lt_notMem_writtenText text)
  rw [linesFrom_dropWhile outside, List.dropWhile_append_of_pos hfree,
    ← linesFrom_dropWhile outside]

/-- Inside a text element the text up to the next tag goes into the open lines. -/
theorem linesFrom_writtenText {collector : Collector} (well : collector.WellFormed)
    (within : 0 < collector.textDepth) (text : List Char) (rest : Bytes)
    (frames : List Frame) :
    linesFrom collector (Reader.run ⟨writtenText text ++ '<'.toUInt8 :: rest, frames⟩) =
      linesFrom (collector.append text) (Reader.run ⟨'<'.toUInt8 :: rest, frames⟩) := by
  have hshown := shownText_writtenText text
  have hfree := lt_notMem_writtenText text
  generalize writtenText text = octets at hshown hfree
  cases octets with
  | nil =>
    -- Nothing is read of an empty text, not even an event.
    have hempty : Collector.shownText [] = .ok [] := by
      rw [Collector.shownText, Utf8.decode, Utf8.pieces, Utf8.charsFrom]
      exact Xml.unescapeFrom_nil 0 _
    rw [hempty] at hshown
    cases hshown
    rw [Collector.append_nil well]
    rfl
  | cons first more =>
    have hnext := Reader.next?_text_append (List.cons_ne_nil first more) hfree rest frames
    rw [linesFrom_run hnext, Collector.step, if_pos within, hshown]
    rfl

/-! ### Elements -/

/-- Octets that, read up to a tag below some open elements, bring a text and some lines to
a collector. -/
def Brings (frames : List Frame) (collector : Collector) (octets : Bytes) (text : List Char)
    (lines : List (List Char)) : Prop :=
  ∀ back, linesFrom collector (Reader.run ⟨octets ++ '<'.toUInt8 :: back, frames⟩) =
    linesFrom ((collector.append text).adding lines) (Reader.run ⟨'<'.toUInt8 :: back, frames⟩)

/-- What an element brings is what its content brings to the collector inside it, and one
more line where it is a paragraph. `spaces` is what prefixes stand for inside. -/
theorem linesFrom_element {collector : Collector} (well : collector.WellFormed)
    {qualifier? : Option Bytes} (hqualifier : ∀ qualifier ∈ qualifier?, Xml.IsPart qualifier)
    {localName : Bytes} (hlocal : Xml.IsPart localName) {assignments : List Assignment}
    (writable : ∀ assignment ∈ assignments, assignment.Writable) {frames : List Frame}
    {spaces : Namespaces}
    (hspaces : Assignment.declared (Reader.namespaces frames) assignments = spaces) {role : Role}
    (hrole : roleOf ⟨spaces qualifier?, localName⟩ = role) {content : Bytes} {text : List Char}
    {lines : List (List Char)}
    (inside : ∀ frame : Frame, Reader.namespaces (frame :: frames) = spaces →
      Brings (frame :: frames) (collector.opening role) content text lines) (rest : Bytes) :
    linesFrom collector (Reader.run
        ⟨element (Xml.qualified qualifier? localName) assignments content ++ rest, frames⟩) =
      linesFrom ((collector.append text).adding
        ((if role = .paragraph then [text] else []) ++ lines)) (Reader.run ⟨rest, frames⟩) := by
  have hname := Xml.isName_qualified hqualifier hlocal
  obtain ⟨inner, hlookup, hstart⟩ := Reader.next?_startTag hname writable
    (content ++ (Xml.endTag (Xml.qualified qualifier? localName) ++ rest)) frames
  rw [hspaces] at hlookup
  have hresolved : roleOf (inner.resolve (Xml.qualified qualifier? localName)) = role := by
    rw [Xml.resolve_qualified hqualifier hlocal, hlookup, hrole]
  have hend := Reader.next?_endTag hname inner rest frames
  have hinside := inside ⟨Xml.qualified qualifier? localName, inner⟩ hlookup
    ('/'.toUInt8 :: (Xml.qualified qualifier? localName ++ ['>'.toUInt8] ++ rest))
  rw [element, List.append_assoc, List.append_assoc, linesFrom_run hstart, Collector.step,
    hresolved, Except.bind]
  refine hinside.trans ?_
  change linesFrom _ (Reader.run ⟨Xml.endTag (Xml.qualified qualifier? localName) ++ rest, _⟩) = _
  rw [linesFrom_run hend, Collector.step, hresolved, Except.bind, Collector.closing_opening well]

theorem roleOf_eq_other {name : Name} (hparagraph : name ≠ paragraphName)
    (hrun : name ≠ runName) : roleOf name = .other := by
  obtain ⟨uri?, localName⟩ := name
  rw [roleOf]
  split
  · rename_i hspace
    rw [if_neg, if_neg]
    · exact fun hlocal => hrun (by rw [runName, ← hspace, ← hlocal])
    · exact fun hlocal => hparagraph (by rw [paragraphName, ← hspace, ← hlocal])
  · rfl

theorem isPart_paragraph : Xml.IsPart paragraphName.localName :=
  ⟨⟨by decide, by decide⟩, by decide⟩

theorem isPart_run : Xml.IsPart runName.localName :=
  ⟨⟨by decide, by decide⟩, by decide⟩

theorem Qualifier.isPart_written {word? : Option Bytes}
    (hword : ∀ word ∈ word?, Xml.IsPart word) {wrapper : Wrapper} (writable : wrapper.Writable) :
    ∀ qualifier ∈ wrapper.qualifier.written word?, Xml.IsPart qualifier := by
  intro qualifier hmem
  cases h : wrapper.qualifier with
  | word =>
    rw [h] at hmem
    exact hword qualifier hmem
  | other other? =>
    rw [h] at hmem
    exact writable.qualifier qualifier (h.trans (congrArg Qualifier.other hmem))

namespace Content

/-- What has been written is read back, whatever is written behind it. -/
theorem linesFrom_written {word? : Option Bytes} (hword : ∀ word ∈ word?, Xml.IsPart word)
    (content : Content) {collector : Collector} (well : collector.WellFormed)
    (outside : collector.textDepth = 0) {frames : List Frame}
    (resolves : content.Resolves word? (Reader.namespaces frames)) (rest : Bytes) :
    linesFrom collector (Reader.run ⟨content.written word? ++ rest, frames⟩) =
      linesFrom ((collector.append content.text).adding content.lines)
        (Reader.run ⟨rest, frames⟩) := by
  induction content generalizing collector frames rest with
  | nil =>
    rw [text, lines, Collector.append_nil well, Collector.adding_nil]
    rfl
  | paragraph children behind ihChildren ihBehind =>
    obtain ⟨hspace, hchildren, hbehind⟩ := resolves
    have hrole : roleOf ⟨Reader.namespaces frames word?, paragraphName.localName⟩ =
        .paragraph := by
      rw [hspace]
      rfl
    have hdeclared : Assignment.declared (Reader.namespaces frames) [] =
        Reader.namespaces frames := rfl
    have hinside : ∀ frame, Reader.namespaces (frame :: frames) = Reader.namespaces frames →
        Brings (frame :: frames) (collector.opening .paragraph) (children.written word?)
          children.text children.lines := by
      intro frame hframe back
      rw [← hframe] at hchildren
      exact ihChildren (well.opening .paragraph) outside hchildren _
    have helement := linesFrom_element well hword isPart_paragraph (by simp) hdeclared hrole
      hinside
    rw [written, List.append_assoc, helement, ihBehind ((well.append _).adding _) outside hbehind,
      Collector.append_adding_append well]
    rfl
  | run text behind ih =>
    obtain ⟨hspace, hbehind⟩ := resolves
    have hrole : roleOf ⟨Reader.namespaces frames word?, runName.localName⟩ = .text := by
      rw [hspace]
      rfl
    have hdeclared : Assignment.declared (Reader.namespaces frames) [] =
        Reader.namespaces frames := rfl
    have hinside : ∀ frame, Reader.namespaces (frame :: frames) = Reader.namespaces frames →
        Brings (frame :: frames) (collector.opening .text) (writtenText text) text [] :=
      fun frame _ back => linesFrom_writtenText (well.opening .text) (Nat.succ_pos _) text back
        (frame :: frames)
    have helement := linesFrom_element well hword isPart_run (by simp) hdeclared hrole hinside
    rw [written, List.append_assoc, helement, ih ((well.append _).adding _) outside hbehind,
      Collector.append_adding_append well]
    rfl
  | loose text behind ih =>
    rw [written, List.append_assoc, linesFrom_loose outside]
    exact ih well outside resolves rest
  | other wrapper children behind ihChildren ihBehind =>
    obtain ⟨⟨writable, hparagraph, hrun⟩, hchildren, hbehind⟩ := resolves
    have hinside : ∀ frame,
        Reader.namespaces (frame :: frames) = wrapper.inside (Reader.namespaces frames) →
          Brings (frame :: frames) (collector.opening .other) (children.written word?)
            children.text children.lines := by
      intro frame hframe back
      rw [← hframe] at hchildren
      exact ihChildren well outside hchildren _
    have helement := linesFrom_element well (Qualifier.isPart_written hword writable)
      writable.localName writable.assignments rfl (roleOf_eq_other hparagraph hrun) hinside
    rw [written, List.append_assoc, Wrapper.writtenName, helement,
      ihBehind ((well.append _).adding _) outside hbehind, Collector.append_adding_append well]
    rfl

theorem isPart_document : Xml.IsPart (Bytes.ofString "document") :=
  ⟨⟨by decide, by decide⟩, by decide⟩

theorem isPart_body : Xml.IsPart (Bytes.ofString "body") :=
  ⟨⟨by decide, by decide⟩, by decide⟩

theorem name_ne_of_localName {wrapper : Wrapper} {name : Name}
    (h : wrapper.localName ≠ name.localName) (word? : Option Bytes) (spaces : Namespaces) :
    wrapper.name word? spaces ≠ name :=
  fun hname => h (congrArg Name.localName hname)

theorem writable_wordNamespace {word? : Option Bytes}
    (hword : ∀ word ∈ word?, Xml.IsOrdinary word) :
    (Assignment.declaration word? wordNamespace).Writable := by
  cases word? with
  | none =>
    change 0x22 ∉ wordNamespace
    decide
  | some word => exact ⟨hword word rfl, by decide, by decide, by decide⟩

theorem resolves_root {word? : Option Bytes} (hword : ∀ word ∈ word?, Xml.IsOrdinary word)
    {content : Content}
    (resolves : content.Resolves word? (Namespaces.initial.bind word? wordNamespace)) :
    (content.root word?).Resolves word? Namespaces.initial := by
  have hassignment : ∀ assignment ∈ [Assignment.declaration word? wordNamespace],
      assignment.Writable := by
    intro assignment hmem
    rw [List.mem_singleton.mp hmem]
    exact writable_wordNamespace hword
  have hlong : ∀ name ∈ [paragraphName, runName],
      Bytes.ofString "document" ≠ name.localName ∧ Bytes.ofString "body" ≠ name.localName := by
    decide
  obtain ⟨hparagraph, hparagraph'⟩ := hlong paragraphName (by simp)
  obtain ⟨hrun, hrun'⟩ := hlong runName (by simp)
  exact ⟨⟨⟨nofun, isPart_document, hassignment⟩, name_ne_of_localName hparagraph _ _,
      name_ne_of_localName hrun _ _⟩,
    ⟨⟨⟨nofun, isPart_body, by simp⟩, name_ne_of_localName hparagraph' _ _,
      name_ne_of_localName hrun' _ _⟩, resolves, True.intro⟩, True.intro⟩

end Content

/-- The declaration before a document is passed over. -/
theorem next?_prolog (rest : Bytes) :
    Reader.next? ⟨prolog ++ rest, []⟩ = .ok (some (.other, ⟨'\n'.toUInt8 :: rest, []⟩)) := by
  have hfree : '>'.toUInt8 ∉ prologContent := by decide
  have hcut := Xml.upTo_append hfree ('\n'.toUInt8 :: rest)
  have hlong : (2 ≤ prologContent.length && prologContent.getLast? = some '?'.toUInt8) = true := by
    decide
  have hdeclaration : Xml.declaration (prologContent ++ '>'.toUInt8 :: '\n'.toUInt8 :: rest) =
      .ok (.other, '\n'.toUInt8 :: rest) := by
    rw [Xml.declaration, hcut]
    simp only [hlong, if_true]
  have hinput : prolog ++ rest = '<'.toUInt8 :: '?'.toUInt8 ::
      (prologContent ++ '>'.toUInt8 :: '\n'.toUInt8 :: rest) := by
    simp [prolog]
  rw [hinput, Reader.next?, Xml.Token.next?, if_pos rfl, Xml.markup?, if_neg (by decide),
    if_neg (by decide), if_pos rfl, hdeclaration]
  rfl

/-- The paragraphs of a document that has been written are the lines that it was made of,
trimmed and without the empty ones, whatever prefix paragraphs and runs have. Text comes
back as it was before it was escaped; loose text, and what stands in elements of other
namespaces but in no run, does not come back. -/
theorem paragraphs_document {word? : Option Bytes}
    (hword : ∀ word ∈ word?, Xml.IsOrdinary word) {content : Content}
    (resolves : content.Resolves word? (Namespaces.initial.bind word? wordNamespace)) :
    paragraphs (content.document word?) = .ok (kept content.lines) := by
  have hparts : ∀ word ∈ word?, Xml.IsPart word := fun word hmem => (hword word hmem).toIsPart
  have hroot : (content.root word?).Resolves word? (Reader.namespaces []) := by
    rw [show Reader.namespaces [] = Namespaces.initial from Xml.lookup?_initial]
    exact Content.resolves_root hword resolves
  have hmark : Reader.byteOrderMark.isPrefixOf (content.document word?) = false := rfl
  have hread : linesOf (Xml.transcript (content.document word?)) = .ok (kept content.lines) := by
    calc linesOf (Xml.transcript (content.document word?))
      _ = linesFrom Collector.start (Reader.run ⟨content.document word?, []⟩) := by
        rw [linesOf_eq_linesFrom, Xml.transcript, Reader.ofDocument, hmark]
        rfl
      _ = linesFrom Collector.start
            (Reader.run ⟨'\n'.toUInt8 :: (content.root word?).written word?, []⟩) := by
        rw [Content.document, linesFrom_run (next?_prolog _)]
        rfl
      _ = linesFrom Collector.start
            (Reader.run ⟨(content.root word?).written word? ++ [], []⟩) := by
        rw [linesFrom_dropWhile rfl, List.append_nil]
        rfl
      _ = linesFrom ((Collector.start.append (content.root word?).text).adding
            (content.root word?).lines) (Reader.run ⟨[], []⟩) :=
        Content.linesFrom_written hparts _ Collector.start_wellFormed rfl hroot []
      _ = .ok (kept (content.root word?).lines) := by
        have htexts := Collector.texts_start (content.root word?).text (content.root word?).lines
        have hrun : Reader.run ⟨[], []⟩ = ⟨[], none⟩ := by
          rw [Reader.run]
          rfl
        rw [hrun]
        exact congrArg (fun lines => Except.ok (kept lines)) htexts
      _ = .ok (kept content.lines) := by simp [Content.root, Content.lines]
  rw [paragraphs, hread]
  rfl

theorem isOrdinary_v : Xml.IsOrdinary ['v'.toUInt8] :=
  ⟨⟨⟨by decide, by decide⟩, by decide⟩, by decide, by decide⟩

def nestedContent : Content :=
  .paragraph
    (.run "a&amp;<".toList
      (.other ⟨.word, ['r'.toUInt8], []⟩ (.paragraph (.run " b ".toList .nil) .nil)
        (.loose "x&".toList
          (.other ⟨.other (some ['v'.toUInt8]), ['p'.toUInt8],
              [.declaration (some ['v'.toUInt8]) (Bytes.ofString "urn:v")]⟩
            (.run "c".toList .nil) .nil))))
    (.paragraph .nil .nil)

theorem resolves_nestedContent {word? : Option Bytes}
    (h : word? ∈ [none, some ['w'.toUInt8]]) :
    nestedContent.Resolves word? (Namespaces.initial.bind word? wordNamespace) := by
  have hr : Wrapper.Writable ⟨.word, ['r'.toUInt8], []⟩ :=
    ⟨nofun, ⟨⟨by decide, by decide⟩, by decide⟩, by simp⟩
  have hv : Wrapper.Writable ⟨.other (some ['v'.toUInt8]), ['p'.toUInt8],
      [.declaration (some ['v'.toUInt8]) (Bytes.ofString "urn:v")]⟩ := by
    refine ⟨?_, isPart_paragraph, ?_⟩
    · rintro qualifier ⟨⟩
      exact isOrdinary_v.toIsPart
    · intro assignment hmem
      rw [List.mem_singleton.mp hmem]
      exact ⟨isOrdinary_v, by decide, by decide, by decide⟩
  simp only [List.mem_cons, List.not_mem_nil, or_false] at h
  rcases h with rfl | rfl
  all_goals
    exact ⟨by decide, ⟨by decide, ⟨hr, by decide, by decide⟩, ⟨by decide, ⟨by decide, True.intro⟩,
      True.intro⟩, ⟨hv, by decide, by decide⟩, ⟨by decide, True.intro⟩, True.intro⟩,
      by decide, True.intro, True.intro⟩

theorem paragraphs_document_nestedContent :
    paragraphs (nestedContent.document (some ['w'.toUInt8])) = .ok ["a&amp;< b c", "b"] ∧
      paragraphs (nestedContent.document none) = .ok ["a&amp;< b c", "b"] := by
  have hlines : kept nestedContent.lines = ["a&amp;< b c", "b"] := by decide +kernel
  rw [← hlines]
  have hordinary : Xml.IsOrdinary ['w'.toUInt8] :=
    ⟨⟨⟨by decide, by decide⟩, by decide⟩, by decide, by decide⟩
  constructor
  · exact paragraphs_document (by rintro word ⟨⟩; exact hordinary)
      (resolves_nestedContent (by simp))
  · exact paragraphs_document (by simp) (resolves_nestedContent (by simp))

end DeviceAssets.Document
