import DeviceAssets.Proofs.Document.Balance
import DeviceAssets.Proofs.Document.Reading
import DeviceAssets.Proofs.Xml.Closed

/-!
# Text outside text elements

Octets without an opening bracket that stand where no text element is open are never
decoded. They can be put there, changed or left out: the same tags, comments and texts are
read behind them, and the lines and the faults of the document stay the same.
-/

namespace DeviceAssets.Document

open Xml (Event Frame Reader)

/-- Where reading a document can come to: to its beginning, behind the bracket that closes a
markup, and from there on over octets that are no markup. What is not yet read of the document
is given, and the elements that are open. -/
inductive Place (document : Bytes) : Bytes → List Frame → Prop
  | start : Place document document []
  | markup {bytes back : Bytes} {frames later : List Frame} {found : Event}
      (before : Place document ('<'.toUInt8 :: bytes) frames)
      (next : Reader.next? ⟨'<'.toUInt8 :: bytes, frames⟩ = .ok (some (found, ⟨back, later⟩)))
      (closed : Xml.isClosed bytes = true) : Place document back later
  | text {octets back : Bytes} {frames : List Frame}
      (before : Place document (octets ++ back) frames)
      (free : '<'.toUInt8 ∉ octets) : Place document back frames

namespace Place

variable {document : Bytes}

theorem ofDocument : Place document (Reader.ofDocument document).input [] := by
  rw [Reader.ofDocument]
  split
  · rename_i hmark
    obtain ⟨rest, rfl⟩ := List.isPrefixOf_iff_prefix.mp hmark
    exact .text .start (by decide)
  · exact .start

/-- From a place reading goes on to a place. The end of the document need not be one, as the
markup before it may lack its bracket. -/
theorem next? {reader rest : Reader} {found : Event}
    (place : Place document reader.input reader.frames)
    (h : reader.next? = .ok (some (found, rest))) (behind : rest.input ≠ []) :
    Place document rest.input rest.frames := by
  obtain ⟨input, frames⟩ := reader
  cases input with
  | nil => cases h
  | cons first bytes =>
    by_cases hfirst : first = '<'.toUInt8
    · subst hfirst
      obtain ⟨token, htoken, _⟩ := Reader.exists_token_of_next? h
      exact .markup place h (Xml.isClosed_of_markup? htoken behind)
    · rw [Reader.next?_text hfirst] at h
      cases h
      have hsplit : first :: bytes = (first :: bytes.takeWhile (· != '<'.toUInt8)) ++
          bytes.dropWhile (· != '<'.toUInt8) := by simp
      rw [hsplit] at place
      refine .text place ?_
      rw [List.mem_cons]
      rintro (heq | hmem)
      · exact hfirst heq.symm
      · simpa using List.mem_takeWhile_imp hmem

end Place

/-- What reading `piece` makes of a collector, whatever follows: a fault ends it, or it has
come to a collector whose counts are those of the open elements. -/
inductive Progress (collector : Collector) (frames : List Frame) (piece : Bytes)
    (later : List Frame) : Prop
  | fails (e : Xml.Error) (reads : ∀ more,
      linesFrom collector (Reader.run ⟨piece ++ more, frames⟩) = .error e)
  | reaches (next : Collector) (balanced : Balanced later next) (reads : ∀ more,
      linesFrom collector (Reader.run ⟨piece ++ more, frames⟩) =
        linesFrom next (Reader.run ⟨more, later⟩))

namespace Progress

variable {collector : Collector} {frames middle later : List Frame} {first second : Bytes}

theorem nil (balanced : Balanced frames collector) : Progress collector frames [] frames :=
  .reaches collector balanced fun _ => rfl

theorem append (progress : Progress collector frames first middle)
    (behind : ∀ next, Balanced middle next → Progress next middle second later) :
    Progress collector frames (first ++ second) later := by
  rcases progress with ⟨e, hfirst⟩ | ⟨next, balanced, hfirst⟩
  · refine .fails e fun more => ?_
    rw [List.append_assoc, hfirst]
  · rcases behind next balanced with ⟨e, hsecond⟩ | ⟨last, balanced, hsecond⟩
    · refine .fails e fun more => ?_
      rw [List.append_assoc, hfirst, hsecond]
    · refine .reaches last balanced fun more => ?_
      rw [List.append_assoc, hfirst, hsecond]

/-- One event and what comes behind it. Both are the same whatever follows them. -/
theorem event {found : Event} (balanced : Balanced frames collector)
    (next : ∀ more, Reader.next? ⟨first ++ (second ++ more), frames⟩ =
      .ok (some (found, ⟨second ++ more, middle⟩)))
    (behind : ∀ next, Balanced middle next → Progress next middle second later) :
    Progress collector frames (first ++ second) later := by
  have shifts := Reader.shifts_next? (next [])
  cases hstep : collector.step found with
  | error e =>
    refine .fails e fun more => ?_
    rw [List.append_assoc, linesFrom_run (next more), hstep]
    rfl
  | ok after =>
    have hread : ∀ more, linesFrom collector (Reader.run ⟨first ++ second ++ more, frames⟩) =
        linesFrom after (Reader.run ⟨second ++ more, middle⟩) := by
      intro more
      rw [List.append_assoc, linesFrom_run (next more), hstep]
      rfl
    rcases behind after (balanced.step shifts hstep) with ⟨e, hsecond⟩ | ⟨last, balanced, hsecond⟩
    · exact .fails e fun more => (hread more).trans (hsecond more)
    · exact .reaches last balanced fun more => (hread more).trans (hsecond more)

/-- Octets without markup are one text, where markup follows. -/
theorem text {octets piece : Bytes} (balanced : Balanced frames collector)
    (free : '<'.toUInt8 ∉ octets)
    (behind : ∀ next, Balanced frames next → Progress next frames ('<'.toUInt8 :: piece) later) :
    Progress collector frames (octets ++ '<'.toUInt8 :: piece) later := by
  by_cases hempty : octets = []
  · rw [hempty, List.nil_append]
    exact behind collector balanced
  · exact event balanced
      (fun more => Reader.next?_text_append hempty free (piece ++ more) frames) behind

end Progress

/-- Up to the last bracket before a place, reading is the same whatever stands behind it. -/
theorem Place.exists_progress {document back : Bytes} {frames : List Frame}
    (place : Place document back frames) :
    ∃ front octets, document = front ++ octets ++ back ∧ '<'.toUInt8 ∉ octets ∧
      Progress .start [] front frames := by
  induction place with
  | start => exact ⟨[], [], rfl, List.not_mem_nil, .nil .start⟩
  | @markup bytes back frames later found _ next closed ih =>
    obtain ⟨front, octets, rfl, free, progress⟩ := ih
    obtain ⟨piece, rfl, hpiece⟩ := Reader.delimited_next? next closed
    -- The octets since the last markup make one text now that its end is known.
    refine ⟨front ++ (octets ++ '<'.toUInt8 :: piece), [], by simp, List.not_mem_nil, ?_⟩
    refine progress.append fun collector balanced => .text balanced free ?_
    intro collector balanced
    have hmarkup : Progress collector frames ('<'.toUInt8 :: piece ++ []) later :=
      .event balanced hpiece fun _ => .nil
    rwa [List.append_nil] at hmarkup
  | @text octets back frames _ free ih =>
    obtain ⟨front, before, rfl, hbefore, progress⟩ := ih
    refine ⟨front, before ++ octets, by simp, ?_, progress⟩
    rw [List.mem_append]
    exact not_or.mpr ⟨hbefore, free⟩

/-! ### The beginning of a document -/

/-- Nothing is open where a document begins, so the mark before it does not count. -/
theorem linesFrom_ofDocument (document : Bytes) :
    linesFrom .start (Reader.ofDocument document).run =
      linesFrom .start (Reader.run ⟨document, []⟩) := by
  rw [Reader.ofDocument]
  split
  · rename_i hmark
    obtain ⟨rest, rfl⟩ := List.isPrefixOf_iff_prefix.mp hmark
    rw [linesFrom_dropWhile rfl, linesFrom_dropWhile rfl (Reader.byteOrderMark ++ rest)]
    rfl
  · rfl

/-- Octets without an opening bracket that are put where no text element is open change
neither the paragraphs of a document nor the fault in it. They may be no text at all, and
they may make up or take apart the mark at the beginning. -/
theorem paragraphs_insert_loose {front back : Bytes} {frames : List Frame}
    (place : Place (front ++ back) back frames)
    (outside : ∀ frame ∈ frames, roleOf frame.resolved ≠ .text)
    {octets : Bytes} (free : '<'.toUInt8 ∉ octets) :
    paragraphs (front ++ octets ++ back) = paragraphs (front ++ back) := by
  obtain ⟨before, passed, hdocument, hpassed, progress⟩ := place.exists_progress
  obtain rfl : front = before ++ passed := List.append_cancel_right hdocument
  have hlines : linesFrom .start (Reader.run ⟨before ++ passed ++ octets ++ back, []⟩) =
      linesFrom .start (Reader.run ⟨before ++ passed ++ back, []⟩) := by
    simp only [List.append_assoc]
    rcases progress with ⟨e, hreads⟩ | ⟨collector, balanced, hreads⟩
    · rw [hreads, hreads]
    · have depth : collector.textDepth = 0 := by
        rw [balanced.texts]
        exact openCount_eq_zero_iff.mpr outside
      rw [hreads, hreads, linesFrom_dropWhile depth, linesFrom_dropWhile depth (passed ++ back),
        List.dropWhile_append_of_pos (Xml.bne_of_mem hpassed),
        List.dropWhile_append_of_pos (Xml.bne_of_mem free),
        List.dropWhile_append_of_pos (Xml.bne_of_mem hpassed)]
  simp only [paragraphs, linesOf_eq_linesFrom, Xml.transcript, linesFrom_ofDocument, hlines]

def openParagraph : Frame := ⟨['p'.toUInt8], ⟨none, wordNamespace⟩ :: Xml.Scope.initial⟩

def openText : Frame := ⟨['t'.toUInt8], openParagraph.scope⟩

def shownLetter : Bytes :=
  Bytes.ofString "<p xmlns=\"http://schemas.openxmlformats.org/wordprocessingml/2006/main\">" ++
    Bytes.ofString "<t>a</t>x"

def paragraphEnd : Bytes := Bytes.ofString "y</p>"

theorem place_shownLetter :
    Place (shownLetter ++ paragraphEnd) paragraphEnd [openParagraph] := by
  have hparagraph : (Reader.ofDocument (shownLetter ++ paragraphEnd)).next? =
      .ok (some (.opened openParagraph.resolved,
        ⟨Bytes.ofString "<t>a</t>x" ++ paragraphEnd, [openParagraph]⟩)) := by
    rw [← toOption_eq_some_iff]
    decide +kernel
  have htext : Reader.next? ⟨Bytes.ofString "<t>a</t>x" ++ paragraphEnd, [openParagraph]⟩ =
      .ok (some (.opened openText.resolved,
        ⟨Bytes.ofString "a</t>x" ++ paragraphEnd, [openText, openParagraph]⟩)) := by
    rw [← toOption_eq_some_iff]
    decide +kernel
  have hletter : Reader.next? ⟨Bytes.ofString "a</t>x" ++ paragraphEnd, [openText, openParagraph]⟩ =
      .ok (some (.text ['a'.toUInt8],
        ⟨Bytes.ofString "</t>x" ++ paragraphEnd, [openText, openParagraph]⟩)) := by
    rw [← toOption_eq_some_iff]
    decide +kernel
  have hend : Reader.next? ⟨Bytes.ofString "</t>x" ++ paragraphEnd, [openText, openParagraph]⟩ =
      .ok (some (.closed openText.resolved,
        ⟨Bytes.ofString "x" ++ paragraphEnd, [openParagraph]⟩)) := by
    rw [← toOption_eq_some_iff]
    decide +kernel
  have hopen := (Place.ofDocument.next? hparagraph (by decide)).next? htext (by decide)
  have hclosed := (hopen.next? hletter (by decide)).next? hend (by decide)
  exact .text hclosed (by decide)

/-- Two octets that are no text, between the two letters behind a text element. -/
theorem paragraphs_insert_loose_shownLetter :
    Place (shownLetter ++ paragraphEnd) paragraphEnd [openParagraph] ∧
      paragraphs (shownLetter ++ [0xFF, '&'.toUInt8] ++ paragraphEnd) =
        paragraphs (shownLetter ++ paragraphEnd) ∧
      paragraphs (shownLetter ++ paragraphEnd) = .ok ["a"] := by
  have outside : ∀ frame ∈ [openParagraph], roleOf frame.resolved ≠ .text := by
    decide +kernel
  refine ⟨place_shownLetter, ?_, ?_⟩
  · exact paragraphs_insert_loose place_shownLetter outside (by decide)
  · rw [← toOption_eq_some_iff]
    decide +kernel

end DeviceAssets.Document
