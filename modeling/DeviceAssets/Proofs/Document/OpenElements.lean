import DeviceAssets.Proofs.Document.Balance

/-!
# The open lines are those of the open paragraphs

A collector keeps the places of its open lines and the number of open text elements, and it is
told of elements that open and close only if their names have the right namespace. What it keeps
is said here in terms of the events that it was given: after any of them its open lines are the
ones that the paragraphs still open began, so an end tag closes the line of its own start tag,
and a line that was closed stays as it is.
-/

namespace DeviceAssets.Document

open Xml (Event Frame Name Reader)

/-! ### Open elements and their lines -/

def beginsLine : Event → Bool
  | .opened name | .empty name => roleOf name = .paragraph
  | _ => false

def lineCount (events : List Event) : Nat :=
  events.countP beginsLine

/-- An element that is open, and the number of lines that were begun in front of its start tag.
If it is a paragraph, this is the place of its own line. -/
structure OpenElement where
  name : Name
  line : Nat
  deriving DecidableEq, Repr

/-- The elements that some events leave open, the innermost first. Of the events the latest is
given first. -/
def openElements : List Event → List OpenElement
  | [] => []
  | .opened name :: earlier => ⟨name, lineCount earlier⟩ :: openElements earlier
  | .closed _ :: earlier => (openElements earlier).tail
  | .empty _ :: earlier | .text _ :: earlier | .cdata _ :: earlier | .other :: earlier =>
    openElements earlier

def paragraphLines (elements : List OpenElement) : List Nat :=
  (elements.filter fun element => roleOf element.name = .paragraph).map OpenElement.line

theorem paragraphLines_cons (element : OpenElement) (outer : List OpenElement) :
    paragraphLines (element :: outer) =
      if roleOf element.name = .paragraph then element.line :: paragraphLines outer
      else paragraphLines outer := by
  by_cases h : roleOf element.name = .paragraph <;> simp [paragraphLines, h]

/-- A collector that was given some events keeps the lines of the paragraphs that they leave
open. The open elements are those of the reader. -/
structure Tracks (history : List Event) (frames : List Frame) (collector : Collector) : Prop where
  wellFormed : collector.WellFormed
  balanced : Balanced frames collector
  names : (openElements history).map OpenElement.name = frames.map Frame.resolved
  size : collector.lines.size = lineCount history
  openLines : collector.openLines = paragraphLines (openElements history)

namespace Tracks

variable {history : List Event} {frames : List Frame} {collector : Collector}

theorem start : Tracks [] [] Collector.start :=
  ⟨Collector.start_wellFormed, .start, rfl, rfl, rfl⟩

/-- The innermost open element is the one that the reader closes next. -/
theorem exists_innermost {frame : Frame} (tracks : Tracks history (frame :: frames) collector) :
    ∃ element outer, openElements history = element :: outer ∧ element.name = frame.resolved ∧
      outer.map OpenElement.name = frames.map Frame.resolved := by
  have hnames := tracks.names
  rw [List.map_cons, List.map_eq_cons_iff] at hnames
  exact hnames

/-- Behind an end tag the lines of the elements around it are left. -/
theorem openLines_closing {frame : Frame} (tracks : Tracks history (frame :: frames) collector)
    {element : OpenElement} {outer : List OpenElement}
    (innermost : openElements history = element :: outer) (name : element.name = frame.resolved) :
    (collector.closing (roleOf frame.resolved)).openLines = paragraphLines outer := by
  have hlines := tracks.openLines
  rw [innermost, paragraphLines_cons, name] at hlines
  cases hrole : roleOf frame.resolved with
  | paragraph =>
    rw [hrole, if_pos rfl] at hlines
    rw [Collector.closing, hlines, List.tail_cons]
  | text | other =>
    rw [hrole, if_neg (by decide)] at hlines
    exact hlines

/-- The end tag of a paragraph takes away the line of its own start tag, which is there. -/
theorem openLines_eq_cons {frame : Frame} (tracks : Tracks history (frame :: frames) collector)
    {element : OpenElement} {outer : List OpenElement}
    (innermost : openElements history = element :: outer) (name : element.name = frame.resolved)
    (paragraph : roleOf frame.resolved = .paragraph) :
    collector.openLines = element.line :: (collector.closing .paragraph).openLines := by
  have hclosing := tracks.openLines_closing innermost name
  rw [paragraph] at hclosing
  rw [hclosing, tracks.openLines, innermost, paragraphLines_cons, name, if_pos paragraph]

/-- Events count for the elements that they leave open and for the lines that they begin. -/
theorem congr {other : List Event} (tracks : Tracks history frames collector)
    (elements : openElements other = openElements history)
    (lines : lineCount other = lineCount history) : Tracks other frames collector := by
  refine ⟨tracks.wellFormed, tracks.balanced, ?_, ?_, ?_⟩
  · rw [elements, tracks.names]
  · rw [lines, tracks.size]
  · rw [elements, tracks.openLines]

/-- Text goes to lines that are there. -/
theorem append (tracks : Tracks history frames collector) (text : List Char) :
    Tracks history frames (collector.append text) := by
  refine ⟨tracks.wellFormed.append text, tracks.balanced.append text, tracks.names, ?_,
    tracks.openLines⟩
  rw [Collector.size_lines_append tracks.wellFormed, tracks.size]

/-- Whatever is read next, the open lines stay those of the open paragraphs. -/
theorem step (tracks : Tracks history frames collector) {found : Event} {later : List Frame}
    (shifts : Reader.Shifts frames found later) {next : Collector}
    (h : collector.step found = .ok next) : Tracks (found :: history) later next := by
  have well := tracks.wellFormed.step h
  have balanced := tracks.balanced.step shifts h
  cases shifts with
  | opened frame =>
    cases h
    refine ⟨well, balanced, ?_, ?_, ?_⟩
    · rw [openElements, List.map_cons, List.map_cons, tracks.names]
    · rw [lineCount, List.countP_cons, ← lineCount, ← tracks.size]
      cases hrole : roleOf frame.resolved <;> simp [Collector.opening, beginsLine, hrole]
    · rw [openElements, paragraphLines_cons, ← tracks.openLines, ← tracks.size]
      cases hrole : roleOf frame.resolved <;> simp [Collector.opening]
  | closed frame =>
    cases h
    obtain ⟨element, outer, hinnermost, hname, houter⟩ := tracks.exists_innermost
    refine ⟨well, balanced, ?_, ?_, ?_⟩
    · rw [openElements, hinnermost, List.tail_cons, houter]
    · rw [Collector.lines_closing, tracks.size]
      rfl
    · rw [openElements, hinnermost, List.tail_cons]
      exact tracks.openLines_closing hinnermost hname
  | empty name =>
    rw [Collector.step_empty] at h
    cases h
    refine ⟨well, balanced, tracks.names, ?_, ?_⟩
    · rw [Collector.lines_closing, lineCount, List.countP_cons, ← lineCount, ← tracks.size]
      cases hrole : roleOf name <;> simp [Collector.opening, beginsLine, hrole]
    · rw [openElements, ← tracks.openLines]
      cases roleOf name <;> rfl
  | text octets =>
    rcases Collector.eq_or_append_of_step_text h with rfl | ⟨text, rfl⟩
    · exact tracks.congr rfl rfl
    · exact (tracks.append text).congr rfl rfl
  | cdata octets =>
    rcases Collector.eq_or_append_of_step_cdata h with rfl | ⟨text, rfl⟩
    · exact tracks.congr rfl rfl
    · exact (tracks.append text).congr rfl rfl
  | other =>
    cases h
    exact tracks.congr rfl rfl

/-- Along all events of a reader the open lines stay those of the open paragraphs. -/
theorem foldlM {reader rest : Reader} {events : List Event} (advances : reader.Advances events rest)
    (tracks : Tracks history reader.frames collector) {later : Collector}
    (h : events.foldlM Collector.step collector = .ok later) :
    Tracks (events.reverse ++ history) rest.frames later := by
  induction advances generalizing history collector with
  | nil reader =>
    cases h
    exact tracks
  | @cons reader middle rest found events next _ ih =>
    rw [List.foldlM_cons, bind_eq_ok_iff] at h
    obtain ⟨after, hstep, hrest⟩ := h
    have hnext := ih (tracks.step (Reader.shifts_next? next) hstep) hrest
    rwa [List.reverse_cons, List.append_assoc, List.singleton_append]

end Tracks

/-! ### Finished lines -/

namespace Collector

/-- Line number `i` is `line`, and no open paragraph has it any more. The last character stands
first. -/
structure Finished (collector : Collector) (i : Nat) (line : List Char) : Prop where
  line_eq : collector.lines[i]? = some line
  closed : i ∉ collector.openLines

namespace Finished

variable {collector : Collector} {i : Nat} {line : List Char}

theorem opening (finished : collector.Finished i line) (role : Role) :
    (collector.opening role).Finished i line := by
  cases role with
  | paragraph =>
    obtain ⟨hi, hline⟩ := Array.getElem?_eq_some_iff.mp finished.line_eq
    constructor
    · rw [Collector.opening, Array.getElem?_push_lt hi, hline]
    · rw [Collector.opening, List.mem_cons, not_or]
      exact ⟨Nat.ne_of_lt hi, finished.closed⟩
  | text => exact ⟨finished.line_eq, finished.closed⟩
  | other => exact finished

theorem closing (finished : collector.Finished i line) (role : Role) :
    (collector.closing role).Finished i line := by
  cases role with
  | paragraph => exact ⟨finished.line_eq, fun h => finished.closed (List.mem_of_mem_tail h)⟩
  | text => exact ⟨finished.line_eq, finished.closed⟩
  | other => exact finished

theorem append (finished : collector.Finished i line) (well : collector.WellFormed)
    (text : List Char) : (collector.append text).Finished i line := by
  refine ⟨?_, finished.closed⟩
  rw [lines_append well, Array.getElem?_mapIdx, finished.line_eq, Option.map_some,
    if_neg finished.closed]

/-- Whatever is read next, a finished line stays as it is. -/
theorem step (finished : collector.Finished i line) (well : collector.WellFormed)
    {event : Event} {later : Collector} (h : collector.step event = .ok later) :
    later.Finished i line := by
  cases event with
  | opened name =>
    cases h
    exact finished.opening _
  | empty name =>
    rw [step_empty] at h
    cases h
    exact (finished.opening _).closing _
  | closed name =>
    cases h
    exact finished.closing _
  | text octets =>
    rcases eq_or_append_of_step_text h with rfl | ⟨text, rfl⟩
    · exact finished
    · exact finished.append well text
  | cdata octets =>
    rcases eq_or_append_of_step_cdata h with rfl | ⟨text, rfl⟩
    · exact finished
    · exact finished.append well text
  | other =>
    cases h
    exact finished

theorem foldlM {events : List Event} (finished : collector.Finished i line)
    (well : collector.WellFormed) {later : Collector}
    (h : events.foldlM Collector.step collector = .ok later) : later.Finished i line := by
  have keeps {state : Collector} {event : Event} {next : Collector}
      (before : state.WellFormed ∧ state.Finished i line) (hstep : state.step event = .ok next) :
      next.WellFormed ∧ next.Finished i line :=
    ⟨before.1.step hstep, before.2.step before.1 hstep⟩
  exact (holds_of_foldlM keeps ⟨well, finished⟩ h).2

end Finished

end Collector

/-! ### Every iteration -/

/-- Wherever reading a document has come to, the collector agrees with the open elements of the
reader. Its open lines are places of lines, each above the next, and they are those of the open
paragraphs: the ones that were next to be begun when their start tags were read. It counts the
open text elements. So an end tag that is read next takes away the line of its own start tag, or
one text element, and a line that is no longer open stays as it is to the end. -/
theorem open_lines_of_open_paragraphs (document : Bytes) {before after : List Event}
    (events : (Xml.transcript document).events = before ++ after) {collector : Collector}
    (read : before.foldlM Collector.step Collector.start = .ok collector) :
    ∃ reader : Reader, (Reader.ofDocument document).Advances before reader ∧
      (openElements before.reverse).map OpenElement.name = reader.frames.map Frame.resolved ∧
      collector.lines.size = lineCount before ∧
      collector.openLines.Pairwise (· > ·) ∧
      (∀ i ∈ collector.openLines, i < collector.lines.size) ∧
      collector.openLines = paragraphLines (openElements before.reverse) ∧
      collector.textDepth = openCount .text reader.frames ∧
      (∀ name rest, after = .closed name :: rest → ∃ element outer,
        openElements before.reverse = element :: outer ∧ element.name = name ∧
        (roleOf name = .paragraph →
          collector.openLines = element.line :: (collector.closing .paragraph).openLines) ∧
        (roleOf name = .text →
          collector.textDepth = (collector.closing .text).textDepth + 1)) ∧
      ∀ i line, collector.lines[i]? = some line → i ∉ collector.openLines →
        ∀ (more : List Event) (later : Collector),
          more.foldlM Collector.step collector = .ok later →
          later.lines[i]? = some line ∧ i ∉ later.openLines := by
  obtain ⟨reader, hadvances, hafter⟩ := Reader.exists_advances_of_run events
  have tracks := Tracks.start.foldlM hadvances read
  rw [List.append_nil] at tracks
  have hsize : collector.lines.size = lineCount before := by
    rw [tracks.size, lineCount, List.countP_reverse]
    rfl
  refine ⟨reader, hadvances, tracks.names, hsize, tracks.wellFormed.descending,
    tracks.wellFormed.bounded, tracks.openLines, tracks.balanced.texts, ?_, ?_⟩
  · rintro name rest rfl
    obtain ⟨behind, hnext, _⟩ := Reader.exists_next?_of_run hafter
    obtain ⟨frame, hframes, rfl⟩ := (Reader.shifts_next? hnext).exists_innermost
    rw [hframes] at tracks
    obtain ⟨element, outer, hinnermost, hname, _⟩ := tracks.exists_innermost
    exact ⟨element, outer, hinnermost, hname, tracks.openLines_eq_cons hinnermost hname,
      tracks.balanced.textDepth_eq_succ⟩
  · intro i line hline hclosed more later hmore
    have finished := Collector.Finished.foldlM ⟨hline, hclosed⟩ tracks.wellFormed hmore
    exact ⟨finished.line_eq, finished.closed⟩

def reboundElements : Bytes :=
  Bytes.ofString "<p xmlns=\"http://schemas.openxmlformats.org/wordprocessingml/2006/main\">" ++
    Bytes.ofString "<t xmlns=\"u\">" ++
    Bytes.ofString "<p xmlns=\"http://schemas.openxmlformats.org/wordprocessingml/2006/main\">" ++
    Bytes.ofString "<t>a</t></p>"

def reboundStart : List Event :=
  [.opened ⟨some wordNamespace, ['p'.toUInt8]⟩, .opened ⟨some ['u'.toUInt8], ['t'.toUInt8]⟩,
    .opened ⟨some wordNamespace, ['p'.toUInt8]⟩, .opened ⟨some wordNamespace, ['t'.toUInt8]⟩,
    .text ['a'.toUInt8]]

def reboundEnd : List Event :=
  [.closed ⟨some wordNamespace, ['t'.toUInt8]⟩, .closed ⟨some wordNamespace, ['p'.toUInt8]⟩]

/-- Behind the letter two lines are open and one text element, which its end tag closes. -/
theorem open_lines_of_open_paragraphs_rebound :
    (Xml.transcript reboundElements).events = reboundStart ++ reboundEnd ∧
      ∃ collector, reboundStart.foldlM Collector.step Collector.start = .ok collector ∧
        collector.openLines = [1, 0] ∧ collector.textDepth = 1 ∧
        (collector.closing .text).textDepth = 0 := by
  have events : (Xml.transcript reboundElements).events = reboundStart ++ reboundEnd := by
    decide +kernel
  have hread : (reboundStart.foldlM Collector.step Collector.start).toOption.map
      Collector.textDepth = some 1 := by
    decide +kernel
  obtain ⟨collector, hcollector, htext⟩ := Option.map_eq_some_iff.mp hread
  rw [toOption_eq_some_iff] at hcollector
  obtain ⟨reader, _, _, _, _, _, hlines, _, hclosing, _⟩ :=
    open_lines_of_open_paragraphs reboundElements events hcollector
  refine ⟨events, collector, hcollector, ?_, htext, ?_⟩
  · rw [hlines]
    decide +kernel
  · obtain ⟨_, _, _, _, _, hend⟩ := hclosing _ _ rfl
    have hdecrease := hend (by decide +kernel)
    omega

end DeviceAssets.Document
