import DeviceAssets.Proofs.Document.Collector
import DeviceAssets.Proofs.Xml.Nesting

/-!
# What is open in a document, and what the collector counts

A collector knows nothing of the open elements: it has a line for each paragraph that it saw
opening, and a number of text elements. Both agree with the elements that are open, since an
end tag means what the start tag of its element meant.
-/

namespace DeviceAssets.Document

open Xml (Event Frame Name Reader)

def openCount (role : Role) (frames : List Frame) : Nat :=
  frames.countP fun frame => roleOf frame.resolved = role

theorem openCount_cons (role : Role) (frame : Frame) (frames : List Frame) :
    openCount role (frame :: frames) =
      openCount role frames + if roleOf frame.resolved = role then 1 else 0 := by
  simp [openCount, List.countP_cons]

theorem openCount_eq_zero_iff {role : Role} {frames : List Frame} :
    openCount role frames = 0 ↔ ∀ frame ∈ frames, roleOf frame.resolved ≠ role := by
  simp [openCount, List.countP_eq_zero]

/-- The counts of a collector are those of the open elements. -/
structure Balanced (frames : List Frame) (collector : Collector) : Prop where
  paragraphs : collector.openLines.length = openCount .paragraph frames
  texts : collector.textDepth = openCount .text frames

namespace Balanced

variable {frames : List Frame} {collector : Collector}

theorem start : Balanced [] Collector.start := ⟨rfl, rfl⟩

theorem append (balanced : Balanced frames collector) (text : List Char) :
    Balanced frames (collector.append text) :=
  ⟨balanced.paragraphs, balanced.texts⟩

theorem opening (balanced : Balanced frames collector) (frame : Frame) :
    Balanced (frame :: frames) (collector.opening (roleOf frame.resolved)) := by
  obtain ⟨paragraphs, texts⟩ := balanced
  constructor <;> rw [openCount_cons]
  · cases roleOf frame.resolved <;> simp [Collector.opening, paragraphs]
  · cases roleOf frame.resolved <;> simp [Collector.opening, texts]

theorem closing {frame : Frame} (balanced : Balanced (frame :: frames) collector) :
    Balanced frames (collector.closing (roleOf frame.resolved)) := by
  obtain ⟨paragraphs, texts⟩ := balanced
  rw [openCount_cons] at paragraphs texts
  constructor
  · cases hrole : roleOf frame.resolved <;> simp_all [Collector.closing]
  · cases hrole : roleOf frame.resolved <;> simp_all [Collector.closing]

/-- The end tag of a text element is counted, so the count is not zero. -/
theorem textDepth_eq_succ {frame : Frame} (balanced : Balanced (frame :: frames) collector)
    (text : roleOf frame.resolved = .text) :
    collector.textDepth = (collector.closing .text).textDepth + 1 := by
  have texts := balanced.texts
  rw [openCount_cons, if_pos text] at texts
  rw [Collector.closing, texts, Nat.add_sub_cancel]

/-- An empty element leaves nothing open. -/
theorem closing_opening (balanced : Balanced frames collector) (role : Role) :
    Balanced frames ((collector.opening role).closing role) := by
  cases role with
  | paragraph | text | other => exact ⟨balanced.paragraphs, balanced.texts⟩

/-- Whatever is read next, the counts stay those of the open elements. -/
theorem step {later : List Frame} {found : Event} (balanced : Balanced frames collector)
    (shifts : Reader.Shifts frames found later) {next : Collector}
    (h : collector.step found = .ok next) : Balanced later next := by
  cases shifts with
  | opened frame =>
    cases h
    exact balanced.opening frame
  | closed frame =>
    cases h
    exact balanced.closing
  | empty name =>
    rw [Collector.step_empty] at h
    cases h
    exact balanced.closing_opening _
  | text octets =>
    rcases Collector.eq_or_append_of_step_text h with rfl | ⟨text, rfl⟩
    · exact balanced
    · exact balanced.append text
  | cdata octets =>
    rcases Collector.eq_or_append_of_step_cdata h with rfl | ⟨text, rfl⟩
    · exact balanced
    · exact balanced.append text
  | other =>
    cases h
    exact balanced

end Balanced

end DeviceAssets.Document
