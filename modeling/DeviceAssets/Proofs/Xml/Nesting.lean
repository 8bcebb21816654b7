import DeviceAssets.Proofs.Results
import DeviceAssets.Xml.Reader

/-!
# Nesting of events

Events are nested when each end tag closes the innermost element that is open, under
the name with which it was opened. Elements may be left open at the end. All that a
reader reports is nested: a name means at the end of an element what it meant at the
beginning, whatever was declared in between.
-/

namespace DeviceAssets.Xml

/-- Each end tag closes the innermost element; `names` are those of the elements that are
open, the innermost first. -/
def Nested (names : List Name) : List Event → Prop
  | [] => True
  | .opened name :: rest => Nested (name :: names) rest
  | .closed name :: rest =>
    match names with
    | [] => False
    | innermost :: outer => name = innermost ∧ Nested outer rest
  | .empty _ :: rest => Nested names rest
  | .text _ :: rest => Nested names rest
  | .cdata _ :: rest => Nested names rest
  | .other :: rest => Nested names rest

def Frame.resolved (frame : Frame) : Name :=
  frame.scope.resolve frame.name

namespace Reader

/-- A start tag opens an element whose declarations count for its own name. -/
theorem event_start (frames : List Frame) (scope : Scope) (content : Bytes) :
    event frames scope (.start content) =
      (scope.declare (attributes (behindName content))).map fun inner =>
        (.opened (inner.resolve (nameOf content)), ⟨nameOf content, inner⟩ :: frames) := by
  rw [event]
  cases scope.declare (attributes (behindName content)) <;> rfl

theorem event_empty (frames : List Frame) (scope : Scope) (content : Bytes) :
    event frames scope (.empty content) =
      (scope.declare (attributes (behindName content))).map fun inner =>
        (.empty (inner.resolve (nameOf content)), frames) := by
  rw [event]
  cases scope.declare (attributes (behindName content)) <;> rfl

/-- What an event does to the open elements: a start tag opens one, an end tag closes the
innermost, and the others keep them. -/
inductive Shifts : List Frame → Event → List Frame → Prop
  | opened (frame : Frame) (frames : List Frame) :
      Shifts frames (.opened frame.resolved) (frame :: frames)
  | closed (frame : Frame) (frames : List Frame) :
      Shifts (frame :: frames) (.closed frame.resolved) frames
  | empty (name : Name) (frames : List Frame) : Shifts frames (.empty name) frames
  | text (octets : Bytes) (frames : List Frame) : Shifts frames (.text octets) frames
  | cdata (octets : Bytes) (frames : List Frame) : Shifts frames (.cdata octets) frames
  | other (frames : List Frame) : Shifts frames .other frames

theorem shifts_event {frames later : List Frame} {scope : Scope} {token : Token}
    {found : Event} (h : event frames scope token = .ok (found, later)) :
    Shifts frames found later := by
  cases token with
  | text octets =>
    cases h
    exact .text octets frames
  | cdata octets =>
    cases h
    exact .cdata octets frames
  | other =>
    cases h
    exact .other frames
  | start content =>
    rw [event_start, map_eq_ok_iff] at h
    obtain ⟨inner, _, hopened⟩ := h
    cases hopened
    exact .opened ⟨nameOf content, inner⟩ frames
  | empty content =>
    rw [event_empty, map_eq_ok_iff] at h
    obtain ⟨inner, _, hempty⟩ := h
    cases hempty
    exact .empty _ frames
  | close content =>
    cases frames with
    | nil => cases h
    | cons frame outer =>
      simp only [event] at h
      split at h
      · rename_i hname
        cases h
        rw [hname]
        exact .closed frame _
      · cases h

/-- An end tag closes the innermost element, under the name that it was opened with. -/
theorem Shifts.exists_innermost {frames later : List Frame} {name : Name}
    (shifts : Shifts frames (.closed name) later) :
    ∃ frame, frames = frame :: later ∧ name = frame.resolved := by
  cases shifts with
  | closed frame => exact ⟨frame, rfl, rfl⟩

/-- An event is made from the token at the front. -/
theorem exists_token_of_next? {reader rest : Reader} {found : Event}
    (h : reader.next? = .ok (some (found, rest))) :
    ∃ token, Token.next? reader.input = .ok (some (token, rest.input)) ∧
      event reader.frames reader.scope token = .ok (found, rest.frames) := by
  unfold next? at h
  split at h
  · cases h
  · cases h
  · rename_i token back htoken
    obtain ⟨made, hevent, hmade⟩ := map_eq_ok_iff.mp h
    cases hmade
    exact ⟨token, htoken, hevent⟩

theorem shifts_next? {reader rest : Reader} {found : Event}
    (h : reader.next? = .ok (some (found, rest))) :
    Shifts reader.frames found rest.frames := by
  obtain ⟨token, _, hevent⟩ := exists_token_of_next? h
  exact shifts_event hevent

/-- An event is nested in the elements that are open before it, if those that follow are
nested in the ones that it leaves. -/
theorem Shifts.nested {frames later : List Frame} {found : Event}
    (shifts : Shifts frames found later) {rest : List Event}
    (nested : Nested (later.map Frame.resolved) rest) :
    Nested (frames.map Frame.resolved) (found :: rest) := by
  cases shifts with
  | closed frame frames => exact ⟨rfl, nested⟩
  | opened | empty | text | cdata | other => exact nested

theorem nested_run (reader : Reader) :
    Nested (reader.frames.map Frame.resolved) reader.run.events := by
  fun_induction run reader with
  | case1 reader e h => exact True.intro
  | case2 reader h => exact True.intro
  | case3 reader found rest h transcript ih => exact (shifts_next? h).nested ih

/-! ### Along the events -/

/-- One after the other a reader reports some events, and then it is `rest`. -/
inductive Advances : Reader → List Event → Reader → Prop
  | nil (reader : Reader) : Advances reader [] reader
  | cons {reader middle rest : Reader} {found : Event} {events : List Event}
      (next : reader.next? = .ok (some (found, middle))) (behind : Advances middle events rest) :
      Advances reader (found :: events) rest

theorem exists_next?_of_run {reader : Reader} {found : Event} {events : List Event}
    (h : reader.run.events = found :: events) :
    ∃ rest, reader.next? = .ok (some (found, rest)) ∧ rest.run.events = events := by
  rw [run] at h
  split at h
  · cases h
  · cases h
  · rename_i rest hnext
    cases h
    exact ⟨rest, hnext, rfl⟩

/-- Whatever part of its events a reader has reported, it is a reader that has the others still
before it. -/
theorem exists_advances_of_run {reader : Reader} {before after : List Event}
    (h : reader.run.events = before ++ after) :
    ∃ rest, reader.Advances before rest ∧ rest.run.events = after := by
  induction before generalizing reader with
  | nil => exact ⟨reader, .nil reader, h⟩
  | cons found events ih =>
    obtain ⟨middle, hnext, hevents⟩ := exists_next?_of_run h
    obtain ⟨rest, hadvances, hafter⟩ := ih hevents
    exact ⟨rest, .cons hnext hadvances, hafter⟩

end Reader

/-- The events of any document are nested. -/
theorem nested_transcript (document : Bytes) : Nested [] (transcript document).events :=
  (Reader.ofDocument document).nested_run

end DeviceAssets.Xml
