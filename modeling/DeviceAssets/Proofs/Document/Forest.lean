import DeviceAssets.Document.Paragraphs

/-!
# Documents as forests

The elements of a document make up a forest. Read on the forest, a line is the text
below a paragraph that has a text element somewhere above it, and lines stand in the
order in which their paragraphs open.

Elements that are still open where the events end count as closed there, and an empty
element is one without children.
-/

namespace DeviceAssets.Document

open Xml (Event Name)

/-- Elements and texts side by side. An element stands before the siblings behind it. -/
inductive Forest where
  | nil
  | element (name : Name) (children behind : Forest)
  | text (octets : Bytes) (behind : Forest)
  | cdata (octets : Bytes) (behind : Forest)
  deriving DecidableEq, Repr

namespace Forest

/-! ### Reading events as a forest -/

/-- The siblings with which some events begin, and the siblings behind each element that
the events close without opening it, the innermost first. -/
def siblings : List Event → Forest × List Forest
  | [] => (.nil, [])
  | .opened name :: rest =>
    match siblings rest with
    | (children, []) => (.element name children .nil, [])
    | (children, behind :: outer) => (.element name children behind, outer)
  | .closed _ :: rest =>
    let (behind, outer) := siblings rest
    (.nil, behind :: outer)
  | .empty name :: rest =>
    let (behind, outer) := siblings rest
    (.element name .nil behind, outer)
  | .text octets :: rest =>
    let (behind, outer) := siblings rest
    (.text octets behind, outer)
  | .cdata octets :: rest =>
    let (behind, outer) := siblings rest
    (.cdata octets behind, outer)
  | .other :: rest => siblings rest

def ofEvents (events : List Event) : Forest :=
  (siblings events).1

def events : Forest → List Event
  | .nil => []
  | .element name children behind =>
    .opened name :: (children.events ++ .closed name :: behind.events)
  | .text octets behind => .text octets :: behind.events
  | .cdata octets behind => .cdata octets :: behind.events

/-- The events behind some siblings: the elements called `names`, the innermost first, are
closed, each followed by its own siblings as far as there are any. -/
def eventsBehind : List Name → List Forest → List Event
  | [], _ => []
  | name :: names, [] => .closed name :: eventsBehind names []
  | name :: names, behind :: outer => .closed name :: (behind.events ++ eventsBehind names outer)

/-- The events of siblings are read as these siblings, up to the end of the element that
they stand in. -/
theorem siblings_events_append (forest : Forest) (name : Name) (rest : List Event) :
    siblings (forest.events ++ .closed name :: rest) =
      (forest, (siblings rest).1 :: (siblings rest).2) := by
  induction forest generalizing name rest with
  | nil => rfl
  | element inner children behind ihChildren ihBehind =>
    have hbehind := ihBehind name rest
    have hchildren := ihChildren inner (behind.events ++ .closed name :: rest)
    rw [hbehind] at hchildren
    rw [events, List.cons_append, List.append_assoc, List.cons_append, siblings, hchildren]
  | text octets behind ih =>
    have hbehind := ih name rest
    rw [events, List.cons_append, siblings, hbehind]
  | cdata octets behind ih =>
    have hbehind := ih name rest
    rw [events, List.cons_append, siblings, hbehind]

/-- A forest is found again in its events. -/
theorem ofEvents_events (forest : Forest) : ofEvents forest.events = forest := by
  suffices h : siblings forest.events = (forest, []) by rw [ofEvents, h]
  induction forest with
  | nil => rfl
  | element name children behind _ ihBehind =>
    rw [events, siblings, siblings_events_append, ihBehind]
  | text octets behind ih => rw [events, siblings, ih]
  | cdata octets behind ih => rw [events, siblings, ih]

/-! ### Reading a forest as lines -/

/-- Whether what is below an element has a text element above it; `within` says so of the
element itself. -/
def withinText (within : Bool) (name : Name) : Bool :=
  within || roleOf name = .text

/-- The text of a forest, in the order of the document: what has a text element above
it. Where `within` holds, all of it has. -/
def shown (within : Bool) : Forest → List Char
  | .nil => []
  | .element name children behind => children.shown (withinText within name) ++ behind.shown within
  | .text octets behind =>
    (if within then (Collector.shownText octets).toOption.getD [] else []) ++ behind.shown within
  | .cdata octets behind =>
    (if within then Utf8.decodeLenient octets else []) ++ behind.shown within

/-- The text below each paragraph, in the order in which the paragraphs open. -/
def lines (within : Bool) : Forest → List (List Char)
  | .nil => []
  | .element name children behind =>
    (if roleOf name = .paragraph then [children.shown (withinText within name)] else []) ++
      (children.lines (withinText within name) ++ behind.lines within)
  | .text _ behind => behind.lines within
  | .cdata _ behind => behind.lines within

def textFault? (octets : Bytes) : Option Xml.Error :=
  match Collector.shownText octets with
  | .error e => some e
  | .ok _ => none

/-- The first fault in a text that has a text element above it. -/
def fault? (within : Bool) : Forest → Option Xml.Error
  | .nil => none
  | .element name children behind =>
    (children.fault? (withinText within name)).or (behind.fault? within)
  | .text octets behind =>
    (if within then textFault? octets else none).or (behind.fault? within)
  | .cdata _ behind => behind.fault? within

/-- The lines of a document that is read as a forest. A fault in a text comes before the
one that ended the document. -/
def linesOr (failure? : Option Xml.Error) (forest : Forest) : Except Xml.Error (List String) :=
  match (forest.fault? false).or failure? with
  | some e => .error e
  | none => .ok (kept (forest.lines false))

end Forest

end DeviceAssets.Document
