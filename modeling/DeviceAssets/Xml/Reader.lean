import DeviceAssets.Xml.Namespace
import DeviceAssets.Xml.Token

/-!
# Reading a document

A reader turns tokens into events: it keeps the elements that are open, checks that
end tags close the innermost one, and resolves names in the scope of their element.
Elements that are still open where the document ends are no fault.

`Reader.run` gives all events, and the fault that ended them, if one did.
-/

namespace DeviceAssets.Xml

inductive Event where
  | opened (name : Name)
  /-- An element without content, opened and closed at once. -/
  | empty (name : Name)
  | closed (name : Name)
  /-- Octets outside markup, with their references. -/
  | text (octets : Bytes)
  | cdata (octets : Bytes)
  | other
  deriving DecidableEq, Repr

/-- An element that is open: its name as written, and the scope of its content. -/
structure Frame where
  name : Bytes
  scope : Scope
  deriving DecidableEq, Repr

structure Reader where
  /-- What is still to be read. -/
  input : Bytes
  /-- The open elements, the innermost first. -/
  frames : List Frame
  deriving DecidableEq, Repr

namespace Reader

def byteOrderMark : Bytes := [0xEF, 0xBB, 0xBF]

def ofDocument (document : Bytes) : Reader where
  input := if byteOrderMark.isPrefixOf document then document.drop 3 else document
  frames := []

/-- The bindings in force between the innermost tags. -/
def scope (reader : Reader) : Scope :=
  match reader.frames with
  | [] => Scope.initial
  | frame :: _ => frame.scope

/-- A name as a diagnostic shows it: nothing where it is no text. -/
def shownName (name : Bytes) : List Char :=
  (Utf8.decode? name).getD []

/-- The name in an end tag: white space may follow it. -/
def closingName (content : Bytes) : Bytes :=
  if content.all isSpace then content
  else (content.reverse.dropWhile isSpace).reverse

def event (frames : List Frame) (scope : Scope) : Token → Except Error (Event × List Frame)
  | .text octets => .ok (.text octets, frames)
  | .cdata octets => .ok (.cdata octets, frames)
  | .other => .ok (.other, frames)
  | .start content => do
    let name := nameOf content
    let inner ← scope.declare (attributes (behindName content))
    return (.opened (inner.resolve name), ⟨name, inner⟩ :: frames)
  | .empty content => do
    let inner ← scope.declare (attributes (behindName content))
    return (.empty (inner.resolve (nameOf content)), frames)
  | .close content =>
    let name := closingName content
    match frames with
    | [] => .error (.mismatchedEnd [] (shownName content))
    | frame :: outer =>
      if name = frame.name then .ok (.closed (frame.scope.resolve name), outer)
      else .error (.mismatchedEnd (shownName frame.name) (shownName name))

/-- The next event and the reader behind it; there is none at the end. -/
def next? (reader : Reader) : Except Error (Option (Event × Reader)) :=
  match Token.next? reader.input with
  | .error e => .error e
  | .ok none => .ok none
  | .ok (some (token, rest)) =>
    (event reader.frames reader.scope token).map fun (event, frames) =>
      some (event, ⟨rest, frames⟩)

/-- Every event takes at least one octet. -/
theorem length_next?_lt {reader rest : Reader} {found : Event}
    (h : reader.next? = .ok (some (found, rest))) : rest.input.length < reader.input.length := by
  unfold next? at h
  split at h
  · exact nomatch h
  · exact nomatch h
  · rename_i token back htoken
    cases he : event reader.frames reader.scope token with
    | error e => rw [he] at h; exact nomatch h
    | ok pair =>
      rw [he] at h
      cases h
      exact Token.length_next?_lt htoken

end Reader

structure Transcript where
  events : List Event
  failure? : Option Error
  deriving DecidableEq, Repr

namespace Reader

def run (reader : Reader) : Transcript :=
  match _ : reader.next? with
  | .error e => ⟨[], some e⟩
  | .ok none => ⟨[], none⟩
  | .ok (some (found, rest)) =>
    let transcript := run rest
    ⟨found :: transcript.events, transcript.failure?⟩
termination_by reader.input.length
decreasing_by exact length_next?_lt ‹_›

end Reader

def transcript (document : Bytes) : Transcript :=
  (Reader.ofDocument document).run

end DeviceAssets.Xml
