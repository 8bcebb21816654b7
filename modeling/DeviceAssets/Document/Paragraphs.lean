import DeviceAssets.Error
import DeviceAssets.Text.Blank
import DeviceAssets.Xml.Reader
import DeviceAssets.Xml.Reference

/-!
# Paragraphs of a word-processing document

Every paragraph element gives one line: the text below it that lies inside a text
element. Paragraphs may be nested, and then the text counts for all of them. Lines
come in the order in which their paragraphs open; they are trimmed, and empty ones
are left out.
-/

namespace DeviceAssets.Document

def wordNamespace : Bytes :=
  Bytes.ofString "http://schemas.openxmlformats.org/wordprocessingml/2006/main"

/-- What an element means for the text of a document. -/
inductive Role where
  | paragraph
  /-- An element whose text is shown. -/
  | text
  | other
  deriving DecidableEq, Repr

def roleOf (name : Xml.Name) : Role :=
  if name.uri? = some wordNamespace then
    if name.localName = ['p'.toUInt8] then .paragraph
    else if name.localName = ['t'.toUInt8] then .text
    else .other
  else .other

/-- Lines that are being collected. -/
structure Collector where
  /-- The lines so far, in the order in which their paragraphs opened. Of each line, the
  last character stands first. -/
  lines : Array (List Char)
  /-- The places in `lines` of the paragraphs that are open, the innermost first. -/
  openLines : List Nat
  /-- The number of text elements that are open. -/
  textDepth : Nat
  deriving DecidableEq, Repr

namespace Collector

def start : Collector := ⟨#[], [], 0⟩

/-- Puts `text` at the end of every open line. -/
def append (collector : Collector) (text : List Char) : Collector :=
  { collector with
    lines := collector.openLines.foldl
      (fun lines i => lines.modify i fun line => text.reverse ++ line) collector.lines }

def opening (collector : Collector) : Role → Collector
  | .paragraph =>
    { collector with
      lines := collector.lines.push []
      openLines := collector.lines.size :: collector.openLines }
  | .text => { collector with textDepth := collector.textDepth + 1 }
  | .other => collector

def closing (collector : Collector) : Role → Collector
  | .paragraph => { collector with openLines := collector.openLines.tail }
  | .text => { collector with textDepth := collector.textDepth - 1 }
  | .other => collector

def shownText (octets : Bytes) : Except Xml.Error (List Char) :=
  match Utf8.decode octets with
  | .error fault => .error (.malformedText fault)
  | .ok text => Xml.unescape text

/-- What one event does. Text is looked at inside text elements only. -/
def step (collector : Collector) : Xml.Event → Except Xml.Error Collector
  | .opened name => .ok (collector.opening (roleOf name))
  | .empty name =>
    match roleOf name with
    | .paragraph => .ok { collector with lines := collector.lines.push [] }
    | _ => .ok collector
  | .closed name => .ok (collector.closing (roleOf name))
  | .text octets =>
    if 0 < collector.textDepth then (shownText octets).map collector.append
    else .ok collector
  | .cdata octets =>
    if 0 < collector.textDepth then .ok (collector.append (Utf8.decodeLenient octets))
    else .ok collector
  | .other => .ok collector

end Collector

/-- Lines as they are reported: trimmed, and without the empty ones. -/
def kept (lines : List (List Char)) : List String :=
  ((lines.map Text.trim).filter (!·.isEmpty)).map String.ofList

/-- The lines of a collector, each from its first character on. -/
def Collector.texts (collector : Collector) : List (List Char) :=
  collector.lines.toList.map List.reverse

/-- The lines that events give. A fault in a text comes before the one that ended the
events. -/
def linesOf (transcript : Xml.Transcript) : Except Xml.Error (List String) := do
  let collector ← transcript.events.foldlM Collector.step Collector.start
  match transcript.failure? with
  | some e => .error e
  | none => .ok (kept collector.texts)

def paragraphs (document : Bytes) : Except Error (List String) :=
  (linesOf (Xml.transcript document)).mapError .xml

end DeviceAssets.Document
