import DeviceAssets.Document.Paragraphs
import DeviceAssets.Proofs.Xml.Declaration
import DeviceAssets.Proofs.Xml.Reference

/-!
# Documents that are made up of paragraphs and runs

A document is made of paragraphs, of runs that hold its text, and of other elements
around them; between tags there may also be text that belongs to no run. Here it is said
how such a document is written, under any prefix for the elements of word-processing
documents, and which lines it holds. The lines do not mention the prefix.
-/

namespace DeviceAssets.Document

open Xml (Assignment Name Namespaces)

def paragraphName : Name := ⟨some wordNamespace, ['p'.toUInt8]⟩

def runName : Name := ⟨some wordNamespace, ['t'.toUInt8]⟩

/-- The prefix of an element: the one that paragraphs have, or one of its own. -/
inductive Qualifier where
  | word
  | other (qualifier? : Option Bytes)
  deriving DecidableEq, Repr

def Qualifier.written (word? : Option Bytes) : Qualifier → Option Bytes
  | .word => word?
  | .other qualifier? => qualifier?

structure Wrapper where
  qualifier : Qualifier
  localName : Bytes
  assignments : List Assignment
  deriving DecidableEq, Repr

namespace Wrapper

def writtenName (word? : Option Bytes) (wrapper : Wrapper) : Bytes :=
  Xml.qualified (wrapper.qualifier.written word?) wrapper.localName

def inside (spaces : Namespaces) (wrapper : Wrapper) : Namespaces :=
  Assignment.declared spaces wrapper.assignments

/-- The name that the element has: its own declarations count. -/
def name (word? : Option Bytes) (spaces : Namespaces) (wrapper : Wrapper) : Name :=
  ⟨wrapper.inside spaces (wrapper.qualifier.written word?), wrapper.localName⟩

structure Writable (wrapper : Wrapper) : Prop where
  qualifier : ∀ qualifier, wrapper.qualifier = .other (some qualifier) → Xml.IsPart qualifier
  localName : Xml.IsPart wrapper.localName
  assignments : ∀ assignment ∈ wrapper.assignments, assignment.Writable

end Wrapper

/-- Paragraphs, runs, other elements and loose text side by side. Each stands before what
is behind it. -/
inductive Content where
  | nil
  | paragraph (children behind : Content)
  | run (text : List Char) (behind : Content)
  | loose (text : List Char) (behind : Content)
  | other (wrapper : Wrapper) (children behind : Content)
  deriving DecidableEq, Repr

def element (name : Bytes) (assignments : List Assignment) (content : Bytes) : Bytes :=
  Xml.startTag name (assignments.map Assignment.toAttribute) ++ (content ++ Xml.endTag name)

def writtenText (text : List Char) : Bytes :=
  Bytes.ofChars (Xml.escape text)

namespace Content

def written (word? : Option Bytes) : Content → Bytes
  | .nil => []
  | .paragraph children behind =>
    element (Xml.qualified word? paragraphName.localName) [] (children.written word?) ++
      behind.written word?
  | .run text behind =>
    element (Xml.qualified word? runName.localName) [] (writtenText text) ++
      behind.written word?
  | .loose text behind => writtenText text ++ behind.written word?
  | .other wrapper children behind =>
    element (wrapper.writtenName word?) wrapper.assignments (children.written word?) ++
      behind.written word?

/-- Names mean what they should where prefixes stand for `spaces`: wherever a paragraph or
a run stands the prefix `word?` is that of word-processing documents, and no other element
is named like a paragraph or a run of them. -/
def Resolves (word? : Option Bytes) (spaces : Namespaces) : Content → Prop
  | .nil => True
  | .paragraph children behind =>
    spaces word? = some wordNamespace ∧ children.Resolves word? spaces ∧
      behind.Resolves word? spaces
  | .run _ behind => spaces word? = some wordNamespace ∧ behind.Resolves word? spaces
  | .loose _ behind => behind.Resolves word? spaces
  | .other wrapper children behind =>
    (wrapper.Writable ∧ wrapper.name word? spaces ≠ paragraphName ∧
      wrapper.name word? spaces ≠ runName) ∧
      children.Resolves word? (wrapper.inside spaces) ∧ behind.Resolves word? spaces

/-- The text of all runs, in the order of the document. -/
def text : Content → List Char
  | .nil => []
  | .paragraph children behind => children.text ++ behind.text
  | .run text behind => text ++ behind.text
  | .loose _ behind => behind.text
  | .other _ children behind => children.text ++ behind.text

/-- The text below each paragraph, in the order in which the paragraphs open. -/
def lines : Content → List (List Char)
  | .nil => []
  | .paragraph children behind => children.text :: (children.lines ++ behind.lines)
  | .run _ behind => behind.lines
  | .loose _ behind => behind.lines
  | .other _ children behind => children.lines ++ behind.lines

/-- The elements around all other content; the outer one declares the prefix `word?`. -/
def root (word? : Option Bytes) (content : Content) : Content :=
  .other ⟨.word, Bytes.ofString "document", [.declaration word? wordNamespace]⟩
    (.other ⟨.word, Bytes.ofString "body", []⟩ content .nil) .nil

end Content

def prologContent : Bytes :=
  Bytes.ofString "xml version=\"1.0\" encoding=\"UTF-8\" standalone=\"yes\"?"

def prolog : Bytes :=
  '<'.toUInt8 :: '?'.toUInt8 :: (prologContent ++ ['>'.toUInt8, '\n'.toUInt8])

def Content.document (word? : Option Bytes) (content : Content) : Bytes :=
  prolog ++ (content.root word?).written word?

end DeviceAssets.Document
