import DeviceAssets.Document.Paragraphs
import DeviceAssets.Zip.Member

/-!
# The archive around a document

A word-processing document is a ZIP archive in which one member holds the text.
-/

namespace DeviceAssets.Document

def memberName : String := "word/document.xml"

def body (archive : Bytes) : Except Error Bytes := do
  let entries ← (Zip.directory archive).mapError .zip
  match Zip.find? entries (Bytes.ofString memberName) with
  | none => .error (.missingEntry memberName)
  | some entry =>
    let member ← (Zip.locate archive entry).mapError .zip
    member.contents.mapError .io

end DeviceAssets.Document
