import DeviceAssets.Checksum
import DeviceAssets.Deflate.Inflate
import DeviceAssets.Files.Error
import DeviceAssets.Zip.Directory

/-!
# The members of a ZIP archive

A member's data stand behind a local header that repeats what the directory says; only
its two lengths matter. Members are stored as they are or compressed, and have a
checksum.
-/

namespace DeviceAssets.Zip

def localSignature : Nat := 0x04034B50

/-- The octets of a local header without the name and the extra data. -/
def localLength : Nat := 30

inductive Method where
  | stored
  | deflated
  deriving DecidableEq, Repr

def Method.ofNumber? : Nat → Option Method
  | 0 => some stored
  | 8 => some deflated
  | _ => none

/-- A member whose data have been found but not yet unpacked. -/
structure Member where
  method : Method
  data : Bytes
  checksum : Nat
  deriving DecidableEq, Repr

/-- The last entry with a name, as later entries replace earlier ones. -/
def find? (entries : List Entry) (name : Bytes) : Option Entry :=
  (entries.filter (·.name = name)).getLast?

/-- Finds the data of an entry; the file may end before they do. -/
def locate (file : Bytes) (entry : Entry) : Except Error Member := do
  if entry.flags.testBit 0 then .error .encrypted
  else if positionLimit / 2 ≤ entry.position then .error .unseekable
  else
    let header := file.drop entry.position
    let (mark, _) ← Bytes.splitOr 4 header .truncated
    if mark ≠ marks localSignature then .error .badLocalHeader
    else
      let (lengths, _) ← readFields [2, 2] (header.drop 26)
      let start := localLength + lengths.foldr (· + ·) 0
      match Method.ofNumber? entry.method with
      | none => .error .unsupportedMethod
      | some method =>
      return ⟨method, (header.drop start).take entry.compressedSize, entry.checksum⟩

/-- The rules for compressed members: repeats that reach back beyond the beginning find
zeros. -/
def deflateRules : Deflate.Rules := ⟨.strict, some 0⟩

def Member.unpack (member : Member) : Except Files.Error Bytes :=
  match member.method with
  | .stored => .ok member.data
  | .deflated =>
    let progress := Deflate.inflate deflateRules (Deflate.bitsOf member.data)
    match progress.rest with
    | .ok _ => .ok progress.out.toList
    | .error .corrupt => .error .corruptDeflate
    | .error .truncated => .error .incompleteDeflate

def Member.contents (member : Member) : Except Files.Error Bytes := do
  let octets ← member.unpack
  if (Checksum.crc32 octets).toNat = member.checksum then return octets
  else .error .wrongChecksum

end DeviceAssets.Zip
