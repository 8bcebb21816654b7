import DeviceAssets.Bytes
import DeviceAssets.Zip.Error

/-!
# The directory of a ZIP archive

A ZIP archive is read from its end: a record there says where the directory is, and
the directory says where the members are. Archives may have other data in front of
them, so all positions are moved by the distance between where the directory should be
and where it is. Large archives have a second end record with wider fields, to which a
locator in front of the first one leads.
-/

namespace DeviceAssets.Zip

/-- The greatest number of 16 bits, which stands for a value kept elsewhere. -/
def allOnes16 : Nat := 0xFFFF

def allOnes32 : Nat := 0xFFFFFFFF

/-- Positions from here on cannot be written in 64 bits. -/
def positionLimit : Nat := 1 <<< 64

def readFields : List Nat → Bytes → Except Error (List Nat × Bytes)
  | [], bytes => .ok ([], bytes)
  | width :: widths, bytes => do
    let (octets, bytes) ← Bytes.splitOr width bytes .truncated
    let (values, bytes) ← readFields widths bytes
    return (Bytes.littleEndian octets :: values, bytes)

def marks (signature : Nat) : Bytes :=
  [UInt8.ofNat signature, UInt8.ofNat (signature / 0x100), UInt8.ofNat (signature / 0x10000),
   UInt8.ofNat (signature / 0x1000000)]

def standsAt (signature : Nat) (bytes : Bytes) : Bool :=
  (marks signature).isPrefixOf bytes

structure EndRecord where
  disk : Nat
  directoryDisk : Nat
  entriesOnDisk : Nat
  entries : Nat
  directorySize : Nat
  directoryOffset : Nat
  commentLength : Nat
  deriving DecidableEq, Repr

namespace EndRecord

def signature : Nat := 0x06054B50

/-- The octets of the record without its comment. -/
def minLength : Nat := 22

def read (bytes : Bytes) : Except Error EndRecord := do
  let (fields, rest) ← readFields [4, 2, 2, 2, 2, 4, 4, 2] bytes
  match fields with
  | [_, disk, directoryDisk, entriesOnDisk, entries, size, offset, commentLength] =>
    let _ ← Bytes.splitOr commentLength rest .truncated
    return ⟨disk, directoryDisk, entriesOnDisk, entries, size, offset, commentLength⟩
  | _ => .error .truncated

/-- Whether some field has its greatest value, so that the wider record is meant. -/
def overflows (record : EndRecord) : Bool :=
  record.disk = allOnes16 || record.directoryDisk = allOnes16 ||
    record.entriesOnDisk = allOnes16 || record.entries = allOnes16 ||
    record.directorySize = allOnes32 || record.directoryOffset = allOnes32

/-- The last position, at most 65535 below `position`, at which the record stands. -/
def find? (file : Bytes) (position : Nat) : Option Nat :=
  (List.range (min position 65535 + 1)).findSome? fun back =>
    if standsAt signature ((file.drop (position - back)).take 4) then some (position - back)
    else none

end EndRecord

/-- Where the directory of an archive begins, how many members it lists, and by how much
its positions are moved. -/
structure Location where
  archiveOffset : Nat
  directoryStart : Nat
  entries : Nat
  deriving DecidableEq, Repr

namespace Location

def locatorSignature : Nat := 0x07064B50

def wideSignature : Nat := 0x06064B50

def ofEndRecord (record : EndRecord) (position : Nat) : Except Error Location :=
  if position < record.directorySize + record.directoryOffset then .error .misplacedDirectory
  else
    let archiveOffset := position - record.directorySize - record.directoryOffset
    .ok ⟨archiveOffset, record.directoryOffset + archiveOffset, record.entriesOnDisk⟩

def findWide? (file : Bytes) (start stop : Nat) : Option Nat :=
  (List.range (min (stop + 1) (file.length + 1) - start)).findSome? fun ahead =>
    if standsAt wideSignature ((file.drop (start + ahead)).take 4) then some (start + ahead)
    else none

/-- The location that the wider end record gives; it is looked for from `start` on and
has to fit in front of the end record at `position`. -/
def ofWideRecord (file : Bytes) (start position : Nat) : Except Error Location := do
  if position < 60 then .error .noRoomForDirectoryEnd64
  else
    match findWide? file start (position - 60) with
    | none => .error .noDirectoryEnd64
    | some found =>
      let archiveOffset := found - start
      let (fields, _) ← readFields [4, 8, 2, 2, 4, 4, 8, 8, 8, 8] (file.drop found)
      match fields with
      | [_, _, _, _, disk, directoryDisk, _, entries, _, offset] =>
        if disk ≠ directoryDisk then .error .multipleDisks
        else if positionLimit ≤ offset + archiveOffset then .error .misplacedDirectory
        else return ⟨archiveOffset, offset + archiveOffset, entries⟩
      | _ => .error .truncated

/-- The disk and the position of the wider record that a locator in front of the end
record gives, if a locator stands there. -/
def locator? (file : Bytes) (record : EndRecord) : Except Error (Option (Nat × Nat)) := do
  let distance := 20 + EndRecord.minLength + record.commentLength
  if file.length < distance then return none
  else
    let bytes := file.drop (file.length - distance)
    if standsAt locatorSignature bytes then
      let (fields, _) ← readFields [4, 4, 8, 4] bytes
      match fields with
      | [_, disk, position, _] => return some (disk, position)
      | _ => .error .truncated
    else return none

def ofFile (file : Bytes) : Except Error Location := do
  if file.length < EndRecord.minLength then .error .tooShort
  else
    match EndRecord.find? file (file.length - EndRecord.minLength) with
    | none => .error .noDirectoryEnd
    | some position =>
      let record ← EndRecord.read (file.drop position)
      if !record.overflows && record.disk ≠ record.directoryDisk then .error .multipleDisks
      else
        match ← locator? file record with
        | none => ofEndRecord record position
        | some (disk, start) =>
          if !record.overflows && record.disk ≠ disk then .error .multipleDisks
          else ofWideRecord file start position

end Location

structure Entry where
  name : Bytes
  flags : Nat
  method : Nat
  checksum : Nat
  compressedSize : Nat
  /-- The position of the member in the file. -/
  position : Nat
  deriving DecidableEq, Repr

namespace Entry

def signature : Nat := 0x02014B50

structure Extent where
  uncompressed : Nat
  compressed : Nat
  position : Nat
  deriving DecidableEq, Repr

/-- The next eight octets in place of `value` where it has the greatest value, and what
is left of the data. Data that end too early leave the value, and nothing can follow. -/
def widen (value : Nat) (bytes? : Option Bytes) : Nat × Option Bytes :=
  match bytes? with
  | none => (value, none)
  | some bytes =>
    if value = allOnes32 then
      match Bytes.splitAt? 8 bytes with
      | some (octets, rest) => (Bytes.littleEndian octets, some rest)
      | none => (value, none)
    else (value, some bytes)

def Extent.widened (extent : Extent) (bytes : Bytes) : Extent × Option Bytes :=
  let (uncompressed, rest?) := widen extent.uncompressed (some bytes)
  let (compressed, rest?) := widen extent.compressed rest?
  let (position, rest?) := widen extent.position rest?
  (⟨uncompressed, compressed, position⟩, rest?)

/-- The extent after all wider fields among the extra data. Wider fields may reach beyond
the length that their field declares; what is left of it is skipped. Each field takes an
octet, so the number of octets bounds their number. -/
def widenAll : Nat → Extent → Bytes → Extent
  | 0, extent, _ => extent
  | bound + 1, extent, extra =>
    match readFields [2, 2] extra with
    | .ok ([kind, length], rest) =>
      if kind = 1 then
        match extent.widened rest with
        | (extent, some left) =>
          widenAll bound extent (left.drop (length - (rest.length - left.length)))
        | (extent, none) => extent
      else widenAll bound extent (rest.drop length)
    | _ => extent

def read (archiveOffset : Nat) (bytes : Bytes) : Except Error (Entry × Bytes) := do
  let (mark, _) ← Bytes.splitOr 4 bytes .truncated
  if mark ≠ marks signature then .error .badDirectoryHeader
  else
    let (fields, rest) ← readFields [4, 2, 2, 2, 2, 2, 2, 4, 4, 4, 2, 2, 2, 2, 2, 4, 4] bytes
    match fields with
    | [_, _, _, flags, method, _, _, checksum, compressed, uncompressed, nameLength,
        extraLength, commentLength, _, _, _, position] =>
      let (name, rest) ← Bytes.splitOr nameLength rest .truncated
      let (extra, rest) ← Bytes.splitOr extraLength rest .truncated
      let (_, rest) ← Bytes.splitOr commentLength rest .truncated
      let extent := widenAll extra.length ⟨uncompressed, compressed, position⟩ extra
      if positionLimit ≤ extent.position + archiveOffset then .error .unreachableMember
      else
        return (⟨name, flags, method, checksum, extent.compressed,
          extent.position + archiveOffset⟩, rest)
    | _ => .error .truncated

def readAll (archiveOffset : Nat) : Nat → Bytes → Except Error (List Entry)
  | 0, _ => .ok []
  | count + 1, bytes => do
    let (entry, rest) ← read archiveOffset bytes
    let entries ← readAll archiveOffset count rest
    return entry :: entries

end Entry

def directory (file : Bytes) : Except Error (List Entry) := do
  let location ← Location.ofFile file
  if positionLimit / 2 ≤ location.directoryStart then .error .unreachableDirectory
  else Entry.readAll location.archiveOffset location.entries (file.drop location.directoryStart)

end DeviceAssets.Zip
