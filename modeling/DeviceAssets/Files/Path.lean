import DeviceAssets.Bytes
import DeviceAssets.Files.Error
import DeviceAssets.Split

/-!
# Paths

A path is an octet string in which slashes separate names. A single dot names the
directory that it stands in, and two dots the one above.
-/

namespace DeviceAssets.Files

abbrev Path := Bytes

namespace Path

def separator : UInt8 := '/'.toUInt8

def here : Bytes := ['.'.toUInt8]

def above : Bytes := ['.'.toUInt8, '.'.toUInt8]

/-- The stretches between separators, empty ones included. -/
def parts (path : Path) : List Bytes :=
  splitAt separator path

/-- The names on the way to a path, dots included. The way of a path that begins with a
slash begins at the directory without a name. -/
def names (path : Path) : List Bytes :=
  (if path.head? = some separator then [[]] else []) ++ path.parts.filter (· ≠ [])

/-- A path that ends in a slash means a directory. -/
def meansDirectory (path : Path) : Bool :=
  path.getLast? = some separator

def maxName : Nat := 255

/-- The length from which a path is too long. -/
def maxPath : Nat := 4096

def check (path : Path) : Except Error Unit :=
  if path.contains 0 then .error .nulInPath
  else if path = [] then .error .noEntry
  else if maxPath ≤ path.length then .error .nameTooLong
  else .ok ()

/-- The name of the file that a path leads to, unless it leads upwards. -/
def fileName? (path : Path) : Option Bytes :=
  match (path.parts.filter fun name => name ≠ [] && name ≠ here).getLast? with
  | none => none
  | some name => if name = above then none else some name

/-- What stands behind the last dot of the file name; a dot at its beginning begins no
extension. -/
def extension? (path : Path) : Option Bytes := do
  let name ← path.fileName?
  let dot := '.'.toUInt8
  let behind := (name.reverse.takeWhile (· != dot)).reverse
  if behind.length + 1 < name.length then some behind else none

def lower (octet : UInt8) : UInt8 :=
  if 0x41 ≤ octet && octet ≤ 0x5A then octet + 0x20 else octet

/-- Whether the file name has an extension, in any case; `extension` is in lower case. -/
def hasExtension (path : Path) (extension : String) : Bool :=
  path.extension?.map (·.map lower) = some (Bytes.ofString extension)

end Path

end DeviceAssets.Files
