import DeviceAssets.Files.Path

/-!
# File trees

A tree holds what there is below one directory, the root. It is read by path, and a
write replaces the contents of one file as a whole or changes nothing.
-/

namespace DeviceAssets.Files

/-- The place of a file or directory: the names that lead to it from the root. -/
abbrev Location := List Bytes

inductive Node where
  | directory
  | file (contents : Bytes)
  deriving DecidableEq, Repr

structure Tree where
  entries : List (Location × Node)
  deriving DecidableEq, Repr

namespace Tree

def empty : Tree := ⟨[]⟩

/-- What there is at a location; the root is a directory. -/
def node? (tree : Tree) (location : Location) : Option Node :=
  if location = [] then some .directory else tree.entries.lookup location

def set (tree : Tree) (location : Location) (node : Node) : Tree :=
  ⟨(location, node) :: tree.entries.filter (·.1 ≠ location)⟩

/-- The tree without a location and all that is below it. -/
def erase (tree : Tree) (location : Location) : Tree :=
  ⟨tree.entries.filter fun entry => !location.isPrefixOf entry.1⟩

/-- The location to which names lead. All that is on the way has to be a directory, but
nothing need be at the end. -/
def walk (tree : Tree) : Location → List Bytes → Except Error Location
  | location, [] => .ok location
  | location, name :: rest =>
    match tree.node? location with
    | none => .error .noEntry
    | some (.file _) => .error .notDirectory
    | some .directory =>
      if name = Path.here then walk tree location rest
      else if name = Path.above then walk tree location.dropLast rest
      else if Path.maxName < name.length then .error .nameTooLong
      else walk tree (location ++ [name]) rest

def locate (tree : Tree) (path : Path) : Except Error Location := do
  path.check
  tree.walk [] path.names

def lookup (tree : Tree) (path : Path) : Except Error Node := do
  let location ← tree.locate path
  match tree.node? location with
  | none => .error .noEntry
  | some .directory => return .directory
  | some (.file contents) =>
    if path.meansDirectory then .error .notDirectory else return .file contents

def contains (tree : Tree) (path : Path) : Bool :=
  (tree.lookup path).toOption.isSome

def read (tree : Tree) (path : Path) : Except Error Bytes := do
  match ← tree.lookup path with
  | .directory => .error .isDirectory
  | .file contents => return contents

/-- Where a file may be written for a path. Its directory has to be there, which `locate`
sees to, and it may neither be nor mean a directory itself. -/
def target (tree : Tree) (path : Path) : Except Error Location := do
  let location ← tree.locate path
  if tree.node? location = some .directory || path.meansDirectory then .error .isDirectory
  else return location

def write (tree : Tree) (path : Path) (contents : Bytes) : Except Error Tree :=
  (tree.target path).map fun location => tree.set location (.file contents)

/-- The tree with a directory at a location and at all that lead there, where nothing is
yet. -/
def makeDirectories (tree : Tree) (location : Location) : Tree :=
  (List.range location.length).foldl
    (fun tree i =>
      let place := location.take (i + 1)
      if (tree.node? place).isSome then tree else tree.set place .directory) tree

def shownLocation (location : Location) : Bytes :=
  [Path.separator].intercalate location

/-- All that is in the tree, in the order of octets; a slash ends directories. -/
def listing (tree : Tree) : List Bytes :=
  (tree.entries.map fun (location, node) =>
    match node with
    | .directory => shownLocation location ++ [Path.separator]
    | .file _ => shownLocation location).mergeSort fun a b => a ≤ b

/-- The files of `later` that `earlier` does not hold with the same contents, in the order
of octets. -/
def changes (earlier later : Tree) : List (Bytes × Bytes) :=
  (later.entries.filterMap fun (location, node) =>
    match node with
    | .file contents =>
      if earlier.node? location = some node then none else some (shownLocation location, contents)
    | .directory => none).mergeSort fun a b => a.1 ≤ b.1

/-- `set` is seen at its own location. -/
theorem node?_set_self {tree : Tree} {location : Location} (h : location ≠ []) (node : Node) :
    (tree.set location node).node? location = some node := by
  simp [node?, set, h]

/-- `set` is not seen anywhere else. -/
theorem node?_set_of_ne {tree : Tree} {location other : Location} (h : other ≠ location)
    (node : Node) : (tree.set location node).node? other = tree.node? other := by
  unfold node? set
  split
  · rfl
  · rw [List.lookup_cons, show (other == location) = false by simpa using h]
    induction tree.entries with
    | nil => rfl
    | cons entry rest ih =>
      obtain ⟨place, there⟩ := entry
      by_cases hp : place = location
      · simpa [hp, List.lookup_cons, show (other == location) = false by simpa using h] using ih
      · simp only [ne_eq, hp, not_false_eq_true, decide_true, List.filter_cons_of_pos,
          List.lookup_cons] at ih ⊢
        rw [ih]

end Tree

end DeviceAssets.Files
