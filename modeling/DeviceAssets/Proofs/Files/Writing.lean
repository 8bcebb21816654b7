import DeviceAssets.Files.Tree
import DeviceAssets.Proofs.Results
import Mathlib.Tactic.SplitIfs

/-!
# What a write changes

A write changes what there is at one location and nothing anywhere else. As the location
was no directory before, every path leads where it led before, so the path that was
written reads what was written.
-/

namespace DeviceAssets.Files.Tree

/-! ### Where a file may be written -/

theorem target_eq_ok_iff {tree : Tree} {path : Path} {location : Location} :
    tree.target path = .ok location ↔
      tree.locate path = .ok location ∧ tree.node? location ≠ some .directory ∧
        path.meansDirectory = false := by
  rw [target, bind_eq_ok_iff]
  constructor
  · rintro ⟨found, hfound, h⟩
    split at h
    · cases h
    · rename_i hfree
      cases h
      simp only [Bool.or_eq_true, decide_eq_true_eq, not_or, Bool.not_eq_true] at hfree
      exact ⟨hfound, hfree⟩
  · rintro ⟨hfound, hfree, hmeans⟩
    refine ⟨location, hfound, ?_⟩
    simp [hfree, hmeans, pure, Except.pure]

theorem ne_nil_of_target {tree : Tree} {path : Path} {location : Location}
    (h : tree.target path = .ok location) : location ≠ [] := by
  rintro rfl
  exact (target_eq_ok_iff.mp h).2.1 rfl

/-! ### What leads to a location -/

theorem walk_directory {tree : Tree} {start : Location}
    (h : tree.node? start = some .directory) (name : Bytes) (rest : List Bytes) :
    tree.walk start (name :: rest) =
      if name = Path.here then tree.walk start rest
      else if name = Path.above then tree.walk start.dropLast rest
      else if Path.maxName < name.length then .error .nameTooLong
      else tree.walk (start ++ [name]) rest := by
  rw [walk, h]

theorem directory_of_walk {tree : Tree} {start goal : Location} {name : Bytes}
    {rest : List Bytes} (h : tree.walk start (name :: rest) = .ok goal) :
    tree.node? start = some .directory := by
  rw [walk] at h
  split at h
  · cases h
  · cases h
  · assumption

/-- The directories of two trees are the same, whatever the files are. -/
def SameDirectories (tree other : Tree) : Prop :=
  ∀ location, other.node? location = some .directory ↔ tree.node? location = some .directory

theorem SameDirectories.refl (tree : Tree) : SameDirectories tree tree :=
  fun _ => Iff.rfl

theorem SameDirectories.trans {tree other third : Tree} (h : SameDirectories tree other)
    (hthird : SameDirectories other third) : SameDirectories tree third :=
  fun location => (hthird location).trans (h location)

/-- A way goes through directories, so it leads to the same place where these are the
same. -/
theorem walk_eq_ok_iff {tree other : Tree} (same : SameDirectories tree other)
    {start goal : Location} {names : List Bytes} :
    other.walk start names = .ok goal ↔ tree.walk start names = .ok goal := by
  induction names generalizing start with
  | nil => rfl
  | cons name rest ih =>
    have hsteps (hstart : tree.node? start = some .directory) :
        other.walk start (name :: rest) = .ok goal ↔ tree.walk start (name :: rest) = .ok goal := by
      rw [walk_directory hstart, walk_directory ((same start).mpr hstart)]
      split_ifs
      · exact ih
      · exact ih
      · rfl
      · exact ih
    constructor
    · intro h
      exact (hsteps ((same start).mp (directory_of_walk h))).mp h
    · intro h
      exact (hsteps (directory_of_walk h)).mpr h

theorem locate_eq_ok_iff {tree other : Tree} (same : SameDirectories tree other) {path : Path}
    {location : Location} : other.locate path = .ok location ↔ tree.locate path = .ok location := by
  unfold locate
  cases path.check with
  | error e => rfl
  | ok _ => exact walk_eq_ok_iff same

theorem target_congr {tree other : Tree} (same : SameDirectories tree other) {path : Path}
    {location : Location} : other.target path = .ok location ↔ tree.target path = .ok location := by
  rw [target_eq_ok_iff, target_eq_ok_iff, locate_eq_ok_iff same, Ne, Ne, same location]

/-! ### Writing and reading -/

theorem write_eq_ok_iff {tree later : Tree} {path : Path} {contents : Bytes} :
    tree.write path contents = .ok later ↔
      ∃ location, tree.target path = .ok location ∧
        later = tree.set location (.file contents) := by
  rw [write]
  cases tree.target path with
  | error e => simp [Except.map]
  | ok location => simp [Except.map, eq_comm]

/-- Two trees differ in one file: `earlier` may have any file or nothing at the location,
`later` has these contents. -/
structure Changed (earlier later : Tree) (location : Location) (contents : Bytes) : Prop where
  there : later.node? location = some (.file contents)
  elsewhere : ∀ other, other ≠ location → later.node? other = earlier.node? other

theorem changed_of_write {tree later : Tree} {path : Path} {contents : Bytes}
    (h : tree.write path contents = .ok later) :
    ∃ location, tree.target path = .ok location ∧ Changed tree later location contents := by
  obtain ⟨location, htarget, rfl⟩ := write_eq_ok_iff.mp h
  exact ⟨location, htarget, node?_set_self (ne_nil_of_target htarget) _,
    fun _ hne => node?_set_of_ne hne _⟩

/-- A file that takes the place of another, or of nothing, leaves the directories alone. -/
theorem Changed.sameDirectories {earlier later : Tree} {location : Location} {contents : Bytes}
    (changed : Changed earlier later location contents)
    (free : earlier.node? location ≠ some .directory) : SameDirectories earlier later := by
  intro other
  by_cases hsame : other = location
  · subst hsame
    rw [changed.there]
    simp [free]
  · rw [changed.elsewhere other hsame]

/-- What can be read is what there is where a file may be written. -/
theorem read_eq_ok_iff {tree : Tree} {path : Path} {contents : Bytes} :
    tree.read path = .ok contents ↔
      ∃ location, tree.target path = .ok location ∧
        tree.node? location = some (.file contents) := by
  simp only [read, lookup, bind_eq_ok_iff]
  constructor
  · rintro ⟨node, ⟨location, hlocate, hnode⟩, hread⟩
    refine ⟨location, ?_⟩
    split at hnode
    · cases hnode
    · cases hnode
      cases hread
    · rename_i held hheld
      split at hnode
      · cases hnode
      · rename_i hmeans
        cases hnode
        cases hread
        refine ⟨target_eq_ok_iff.mpr ⟨hlocate, ?_, eq_false_of_ne_true hmeans⟩, hheld⟩
        rw [hheld]
        intro h
        cases h
  · rintro ⟨location, htarget, hnode⟩
    obtain ⟨hlocate, -, hmeans⟩ := target_eq_ok_iff.mp htarget
    refine ⟨.file contents, ⟨location, hlocate, ?_⟩, rfl⟩
    simp [hnode, hmeans, pure, Except.pure]

/-- What has been written is read again under the same path. -/
theorem read_of_write {tree later : Tree} {path : Path} {contents : Bytes}
    (h : tree.write path contents = .ok later) : later.read path = .ok contents := by
  obtain ⟨location, htarget, hchanged⟩ := changed_of_write h
  have same := hchanged.sameDirectories (target_eq_ok_iff.mp htarget).2.1
  exact read_eq_ok_iff.mpr ⟨location, (target_congr same).mpr htarget, hchanged.there⟩

end DeviceAssets.Files.Tree
