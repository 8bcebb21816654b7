import DeviceAssets.Proofs.Job.Effect

/-!
# The last write wins

Jobs are done one after another, and what one has written another may read. A job that fails
or reads only leaves the files as they are. So after any number of jobs each location holds
what the last job that wrote there and succeeded has made, whatever it held before, or else
what it held at the beginning.
-/

namespace DeviceAssets.Job

open DeviceAssets.Action (written)
open Files (Location Node Path Tree)

/-! ### What a job writes -/

/-- The path under which a job writes, unless it reads only. -/
def output? [ImageReader] (job : Job) : Option Path :=
  match job.effect with
  | .reads _ => none
  | .writes path _ => some path

def contents? [ImageReader] (job : Job) (files : Tree) : Option Bytes :=
  match job.effect with
  | .reads _ => none
  | .writes _ made => (made files).toOption.map (·.2)

def source? : Job → Option Path
  | loadBitmap32 path | extract path => some path
  | pngToHeader source _ | docxToText source _ => some source
  | emit .. | emitBitmap32 .. | writeText .. | qrToHeader .. => none

/-- What a job writes when it is done on files, and where: nothing, unless it has made the
contents and there is a place for them. -/
def write? [ImageReader] (job : Job) (files : Tree) : Option (Location × Bytes) := do
  let path ← job.output?
  let contents ← job.contents? files
  let location ← (files.target path).toOption
  return (location, contents)

/-- A job is done as it should be: it fails or reads only and leaves all files as they are,
or it writes what it has made, where it should. -/
structure Orderly [ImageReader] (job : Job) (files : Tree) : Prop where
  failed : ∀ e, (job.run files).1 = .error e →
    (job.run files).2 = files ∧ job.write? files = none
  reading : job.output? = none → (job.run files).2 = files ∧ job.write? files = none
  succeeded : ∀ path answer, job.output? = some path → (job.run files).1 = .ok answer →
    ∃ location contents, files.target path = .ok location ∧
      job.contents? files = some contents ∧ job.write? files = some (location, contents) ∧
      Tree.Changed files (job.run files).2 location contents
  independent : ∀ other, (∀ source, job.source? = some source →
    other.lookup source = files.lookup source) → job.contents? other = job.contents? files

theorem contains_congr {path : Path} {files other : Tree}
    (same : other.lookup path = files.lookup path) :
    other.contains path = files.contains path := by
  rw [Tree.contains, same, Tree.contains]

theorem read_congr {path : Path} {files other : Tree}
    (same : other.lookup path = files.lookup path) : other.read path = files.read path := by
  rw [Tree.read, same, Tree.read]

theorem bitmapAt_congr [ImageReader] {path : Path} {files other : Tree}
    (same : other.lookup path = files.lookup path) :
    Conversion.bitmapAt path other = Conversion.bitmapAt path files := by
  unfold Conversion.bitmapAt Conversion.inputAt
  rw [contains_congr same, read_congr same]

theorem paragraphsAt_congr {path : Path} {files other : Tree}
    (same : other.lookup path = files.lookup path) :
    Conversion.paragraphsAt path other = Conversion.paragraphsAt path files := by
  unfold Conversion.paragraphsAt Conversion.inputAt
  rw [contains_congr same, read_congr same]

/-- Of all files, only the source has an influence on what a job makes. -/
theorem contents?_congr [ImageReader] {job : Job} {files other : Tree}
    (same : ∀ source, job.source? = some source → other.lookup source = files.lookup source) :
    job.contents? other = job.contents? files := by
  cases job with
  | pngToHeader source path =>
    have hbitmap := bitmapAt_congr (same source rfl)
    simp only [contents?, effect, Conversion.pngFile, hbitmap]
  | docxToText source path =>
    have hparagraphs := paragraphsAt_congr (same source rfl)
    simp only [contents?, effect, Conversion.docxFile, hparagraphs]
  | _ => rfl

section

variable [ImageReader] {job : Job} {path : Path} {made : Tree → Except Error (Answer × Bytes)}

theorem run_of_writes (h : job.effect = .writes path made) (files : Tree) :
    job.run files =
      match made files, files.target path with
      | .error e, _ => (.error e, files)
      | .ok _, .error e => (.error (.io e), files)
      | .ok (answer, contents), .ok location =>
        (.ok answer, files.set location (.file contents)) := by
  rw [run_eq_outcome, h, Effect.outcome]
  cases made files with
  | error e => rfl
  | ok pair =>
    obtain ⟨answer, contents⟩ := pair
    simp only [written, Tree.write]
    cases files.target path <;> rfl

theorem write?_of_writes (h : job.effect = .writes path made) (files : Tree) :
    job.write? files =
      match made files, files.target path with
      | .ok (_, contents), .ok location => some (location, contents)
      | _, _ => none := by
  simp only [write?, output?, contents?, h]
  cases made files with
  | error e => rfl
  | ok pair => cases htarget : files.target path <;> simp [htarget, Except.toOption]

theorem write?_of_reads {result : Tree → Except Error Answer}
    (h : job.effect = .reads result) (files : Tree) : job.write? files = none := by
  rw [write?, output?, h]
  rfl

theorem orderly_of_unchanged {files : Tree} (unchanged : (job.run files).2 = files)
    (nothing : job.write? files = none)
    (fails : ∀ path answer, job.output? = some path → (job.run files).1 ≠ .ok answer) :
    job.Orderly files where
  failed _ _ := ⟨unchanged, nothing⟩
  reading _ := ⟨unchanged, nothing⟩
  succeeded path answer houtput hsucceeds := absurd hsucceeds (fails path answer houtput)
  independent _ := contents?_congr

theorem orderly_of_written {files : Tree} {answer : Answer} {contents : Bytes}
    {location : Location} (h : job.effect = .writes path made)
    (hmade : made files = .ok (answer, contents)) (htarget : files.target path = .ok location) :
    job.Orderly files := by
  have houtput : job.output? = some path := by rw [output?, h]
  have hcontents : job.contents? files = some contents := by
    rw [contents?, h]
    simp only [hmade]
    rfl
  have hrun := run_of_writes h files
  have hwrite := write?_of_writes h files
  rw [hmade, htarget] at hrun hwrite
  have hchanged : Tree.Changed files (job.run files).2 location contents := by
    obtain ⟨place, hplace, hchanged⟩ :=
      Tree.changed_of_write (Tree.write_eq_ok_iff.mpr ⟨location, htarget, rfl⟩)
    cases htarget.symm.trans hplace
    rwa [hrun]
  constructor
  · intro e hfails
    rw [hrun] at hfails
    cases hfails
  · intro hreads
    rw [houtput] at hreads
    cases hreads
  · intro other _ hother _
    rw [houtput] at hother
    cases hother
    exact ⟨location, contents, htarget, hcontents, hwrite, hchanged⟩
  · intro other
    exact contents?_congr

/-- The cases are the places where a job can stop: it reads only, it does not make its contents,
there is no place for them, or they are written. -/
theorem orderly (job : Job) (files : Tree) : job.Orderly files := by
  cases heffect : job.effect with
  | reads result =>
    have hrun : job.run files = (result files, files) := by
      rw [run_eq_outcome, heffect, Effect.outcome]
    refine orderly_of_unchanged (congrArg Prod.snd hrun) (write?_of_reads heffect files) ?_
    intro path answer houtput
    rw [output?, heffect] at houtput
    cases houtput
  | writes path made =>
    have hrun := run_of_writes heffect files
    have hwrite := write?_of_writes heffect files
    cases hmade : made files with
    | error e =>
      rw [hmade] at hrun hwrite
      refine orderly_of_unchanged (congrArg Prod.snd hrun) hwrite fun _ _ _ => ?_
      rw [hrun]
      intro h
      cases h
    | ok pair =>
      cases htarget : files.target path with
      | error e =>
        rw [hmade, htarget] at hrun hwrite
        refine orderly_of_unchanged (congrArg Prod.snd hrun) hwrite fun _ _ _ => ?_
        rw [hrun]
        intro h
        cases h
      | ok location => exact orderly_of_written heffect hmade htarget

/-! ### One job -/

/-- A job changes no file, or the one at the location where it writes. -/
theorem run_cases (job : Job) (files : Tree) :
    (job.write? files = none ∧ (job.run files).2 = files) ∨
      ∃ location contents, job.write? files = some (location, contents) ∧
        files.node? location ≠ some .directory ∧
        Tree.Changed files (job.run files).2 location contents := by
  have horderly := job.orderly files
  cases hresult : (job.run files).1 with
  | error e => exact .inl (horderly.failed e hresult).symm
  | ok answer =>
    cases houtput : job.output? with
    | none => exact .inl (horderly.reading houtput).symm
    | some path =>
      obtain ⟨location, contents, htarget, -, hwrite, hchanged⟩ :=
        horderly.succeeded path answer houtput hresult
      exact .inr ⟨location, contents, hwrite, (Tree.target_eq_ok_iff.mp htarget).2.1, hchanged⟩

theorem sameDirectories_run (job : Job) (files : Tree) :
    Tree.SameDirectories files (job.run files).2 := by
  obtain ⟨-, hsame⟩ | ⟨location, contents, -, hfree, hchanged⟩ := job.run_cases files
  · rw [hsame]
    exact .refl files
  · exact hchanged.sameDirectories hfree

end

/-! ### Runs -/

def writes [ImageReader] : List Job → Tree → List (Location × Bytes)
  | [], _ => []
  | job :: rest, files => (job.write? files).toList ++ writes rest (job.run files).2

/-- What the last of these writes at a location has written there. -/
def lastAt? (location : Location) (list : List (Location × Bytes)) : Option Bytes :=
  (list.filter (·.1 = location)).getLast?.map (·.2)

theorem lastAt?_append (location : Location) (earlier later : List (Location × Bytes)) :
    lastAt? location (earlier ++ later) =
      (lastAt? location later).or (lastAt? location earlier) := by
  rw [lastAt?, List.filter_append, List.getLast?_append, Option.map_or]
  rfl

/-- What the last job that writes at a location and succeeds has written there. -/
def lastWritten? [ImageReader] (jobs : List Job) (files : Tree) (location : Location) :
    Option Bytes :=
  lastAt? location (writes jobs files)

/-- What is at a location after jobs have been done. -/
def held? [ImageReader] (jobs : List Job) (files : Tree) (location : Location) :
    Option Node :=
  ((lastWritten? jobs files location).map .file).or (files.node? location)

theorem node?_run [ImageReader] (job : Job) (files : Tree) (location : Location) :
    (job.run files).2.node? location =
      ((lastAt? location (job.write? files).toList).map .file).or (files.node? location) := by
  obtain ⟨hwrite, hsame⟩ | ⟨place, contents, hwrite, -, hchanged⟩ := job.run_cases files
  · rw [hwrite, hsame]
    rfl
  · rw [hwrite]
    by_cases hplace : location = place
    · subst hplace
      rw [hchanged.there]
      simp [lastAt?]
    · rw [hchanged.elsewhere location hplace]
      simp [lastAt?, Ne.symm hplace]

/-- The induction is on the jobs; each of them starts from the files that those before it
have left. -/
theorem node?_runAll [ImageReader] (jobs : List Job) (files : Tree) (location : Location) :
    (runAll jobs files).node? location = held? jobs files location := by
  induction jobs generalizing files with
  | nil => rfl
  | cons job rest ih =>
    calc (runAll (job :: rest) files).node? location
        = held? rest (job.run files).2 location := ih (job.run files).2
      _ = held? (job :: rest) files location := by
        rw [held?, node?_run, held?, lastWritten?, lastWritten?, writes, lastAt?_append,
          Option.map_or, Option.or_assoc]

theorem sameDirectories_runAll [ImageReader] (jobs : List Job) (files : Tree) :
    Tree.SameDirectories files (runAll jobs files) := by
  induction jobs generalizing files with
  | nil => exact .refl files
  | cons job rest ih => exact (job.sameDirectories_run files).trans (ih (job.run files).2)

theorem read_runAll_eq_ok_iff [ImageReader] (jobs : List Job) (files : Tree) (path : Path)
    (contents : Bytes) :
    (runAll jobs files).read path = .ok contents ↔
      ∃ location, files.target path = .ok location ∧
        held? jobs files location = some (.file contents) := by
  simp only [Tree.read_eq_ok_iff, node?_runAll,
    Tree.target_congr (sameDirectories_runAll jobs files)]

/-- Where a word holds the length, the header is the one for that number of modules. -/
theorem perform_emit [ImageReader] {n : UInt64} (fits : packedLength n.toNat < UInt64.size)
    (path : Path) (layout : Header.Layout) (bytes : Bytes) (content : String) :
    (emit path layout n bytes content).perform = do
      Conversion.emit path layout n.toNat bytes content
      return .done := by
  rw [perform, Extent.ofWord_eq fits]
  rfl

def oneFile : Tree := ⟨[([['a'.toUInt8]], .file [0])]⟩

/-- A header for so many modules that a word loses all of the length. -/
def lostLength : Job :=
  .emit ['a'.toUInt8] Header.Layout.qrModules (1 <<< 34) [] ""

/-- Two texts and, between them, a bitmap that is too short and an empty one that is said to have
many modules, all written to one file. -/
def rewrites : List Job :=
  [.writeText ['a'.toUInt8] ["x", "y"], .emitBitmap32 ['a'.toUInt8] [0] "", lostLength,
    .writeText ['a'.toUInt8] ["z"]]

end DeviceAssets.Job
