import DeviceAssets.Action

/-!
# What an action does to files

An action that reads gives what a function says of the files, and changes nothing but
the log. An action that writes first makes the contents of one file out of the files as
they are, and writes them at the very end; so it has either made them and written them as
a whole, or the files are as they were.
-/

namespace DeviceAssets.Action

open Files (Path Tree)

variable {α β : Type}

def logged (session : Session) (lines : List Log.Line) : Session :=
  { session with log := session.log ++ lines }

/-- The action gives what `result` says of the files, and leaves them as they are. -/
def Reads (action : Action α) (result : Tree → Except Error α) : Prop :=
  ∀ session, ∃ lines, action.run session = (result session.files, logged session lines)

/-- What there is after contents that have been made were written, or why there is
nothing new. -/
def written (path : Path) (made : Except Error (α × Bytes)) (files : Tree) :
    Except Error (α × Tree) :=
  match made with
  | .error e => .error e
  | .ok (value, contents) =>
    match files.write path contents with
    | .error e => .error (.io e)
    | .ok later => .ok (value, later)

/-- What an action gives in a session, and the session after it: a failure keeps the files. -/
def settled (session : Session) : Except Error (α × Tree) → Except Error α × Session
  | .error e => (.error e, session)
  | .ok (value, later) => (.ok value, { session with files := later })

/-- The action makes contents out of the files as they are and writes them under `path`, or
fails and leaves the files as they are. -/
def Writes (action : Action α) (path : Path) (made : Tree → Except Error (α × Bytes)) : Prop :=
  ∀ session, ∃ lines, action.run session =
    settled (logged session lines) (written path (made session.files) session.files)

@[simp] theorem files_logged (session : Session) (lines : List Log.Line) :
    (logged session lines).files = session.files := rfl

@[simp] theorem logged_nil (session : Session) : logged session [] = session := by
  simp [logged]

@[simp] theorem logged_logged (session : Session) (first second : List Log.Line) :
    logged (logged session first) second = logged session (first ++ second) := by
  simp [logged]

/-! ### Actions that read -/

theorem Reads.pure (value : α) : Reads (pure value) fun _ => .ok value :=
  fun session => ⟨[], by simp⟩

theorem Reads.fail (e : Error) : Reads (fail e : Action α) fun _ => .error e :=
  fun session => ⟨[], by simp⟩

theorem Reads.ofResult (result : Except Error α) : Reads (ofResult result) fun _ => result :=
  fun session => ⟨[], by simp⟩

theorem Reads.note (severity : Log.Severity) (source : Log.Source) (text : String) :
    Reads (note severity source text) fun _ => .ok () :=
  fun _ => ⟨[⟨severity, source, text⟩], rfl⟩

theorem Reads.requireInput (path : Path) :
    Reads (requireInput path) fun files =>
      if files.contains path then .ok () else .error (.notFound path) :=
  fun session => ⟨[], by simp⟩

theorem Reads.read (failure : Files.Error → Error) (path : Path) :
    Reads (read failure path) fun files => (files.read path).mapError failure :=
  fun session => ⟨[], by simp⟩

theorem Reads.bind {action : Action α} {result : Tree → Except Error α}
    (h : Reads action result) {next : α → Action β} {later : α → Tree → Except Error β}
    (hnext : ∀ value, Reads (next value) (later value)) :
    Reads (action >>= next) fun files => (result files).bind fun value => later value files := by
  intro session
  obtain ⟨lines, hrun⟩ := h session
  simp only [run_bind, hrun]
  cases result session.files with
  | error e => exact ⟨lines, rfl⟩
  | ok value =>
    obtain ⟨more, hmore⟩ := hnext value (logged session lines)
    refine ⟨lines ++ more, hmore.trans ?_⟩
    rw [logged_logged, files_logged]
    rfl

theorem Reads.ite {condition : Prop} [Decidable condition] {action other : Action α}
    {result otherwise : Tree → Except Error α} (h : Reads action result)
    (hother : Reads other otherwise) :
    Reads (if condition then action else other) fun files =>
      if condition then result files else otherwise files := by
  split
  · exact h
  · exact hother

/-! ### Actions that write -/

/-- An action that fails writes nothing. -/
theorem Writes.fail (e : Error) (path : Path) : Writes (fail e : Action α) path fun _ => .error e :=
  fun session => ⟨[], by simp [written, settled]⟩

theorem Writes.write (path : Path) (contents : Bytes) :
    Writes (write path contents) path fun _ => .ok ((), contents) := by
  intro session
  refine ⟨[], ?_⟩
  rw [run_write, written, logged_nil]
  cases session.files.write path contents <;> rfl

/-- Whatever is read first, the contents are made out of the same files. -/
theorem Reads.bind_writes {action : Action α} {result : Tree → Except Error α}
    (h : Reads action result) {path : Path} {next : α → Action β}
    {made : α → Tree → Except Error (β × Bytes)}
    (hnext : ∀ value, Writes (next value) path (made value)) :
    Writes (action >>= next) path fun files =>
      (result files).bind fun value => made value files := by
  intro session
  obtain ⟨lines, hrun⟩ := h session
  simp only [run_bind, hrun]
  cases result session.files with
  | error e => exact ⟨lines, rfl⟩
  | ok value =>
    obtain ⟨more, hmore⟩ := hnext value (logged session lines)
    refine ⟨lines ++ more, hmore.trans ?_⟩
    rw [logged_logged, files_logged]
    rfl

/-- What follows a write does not fail any more. -/
theorem Writes.bind_pure {action : Action α} {path : Path}
    {made : Tree → Except Error (α × Bytes)} (h : Writes action path made)
    {next : α → Action β} {value : α → β}
    (hnext : ∀ given, Reads (next given) fun _ => .ok (value given)) :
    Writes (action >>= next) path fun files =>
      (made files).map fun (given, contents) => (value given, contents) := by
  intro session
  obtain ⟨lines, hrun⟩ := h session
  simp only [run_bind, hrun]
  cases made session.files with
  | error e => exact ⟨lines, rfl⟩
  | ok pair =>
    obtain ⟨given, contents⟩ := pair
    simp only [written, Except.map]
    cases session.files.write path contents with
    | error e => exact ⟨lines, rfl⟩
    | ok later =>
      obtain ⟨more, hmore⟩ := hnext given { logged session lines with files := later }
      refine ⟨lines ++ more, hmore.trans ?_⟩
      rw [← logged_logged]
      rfl

theorem Writes.congr {action : Action α} {path : Path}
    {made other : Tree → Except Error (α × Bytes)} (h : Writes action path made)
    (same : ∀ files, made files = other files) : Writes action path other :=
  funext same ▸ h

theorem Reads.congr {action : Action α} {result other : Tree → Except Error α}
    (h : Reads action result) (same : ∀ files, result files = other files) :
    Reads action other :=
  funext same ▸ h

end DeviceAssets.Action
