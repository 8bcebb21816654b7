import DeviceAssets.Error
import DeviceAssets.Files.Tree
import DeviceAssets.Log

/-!
# Actions on files

An action reads and writes a file tree, adds lines to the log, and may fail. A failure
keeps the log and the tree as they are at that point; an action writes at most once, as
its last step, so a failed one has changed no file.

`run` is the view of an action, and there is one equation for each way to build one.
-/

namespace DeviceAssets

/-- The files that an action works on, and the log so far. -/
structure Session where
  files : Files.Tree
  log : List Log.Line
  deriving DecidableEq

def Session.note (session : Session) (line : Log.Line) : Session :=
  { session with log := session.log ++ [line] }

/-- A computation on files: what it gives in a session, and the session after it. -/
structure Action (α : Type) where
  run : Session → Except Error α × Session

namespace Action

variable {α β : Type}

def give (value : α) : Action α :=
  ⟨fun session => (.ok value, session)⟩

def fail (e : Error) : Action α :=
  ⟨fun session => (.error e, session)⟩

/-- Does one action and then, unless it fails, the next. -/
def andThen (action : Action α) (next : α → Action β) : Action β :=
  ⟨fun session =>
    match action.run session with
    | (.ok value, session) => (next value).run session
    | (.error e, session) => (.error e, session)⟩

instance : Monad Action where
  pure := give
  bind := andThen

def ofResult : Except Error α → Action α
  | .ok value => give value
  | .error e => fail e

def note (severity : Log.Severity) (source : Log.Source) (text : String) : Action Unit :=
  ⟨fun session => (.ok (), session.note ⟨severity, source, text⟩)⟩

/-- Fails where nothing exists at the path of an input. -/
def requireInput (path : Files.Path) : Action Unit :=
  ⟨fun session =>
    (if session.files.contains path then .ok () else .error (.notFound path), session)⟩

/-- The contents of a file; `failure` says what a failure to read means. -/
def read (failure : Files.Error → Error) (path : Files.Path) : Action Bytes :=
  ⟨fun session => ((session.files.read path).mapError failure, session)⟩

def write (path : Files.Path) (contents : Bytes) : Action Unit :=
  ⟨fun session =>
    match session.files.write path contents with
    | .ok files => (.ok (), { session with files })
    | .error e => (.error (.io e), session)⟩

/-! ### What actions do in a session -/

@[simp] theorem run_pure (value : α) (session : Session) :
    (pure value : Action α).run session = (.ok value, session) := rfl

@[simp] theorem run_bind (action : Action α) (next : α → Action β) (session : Session) :
    (action >>= next).run session =
      match action.run session with
      | (.ok value, session) => (next value).run session
      | (.error e, session) => (.error e, session) := rfl

@[simp] theorem run_fail (e : Error) (session : Session) :
    (fail e : Action α).run session = (.error e, session) := rfl

@[simp] theorem run_ofResult (result : Except Error α) (session : Session) :
    (ofResult result).run session = (result, session) := by
  cases result <;> rfl

@[simp] theorem run_note (severity : Log.Severity) (source : Log.Source) (text : String)
    (session : Session) :
    (note severity source text).run session =
      (.ok (), session.note ⟨severity, source, text⟩) := rfl

@[simp] theorem run_requireInput (path : Files.Path) (session : Session) :
    (requireInput path).run session =
      (if session.files.contains path then .ok () else .error (.notFound path), session) := rfl

@[simp] theorem run_read (failure : Files.Error → Error) (path : Files.Path)
    (session : Session) :
    (read failure path).run session = ((session.files.read path).mapError failure, session) :=
  rfl

@[simp] theorem run_write (path : Files.Path) (contents : Bytes) (session : Session) :
    (write path contents).run session =
      match session.files.write path contents with
      | .ok files => (.ok (), { session with files })
      | .error e => (.error (.io e), session) := rfl

/-- Runs an action on files, with an empty log. -/
def runOn (files : Files.Tree) (action : Action α) : Except Error α × Session :=
  action.run ⟨files, []⟩

end Action

end DeviceAssets
