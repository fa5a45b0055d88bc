import DemuxSession.Backend
import DemuxSession.Slab

/-!
# The registry of files in memory

A backend that serves files registered beforehand.  Files are looked up by the
parts of their paths, so two spellings of a path name one file.  Sessions live
in a slab: a token is the number of a slot, counted from one, and the slot keeps
the path the session was opened on, as it was spelled.

A session reads what is registered at the time of reading, not what was
registered when it was opened.
-/

namespace DemuxSession

/-- What is registered for a path. -/
structure RegisteredFile where
  metadata? : Option RawMetadata
  cover? : Option Cover
  deriving DecidableEq

/-- The registered files, by the parts of their paths, and the open sessions. -/
structure Registry where
  files : Std.ExtTreeMap (List Bytes) RegisteredFile
  sessions : Slab FilePath

namespace Registry

variable {Call : Type}

def empty : Registry := ⟨∅, .empty⟩

/-- What is registered for a path. -/
def file? (registry : Registry) (path : FilePath) : Option RegisteredFile :=
  registry.files[path.parts]?

/-- Registers a file, in place of what was registered for its path. -/
def register (registry : Registry) (path : FilePath) (file : RegisteredFile) : Registry :=
  { registry with files := registry.files.insert path.parts file }

/-- Registering a file decides what is found for its path, in any spelling, and
for no other. -/
theorem file?_register (registry : Registry) (path other : FilePath) (file : RegisteredFile) :
    (registry.register path file).file? other =
      if path.parts = other.parts then some file else registry.file? other := by
  simp [file?, register, Std.ExtTreeMap.getElem?_insert]

@[simp] theorem sessions_register (registry : Registry) (path : FilePath)
    (file : RegisteredFile) : (registry.register path file).sessions = registry.sessions := rfl

/-! ## Registration -/

/-- A change of the registered files, or a question about the sessions. -/
inductive Command where
  /-- Registers a file with metadata and without a cover. -/
  | insert (path : FilePath) (raw : RawMetadata)
  /-- Registers a file that carries nothing. -/
  | insertEmpty (path : FilePath)
  /-- Gives a registered file a cover. -/
  | setCover (path : FilePath) (cover : Cover)
  /-- Counts the open sessions. -/
  | countSessions
  /-- Begins a registration and gives it up before its path is known. -/
  | abandonInsert
  deriving DecidableEq

/-- What comes of a command. -/
inductive Report where
  | done
  /-- Whether the path was registered. -/
  | known (registered : Bool)
  | count (sessions : Nat)
  | abandoned
  deriving DecidableEq

/-- Gives a registered file a cover, and says whether the path is registered. -/
def setCover (registry : Registry) (path : FilePath) (cover : Cover) : Bool × Registry :=
  match registry.file? path with
  | some file => (true, registry.register path { file with cover? := some cover })
  | none => (false, registry)

/-- The number of open sessions. -/
def sessionCount (registry : Registry) : Nat := registry.sessions.count

/-- Carries out a command. -/
def perform : Command → Action Registry Call Report
  | .insert path raw =>
    Action.update fun registry => (.done, registry.register path ⟨some raw, none⟩)
  | .insertEmpty path =>
    Action.update fun registry => (.done, registry.register path ⟨none, none⟩)
  | .setCover path cover => do
    return .known (← Action.update fun registry => registry.setCover path cover)
  | .countSessions => do return .count (← Action.read sessionCount)
  | .abandonInsert => pure .abandoned

/-! ## Sessions -/

/-- The status of releasing a token without a session. -/
def unknownToken : Int32 := -22

/-- What is registered for the path of a session. -/
def sessionFile? (registry : Registry) (token : Token) : Option RegisteredFile := do
  registry.file? (← registry.sessions.get? token.slot)

/-- Opens a session on a registered path, in the next slot. -/
def allocate (path : FilePath) : Action Registry Call (Option Token) := do
  match ← Action.read (file? · path) with
  | none => return none
  | some _ =>
    let slot ← Action.update fun registry =>
      (registry.sessions.nextSlot,
        { registry with sessions := registry.sessions.insert path })
    Action.log (.registrySession (.ofSlot slot) path)
    return some (.ofSlot slot)

/-- Ends the session of a token.  A token without a session changes nothing. -/
def release (token : Token) : Action Registry Call Int32 :=
  Action.update fun registry =>
    match registry.sessions.get? token.slot with
    | some _ => (0, { registry with sessions := registry.sessions.remove token.slot })
    | none => (unknownToken, registry)

/-- The registry as a backend. -/
def backend : Backend Registry Call where
  allocate := allocate
  release := release
  fetchMetadata token := do
    return (← Action.read (sessionFile? · token)).bind RegisteredFile.metadata?
  coverReader? := some fun token => do
    return (← Action.read (sessionFile? · token)).bind RegisteredFile.cover?

end Registry

end DemuxSession
