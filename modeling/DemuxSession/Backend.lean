import DemuxSession.Cover
import DemuxSession.Metadata

/-!
# Backends

A backend opens sessions on files and answers questions about them.  It is given
by its four operations as actions on its own state.  Reading covers is optional:
a backend without a cover reader answers that there is no cover.

A backend may be reached through any number of holders, each of which passes all
operations on, and it may be recorded, so that the requests made to it become
the calls of the trace.
-/

namespace DemuxSession

/-- The operations of a demuxer, as actions on its state. -/
structure Backend (State Call : Type) where
  /-- Opens a session on a file; no token if the file cannot be demuxed. -/
  allocate : FilePath → Action State Call (Option Token)
  /-- Ends a session and gives its status, zero for success. -/
  release : Token → Action State Call Int32
  /-- The metadata of a session, if it has any. -/
  fetchMetadata : Token → Action State Call (Option RawMetadata)
  /-- How covers are read, for a backend that knows covers. -/
  coverReader? : Option (Token → Action State Call (Option Cover))

namespace Backend

variable {State Call : Type}

/-- The cover of a session, if it has one and the backend knows covers. -/
def fetchCover (backend : Backend State Call) (token : Token) :
    Action State Call (Option Cover) :=
  match backend.coverReader? with
  | some readCover => readCover token
  | none => pure none

end Backend

/-! ## Requests -/

/-- A request to a backend. -/
inductive Request where
  | allocate (path : FilePath)
  | release (token : Token)
  | fetchMetadata (token : Token)
  | fetchCover (token : Token)
  deriving DecidableEq

/-- The reply to a request. -/
inductive Reply where
  | token (token? : Option Token)
  | status (status : Int32)
  | metadata (raw? : Option RawMetadata)
  | cover (cover? : Option Cover)
  deriving DecidableEq

/-- A request together with the reply it got. -/
structure Exchange where
  request : Request
  reply : Reply
  deriving DecidableEq

namespace Backend

variable {State Call : Type}

/-- Makes a request of a backend. -/
def answer (backend : Backend State Call) : Request → Action State Call Reply
  | .allocate path => do return .token (← backend.allocate path)
  | .release token => do return .status (← backend.release token)
  | .fetchMetadata token => do return .metadata (← backend.fetchMetadata token)
  | .fetchCover token => do return .cover (← backend.fetchCover token)

/-- The backend with every exchange recorded as a call.  The backend's own calls
are left out.  Without a cover reader there is nothing to record for covers. -/
def recorded (backend : Backend State Call) : Backend State Exchange where
  allocate path := do
    let token? ← (backend.allocate path).withoutCalls
    Action.call ⟨.allocate path, .token token?⟩
    return token?
  release token := do
    let status ← (backend.release token).withoutCalls
    Action.call ⟨.release token, .status status⟩
    return status
  fetchMetadata token := do
    let raw? ← (backend.fetchMetadata token).withoutCalls
    Action.call ⟨.fetchMetadata token, .metadata raw?⟩
    return raw?
  coverReader? := backend.coverReader?.map fun readCover token => do
    let cover? ← (readCover token).withoutCalls
    Action.call ⟨.fetchCover token, .cover cover?⟩
    return cover?

end Backend

/-! ## Holders -/

/-- How a backend is held by whoever uses it. -/
inductive Holder where
  /-- Someone else owns the backend. -/
  | borrowed
  /-- The user owns the backend. -/
  | owned
  /-- Several users own the backend together. -/
  | shared
  /-- The user knows the operations of the backend, but not what it is. -/
  | hidden
  deriving DecidableEq

namespace Backend

variable {State Call : Type}

/-- The backend as seen through a holder: every operation is passed on.  Covers
are passed on as they are answered, so that a reader is never lost on the way. -/
def heldBy (backend : Backend State Call) : Holder → Backend State Call
  | .borrowed | .owned | .shared | .hidden =>
    { allocate := fun path => backend.allocate path
      release := fun token => backend.release token
      fetchMetadata := fun token => backend.fetchMetadata token
      coverReader? := some fun token => backend.fetchCover token }

/-- The backend as seen through several holders, the outermost first. -/
def through (backend : Backend State Call) : List Holder → Backend State Call
  | [] => backend
  | holder :: holders => (backend.through holders).heldBy holder

@[simp] theorem fetchCover_heldBy (backend : Backend State Call) (holder : Holder) :
    (backend.heldBy holder).fetchCover = backend.fetchCover := by
  cases holder <;> rfl

@[simp] theorem fetchCover_through (backend : Backend State Call) (holders : List Holder) :
    (backend.through holders).fetchCover = backend.fetchCover := by
  induction holders with
  | nil => rfl
  | cons holder holders ih => simp [through, ih]

end Backend

end DemuxSession
