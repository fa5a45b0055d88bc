import DemuxSession.Backend
import DemuxSession.Failure

/-!
# Handles

A handle owns one session of a backend.  It asks the backend only while it is
open, and it ends its session once: by being closed, or else by being dropped.
A closed handle answers as if the file carried nothing.
-/

namespace DemuxSession

/-- The owner of a session, or of none after it was closed. -/
inductive Handle where
  | opened (token : Token)
  | closed
  deriving DecidableEq

namespace Handle

variable {State Call : Type}

/-- The session of an open handle. -/
def token? : Handle → Option Token
  | .opened token => some token
  | .closed => none

def isOpen (handle : Handle) : Bool := handle.token?.isSome

/-- Opens a file.  A file the backend refuses is reported with its path, and
nothing is kept of the attempt. -/
def openOn (backend : Backend State Call) (path : FilePath) :
    Action State Call (Except DemuxError Handle) := do
  match ← backend.allocate path with
  | some token =>
    Action.log (.opened path token)
    return .ok (.opened token)
  | none =>
    Action.log (.refused path)
    return .error (.opening ⟨path⟩)

/-- The decoded metadata of the session. -/
def metadata (backend : Backend State Call) : Handle → Action State Call MetadataMap
  | .opened token => do RawMetadata.decode (← backend.fetchMetadata token)
  | .closed => pure ∅

/-- The thermal entries of the session. -/
def thermal (backend : Backend State Call) (handle : Handle) :
    Action State Call ThermalMetadata := do
  return .ofMap (← handle.metadata backend)

/-- The cover of the session. -/
def cover (backend : Backend State Call) : Handle → Action State Call (Option Cover)
  | .opened token => backend.fetchCover token
  | .closed => pure none

/-- Ends the session, whatever the status the backend reports.  Closing a closed
handle does nothing. -/
def close (backend : Backend State Call) : Handle → Action State Call Handle
  | .opened token => do
    let status ← backend.release token
    Action.log (if status = 0 then .released token else .releaseFailed token status)
    return .closed
  | .closed => pure .closed

/-- Lets go of the handle.  A session that is still open is ended first. -/
def drop (backend : Backend State Call) : Handle → Action State Call Unit
  | .opened token => do
    Action.log (.droppedOpen token)
    let _ ← close backend (.opened token)
    return ()
  | .closed => pure ()

/-- The handle in words. -/
def describe (handle : Handle) : String :=
  let held := match handle.token? with
    | some token => "Some(" ++ token.describe ++ ")"
    | none => "None"
  "Demux \x7b token: " ++ held ++ " \x7d"

end Handle

end DemuxSession
