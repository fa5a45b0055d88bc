import DemuxSession.Handle
import DemuxSession.Library.Backend
import DemuxSession.Library.Installation

/-!
# Reading the metadata of one file

Loads the demuxer library, opens the file, reads its metadata and closes it.
-/

namespace DemuxSession

/-- The metadata of a file, read through the demuxer library. -/
def readLocalMetadata (installation : Library.Installation) (path : FilePath) :
    Action Library.Replies Library.Call (Except DemuxError MetadataMap) := do
  match ← Library.load installation with
  | .error error => return .error (.loading error)
  | .ok () =>
    match ← Handle.openOn Library.backend path with
    | .error error => return .error error
    | .ok handle =>
      let map ← handle.metadata Library.backend
      let _ ← handle.close Library.backend
      return .ok map

end DemuxSession
