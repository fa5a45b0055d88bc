/-!
# Entry points of the demuxer library

The library is used through four functions, which are looked up by their symbols
when it is loaded.
-/

namespace DemuxSession.Library

/-- A function of the demuxer library. -/
inductive EntryPoint where
  /-- Opens a file and gives a pointer to its session, or the null pointer. -/
  | openFile
  /-- Ends the session of a pointer. -/
  | closeFile
  /-- Reads the keys and values of a session. -/
  | readStrings
  /-- Reads the cover picture of a session. -/
  | readCover
  deriving DecidableEq

namespace EntryPoint

/-- The symbol under which the library exports the function. -/
def symbol : EntryPoint → String
  | .openFile => "mp4_demux_open"
  | .closeFile => "mp4_demux_close"
  | .readStrings => "mp4_demux_get_metadata_strings"
  | .readCover => "mp4_demux_get_metadata_cover"

/-- All functions, in the order in which they are looked up. -/
def all : List EntryPoint := [.openFile, .closeFile, .readStrings, .readCover]

theorem mem_all (entryPoint : EntryPoint) : entryPoint ∈ all := by
  cases entryPoint <;> simp [all]

end EntryPoint

end DemuxSession.Library
