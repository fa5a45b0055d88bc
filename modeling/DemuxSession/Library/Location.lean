import DemuxSession.FilePath

/-!
# Where the demuxer library is

The library is looked for at a path, if the environment gives one, and under its
usual name otherwise.
-/

namespace DemuxSession.Library

/-- The variable of the environment that gives the path of the library. -/
def pathVariable : String := "LIBMP4_LIBRARY"

/-- The name under which the library is usually installed. -/
def usualName : String := "libmp4.so"

/-- Where the library is looked for. -/
inductive Location where
  | atPath (path : FilePath)
  | byName
  deriving DecidableEq

namespace Location

/-- The place given by the value of the variable of the environment. -/
def ofVariable : Option FilePath → Location
  | some path => .atPath path
  | none => .byName

def display : Location → String
  | .atPath path => path.display
  | .byName => usualName

end Location

end DemuxSession.Library
