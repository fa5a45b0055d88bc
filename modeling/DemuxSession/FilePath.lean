import DemuxSession.Text.Utf8
import Std.Data.ExtTreeMap

/-!
# File paths

A path is a byte string.  It is handed around unchanged, shown as UTF-8 text
with replacement characters, and compared by its parts: the root, if the path
starts with a slash, and the names between the slashes.  Repeated and trailing
slashes do not count, nor does a dot, unless it is the very first piece of a
relative path.
-/

namespace DemuxSession

/-- The path of a file, byte for byte as it was given. -/
structure FilePath where
  bytes : Bytes
  deriving DecidableEq

namespace FilePath

/-- The path spelled by a text. -/
def ofText (text : String) : FilePath := ⟨Text.Utf8.encode text⟩

/-- The text of a path whose bytes are well-formed UTF-8. -/
def text? (path : FilePath) : Option String := Text.Utf8.decode? path.bytes

/-- The text shown for a path. -/
def display (path : FilePath) : String := Text.Utf8.display path.bytes

/-- Whether the path holds a zero byte and so cannot be a zero-terminated string. -/
def holdsZero (path : FilePath) : Bool := path.bytes.contains 0

/-! ## Parts -/

/-- The byte between two names of a path. -/
def slash : UInt8 := 0x2F

/-- The name of the directory a path starts from. -/
def dot : Bytes := [0x2E]

/-- Whether the path starts at the root. -/
def isRooted (path : FilePath) : Bool := path.bytes.head? = some slash

/-- The names between the slashes, without empty names and dots. -/
def names (path : FilePath) : List Bytes :=
  (path.bytes.split slash).filter fun piece => piece ≠ [] ∧ piece ≠ dot

/-- The parts of a path.  The root is the part `/`, which no name is equal to,
and the dot that opens a relative path is the part `.`. -/
def parts (path : FilePath) : List Bytes :=
  if path.isRooted then [slash] :: path.names
  else if (path.bytes.split slash).head? = some dot then dot :: path.names
  else path.names

end FilePath

/-- Lists of names can be the keys of a map. -/
instance : Std.TransOrd (List Bytes) := inferInstance

end DemuxSession
