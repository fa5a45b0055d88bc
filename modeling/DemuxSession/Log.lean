import DemuxSession.Library.EntryPoint
import DemuxSession.Library.Location
import DemuxSession.Token

/-!
# The log

Every line that the library logs is a value of `LogLine`, which keeps the path,
token or status the line is about.  Its level and its text are functions of that
value.
-/

namespace DemuxSession

/-- How much a line matters. -/
inductive LogLevel where
  | warn
  | info
  | debug
  | trace
  deriving DecidableEq

namespace LogLevel

def name : LogLevel → String
  | .warn => "WARN"
  | .info => "INFO"
  | .debug => "DEBUG"
  | .trace => "TRACE"

end LogLevel

/-- A line of the log. -/
inductive LogLine where
  /-- A handle was opened and holds the session. -/
  | opened (path : FilePath) (token : Token)
  /-- The backend gave no session for the path. -/
  | refused (path : FilePath)
  /-- The backend ended the session. -/
  | released (token : Token)
  /-- The backend reported a failure while ending the session. -/
  | releaseFailed (token : Token) (status : Int32)
  /-- A handle went away while its session was open. -/
  | droppedOpen (token : Token)
  /-- A pair entered a metadata map. -/
  | pair (key value : String)
  /-- The registry bound a token to a path. -/
  | registrySession (token : Token) (path : FilePath)
  /-- The path cannot be handed to the demuxer library. -/
  | zeroInPath (path : FilePath)
  /-- The demuxer library counted the strings of a session. -/
  | stringsCounted (token : Token) (count : UInt32)
  /-- The demuxer library gave a pair of strings. -/
  | stringPair (key value : String)
  /-- A function of the demuxer library reported a failure. -/
  | callFailed (entryPoint : Library.EntryPoint) (status : Int32)
  /-- The demuxer library gave a cover of no known kind. -/
  | unknownCoverKind (code : Int32)
  /-- The demuxer library is looked for. -/
  | loading (location : Library.Location)
  /-- The demuxer library exports all entry points. -/
  | entryPointsFound
  deriving DecidableEq

namespace LogLine

def level : LogLine → LogLevel
  | .releaseFailed .. | .droppedOpen .. | .zeroInPath .. | .callFailed .. |
    .unknownCoverKind .. => .warn
  | .loading .. => .info
  | .opened .. | .refused .. | .released .. | .registrySession .. | .stringsCounted .. |
    .entryPointsFound => .debug
  | .pair .. | .stringPair .. => .trace

/-- A status or another signed number, in decimal. -/
def decimal (number : Int32) : String := toString number.toInt

def text : LogLine → String
  | .opened path token => "opened " ++ path.display ++ " as session " ++ token.display
  | .refused path => "backend refused " ++ path.display
  | .released token => "released session " ++ token.display
  | .releaseFailed token status =>
    "release of session " ++ token.display ++ " returned " ++ decimal status
  | .droppedOpen token => "session " ++ token.display ++ " dropped without close, releasing"
  | .pair key value => "metadata " ++ key ++ ": " ++ value
  | .registrySession token path =>
    "memory session " ++ toString token.value ++ " -> " ++ path.display
  | .zeroInPath path => "path " ++ path.display ++ " contains a NUL byte"
  | .stringsCounted token count =>
    "session " ++ token.display ++ " reports " ++ toString count.toNat ++ " metadata strings"
  | .stringPair key value => "  " ++ key ++ ": " ++ value
  | .callFailed entryPoint status => entryPoint.symbol ++ " returned " ++ decimal status
  | .unknownCoverKind code => "unknown cover type " ++ decimal code
  | .loading (.atPath path) => "Loading libmp4 from " ++ path.display
  | .loading .byName => "Loading libmp4 as " ++ Library.usualName
  | .entryPointsFound => "All libmp4 symbols loaded"

end LogLine

end DemuxSession
