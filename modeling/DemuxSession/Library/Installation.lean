import DemuxSession.Action
import DemuxSession.Failure

/-!
# Loading the demuxer library

What is found at the place where the library is looked for has to be loaded, and
to be of use it has to export all entry points.  Both are found out by the loader of
the system, which gives its reasons in words of its own.
-/

namespace DemuxSession.Library

/-- Where the library is looked for, and what the loader finds there. -/
structure Installation where
  location : Location
  /-- The entry points that are exported, or why nothing there can be loaded. -/
  exports : Except String (List EntryPoint)
  /-- Why an entry point is not found, if it is not exported. -/
  reason : EntryPoint → String

/-- Loads the library.  The error names the place where nothing can be loaded, or
the first entry point that is not exported, and gives the reason. -/
def load {State Call : Type} (installation : Installation) :
    Action State Call (Except LibraryError Unit) := do
  Action.log (.loading installation.location)
  match installation.exports with
  | .error reason => return .error (.notLoaded installation.location reason)
  | .ok exported =>
    match EntryPoint.all.find? (· ∉ exported) with
    | some missing => return .error (.missing missing (installation.reason missing))
    | none =>
      Action.log .entryPointsFound
      return .ok ()

/-- A loaded library in words. -/
def description : String := "Libmp4Library \x7b loaded: true \x7d"

/-- A backend on a loaded library in words. -/
def backendDescription : String := "NativeDemuxer \x7b lib: " ++ description ++ " \x7d"

end DemuxSession.Library
