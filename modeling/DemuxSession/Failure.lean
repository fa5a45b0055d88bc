import DemuxSession.Library.EntryPoint
import DemuxSession.Library.Location

/-!
# Failures

What can go wrong, as causes: a file that does not open, a library that does not
load, and any other failure of input or output.  A failure of this library
converts to an input/output failure and back.  Converting keeps the cause, and
converting there and back a second time changes nothing more.  Behind a failure
stands the chain of its sources, told by their messages.
-/

namespace DemuxSession

/-! ## Causes -/

/-- The demuxer could not establish a session for a file. -/
structure OpenError where
  path : FilePath
  deriving DecidableEq

def OpenError.message (error : OpenError) : String :=
  "cannot open file " ++ error.path.display

/-- The demuxer library could not be used. -/
inductive LibraryError where
  /-- Where the library was looked for, the loader of the system found nothing that it
  can load, for a reason of its own. -/
  | notLoaded (location : Library.Location) (reason : String)
  /-- The loader found no such entry point in the library. -/
  | missing (entryPoint : Library.EntryPoint) (reason : String)
  /-- Any other cause, in words. -/
  | described (message : String)
  deriving DecidableEq

def LibraryError.message : LibraryError → String
  | .notLoaded location reason => "Failed to load " ++ location.display ++ ": " ++ reason
  | .missing entryPoint reason => entryPoint.symbol ++ ": " ++ reason
  | .described message => message

/-! ## Failures of input and output -/

/-- The general kind of a failure of input or output. -/
inductive FailureKind where
  | notFound
  | permissionDenied
  | connectionRefused
  | connectionReset
  | hostUnreachable
  | networkUnreachable
  | connectionAborted
  | notConnected
  | addressInUse
  | addressNotAvailable
  | networkDown
  | brokenPipe
  | alreadyExists
  | wouldBlock
  | notADirectory
  | isADirectory
  | directoryNotEmpty
  | readOnlyFilesystem
  | staleNetworkFileHandle
  | invalidInput
  | invalidData
  | timedOut
  | writeZero
  | storageFull
  | notSeekable
  | quotaExceeded
  | fileTooLarge
  | resourceBusy
  | executableFileBusy
  | deadlock
  | crossesDevices
  | tooManyLinks
  | invalidFilename
  | argumentListTooLong
  | interrupted
  | unsupported
  | unexpectedEof
  | outOfMemory
  | other
  deriving DecidableEq

/-- The cause that an input/output failure carries inside. -/
inductive Cause where
  | opening (error : OpenError)
  | loading (error : LibraryError)
  deriving DecidableEq

namespace Cause

def message : Cause → String
  | .opening error => error.message
  | .loading error => error.message

/-- The messages of what is behind a cause: nothing is. -/
def sources : Cause → List String
  | .opening _ | .loading _ => []

end Cause

/-- A failure of input or output: either described in words, or around a cause. -/
inductive FileError where
  | described (kind : FailureKind) (message : String)
  | around (kind : FailureKind) (cause : Cause)
  deriving DecidableEq

namespace FileError

def kind : FileError → FailureKind
  | .described kind _ => kind
  | .around kind _ => kind

def message : FileError → String
  | .described _ message => message
  | .around _ cause => cause.message

/-- The messages of what is behind the failure.  A failure around a cause shows the
message of the cause as its own, so behind it is what is behind the cause. -/
def sources : FileError → List String
  | .described .. => []
  | .around _ cause => cause.sources

/-- A file that does not open is a file that is not found. -/
def ofOpenError (error : OpenError) : FileError := .around .notFound (.opening error)

def ofLibraryError (error : LibraryError) : FileError := .around .other (.loading error)

end FileError

/-! ## Failures of this library -/

/-- Every failure of opening, loading and reading. -/
inductive DemuxError where
  | opening (error : OpenError)
  | loading (error : LibraryError)
  | other (error : FileError)
  deriving DecidableEq

namespace DemuxError

def message : DemuxError → String
  | .opening error => "Open error: " ++ error.message
  | .loading error => "Library error: " ++ error.message
  | .other error => "I/O error: " ++ error.message

/-- The path of a file that did not open. -/
def openPath? : DemuxError → Option FilePath
  | .opening error => some error.path
  | .loading _ | .other _ => none

def ofFileError (error : FileError) : DemuxError := .other error

/-- The failure as one of input and output.  A failure that already is one is
taken out of its wrapping, so wrappings do not pile up. -/
def toFileError : DemuxError → FileError
  | .opening error => .ofOpenError error
  | .loading error => .ofLibraryError error
  | .other error => error

/-- The messages of what is behind the failure, the nearest first. -/
def sources : DemuxError → List String
  | .opening error => error.message :: (Cause.opening error).sources
  | .loading error => error.message :: (Cause.loading error).sources
  | .other error => error.message :: error.sources

@[simp] theorem toFileError_ofFileError (error : FileError) :
    (ofFileError error).toFileError = error := rfl

end DemuxError

end DemuxSession
