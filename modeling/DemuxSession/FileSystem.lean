import DemuxSession.FilePath

/-!
# Writing a file

What comes of writing a file, on a file system of plain files, directories and
symbolic links.  Each file has one place.

The path is walked from name to name, from the root or from the working
directory.  Two dots lead up, except at the root, and a link is followed wherever
it stands.  The walk fails at the first obstacle: a path that is too long, a name
that is missing, too long, or no directory, too many links, and a last name that
is a directory or can only be one.  Where it ends, the file is made, or emptied if
there is one, and filled.

Of what else may go wrong the names say nothing: a directory may not be searched
or changed, and a disk may be full or broken.  This is given with the file system,
as the fault that a write meets.
-/

namespace DemuxSession

/-- What stands under a name. -/
inductive Entry where
  | file (data : Bytes)
  | directory
  | link (target : FilePath)
  deriving DecidableEq

/-- The names that lead from the root to an entry. -/
abbrev Place := List Bytes

/-! ## What goes wrong -/

/-- Why a file was not written. -/
inductive WriteError where
  /-- An error of the operating system, by its number and in words. -/
  | system (number : Nat) (description : String)
  /-- The file took no more bytes. -/
  | incomplete
  deriving DecidableEq

namespace WriteError

def message : WriteError → String
  | .system number description => description ++ " (os error " ++ toString number ++ ")"
  | .incomplete => "failed to write whole buffer"

def notFound : WriteError := .system 2 "No such file or directory"

def notADirectory : WriteError := .system 20 "Not a directory"

def isADirectory : WriteError := .system 21 "Is a directory"

def nameTooLong : WriteError := .system 36 "File name too long"

def tooManyLinks : WriteError := .system 40 "Too many levels of symbolic links"

end WriteError

/-- What a write meets that the names do not tell of. -/
inductive Fault where
  /-- The file is not opened, and nothing is changed. -/
  | refused (error : WriteError)
  /-- The file is opened, which makes or empties it, and takes so many bytes and no
  more. -/
  | brokenOff (taken : Nat) (error : WriteError)
  deriving DecidableEq

/-! ## File systems -/

structure FileSystem where
  entries : Std.ExtTreeMap Place Entry
  workingDirectory : Place
  /-- What goes wrong with the next write, if anything does. -/
  fault? : Option Fault

namespace FileSystem

/-- Nothing below the root, where all paths start. -/
def empty : FileSystem := ⟨∅, [], none⟩

/-- The most bytes of a path. -/
def longestPath : Nat := 4095

/-- The most bytes of a name. -/
def longestName : Nat := 255

/-- The most links that are followed on the way to one file. -/
def mostLinks : Nat := 40

/-- The name of the directory above. -/
def dotDot : Bytes := [0x2E, 0x2E]

/-! ## Finding the place of a file -/

/-- The way that is left to walk. -/
structure Route where
  names : List Bytes
  /-- A slash after the last name makes it the name of a directory. -/
  slashFollows : Bool

namespace Route

def ofPath (path : FilePath) : Route :=
  let pieces := path.bytes.split FilePath.slash
  ⟨pieces.filter (· ≠ []), pieces.getLast? = some []⟩

/-- The one way and then the other. -/
def followedBy (route rest : Route) : Route :=
  ⟨route.names ++ rest.names, if rest.names = [] then route.slashFollows else rest.slashFollows⟩

end Route

/-- Where a walk ends that does not follow links. -/
inductive Halt where
  | arrived (place : Place)
  /-- There is a link at the position, and a way to go on behind it. -/
  | link (position : Place) (target : FilePath) (rest : Route)

/-- Walks until a link is met.  A walk that ends in a directory is no way to a file. -/
def walk (entries : Std.ExtTreeMap Place Entry) (slashFollows : Bool) (position : Place) :
    List Bytes → Except WriteError Halt
  | [] => .error .isADirectory
  | name :: rest =>
    if name = FilePath.dot then walk entries slashFollows position rest
    else if name = dotDot then walk entries slashFollows position.dropLast rest
    else if rest = [] ∧ slashFollows then .error .isADirectory
    else if longestName < name.length then .error .nameTooLong
    else
      let place := position ++ [name]
      match entries[place]? with
      | some .directory => walk entries slashFollows place rest
      | some (.link target) => .ok (.link position target ⟨rest, slashFollows⟩)
      | some (.file _) => if rest = [] then .ok (.arrived place) else .error .notADirectory
      | none => if rest = [] then .ok (.arrived place) else .error .notFound

/-- The position from which a path is walked, if a relative path starts at the given
one. -/
def start (path : FilePath) (position : Place) : Place :=
  if path.isRooted then [] else position

/-- Walks to the place of a file, through so many links at most. -/
def resolve (entries : Std.ExtTreeMap Place Entry) (links : Nat) (position : Place)
    (route : Route) : Except WriteError Place :=
  match walk entries route.slashFollows position route.names with
  | .error error => .error error
  | .ok (.arrived place) => .ok place
  | .ok (.link position target rest) =>
    match links with
    | 0 => .error .tooManyLinks
    | links + 1 =>
      resolve entries links (start target position) ((Route.ofPath target).followedBy rest)

/-- The place of the file that a path names. -/
def locate (fileSystem : FileSystem) (path : FilePath) : Except WriteError Place :=
  if path.bytes = [] then .error .notFound
  else if longestPath < path.bytes.length then .error .nameTooLong
  else
    resolve fileSystem.entries mostLinks (start path fileSystem.workingDirectory) (.ofPath path)

/-! ## Writing -/

/-- What comes of a write: whether it succeeded, and the file system after it. -/
structure Writing where
  result : Except WriteError Unit
  left : FileSystem

/-- Opens the file of a path for writing. -/
def openFile (fileSystem : FileSystem) (path : FilePath) : Except WriteError Place :=
  match fileSystem.fault? with
  | some (.refused error) => .error error
  | _ => fileSystem.locate path

/-- The file system with a file at a place, whatever stood there. -/
def put (fileSystem : FileSystem) (place : Place) (data : Bytes) : FileSystem :=
  { fileSystem with entries := fileSystem.entries.insert place (.file data) }

/-- Fills the file that was opened at a place. -/
def fill (fileSystem : FileSystem) (place : Place) (data : Bytes) : Writing :=
  match fileSystem.fault? with
  | some (.brokenOff taken error) => ⟨.error error, fileSystem.put place (data.take taken)⟩
  | _ => ⟨.ok (), fileSystem.put place data⟩

/-- Writes a file. -/
def write (fileSystem : FileSystem) (path : FilePath) (data : Bytes) : Writing :=
  match fileSystem.openFile path with
  | .error error => ⟨.error error, fileSystem⟩
  | .ok place => fileSystem.fill place data

end FileSystem

end DemuxSession
