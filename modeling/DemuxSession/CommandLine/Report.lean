import DemuxSession.CommandLine.Invocation
import DemuxSession.FileSystem
import DemuxSession.LocalMetadata

/-!
# Reports

A run of the program prints what it learns about a file, line by line, and saves
the cover if asked to.  Whatever stops it, the session it opened is ended: a
failed write leaves the handle to be dropped, and everything else closes it.
-/

namespace DemuxSession.CommandLine

/-! ## What is printed -/

/-- Lines as they are printed. -/
def printed (lines : List String) : String := String.join (lines.map (· ++ "\n"))

def usage : List String :=
  ["Usage: mp4_metadata <file.mp4> [--cover <cover_file>]",
    "Example: mp4_metadata flight_0001.mp4 --cover cover.jpg"]

def fileLine (file : String) : String := "File: " ++ file

/-- One line for each entry, in the order of the keys. -/
def metadataLines (map : MetadataMap) : List String :=
  if map.isEmpty then ["No metadata"]
  else "Metadata:" :: map.toList.map fun (key, value) => "  " ++ key ++ ": " ++ value

/-- The thermal entries, if there is one; a missing one is shown as a dash. -/
def thermalLines (thermal : ThermalMetadata) : List String :=
  if thermal.isThermal then
    ["Thermal: metaversion=" ++ thermal.metaversion?.getD "-" ++
      " alignment=" ++ thermal.alignment?.getD "-"]
  else []

def coverLine (cover : Cover) : String :=
  "Cover: " ++ toString cover.data.length ++ " bytes (" ++ cover.kind.name ++ ")"

def savedLine (file : String) : String := "Cover saved to " ++ file

/-! ## Runs -/

/-- What can stop a run. -/
inductive RunError where
  | demux (error : DemuxError)
  | write (error : WriteError)
  deriving DecidableEq

def RunError.message : RunError → String
  | .demux error => error.message
  | .write error => error.message

/-- The lines a run printed, what stopped it if anything did, and the file system it
left. -/
structure Progress where
  lines : List String
  result : Except RunError Unit
  left : FileSystem

/-- Saves the cover if there is one and a file was named for it. -/
def saveCover (fileSystem : FileSystem) (coverFile? : Option String) (cover? : Option Cover) :
    Progress :=
  match cover? with
  | none => ⟨[], .ok (), fileSystem⟩
  | some cover =>
    match coverFile? with
    | none => ⟨[coverLine cover], .ok (), fileSystem⟩
    | some file =>
      let writing := fileSystem.write (.ofText file) cover.data
      match writing.result with
      | .ok () => ⟨[coverLine cover, savedLine file], .ok (), writing.left⟩
      | .error error => ⟨[coverLine cover], .error (.write error), writing.left⟩

/-- Reads and prints what an open handle has, saves the cover, and ends the
session. -/
def inspect (fileSystem : FileSystem) (invocation : Invocation) (handle : Handle) :
    Action Library.Replies Library.Call Progress := do
  let map ← handle.metadata Library.backend
  let saved := saveCover fileSystem invocation.coverFile? (← handle.cover Library.backend)
  match saved.result with
  | .ok () => let _ ← handle.close Library.backend
  | .error _ => handle.drop Library.backend
  return ⟨fileLine invocation.file :: metadataLines map ++ thermalLines (.ofMap map) ++ saved.lines,
    saved.result, saved.left⟩

/-- Loads the library, opens the file and inspects it. -/
def runInvocation (installation : Library.Installation) (fileSystem : FileSystem)
    (invocation : Invocation) : Action Library.Replies Library.Call Progress := do
  match ← Library.load installation with
  | .error error => return ⟨[], .error (.demux (.loading error)), fileSystem⟩
  | .ok () =>
    match ← Handle.openOn Library.backend (.ofText invocation.file) with
    | .error error => return ⟨[], .error (.demux error), fileSystem⟩
    | .ok handle => inspect fileSystem invocation handle

/-- What a run leaves behind. -/
structure Report where
  status : UInt32
  stdout : String
  stderr : String
  left : FileSystem

def Progress.report (progress : Progress) : Report :=
  match progress.result with
  | .ok () => ⟨0, printed progress.lines, "", progress.left⟩
  | .error error => ⟨1, printed progress.lines, printed [error.message], progress.left⟩

/-- Runs the program.  Arguments that do not follow the usage get it printed. -/
def run (installation : Library.Installation) (fileSystem : FileSystem)
    (arguments : List String) : Action Library.Replies Library.Call Report := do
  match Invocation.parse? arguments with
  | none => return ⟨0, printed usage, "", fileSystem⟩
  | some invocation => return (← runInvocation installation fileSystem invocation).report

end DemuxSession.CommandLine
