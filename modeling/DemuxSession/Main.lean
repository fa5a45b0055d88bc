import DemuxSession.CommandLine.Report

/-!
# The program

The outermost layer: it takes the arguments and the place of the demuxer library
from the environment, and prints the report.  No foreign library is linked to
this program, so none is found.
-/

open DemuxSession in
/-- Runs the program with the arguments it was started with. -/
def main (arguments : List String) : IO UInt32 := do
  let given? ← IO.getEnv Library.pathVariable
  let installation : Library.Installation :=
    ⟨.ofVariable (given?.map .ofText), .error "no foreign library is linked", fun _ => ""⟩
  let report := (CommandLine.run installation .empty arguments .empty).value
  IO.print report.stdout
  IO.eprint report.stderr
  return report.status
