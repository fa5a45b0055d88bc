/-!
# Invocations

The arguments name one file.  An option may name a file for the cover; of
several, the last counts.  The word after the option is its value, whatever it
looks like.
-/

namespace DemuxSession.CommandLine

/-- What the program is asked to do. -/
structure Invocation where
  file : String
  coverFile? : Option String
  deriving DecidableEq

namespace Invocation

/-- The option that names the file for the cover. -/
def coverOption : String := "--cover"

/-- Reads the arguments that are left, given what was read so far. -/
def parseFrom (file? coverFile? : Option String) : List String → Option Invocation
  | [] => file?.map fun file => ⟨file, coverFile?⟩
  | argument :: rest =>
    if argument = coverOption then
      match rest with
      | [] => none
      | value :: rest => parseFrom file? (some value) rest
    else
      match file? with
      | none => parseFrom (some argument) coverFile? rest
      | some _ => none

/-- The invocation given by the arguments, if they follow the usage. -/
def parse? (arguments : List String) : Option Invocation :=
  parseFrom none none arguments

end Invocation

end DemuxSession.CommandLine
