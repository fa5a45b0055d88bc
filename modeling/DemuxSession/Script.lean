import DemuxSession.Backend

/-!
# Scripted backends

A backend that replies from a script: one queue of replies for each operation.
Once a queue is used up, the reply is that there is nothing, or that all went
well.  Every exchange is recorded.
-/

namespace DemuxSession

/-- The replies still to be given. -/
structure Script where
  tokens : List (Option Token)
  statuses : List Int32
  metadata : List (Option RawMetadata)
  covers : List (Option Cover)
  deriving DecidableEq

namespace Script

/-- The backend that replies from the script, with or without a cover reader. -/
def replying (knowsCovers : Bool) : Backend Script Empty where
  allocate _ := Action.update fun script =>
    (script.tokens.headD none, { script with tokens := script.tokens.tail })
  release _ := Action.update fun script =>
    (script.statuses.headD 0, { script with statuses := script.statuses.tail })
  fetchMetadata _ := Action.update fun script =>
    (script.metadata.headD none, { script with metadata := script.metadata.tail })
  coverReader? :=
    if knowsCovers then
      some fun _ => Action.update fun script =>
        (script.covers.headD none, { script with covers := script.covers.tail })
    else none

/-- The scripted backend with its exchanges recorded. -/
def backend (knowsCovers : Bool) : Backend Script Exchange :=
  (replying knowsCovers).recorded

end Script

end DemuxSession
