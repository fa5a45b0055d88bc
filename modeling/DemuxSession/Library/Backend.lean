import DemuxSession.Backend
import DemuxSession.Library.Replies

/-!
# The demuxer library as a backend

Tokens are the pointers the library gives.  Paths and strings cross the border
as zero-terminated strings, so a path with a zero byte never reaches the library
and a string is seen up to its first zero byte.

A cover is read in two calls: the first asks for its size, the second hands over
a buffer of that size.  The variables for size and format belong to both calls,
so what the second call does not write stays as the first one left it.
-/

namespace DemuxSession.Library

/-! ## Sessions -/

/-- Opens a file, unless its path cannot be handed over. -/
def allocate (path : FilePath) : Action Replies Call (Option Token) := do
  if path.holdsZero then
    Action.log (.zeroInPath path)
    return none
  else
    return Token.ofNat? (← openFile path)

/-! ## Strings -/

/-- A pair of entries as far as it counts: both have to be there, and each is seen
up to its first zero byte. -/
def keptPair? : Option Bytes × Option Bytes → Option (Bytes × Bytes)
  | (some key, some value) => some (key.untilZero, value.untilZero)
  | _ => none

/-- The pairs among the first `count` entries of the two arrays. -/
def keptPairs (count : Nat) (keys values : List (Option Bytes)) : RawMetadata :=
  ((keys.zip values).take count).filterMap keptPair?

/-- Logs every pair. -/
def logPairs : RawMetadata → Action Replies Call Unit
  | [] => pure ()
  | (key, value) :: rest => do
    Action.log (.stringPair (Text.Latin1.decode key) (Text.Latin1.decode value))
    logPairs rest

/-- The number of pairs, zero if it was not written. -/
def StringsReply.count (reply : StringsReply) : UInt32 := reply.count?.getD 0

/-- The metadata of a reply; none if the library failed, counted nothing, or left
one of the two arrays unwritten. -/
def StringsReply.metadata? (reply : StringsReply) :
    Action Replies Call (Option RawMetadata) := do
  if reply.status ≠ 0 then
    Action.log (.callFailed .readStrings reply.status)
    return none
  else if reply.count = 0 then return none
  else
    match reply.keys?, reply.values? with
    | some keys, some values =>
      let raw := keptPairs reply.count.toNat keys values
      logPairs raw
      return some raw
    | _, _ => return none

/-- Reads the metadata of a session. -/
def fetchMetadata (token : Token) : Action Replies Call (Option RawMetadata) := do
  let reply ← readStrings token
  Action.log (.stringsCounted token reply.count)
  reply.metadata?

/-! ## Covers -/

/-- The variables that the calls for a cover write to. -/
structure CoverVariables where
  size : UInt32
  code : Int32
  deriving DecidableEq

namespace CoverVariables

/-- The variables before the first call. -/
def initial : CoverVariables := ⟨0, 0⟩

/-- The variables after a reply. -/
def after (earlier : CoverVariables) (reply : CoverReply) : CoverVariables :=
  ⟨reply.size?.getD earlier.size, reply.code?.getD earlier.code⟩

end CoverVariables

/-- Asks for the size of the cover; none if the library failed or there is no
cover. -/
def queryCover (token : Token) : Action Replies Call (Option CoverVariables) := do
  let reply ← readCover token .absent
  let announced := CoverVariables.initial.after reply
  if reply.status ≠ 0 then
    Action.log (.callFailed .readCover reply.status)
    return none
  else if announced.size = 0 then return none
  else return some announced

/-- Reads a cover of the size and format that were announced.  Of the buffer, the
part up to the size of the second call counts. -/
def copyCover (token : Token) (announced : CoverVariables) :
    Action Replies Call (Option Cover) := do
  let reply ← readCover token (.room announced.size)
  let settled := announced.after reply
  if reply.status ≠ 0 then
    Action.log (.callFailed .readCover reply.status)
    return none
  else
    match CoverKind.ofCode? settled.code with
    | some kind =>
      return some ⟨kind, reply.data.padded (min announced.size.toNat settled.size.toNat)⟩
    | none =>
      Action.log (.unknownCoverKind settled.code)
      return none

/-- Reads the cover of a session. -/
def fetchCover (token : Token) : Action Replies Call (Option Cover) := do
  match ← queryCover token with
  | some announced => copyCover token announced
  | none => return none

/-- The demuxer library as a backend. -/
def backend : Backend Replies Call where
  allocate := allocate
  release := closeFile
  fetchMetadata := fetchMetadata
  coverReader? := some fetchCover

end DemuxSession.Library
