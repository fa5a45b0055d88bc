import DemuxSession.Action

/-!
# What the demuxer library answers

The library is foreign code.  What matters of it is what its entry points
answer, so it is given by its answers to come: a queue for each entry point.
Every use of an entry point is a call in the trace.

The results of an entry point come back through variables of the caller, and the
library may leave any of them unwritten.
-/

namespace DemuxSession.Library

/-- What the library answers when asked for the strings of a session. -/
structure StringsReply where
  status : Int32
  /-- The number of pairs, if written. -/
  count? : Option UInt32
  /-- The keys, if written.  A missing entry is a null pointer. -/
  keys? : Option (List (Option Bytes))
  /-- The values, if written. -/
  values? : Option (List (Option Bytes))
  deriving DecidableEq

/-- Success, with nothing written. -/
def StringsReply.unwritten : StringsReply := ⟨0, none, none, none⟩

/-- What the library answers when asked for the cover of a session. -/
structure CoverReply where
  status : Int32
  /-- The size of the cover, if written. -/
  size? : Option UInt32
  /-- The number of the picture format, if written. -/
  code? : Option Int32
  /-- The bytes copied into the buffer, as far as they fit. -/
  data : Bytes
  deriving DecidableEq

/-- Success, with nothing written. -/
def CoverReply.unwritten : CoverReply := ⟨0, none, none, []⟩

/-- The buffer handed over for a cover. -/
inductive Buffer where
  /-- The null pointer: only the size is asked for. -/
  | absent
  /-- A buffer of the given size, filled with zeros. -/
  | room (size : UInt32)
  deriving DecidableEq

namespace Buffer

def isAbsent : Buffer → Bool
  | .absent => true
  | .room _ => false

def size : Buffer → UInt32
  | .absent => 0
  | .room size => size

end Buffer

/-- A use of an entry point. -/
inductive Call where
  | openFile (path : FilePath)
  | closeFile (token : Token)
  | readStrings (token : Token)
  | readCover (token : Token) (buffer : Buffer)
  deriving DecidableEq

/-- The answers the library is going to give. -/
structure Replies where
  /-- The pointers of opened files; zero is the null pointer. -/
  pointers : List Nat
  statuses : List Int32
  strings : List StringsReply
  covers : List CoverReply
  deriving DecidableEq

namespace Replies

/-- No answers but the usual ones. -/
def empty : Replies := ⟨[], [], [], []⟩

end Replies

/-! ## The entry points -/

def openFile (path : FilePath) : Action Replies Call Nat := do
  Action.call (.openFile path)
  Action.update fun replies =>
    (replies.pointers.headD 0, { replies with pointers := replies.pointers.tail })

def closeFile (token : Token) : Action Replies Call Int32 := do
  Action.call (.closeFile token)
  Action.update fun replies =>
    (replies.statuses.headD 0, { replies with statuses := replies.statuses.tail })

def readStrings (token : Token) : Action Replies Call StringsReply := do
  Action.call (.readStrings token)
  Action.update fun replies =>
    (replies.strings.headD .unwritten, { replies with strings := replies.strings.tail })

def readCover (token : Token) (buffer : Buffer) : Action Replies Call CoverReply := do
  Action.call (.readCover token buffer)
  Action.update fun replies =>
    (replies.covers.headD .unwritten, { replies with covers := replies.covers.tail })

end DemuxSession.Library
