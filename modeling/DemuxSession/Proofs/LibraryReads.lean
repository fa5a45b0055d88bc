import DemuxSession.Library.Backend
import DemuxSession.Library.Installation
import DemuxSession.Proofs.Simulation

/-!
# What is read through the library

The operations of the library backend, each by what it gives, what it logs, which calls it
makes, and which replies it uses up.  Loading the library makes no call.  Opening and
closing use one reply each.  So does reading the strings, and what is read and logged is
decided by that reply alone (`StringsReply.raw?`, `StringsReply.lines`).

Reading a cover uses one reply or two: a second call is made only if the first reply
announced a cover (`CoverReply.announced?`), and then the second reply decides what is
read (`CoverReply.cover?`).

What an open handle has, the next replies tell (`Replies.toldMap`, `Replies.toldCover?`).
-/

namespace DemuxSession.Library

variable {replies : Replies} {path : FilePath}

/-! ## Loading -/

section Loading

variable {State : Type} {installation : Installation}

/-- What keeps an installation from being used. -/
def Installation.failure? (installation : Installation) : Option LibraryError :=
  match installation.exports with
  | .error reason => some (.notLoaded installation.location reason)
  | .ok exported =>
    (EntryPoint.all.find? (· ∉ exported)).map fun missing =>
      .missing missing (installation.reason missing)

/-- Something can be loaded that exports all entry points. -/
def Installation.Usable (installation : Installation) : Prop :=
  ∃ exported, installation.exports = .ok exported ∧ ∀ entryPoint, entryPoint ∈ exported

theorem Installation.failure?_eq_none_iff :
    installation.failure? = none ↔ installation.Usable := by
  unfold failure? Usable
  cases installation.exports with
  | error reason => simp
  | ok exported => simp [List.find?_eq_none, EntryPoint.mem_all]

theorem load_spec (installation : Installation) (state : State) :
    let outcome : Outcome State Call (Except LibraryError Unit) := load installation state
    outcome.value = (match installation.failure? with
        | some error => .error error
        | none => .ok ()) ∧
      outcome.state = state ∧ outcome.calls = [] := by
  unfold load Installation.failure?
  cases installation.exports with
  | error reason => simp
  | ok exported =>
    simp only [Action.bind_apply, Action.log_apply, List.nil_append]
    cases EntryPoint.all.find? (· ∉ exported) with
    | none => simp
    | some missing => simp

end Loading

/-! ## Opening and closing -/

theorem allocate_of_holdsZero (hzero : path.holdsZero = true) :
    allocate path replies = ⟨none, replies, [.zeroInPath path], []⟩ := by
  simp [allocate, hzero]

theorem allocate_of_not_holdsZero (hzero : path.holdsZero = false) :
    allocate path replies =
      ⟨Token.ofNat? (replies.pointers.headD 0),
        { replies with pointers := replies.pointers.tail }, [], [.openFile path]⟩ := by
  simp [allocate, hzero, openFile]

theorem closeFile_apply (token : Token) (replies : Replies) :
    closeFile token replies =
      ⟨replies.statuses.headD 0, { replies with statuses := replies.statuses.tail }, [],
        [.closeFile token]⟩ := rfl

theorem calls_close (token : Token) (replies : Replies) :
    ((Handle.opened token).close backend replies).calls = [.closeFile token] := by
  simp [Handle.close, backend, closeFile_apply]

/-! ## Strings -/

/-- The metadata a reply tells. -/
def StringsReply.raw? (reply : StringsReply) : Option RawMetadata :=
  if reply.status ≠ 0 ∨ reply.count = 0 then none
  else
    match reply.keys?, reply.values? with
    | some keys, some values => some (keptPairs reply.count.toNat keys values)
    | _, _ => none

/-- The line that shows a pair as it was read. -/
def stringLine (pair : Bytes × Bytes) : LogLine :=
  .stringPair (Text.Latin1.decode pair.1) (Text.Latin1.decode pair.2)

/-- The lines that making metadata of a reply logs. -/
def StringsReply.lines (reply : StringsReply) : List LogLine :=
  if reply.status ≠ 0 then [.callFailed .readStrings reply.status]
  else (reply.raw?.getD []).map stringLine

theorem logPairs_apply (raw : RawMetadata) (replies : Replies) :
    logPairs raw replies = ⟨(), replies, raw.map stringLine, []⟩ := by
  induction raw with
  | nil => rfl
  | cons pair rest ih => simp [logPairs, ih, stringLine]

/-- Making metadata of a reply needs no other. -/
theorem StringsReply.metadata?_apply (reply : StringsReply) (replies : Replies) :
    reply.metadata? replies = ⟨reply.raw?, replies, reply.lines, []⟩ := by
  unfold metadata? lines raw?
  by_cases hstatus : reply.status = 0
  · by_cases hcount : reply.count = 0
    · simp [hstatus, hcount]
    · cases hkeys : reply.keys? with
      | none => simp [hstatus, hcount]
      | some keys =>
        cases hvalues : reply.values? with
        | none => simp [hstatus, hcount]
        | some values => simp [hstatus, hcount, logPairs_apply]
  · simp [hstatus]

/-- The reply to the next question for strings. -/
def Replies.nextStrings (replies : Replies) : StringsReply := replies.strings.headD .unwritten

theorem readStrings_apply (token : Token) (replies : Replies) :
    readStrings token replies =
      ⟨replies.nextStrings, { replies with strings := replies.strings.tail }, [],
        [.readStrings token]⟩ := rfl

theorem fetchMetadata_apply (token : Token) (replies : Replies) :
    fetchMetadata token replies =
      ⟨replies.nextStrings.raw?, { replies with strings := replies.strings.tail },
        .stringsCounted token replies.nextStrings.count :: replies.nextStrings.lines,
        [.readStrings token]⟩ := by
  simp [fetchMetadata, readStrings_apply, StringsReply.metadata?_apply]

/-- The metadata that the next replies tell, decoded. -/
def Replies.toldMap (replies : Replies) : MetadataMap :=
  (RawMetadata.decode replies.nextStrings.raw? () : Outcome Unit Empty MetadataMap).value

/-- The metadata of an open handle is what the next replies tell. -/
theorem metadata_spec (token : Token) (replies : Replies) :
    ((Handle.opened token).metadata backend replies).value = replies.toldMap ∧
      ((Handle.opened token).metadata backend replies).state =
        { replies with strings := replies.strings.tail } ∧
      ((Handle.opened token).metadata backend replies).calls = [.readStrings token] := by
  refine ⟨?_, ?_, ?_⟩
  · simp only [Handle.metadata, backend, Action.bind_apply, fetchMetadata_apply]
    exact RawMetadata.value_decode_eq _ _ _
  · simp [Handle.metadata, backend, fetchMetadata_apply]
  · simp [Handle.metadata, backend, fetchMetadata_apply]

/-! ## Covers -/

/-- The size and format that a first reply announces, if it announces a cover. -/
def CoverReply.announced? (reply : CoverReply) : Option CoverVariables :=
  let announced := CoverVariables.initial.after reply
  if reply.status ≠ 0 ∨ announced.size = 0 then none else some announced

/-- The cover of a second reply, given what the first announced. -/
def CoverReply.cover? (reply : CoverReply) (announced : CoverVariables) : Option Cover :=
  let settled := announced.after reply
  if reply.status ≠ 0 then none
  else
    (CoverKind.ofCode? settled.code).map fun kind =>
      ⟨kind, reply.data.padded (min announced.size.toNat settled.size.toNat)⟩

namespace Replies

/-- The reply to the next question for a cover. -/
def nextCover (replies : Replies) : CoverReply := replies.covers.headD .unwritten

/-- The replies after the next question for a cover. -/
def afterCover (replies : Replies) : Replies := { replies with covers := replies.covers.tail }

/-- The cover that the next replies tell. -/
def toldCover? (replies : Replies) : Option Cover :=
  replies.nextCover.announced?.bind replies.afterCover.nextCover.cover?

end Replies

theorem readCover_apply (token : Token) (buffer : Buffer) (replies : Replies) :
    readCover token buffer replies =
      ⟨replies.nextCover, replies.afterCover, [], [.readCover token buffer]⟩ := rfl

/-- The lines that asking for a size logs. -/
def CoverReply.queryLines (reply : CoverReply) : List LogLine :=
  if reply.status ≠ 0 then [.callFailed .readCover reply.status] else []

/-- The lines that copying a cover logs, given what the first reply announced. -/
def CoverReply.copyLines (reply : CoverReply) (announced : CoverVariables) : List LogLine :=
  let settled := announced.after reply
  if reply.status ≠ 0 then [.callFailed .readCover reply.status]
  else if CoverKind.ofCode? settled.code = none then [.unknownCoverKind settled.code]
  else []

theorem queryCover_apply (token : Token) (replies : Replies) :
    queryCover token replies =
      ⟨replies.nextCover.announced?, replies.afterCover, replies.nextCover.queryLines,
        [.readCover token .absent]⟩ := by
  unfold queryCover CoverReply.announced? CoverReply.queryLines
  by_cases hstatus : replies.nextCover.status = 0
  · by_cases hsize : (CoverVariables.initial.after replies.nextCover).size = 0
    · simp [readCover_apply, hstatus, hsize]
    · simp [readCover_apply, hstatus, hsize]
  · simp [readCover_apply, hstatus]

theorem copyCover_apply (token : Token) (announced : CoverVariables) (replies : Replies) :
    copyCover token announced replies =
      ⟨replies.nextCover.cover? announced, replies.afterCover,
        replies.nextCover.copyLines announced, [.readCover token (.room announced.size)]⟩ := by
  unfold copyCover CoverReply.cover? CoverReply.copyLines
  by_cases hstatus : replies.nextCover.status = 0
  · cases hkind : CoverKind.ofCode? (announced.after replies.nextCover).code with
    | none => simp [readCover_apply, hstatus, hkind]
    | some kind => simp [readCover_apply, hstatus, hkind]
  · simp [readCover_apply, hstatus]

theorem fetchCover_of_not_announced (token : Token)
    (hnone : replies.nextCover.announced? = none) :
    fetchCover token replies =
      ⟨none, replies.afterCover, replies.nextCover.queryLines, [.readCover token .absent]⟩ := by
  simp [fetchCover, queryCover_apply, hnone]

theorem fetchCover_of_announced (token : Token) {announced : CoverVariables}
    (hannounced : replies.nextCover.announced? = some announced) :
    fetchCover token replies =
      ⟨replies.afterCover.nextCover.cover? announced, replies.afterCover.afterCover,
        replies.nextCover.queryLines ++ replies.afterCover.nextCover.copyLines announced,
        [.readCover token .absent, .readCover token (.room announced.size)]⟩ := by
  simp [fetchCover, queryCover_apply, copyCover_apply, hannounced]

theorem value_fetchCover (token : Token) (replies : Replies) :
    (fetchCover token replies).value = replies.toldCover? := by
  unfold Replies.toldCover?
  cases hannounced : replies.nextCover.announced? with
  | none => rw [fetchCover_of_not_announced token hannounced, Option.bind_none]
  | some announced => rw [fetchCover_of_announced token hannounced, Option.bind_some]

/-- The calls that read a cover. -/
def coverCalls (token : Token) (replies : Replies) : List Library.Call :=
  .readCover token .absent ::
    (replies.nextCover.announced?.map fun announced =>
      .readCover token (.room announced.size)).toList

theorem calls_fetchCover (token : Token) (replies : Replies) :
    (fetchCover token replies).calls = coverCalls token replies := by
  unfold coverCalls
  cases hannounced : replies.nextCover.announced? with
  | none => simp [fetchCover_of_not_announced token hannounced]
  | some announced => simp [fetchCover_of_announced token hannounced]

end DemuxSession.Library
