import DemuxSession.Failure
import Mathlib.Logic.Function.Iterate
import Mathlib.Tactic.SplitIfs

/-!
# Converting a failure keeps its origin

A failure of this library converts to one of input and output, and back.  On the way back
it is wrapped, and on the way there a wrapping is taken off before the next one is put on.
So wrappings do not pile up, however often a failure goes there and back:

* `DemuxError.toFileError_iterate`: what the failure converts to never changes,
* `DemuxError.iterate_rewrapped`: going more than once is going once,
* `DemuxError.sources_eq`: behind every failure stands one other, with the message of what
  the failure converts to.

What can be read off a failure is therefore settled by where it came from (`Origin`) and by
whether it was ever converted back: `Origin.kept_by_conversions`.
-/

namespace DemuxSession

/-! ## There and back -/

namespace DemuxError

/-- The failure after it was converted to one of input and output, and back. -/
def rewrapped (error : DemuxError) : DemuxError := .ofFileError error.toFileError

theorem toFileError_rewrapped (error : DemuxError) :
    error.rewrapped.toFileError = error.toFileError :=
  toFileError_ofFileError _

theorem toFileError_iterate (error : DemuxError) (times : Nat) :
    (rewrapped^[times] error).toFileError = error.toFileError := by
  induction times with
  | zero => rfl
  | succ times ih =>
    calc (rewrapped^[times + 1] error).toFileError
        = (rewrapped^[times] error).rewrapped.toFileError := by
          rw [Function.iterate_succ_apply']
      _ = (rewrapped^[times] error).toFileError := toFileError_rewrapped _
      _ = error.toFileError := ih

theorem iterate_rewrapped (error : DemuxError) (times : Nat) :
    rewrapped^[times] error = if times = 0 then error else error.rewrapped := by
  cases times with
  | zero => rfl
  | succ times =>
    rw [Function.iterate_succ_apply', rewrapped, toFileError_iterate, rewrapped,
      if_neg times.succ_ne_zero]

theorem sources_eq (error : DemuxError) : error.sources = [error.toFileError.message] := by
  cases error with
  | opening error => rfl
  | loading error => rfl
  | other error =>
    cases error with
    | described kind message => rfl
    | around kind cause => cases cause <;> rfl

theorem message_rewrapped (error : DemuxError) :
    error.rewrapped.message = "I/O error: " ++ error.toFileError.message := rfl

end DemuxError

/-! ## Where a failure came from -/

/-- What is told about a failure when it is first reported. -/
inductive Origin where
  /-- The file could not be opened. -/
  | opening (path : FilePath)
  /-- The library could not be used. -/
  | loading (error : LibraryError)
  /-- Any other failure of input or output, in words. -/
  | described (kind : FailureKind) (message : String)
  deriving DecidableEq

namespace Origin

/-- The origin as a failure of this library. -/
def failure : Origin → DemuxError
  | .opening path => .opening ⟨path⟩
  | .loading error => .loading error
  | .described kind message => .ofFileError (.described kind message)

/-- The origin as a failure of input and output, without being one of this library first. -/
def fileError : Origin → FileError
  | .opening path => .ofOpenError ⟨path⟩
  | .loading error => .ofLibraryError error
  | .described kind message => .described kind message

/-- What went wrong, in words. -/
def words : Origin → String
  | .opening path => "cannot open file " ++ path.display
  | .loading error => error.message
  | .described _ message => message

/-- What stands before the words when the failure is first reported. -/
def heading : Origin → String
  | .opening _ => "Open error: "
  | .loading _ => "Library error: "
  | .described .. => "I/O error: "

def kind : Origin → FailureKind
  | .opening _ => .notFound
  | .loading _ => .other
  | .described kind _ => kind

/-- The path that could not be opened. -/
def path? : Origin → Option FilePath
  | .opening path => some path
  | .loading _ | .described .. => none

theorem toFileError_failure (origin : Origin) : origin.failure.toFileError = origin.fileError := by
  cases origin <;> rfl

theorem message_fileError (origin : Origin) : origin.fileError.message = origin.words := by
  cases origin <;> rfl

theorem kind_fileError (origin : Origin) : origin.fileError.kind = origin.kind := by
  cases origin <;> rfl

theorem message_failure (origin : Origin) :
    origin.failure.message = origin.heading ++ origin.words := by
  cases origin <;> rfl

theorem openPath?_failure (origin : Origin) : origin.failure.openPath? = origin.path? := by
  cases origin <;> rfl

/-! ## The main statement -/

/-- **Converting a failure keeps its origin.**  Of a failure that went there and back any
number of times:

* it converts to what its origin converts to directly, of the kind and with the words of
  the origin;
* one other failure stands behind it, with these words;
* its own message is the words after a heading, which is the heading of the origin as long
  as the failure never went anywhere, and the one of input and output from then on;
* so the failure is the same whether it went once or more often, and if it was one of input
  and output in the first place, it is the same from the start;
* the path that did not open can be asked for until the failure goes anywhere, and not
  afterwards. -/
theorem kept_by_conversions (origin : Origin) (times : Nat) :
    let error := DemuxError.rewrapped^[times] origin.failure
    (error.toFileError = origin.fileError ∧ error.toFileError.message = origin.words ∧
      error.toFileError.kind = origin.kind) ∧
    error.sources = [origin.words] ∧
    error.message = (if times = 0 then origin.heading else "I/O error: ") ++ origin.words ∧
    (DemuxError.rewrapped^[times + 1] origin.failure = origin.failure.rewrapped ∧
      ∀ kind message, (DemuxError.rewrapped^[times] (described kind message).failure) =
        (described kind message).failure) ∧
    error.openPath? = (if times = 0 then origin.path? else none) := by
  intro error
  have hconverted : error.toFileError = origin.fileError := by
    rw [DemuxError.toFileError_iterate, toFileError_failure]
  have hwords : error.toFileError.message = origin.words := by
    rw [hconverted, message_fileError]
  have hdescribed : ∀ kind message, DemuxError.rewrapped^[times]
      (described kind message).failure = (described kind message).failure :=
    fun kind message => Function.iterate_fixed rfl times
  have herror : error = if times = 0 then origin.failure else origin.failure.rewrapped :=
    DemuxError.iterate_rewrapped _ _
  refine ⟨⟨hconverted, hwords, by rw [hconverted, kind_fileError]⟩,
    by rw [DemuxError.sources_eq, hwords], ?_, ⟨?_, hdescribed⟩, ?_⟩
  · rw [herror]
    split_ifs
    · exact origin.message_failure
    · rw [DemuxError.message_rewrapped, toFileError_failure, message_fileError]
  · rw [DemuxError.iterate_rewrapped, if_neg times.succ_ne_zero]
  · rw [herror]
    split_ifs
    · exact origin.openPath?_failure
    · rfl

example : (DemuxError.rewrapped^[3] (Origin.opening (.ofText "a")).failure).message =
    "I/O error: cannot open file a" := by decide

end Origin

end DemuxSession
