import DemuxSession.Proofs.Simulation
import DemuxSession.Script

/-!
# Holders make no difference

A backend held by someone is another backend: it passes every operation on.  The two are not
equal as they are given, because a holder reads covers whether or not what it holds knows
them.  They are equal in what they do (`Backend.Agrees`), and that is all a client can get
at: a handle asks for covers through `Backend.fetchCover` alone, never through the reader.

So backends that agree are the same backend to handles, to the steps of a client, and to
runs of any length, with the calls that are made and the states in between
(`Client.step_of_agrees`).  Agreement goes through any number of holders
(`Backend.through_agrees`).

Every handle may be used through holders of its own (`Client.runThrough`).  Whatever is done
through one of them is done to the one backend, where all others find it.
-/

namespace DemuxSession

variable {State Call Command Report : Type}

/-! ## Backends that do the same -/

namespace Backend

/-- Two backends with the same operations.  The covers are compared as they are fetched, so
that it does not matter which of the backends have a cover reader of their own. -/
structure Agrees (first second : Backend State Call) : Prop where
  allocate : first.allocate = second.allocate
  release : first.release = second.release
  fetchMetadata : first.fetchMetadata = second.fetchMetadata
  fetchCover : first.fetchCover = second.fetchCover

namespace Agrees

variable {first second third : Backend State Call}

theorem refl (backend : Backend State Call) : backend.Agrees backend := ⟨rfl, rfl, rfl, rfl⟩

theorem trans (hfirst : first.Agrees second) (hsecond : second.Agrees third) :
    first.Agrees third where
  allocate := hfirst.allocate.trans hsecond.allocate
  release := hfirst.release.trans hsecond.release
  fetchMetadata := hfirst.fetchMetadata.trans hsecond.fetchMetadata
  fetchCover := hfirst.fetchCover.trans hsecond.fetchCover

theorem answer (hagrees : first.Agrees second) (request : Request) :
    first.answer request = second.answer request := by
  cases request with
  | allocate path => simp only [Backend.answer, hagrees.allocate]
  | release token => simp only [Backend.answer, hagrees.release]
  | fetchMetadata token => simp only [Backend.answer, hagrees.fetchMetadata]
  | fetchCover token => simp only [Backend.answer, hagrees.fetchCover]

end Agrees

/-- A holder passes on all operations, and answers for covers what the backend answers. -/
theorem heldBy_agrees (backend : Backend State Call) (holder : Holder) :
    (backend.heldBy holder).Agrees backend where
  allocate := by cases holder <;> rfl
  release := by cases holder <;> rfl
  fetchMetadata := by cases holder <;> rfl
  fetchCover := backend.fetchCover_heldBy holder

/-- So do any number of holders. -/
theorem through_agrees (backend : Backend State Call) (holders : List Holder) :
    (backend.through holders).Agrees backend := by
  induction holders with
  | nil => exact .refl backend
  | cons holder rest ih => exact ((backend.through rest).heldBy_agrees holder).trans ih

end Backend

/-! ## Handles and clients on backends that do the same -/

section Agreeing

variable {first second : Backend State Call} (hagrees : first.Agrees second)
include hagrees

namespace Handle

theorem openOn_of_agrees (path : FilePath) : openOn first path = openOn second path := by
  unfold openOn
  rw [hagrees.allocate]

theorem metadata_of_agrees (handle : Handle) :
    handle.metadata first = handle.metadata second := by
  cases handle with
  | opened token => simp only [metadata, hagrees.fetchMetadata]
  | closed => rfl

theorem thermal_of_agrees (handle : Handle) :
    handle.thermal first = handle.thermal second := by
  unfold thermal
  rw [handle.metadata_of_agrees hagrees]

theorem cover_of_agrees (handle : Handle) : handle.cover first = handle.cover second := by
  cases handle with
  | opened token => simp only [cover, hagrees.fetchCover]
  | closed => rfl

theorem close_of_agrees (handle : Handle) : handle.close first = handle.close second := by
  cases handle with
  | opened token => simp only [close, hagrees.release]
  | closed => rfl

theorem drop_of_agrees (handle : Handle) : handle.drop first = handle.drop second := by
  cases handle with
  | opened token => simp only [drop, (opened token).close_of_agrees hagrees]
  | closed => rfl

end Handle

namespace Client

theorem openHandle_of_agrees (number : Int) (path : FilePath) :
    (openHandle first number path : Action (Client State) Call (Answer Report)) =
      openHandle second number path := by
  unfold openHandle
  rw [Handle.openOn_of_agrees hagrees]

theorem useHandle_of_agrees (number : Int) (handle : Handle) (use : HandleUse) :
    (useHandle first number handle use : Action (Client State) Call (Answer Report)) =
      useHandle second number handle use := by
  cases use with
  | isOpen | describe | forget => rfl
  | metadata => simp only [useHandle, handle.metadata_of_agrees hagrees]
  | thermal => simp only [useHandle, handle.thermal_of_agrees hagrees]
  | cover => simp only [useHandle, handle.cover_of_agrees hagrees]
  | close => simp only [useHandle, handle.close_of_agrees hagrees]
  | drop => simp only [useHandle, handle.drop_of_agrees hagrees]

theorem dropEach_of_agrees (entries : List (Int × Handle)) :
    dropEach first entries = dropEach second entries := by
  induction entries with
  | nil => rfl
  | cons entry rest ih => simp only [dropEach, entry.2.drop_of_agrees hagrees, ih]

theorem finish_of_agrees : finish first = finish second := by
  simp only [finish, dropEach_of_agrees hagrees]

end Client

end Agreeing

namespace Client

/-- Services with the same commands on backends that do the same take every step alike,
with the calls they make and the state they leave. -/
theorem step_of_agrees {first second : Service State Call Command Report}
    (hagrees : first.backend.Agrees second.backend) (hperform : first.perform = second.perform)
    (next : Step Command) : step first next = step second next := by
  cases next with
  | openHandle number path => simp only [step, openHandle_of_agrees hagrees]
  | useHandle number use => simp only [step, useHandle_of_agrees hagrees]
  | request request => simp only [step, hagrees.answer]
  | command command => simp only [step, hperform]

/-! ## Runs through holders -/

/-- A step is taken through holders as it is taken without them. -/
theorem step_through (service : Service State Call Command Report) (holders : List Holder)
    (next : Step Command) : step (service.through holders) next = step service next :=
  have hagrees : (service.through holders).backend.Agrees service.backend :=
    service.backend.through_agrees holders
  step_of_agrees hagrees rfl next

theorem run_through (service : Service State Call Command Report) (holders : List Holder)
    (steps : List (Step Command)) : ∀ client : Client State,
      run (service.through holders) client steps = run service client steps := by
  induction steps with
  | nil => exact fun _ => rfl
  | cons next rest ih =>
    intro client
    simp only [run, step_through, ih]

theorem after_through (service : Service State Call Command Report) (holders : List Holder)
    (client : Client State) (steps : List (Step Command)) :
    after (service.through holders) client steps = after service client steps := by
  simp only [after, step_through]

/-- The outcomes of steps that are each taken through holders of their own. -/
def runThrough (service : Service State Call Command Report) :
    Client State → List (List Holder × Step Command) →
      List (Outcome (Client State) Call (Answer Report))
  | _, [] => []
  | client, (holders, next) :: rest =>
    let outcome := step (service.through holders) next client
    outcome :: runThrough service outcome.state rest

theorem runThrough_eq (service : Service State Call Command Report)
    (moments : List (List Holder × Step Command)) : ∀ client : Client State,
      runThrough service client moments = run service client (moments.map Prod.snd) := by
  induction moments with
  | nil => exact fun _ => rfl
  | cons moment rest ih =>
    intro client
    simp only [runThrough, List.map_cons, run, step_through, ih]

/-- Drops handles one after the other, each through the holders under its number. -/
def dropEachThrough (backend : Backend State Call) (heldThrough : Int → List Holder) :
    List (Int × Handle) → Action (Client State) Call Unit
  | [] => pure ()
  | (number, handle) :: rest => do
    onBackend (handle.drop (backend.through (heldThrough number)))
    letGo number
    dropEachThrough backend heldThrough rest

/-- Drops every handle that is still held, each through the holders under its number. -/
def finishThrough (backend : Backend State Call) (heldThrough : Int → List Holder) :
    Action (Client State) Call Unit := do
  dropEachThrough backend heldThrough (← Action.read fun client => client.handles.toList)

theorem dropEachThrough_eq (backend : Backend State Call) (heldThrough : Int → List Holder)
    (entries : List (Int × Handle)) :
    dropEachThrough backend heldThrough entries = dropEach backend entries := by
  induction entries with
  | nil => rfl
  | cons entry rest ih =>
    obtain ⟨number, handle⟩ := entry
    have hagrees := backend.through_agrees (heldThrough number)
    simp only [dropEachThrough, dropEach, handle.drop_of_agrees hagrees, ih]

theorem finishThrough_eq (backend : Backend State Call) (heldThrough : Int → List Holder) :
    finishThrough backend heldThrough = finish backend := by
  simp only [finishThrough, finish, dropEachThrough_eq]

/-- A run with its end is the same through holders. -/
theorem play_through (service : Service State Call Command Report) (holders : List Holder)
    (client : Client State) (steps : List (Step Command)) :
    play (service.through holders) client steps = play service client steps := by
  have hfinish : finish (service.through holders).backend = finish service.backend :=
    finish_of_agrees (service.backend.through_agrees holders)
  simp only [play, run_through, after_through, hfinish]

/-! ## The main statement -/

/-- **Holders make no difference.**  Take any service on any backend, with a cover reader or
without, and a client of it in any state.

* Through any number of holders, a run and its end give the same outcomes as without them:
  the answers, the log, the calls of the backend in their order, and the states.  The
  exchanges are the same too, when the backend records them.
* The same is true if every step, and at the end every handle, goes through holders of its
  own: what is done through any of them is done to one and the same backend.
* A cover reader is reached through all holders, and a backend without one has no covers
  through any of them. -/
theorem holders_make_no_difference (service : Service State Call Command Report)
    (client : Client State) :
    (∀ holders steps,
      play (service.through holders) client steps = play service client steps ∧
      play (service.recorded.through holders) client steps = play service.recorded client steps) ∧
    (∀ moments, runThrough service client moments = run service client (moments.map Prod.snd)) ∧
    (∀ heldThrough, finishThrough service.backend heldThrough client =
      finish service.backend client) ∧
    (∀ holders readCover, service.backend.coverReader? = some readCover →
      (service.backend.through holders).fetchCover = readCover) ∧
    (∀ holders, service.backend.coverReader? = none →
      (service.backend.through holders).fetchCover = fun _ => pure none) := by
  refine ⟨fun holders steps => ⟨play_through service holders client steps,
    play_through service.recorded holders client steps⟩,
    fun moments => runThrough_eq service moments client, fun heldThrough => ?_,
    fun holders readCover hreader => ?_, fun holders hreader => ?_⟩
  · rw [finishThrough_eq]
  · rw [Backend.fetchCover_through]
    funext token
    simp only [Backend.fetchCover, hreader]
  · rw [Backend.fetchCover_through]
    funext token
    simp only [Backend.fetchCover, hreader]

/-- Two handles on a script with a cover, one through four holders and one through a single
one: the cover is read through the four, and is used up for the other handle. -/
theorem holders_make_no_difference_nested :
    let cover : Cover := ⟨.png, [1]⟩
    let token : Token := ⟨7, by decide⟩
    let script : Script := ⟨[some token, some token], [], [], [some cover]⟩
    let service := (Script.backend true).alone
    let nested := [Holder.owned, .shared, .borrowed, .hidden]
    let outcomes := runThrough service (fresh script)
      [(nested, .openHandle 1 ⟨[97]⟩), ([.shared], .openHandle 2 ⟨[97]⟩),
        (nested, .useHandle 1 .cover), ([.shared], .useHandle 2 .cover)]
    (outcomes.map fun outcome => outcome.state.backend.covers) =
        [[some cover], [some cover], [], []] ∧
      outcomes.flatMap Outcome.calls =
        [⟨.allocate ⟨[97]⟩, .token (some token)⟩, ⟨.allocate ⟨[97]⟩, .token (some token)⟩,
          ⟨.fetchCover token, .cover (some cover)⟩, ⟨.fetchCover token, .cover none⟩] ∧
      ∃ readCover, service.backend.coverReader? = some readCover ∧
        (service.backend.through nested).fetchCover = readCover := by
  intro cover token script service nested outcomes
  obtain ⟨-, hmoments, -, hreader, -⟩ := holders_make_no_difference service (fresh script)
  have houtcomes : outcomes = _ := hmoments _
  rw [houtcomes]
  exact ⟨by decide, by decide, _, rfl, hreader nested _ rfl⟩

end Client

end DemuxSession
