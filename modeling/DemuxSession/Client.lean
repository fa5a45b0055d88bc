import DemuxSession.Handle
import DemuxSession.Registry

/-!
# Clients

A client holds any number of handles on one backend, under numbers of its own
choice.  It uses them one step at a time, makes requests of the backend past the
handles, and lets go of what it still holds at the end, in the order of the
numbers.  A handle may also be forgotten; then nothing ends its session.
-/

namespace DemuxSession

/-- A backend together with the commands it takes besides requests. -/
structure Service (State Call Command Report : Type) where
  backend : Backend State Call
  perform : Command → Action State Call Report

/-- A backend that takes no commands. -/
def Backend.alone {State Call : Type} (backend : Backend State Call) :
    Service State Call Empty Empty where
  backend := backend
  perform := nofun

/-- The service with its backend reached through holders. -/
def Service.through {State Call Command Report : Type}
    (service : Service State Call Command Report) (holders : List Holder) :
    Service State Call Command Report :=
  { service with backend := service.backend.through holders }

/-- The registry with its commands. -/
def Registry.service {Call : Type} : Service Registry Call Registry.Command Registry.Report where
  backend := Registry.backend
  perform := Registry.perform

/-- The backend's state, the handles held, and the sessions of handles that were
forgotten while open. -/
structure Client (State : Type) where
  backend : State
  handles : Std.ExtTreeMap Int Handle
  forgotten : List Token

/-! ## Steps and answers -/

/-- What can be done with a handle that is held. -/
inductive HandleUse where
  | isOpen
  | metadata
  | thermal
  | cover
  | describe
  | close
  /-- Lets go of the handle and of its session. -/
  | drop
  /-- Lets go of the handle but not of its session. -/
  | forget
  deriving DecidableEq

/-- One step of a client. -/
inductive Step (Command : Type) where
  | openHandle (number : Int) (path : FilePath)
  | useHandle (number : Int) (use : HandleUse)
  | request (request : Request)
  | command (command : Command)
  deriving DecidableEq

/-- What comes of a step. -/
inductive Answer (Report : Type) where
  | opened
  | notOpened (error : DemuxError)
  /-- The number is taken. -/
  | handleInUse
  /-- No handle is held under the number. -/
  | noHandle
  | isOpen (open? : Bool)
  | metadata (map : MetadataMap)
  | thermal (thermal : ThermalMetadata)
  | cover (cover? : Option Cover)
  | description (text : String)
  | closed (open? : Bool)
  /-- The handle is no longer held. -/
  | letGo
  | reply (reply : Reply)
  | report (report : Report)

namespace Client

variable {State Call Command Report : Type}

/-- A client that holds no handles. -/
def fresh (backend : State) : Client State := ⟨backend, ∅, []⟩

/-- An action on the backend as an action of the client. -/
def onBackend {Value : Type} (action : Action State Call Value) :
    Action (Client State) Call Value := fun client =>
  let outcome := action client.backend
  ⟨outcome.value, { client with backend := outcome.state }, outcome.log, outcome.calls⟩

/-- Holds a handle under a number. -/
def hold (number : Int) (handle : Handle) : Action (Client State) Call Unit :=
  Action.update fun client => ((), { client with handles := client.handles.insert number handle })

/-- No longer holds the handle with the number. -/
def letGo (number : Int) : Action (Client State) Call Unit :=
  Action.update fun client => ((), { client with handles := client.handles.erase number })

/-- Remembers the session of a handle that is forgotten. -/
def remember (handle : Handle) : Action (Client State) Call Unit :=
  Action.update fun client =>
    ((), { client with forgotten := handle.token?.toList ++ client.forgotten })

/-- Opens a file under a free number. -/
def openHandle (backend : Backend State Call) (number : Int) (path : FilePath) :
    Action (Client State) Call (Answer Report) := do
  match ← onBackend (Handle.openOn backend path) with
  | .ok handle =>
    hold number handle
    return .opened
  | .error error => return .notOpened error

/-- Uses a handle that is held. -/
def useHandle (backend : Backend State Call) (number : Int) (handle : Handle) :
    HandleUse → Action (Client State) Call (Answer Report)
  | .isOpen => return .isOpen handle.isOpen
  | .metadata => return .metadata (← onBackend (handle.metadata backend))
  | .thermal => return .thermal (← onBackend (handle.thermal backend))
  | .cover => return .cover (← onBackend (handle.cover backend))
  | .describe => return .description handle.describe
  | .close => do
    let handle ← onBackend (handle.close backend)
    hold number handle
    return .closed handle.isOpen
  | .drop => do
    onBackend (handle.drop backend)
    letGo number
    return .letGo
  | .forget => do
    remember handle
    letGo number
    return .letGo

/-- Takes one step. -/
def step (service : Service State Call Command Report) :
    Step Command → Action (Client State) Call (Answer Report)
  | .openHandle number path => do
    match ← Action.read fun client => client.handles[number]? with
    | some _ => return .handleInUse
    | none => openHandle service.backend number path
  | .useHandle number use => do
    match ← Action.read fun client => client.handles[number]? with
    | some handle => useHandle service.backend number handle use
    | none => return .noHandle
  | .request request => return .reply (← onBackend (service.backend.answer request))
  | .command command => return .report (← onBackend (service.perform command))

/-! ## Runs -/

/-- The outcomes of a list of steps, each taken where the one before it ended. -/
def run (service : Service State Call Command Report) :
    Client State → List (Step Command) → List (Outcome (Client State) Call (Answer Report))
  | _, [] => []
  | client, first :: rest =>
    let outcome := step service first client
    outcome :: run service outcome.state rest

/-- The client after a list of steps. -/
def after (service : Service State Call Command Report) (client : Client State)
    (steps : List (Step Command)) : Client State :=
  steps.foldl (fun client next => (step service next client).state) client

/-- Drops handles one after the other. -/
def dropEach (backend : Backend State Call) :
    List (Int × Handle) → Action (Client State) Call Unit
  | [] => pure ()
  | (number, handle) :: rest => do
    onBackend (handle.drop backend)
    letGo number
    dropEach backend rest

/-- Drops every handle that is still held, in the order of the numbers. -/
def finish (backend : Backend State Call) : Action (Client State) Call Unit := do
  dropEach backend (← Action.read fun client => client.handles.toList)

/-- The outcomes of a list of steps, and the outcome of finishing after them. -/
def play (service : Service State Call Command Report) (client : Client State)
    (steps : List (Step Command)) :
    List (Outcome (Client State) Call (Answer Report)) × Outcome (Client State) Call Unit :=
  (run service client steps, finish service.backend (after service client steps))

end Client

end DemuxSession
