import DemuxSession.Proofs.Simulation

/-!
# What the operations of a backend keep

Some relations between the state before, the calls made, and the state after hold
of doing nothing and of doing one thing after another (`Composes`).  If the
operations and commands of a service keep such a relation, so does every step of a
client, and every run (`Client.run_keeps`): a client reaches the backend only
through its operations.
-/

namespace DemuxSession

variable {State Call Value Next Command Report : Type}

/-- The relation holds of doing nothing and of doing one thing after another. -/
structure Composes (relation : State → List Call → State → Prop) : Prop where
  nil : ∀ state, relation state [] state
  append : ∀ {first second third calls later}, relation first calls second →
    relation second later third → relation first (calls ++ later) third

/-! ## Actions -/

/-- The relation holds of the action wherever it is taken. -/
def Action.Keeps (relation : State → List Call → State → Prop)
    (action : Action State Call Value) : Prop :=
  ∀ state, relation state (action state).calls (action state).state

namespace Action

variable {relation : State → List Call → State → Prop}

theorem Keeps.pure (hcomposes : Composes relation) (value : Value) :
    (Pure.pure value : Action State Call Value).Keeps relation :=
  fun state => hcomposes.nil state

theorem Keeps.log (hcomposes : Composes relation) (line : LogLine) :
    (Action.log line : Action State Call Unit).Keeps relation :=
  fun state => hcomposes.nil state

theorem Keeps.read (hcomposes : Composes relation) (view : State → Value) :
    (Action.read view : Action State Call Value).Keeps relation :=
  fun state => hcomposes.nil state

theorem Keeps.bind {action : Action State Call Value} {next : Value → Action State Call Next}
    (hcomposes : Composes relation) (haction : action.Keeps relation)
    (hnext : ∀ value, (next value).Keeps relation) : (action >>= next).Keeps relation :=
  fun state => hcomposes.append (haction state) (hnext _ _)

end Action

/-! ## Handles -/

/-- The relation holds of every operation of the backend. -/
structure Backend.Keeps (relation : State → List Call → State → Prop)
    (backend : Backend State Call) : Prop where
  allocate : ∀ path, (backend.allocate path).Keeps relation
  release : ∀ token, (backend.release token).Keeps relation
  fetchMetadata : ∀ token, (backend.fetchMetadata token).Keeps relation
  fetchCover : ∀ token, (backend.fetchCover token).Keeps relation

theorem RawMetadata.decode_keeps {relation : State → List Call → State → Prop}
    (hcomposes : Composes relation) (raw? : Option RawMetadata) :
    (decode raw? : Action State Call MetadataMap).Keeps relation := by
  intro state
  rw [calls_decode, state_decode]
  exact hcomposes.nil state

section Operations

variable {relation : State → List Call → State → Prop} {backend : Backend State Call}

theorem Backend.Keeps.answer (hkeeps : backend.Keeps relation) (hcomposes : Composes relation)
    (request : Request) : (backend.answer request).Keeps relation := by
  cases request with
  | allocate path => exact .bind hcomposes (hkeeps.allocate path) fun _ => .pure hcomposes _
  | release token => exact .bind hcomposes (hkeeps.release token) fun _ => .pure hcomposes _
  | fetchMetadata token =>
    exact .bind hcomposes (hkeeps.fetchMetadata token) fun _ => .pure hcomposes _
  | fetchCover token =>
    exact .bind hcomposes (hkeeps.fetchCover token) fun _ => .pure hcomposes _

namespace Handle

theorem openOn_keeps (hkeeps : backend.Keeps relation) (hcomposes : Composes relation)
    (path : FilePath) : (openOn backend path).Keeps relation := by
  refine .bind hcomposes (hkeeps.allocate path) fun token? => ?_
  cases token? with
  | none => exact .bind hcomposes (.log hcomposes _) fun _ => .pure hcomposes _
  | some token => exact .bind hcomposes (.log hcomposes _) fun _ => .pure hcomposes _

theorem metadata_keeps (hkeeps : backend.Keeps relation) (hcomposes : Composes relation)
    (handle : Handle) : (handle.metadata backend).Keeps relation := by
  cases handle with
  | opened token =>
    exact .bind hcomposes (hkeeps.fetchMetadata token) (RawMetadata.decode_keeps hcomposes)
  | closed => exact .pure hcomposes ∅

theorem thermal_keeps (hkeeps : backend.Keeps relation) (hcomposes : Composes relation)
    (handle : Handle) : (handle.thermal backend).Keeps relation :=
  .bind hcomposes (handle.metadata_keeps hkeeps hcomposes) fun _ => .pure hcomposes _

theorem cover_keeps (hkeeps : backend.Keeps relation) (hcomposes : Composes relation)
    (handle : Handle) : (handle.cover backend).Keeps relation := by
  cases handle with
  | opened token => exact hkeeps.fetchCover token
  | closed => exact .pure hcomposes none

theorem close_keeps (hkeeps : backend.Keeps relation) (hcomposes : Composes relation)
    (handle : Handle) : (handle.close backend).Keeps relation := by
  cases handle with
  | opened token =>
    exact .bind hcomposes (hkeeps.release token) fun _ =>
      .bind hcomposes (.log hcomposes _) fun _ => .pure hcomposes _
  | closed => exact .pure hcomposes Handle.closed

theorem drop_keeps (hkeeps : backend.Keeps relation) (hcomposes : Composes relation)
    (handle : Handle) : (handle.drop backend).Keeps relation := by
  cases handle with
  | opened token =>
    exact .bind hcomposes (.log hcomposes _) fun _ =>
      .bind hcomposes ((opened token).close_keeps hkeeps hcomposes) fun _ => .pure hcomposes _
  | closed => exact .pure hcomposes ()

end Handle

end Operations

/-! ## Clients -/

namespace Client

/-- The relation between the backends of two clients. -/
def OfBackends (relation : State → List Call → State → Prop) (client : Client State)
    (calls : List Call) (client' : Client State) : Prop :=
  relation client.backend calls client'.backend

variable {relation : State → List Call → State → Prop}

theorem ofBackends_composes (hcomposes : Composes relation) : Composes (OfBackends relation) where
  nil client := hcomposes.nil client.backend
  append hfirst hsecond := hcomposes.append hfirst hsecond

theorem onBackend_keeps {action : Action State Call Value} (haction : action.Keeps relation) :
    (onBackend action).Keeps (OfBackends relation) :=
  fun client => haction client.backend

theorem hold_keeps (hcomposes : Composes relation) (number : Int) (handle : Handle) :
    (hold number handle : Action (Client State) Call Unit).Keeps (OfBackends relation) :=
  fun client => hcomposes.nil client.backend

theorem letGo_keeps (hcomposes : Composes relation) (number : Int) :
    (letGo number : Action (Client State) Call Unit).Keeps (OfBackends relation) :=
  fun client => hcomposes.nil client.backend

theorem remember_keeps (hcomposes : Composes relation) (handle : Handle) :
    (remember handle : Action (Client State) Call Unit).Keeps (OfBackends relation) :=
  fun client => hcomposes.nil client.backend

section Backend

variable {backend : Backend State Call}

theorem openHandle_keeps (hkeeps : backend.Keeps relation) (hcomposes : Composes relation)
    (number : Int) (path : FilePath) :
    (openHandle backend number path : Action (Client State) Call (Answer Report)).Keeps
      (OfBackends relation) := by
  have hclient := ofBackends_composes hcomposes
  have hopen := onBackend_keeps (Handle.openOn_keeps hkeeps hcomposes path)
  refine .bind hclient hopen fun result => ?_
  cases result with
  | error error => exact .pure hclient _
  | ok handle => exact .bind hclient (hold_keeps hcomposes number handle) fun _ => .pure hclient _

theorem useHandle_keeps (hkeeps : backend.Keeps relation) (hcomposes : Composes relation)
    (number : Int) (handle : Handle) (use : HandleUse) :
    (useHandle backend number handle use : Action (Client State) Call (Answer Report)).Keeps
      (OfBackends relation) := by
  have hclient := ofBackends_composes hcomposes
  cases use with
  | isOpen => exact .pure hclient _
  | describe => exact .pure hclient _
  | metadata =>
    exact .bind hclient (onBackend_keeps (handle.metadata_keeps hkeeps hcomposes)) fun _ =>
      .pure hclient _
  | thermal =>
    exact .bind hclient (onBackend_keeps (handle.thermal_keeps hkeeps hcomposes)) fun _ =>
      .pure hclient _
  | cover =>
    exact .bind hclient (onBackend_keeps (handle.cover_keeps hkeeps hcomposes)) fun _ =>
      .pure hclient _
  | close =>
    exact .bind hclient (onBackend_keeps (handle.close_keeps hkeeps hcomposes)) fun _ =>
      .bind hclient (hold_keeps hcomposes number _) fun _ => .pure hclient _
  | drop =>
    exact .bind hclient (onBackend_keeps (handle.drop_keeps hkeeps hcomposes)) fun _ =>
      .bind hclient (letGo_keeps hcomposes number) fun _ => .pure hclient _
  | forget =>
    exact .bind hclient (remember_keeps hcomposes handle) fun _ =>
      .bind hclient (letGo_keeps hcomposes number) fun _ => .pure hclient _

end Backend

section Service

variable {service : Service State Call Command Report}

/-- A step keeps what the operations keep, and the command if it is one. -/
theorem step_keeps (hkeeps : service.backend.Keeps relation) (hcomposes : Composes relation)
    (next : Step Command)
    (hperform : ∀ command, next = .command command → (service.perform command).Keeps relation) :
    (step service next).Keeps (OfBackends relation) := by
  have hclient := ofBackends_composes hcomposes
  cases next with
  | openHandle number path =>
    refine .bind hclient (.read hclient _) fun handle? => ?_
    cases handle? with
    | some handle => exact .pure hclient _
    | none => exact openHandle_keeps hkeeps hcomposes number path
  | useHandle number use =>
    refine .bind hclient (.read hclient _) fun handle? => ?_
    cases handle? with
    | some handle => exact useHandle_keeps hkeeps hcomposes number handle use
    | none => exact .pure hclient _
  | request request =>
    exact .bind hclient (onBackend_keeps (hkeeps.answer hcomposes request)) fun _ =>
      .pure hclient _
  | command command =>
    exact .bind hclient (onBackend_keeps (hperform command rfl)) fun _ => .pure hclient _

/-- What every operation and every command keeps, every run keeps. -/
theorem run_keeps (hkeeps : service.backend.Keeps relation)
    (hperform : ∀ command, (service.perform command).Keeps relation)
    (hcomposes : Composes relation) (steps : List (Step Command)) :
    ∀ client : Client State,
      relation client.backend ((run service client steps).flatMap Outcome.calls)
        (after service client steps).backend := by
  induction steps with
  | nil => exact fun client => hcomposes.nil client.backend
  | cons next rest ih =>
    intro client
    have hnext := step_keeps hkeeps hcomposes next (fun command _ => hperform command) client
    exact hcomposes.append hnext (ih _)

end Service

end Client

end DemuxSession
