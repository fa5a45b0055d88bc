import DemuxSession.Client
import Mathlib.Data.List.Forall2

/-!
# Backends that cannot be told apart

Two actions on different kinds of state are *alike* over a relation of the states
if, taken on related states, they give the same value, log the same lines, and
end in related states.  What they call is left out: calls are for whoever
records them.

Likeness passes through composition.  So two backends whose operations are alike
serve every client alike, step by step and at the end:

* `Client.step_alike` for one step,
* `Client.run_alike` for the steps of a run,
* `Client.finish_alike` for the end of it.

The first use is that recording changes nothing (`Service.recorded_alike`).
-/

namespace DemuxSession

variable {State State' Call Call' Value Next Command Report : Type}

/-- Two outcomes with the same value and log, and with related states. -/
structure Outcome.Alike (related : State → State' → Prop)
    (first : Outcome State Call Value) (second : Outcome State' Call' Value) : Prop where
  value_eq : first.value = second.value
  log_eq : first.log = second.log
  state : related first.state second.state

/-! ## Actions -/

/-- Two actions whose outcomes are alike whenever they are taken on related
states. -/
def Action.Alike (related : State → State' → Prop)
    (first : Action State Call Value) (second : Action State' Call' Value) : Prop :=
  ∀ state state', related state state' → (first state).Alike related (second state')

namespace Action

variable {related : State → State' → Prop}

theorem Alike.pure (value : Value) :
    (Pure.pure value : Action State Call Value).Alike related
      (Pure.pure value : Action State' Call' Value) :=
  fun _ _ hrelated => ⟨rfl, rfl, hrelated⟩

theorem Alike.bind {first : Action State Call Value} {second : Action State' Call' Value}
    {next : Value → Action State Call Next} {next' : Value → Action State' Call' Next}
    (halike : first.Alike related second)
    (hnext : ∀ value, (next value).Alike related (next' value)) :
    (first >>= next).Alike related (second >>= next') := by
  intro state state' hrelated
  have hfirst := halike state state' hrelated
  have hsecond := hnext (first state).value _ _ hfirst.state
  rw [hfirst.value_eq] at hsecond
  refine ⟨?_, ?_, ?_⟩
  · simpa [hfirst.value_eq] using hsecond.value_eq
  · simpa [hfirst.value_eq, hfirst.log_eq] using hsecond.log_eq
  · simpa [hfirst.value_eq] using hsecond.state

theorem Alike.log (line : LogLine) :
    (Action.log line : Action State Call Unit).Alike related
      (Action.log line : Action State' Call' Unit) :=
  fun _ _ hrelated => ⟨rfl, rfl, hrelated⟩

theorem Alike.read {view : State → Value} {view' : State' → Value}
    (hview : ∀ state state', related state state' → view state = view' state') :
    (Action.read view : Action State Call Value).Alike related
      (Action.read view' : Action State' Call' Value) :=
  fun state state' hrelated => ⟨hview state state' hrelated, rfl, hrelated⟩

theorem Alike.update {change : State → Value × State} {change' : State' → Value × State'}
    (hchange : ∀ state state', related state state' →
      (change state).1 = (change' state').1 ∧ related (change state).2 (change' state').2) :
    (Action.update change : Action State Call Value).Alike related
      (Action.update change' : Action State' Call' Value) :=
  fun state state' hrelated =>
    ⟨(hchange state state' hrelated).1, rfl, (hchange state state' hrelated).2⟩

/-- What an action calls does not matter. -/
theorem Alike.withoutCalls (action : Action State Call Value) :
    action.Alike Eq (action.withoutCalls : Action State Call' Value) := by
  rintro state _ rfl
  exact ⟨rfl, rfl, rfl⟩

end Action

/-! ## Backends -/

/-- Two backends whose operations are alike. -/
structure Backend.Alike (related : State → State' → Prop)
    (first : Backend State Call) (second : Backend State' Call') : Prop where
  allocate : ∀ path, (first.allocate path).Alike related (second.allocate path)
  release : ∀ token, (first.release token).Alike related (second.release token)
  fetchMetadata : ∀ token, (first.fetchMetadata token).Alike related (second.fetchMetadata token)
  fetchCover : ∀ token, (first.fetchCover token).Alike related (second.fetchCover token)

theorem Backend.Alike.answer {related : State → State' → Prop} {first : Backend State Call}
    {second : Backend State' Call'} (halike : first.Alike related second) (request : Request) :
    (first.answer request).Alike related (second.answer request) := by
  cases request with
  | allocate path => exact (halike.allocate path).bind fun _ => .pure _
  | release token => exact (halike.release token).bind fun _ => .pure _
  | fetchMetadata token => exact (halike.fetchMetadata token).bind fun _ => .pure _
  | fetchCover token => exact (halike.fetchCover token).bind fun _ => .pure _

/-! ## Handles -/

theorem RawMetadata.decodeInto_alike {related : State → State' → Prop} (raw : RawMetadata)
    (map : MetadataMap) :
    (decodeInto map raw : Action State Call MetadataMap).Alike related
      (decodeInto map raw : Action State' Call' MetadataMap) := by
  induction raw generalizing map with
  | nil => exact .pure map
  | cons pair rest ih => exact (Action.Alike.log _).bind fun _ => ih _

theorem RawMetadata.decode_alike {related : State → State' → Prop} (raw? : Option RawMetadata) :
    (decode raw? : Action State Call MetadataMap).Alike related
      (decode raw? : Action State' Call' MetadataMap) := by
  cases raw? with
  | none => exact .pure ∅
  | some raw => exact decodeInto_alike raw ∅

/-- What is decoded does not depend on where it is decoded. -/
theorem RawMetadata.value_decode_eq (raw? : Option RawMetadata) (state : State)
    (state' : State') :
    (decode raw? state : Outcome State Call MetadataMap).value =
      (decode raw? state' : Outcome State' Call' MetadataMap).value := by
  have halike : (decode raw? : Action State Call MetadataMap).Alike (fun _ _ => True)
      (decode raw? : Action State' Call' MetadataMap) := decode_alike raw?
  exact (halike state state' trivial).value_eq

namespace Handle

variable {related : State → State' → Prop} {first : Backend State Call}
  {second : Backend State' Call'}

theorem openOn_alike (halike : first.Alike related second) (path : FilePath) :
    (openOn first path).Alike related (openOn second path) := by
  refine (halike.allocate path).bind fun token? => ?_
  cases token? with
  | none => exact (Action.Alike.log _).bind fun _ => .pure _
  | some token => exact (Action.Alike.log _).bind fun _ => .pure _

theorem metadata_alike (halike : first.Alike related second) (handle : Handle) :
    (handle.metadata first).Alike related (handle.metadata second) := by
  cases handle with
  | opened token => exact (halike.fetchMetadata token).bind RawMetadata.decode_alike
  | closed => exact .pure ∅

theorem thermal_alike (halike : first.Alike related second) (handle : Handle) :
    (handle.thermal first).Alike related (handle.thermal second) :=
  (handle.metadata_alike halike).bind fun _ => .pure _

theorem cover_alike (halike : first.Alike related second) (handle : Handle) :
    (handle.cover first).Alike related (handle.cover second) := by
  cases handle with
  | opened token => exact halike.fetchCover token
  | closed => exact .pure none

theorem close_alike (halike : first.Alike related second) (handle : Handle) :
    (handle.close first).Alike related (handle.close second) := by
  cases handle with
  | opened token =>
    exact (halike.release token).bind fun _ => (Action.Alike.log _).bind fun _ => .pure _
  | closed => exact .pure Handle.closed

theorem drop_alike (halike : first.Alike related second) (handle : Handle) :
    (handle.drop first).Alike related (handle.drop second) := by
  cases handle with
  | opened token =>
    exact (Action.Alike.log _).bind fun _ =>
      ((opened token).close_alike halike).bind fun _ => .pure _
  | closed => exact .pure ()

end Handle

/-! ## Clients -/

/-- Two clients with the same handles on backends in related states. -/
structure Client.Alike (related : State → State' → Prop)
    (first : Client State) (second : Client State') : Prop where
  backend : related first.backend second.backend
  handles_eq : first.handles = second.handles
  forgotten_eq : first.forgotten = second.forgotten

/-- Two services whose operations and commands are alike. -/
structure Service.Alike (related : State → State' → Prop)
    (first : Service State Call Command Report) (second : Service State' Call' Command Report) :
    Prop where
  backend : first.backend.Alike related second.backend
  perform : ∀ command, (first.perform command).Alike related (second.perform command)

namespace Client

variable {related : State → State' → Prop}

theorem fresh_alike {state : State} {state' : State'} (hrelated : related state state') :
    (fresh state).Alike related (fresh state') :=
  ⟨hrelated, rfl, rfl⟩

theorem onBackend_alike {action : Action State Call Value} {action' : Action State' Call' Value}
    (halike : action.Alike related action') :
    (onBackend action).Alike (Client.Alike related) (onBackend action') := by
  intro client client' hclient
  have houtcome := halike _ _ hclient.backend
  exact ⟨houtcome.value_eq, houtcome.log_eq, houtcome.state, hclient.handles_eq,
    hclient.forgotten_eq⟩

theorem hold_alike (number : Int) (handle : Handle) :
    (hold number handle : Action (Client State) Call Unit).Alike (Client.Alike related)
      (hold number handle : Action (Client State') Call' Unit) := by
  refine .update fun client client' hclient => ⟨rfl, hclient.backend, ?_, hclient.forgotten_eq⟩
  simp only [hclient.handles_eq]

theorem letGo_alike (number : Int) :
    (letGo number : Action (Client State) Call Unit).Alike (Client.Alike related)
      (letGo number : Action (Client State') Call' Unit) := by
  refine .update fun client client' hclient => ⟨rfl, hclient.backend, ?_, hclient.forgotten_eq⟩
  simp only [hclient.handles_eq]

theorem remember_alike (handle : Handle) :
    (remember handle : Action (Client State) Call Unit).Alike (Client.Alike related)
      (remember handle : Action (Client State') Call' Unit) := by
  refine .update fun client client' hclient => ⟨rfl, hclient.backend, hclient.handles_eq, ?_⟩
  simp only [hclient.forgotten_eq]

theorem openHandle_alike {first : Backend State Call} {second : Backend State' Call'}
    (halike : first.Alike related second) (number : Int) (path : FilePath) :
    (openHandle first number path : Action (Client State) Call (Answer Report)).Alike
      (Client.Alike related) (openHandle second number path) := by
  refine (onBackend_alike (Handle.openOn_alike halike path)).bind fun result => ?_
  cases result with
  | error error => exact .pure _
  | ok handle => exact (hold_alike number handle).bind fun _ => .pure _

theorem useHandle_alike {first : Backend State Call} {second : Backend State' Call'}
    (halike : first.Alike related second) (number : Int) (handle : Handle) (use : HandleUse) :
    (useHandle first number handle use : Action (Client State) Call (Answer Report)).Alike
      (Client.Alike related) (useHandle second number handle use) := by
  cases use with
  | isOpen => exact .pure _
  | metadata => exact (onBackend_alike (handle.metadata_alike halike)).bind fun _ => .pure _
  | thermal => exact (onBackend_alike (handle.thermal_alike halike)).bind fun _ => .pure _
  | cover => exact (onBackend_alike (handle.cover_alike halike)).bind fun _ => .pure _
  | describe => exact .pure _
  | close =>
    exact (onBackend_alike (handle.close_alike halike)).bind fun _ =>
      (hold_alike number _).bind fun _ => .pure _
  | drop =>
    exact (onBackend_alike (handle.drop_alike halike)).bind fun _ =>
      (letGo_alike number).bind fun _ => .pure _
  | forget =>
    exact (remember_alike handle).bind fun _ => (letGo_alike number).bind fun _ => .pure _

/-- Services that are alike take every step alike. -/
theorem step_alike {first : Service State Call Command Report}
    {second : Service State' Call' Command Report} (halike : first.Alike related second)
    (next : Step Command) :
    (step first next).Alike (Client.Alike related) (step second next) := by
  have hheld : ∀ number : Int,
      (Action.read fun client : Client State => client.handles[number]? :
        Action (Client State) Call _).Alike (Client.Alike related)
      (Action.read fun client : Client State' => client.handles[number]? :
        Action (Client State') Call' _) := by
    intro number
    refine .read fun client client' hclient => ?_
    rw [hclient.handles_eq]
  cases next with
  | openHandle number path =>
    refine (hheld number).bind fun handle? => ?_
    cases handle? with
    | some handle => exact .pure _
    | none => exact openHandle_alike halike.backend number path
  | useHandle number use =>
    refine (hheld number).bind fun handle? => ?_
    cases handle? with
    | some handle => exact useHandle_alike halike.backend number handle use
    | none => exact .pure _
  | request request =>
    exact (onBackend_alike (halike.backend.answer request)).bind fun _ => .pure _
  | command command =>
    exact (onBackend_alike (halike.perform command)).bind fun _ => .pure _

theorem after_alike {first : Service State Call Command Report}
    {second : Service State' Call' Command Report} (halike : first.Alike related second)
    (steps : List (Step Command)) :
    ∀ client client', Client.Alike related client client' →
      Client.Alike related (after first client steps) (after second client' steps) := by
  induction steps with
  | nil => exact fun _ _ hclient => hclient
  | cons next rest ih =>
    exact fun client client' hclient => ih _ _ (step_alike halike next client client' hclient).state

/-- Services that are alike serve every run alike. -/
theorem run_alike {first : Service State Call Command Report}
    {second : Service State' Call' Command Report} (halike : first.Alike related second)
    (steps : List (Step Command)) :
    ∀ client client', Client.Alike related client client' →
      List.Forall₂ (Outcome.Alike (Client.Alike related)) (run first client steps)
        (run second client' steps) := by
  induction steps with
  | nil => exact fun _ _ _ => .nil
  | cons next rest ih =>
    intro client client' hclient
    have hnext := step_alike halike next client client' hclient
    exact .cons hnext (ih _ _ hnext.state)

/-- So the answers are the same, and the lines that are logged. -/
theorem map_run_eq_of_alike {first : Service State Call Command Report}
    {second : Service State' Call' Command Report} (halike : first.Alike related second)
    (steps : List (Step Command)) (client : Client State) (client' : Client State')
    (hclient : Client.Alike related client client') :
    (run first client steps).map Outcome.value = (run second client' steps).map Outcome.value ∧
      (run first client steps).map Outcome.log = (run second client' steps).map Outcome.log := by
  have houtcomes := run_alike halike steps client client' hclient
  rw [← List.forall₂_eq_eq_eq, List.forall₂_map_left_iff, List.forall₂_map_right_iff,
    ← List.forall₂_eq_eq_eq, List.forall₂_map_left_iff, List.forall₂_map_right_iff]
  exact ⟨houtcomes.imp fun _ _ houtcome => houtcome.value_eq,
    houtcomes.imp fun _ _ houtcome => houtcome.log_eq⟩

theorem dropEach_alike {first : Backend State Call} {second : Backend State' Call'}
    (halike : first.Alike related second) (entries : List (Int × Handle)) :
    (dropEach first entries).Alike (Client.Alike related) (dropEach second entries) := by
  induction entries with
  | nil => exact .pure ()
  | cons entry rest ih =>
    exact (onBackend_alike (entry.2.drop_alike halike)).bind fun _ =>
      (letGo_alike entry.1).bind fun _ => ih

/-- Backends that are alike end every session alike. -/
theorem finish_alike {first : Backend State Call} {second : Backend State' Call'}
    (halike : first.Alike related second) :
    (finish first).Alike (Client.Alike related) (finish second) := by
  refine Action.Alike.bind (.read fun client client' hclient => ?_) (dropEach_alike halike)
  rw [hclient.handles_eq]

end Client

/-! ## Recording -/

/-- A backend with its exchanges recorded is like the backend itself. -/
theorem Backend.recorded_alike (backend : Backend State Call) :
    backend.Alike Eq backend.recorded where
  allocate path := by
    rintro state _ rfl
    exact ⟨rfl, by simp [recorded], rfl⟩
  release token := by
    rintro state _ rfl
    exact ⟨rfl, by simp [recorded], rfl⟩
  fetchMetadata token := by
    rintro state _ rfl
    exact ⟨rfl, by simp [recorded], rfl⟩
  fetchCover token := by
    rintro state _ rfl
    cases hreader : backend.coverReader? with
    | none => exact ⟨by simp [fetchCover, recorded, hreader],
        by simp [fetchCover, recorded, hreader], by simp [fetchCover, recorded, hreader]⟩
    | some readCover => exact ⟨by simp [fetchCover, recorded, hreader],
        by simp [fetchCover, recorded, hreader], by simp [fetchCover, recorded, hreader]⟩

/-- The service with the exchanges of its backend recorded.  Commands are no
exchanges. -/
def Service.recorded (service : Service State Call Command Report) :
    Service State Exchange Command Report where
  backend := service.backend.recorded
  perform command := (service.perform command).withoutCalls

@[simp] theorem Service.backend_recorded (service : Service State Call Command Report) :
    service.recorded.backend = service.backend.recorded := rfl

/-- A recorded service is like the service itself: recording is not noticed by
any client. -/
theorem Service.recorded_alike (service : Service State Call Command Report) :
    service.Alike Eq service.recorded where
  backend := service.backend.recorded_alike
  perform command := .withoutCalls (service.perform command)

/-- Recording does not change where a run ends. -/
theorem Client.backend_after_recorded (service : Service State Call Command Report)
    (client : Client State) (steps : List (Step Command)) :
    (after service.recorded client steps).backend = (after service client steps).backend :=
  (after_alike service.recorded_alike steps client client ⟨rfl, rfl, rfl⟩).backend.symm

end DemuxSession
