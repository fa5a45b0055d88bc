import DemuxSession.Proofs.PathAgreement
import DemuxSession.Proofs.Registrations

/-!
# Spellings make no difference

The registry looks files up by the parts of their paths and keeps the path of a session as
it was spelled.  So two runs whose steps agree but for the spellings of their paths
(`Step.Respells`) leave the same files registered, and sessions on agreeing paths in the
same slots (`Registry.Respelled`).  They answer alike, and log alike but for the path that
a step was given, which is told as it was spelled there (`Outcome.Retold`).

Paths that do not agree have nothing to do with each other: a path can be opened just if
an agreeing one was registered, and what is registered for other paths, or given to them,
changes nothing that is read through it.
-/

namespace DemuxSession

variable {Call : Type}

/-! ## Paths of steps, answers and lines -/

namespace Step

/-- The path a step is given. -/
def path? : Step Registry.Command → Option FilePath
  | .openHandle _ path | .request (.allocate path) | .command (.insert path _) |
    .command (.insertEmpty path) | .command (.setCover path _) => some path
  | _ => none

/-- The same step, with an agreeing path if it is given one. -/
inductive Respells : Step Registry.Command → Step Registry.Command → Prop
  | openHandle {number : Int} {path path' : FilePath} (hagrees : path.Agrees path') :
      Respells (.openHandle number path) (.openHandle number path')
  | allocate {path path' : FilePath} (hagrees : path.Agrees path') :
      Respells (.request (.allocate path)) (.request (.allocate path'))
  | insert {path path' : FilePath} {raw : RawMetadata} (hagrees : path.Agrees path') :
      Respells (.command (.insert path raw)) (.command (.insert path' raw))
  | insertEmpty {path path' : FilePath} (hagrees : path.Agrees path') :
      Respells (.command (.insertEmpty path)) (.command (.insertEmpty path'))
  | setCover {path path' : FilePath} {cover : Cover} (hagrees : path.Agrees path') :
      Respells (.command (.setCover path cover)) (.command (.setCover path' cover))
  | same (next : Step Registry.Command) : Respells next next

end Step

namespace LogLine

/-- The path a line tells. -/
def path? : LogLine → Option FilePath
  | .opened path _ | .refused path | .registrySession _ path | .zeroInPath path |
    .loading (.atPath path) => some path
  | _ => none

/-- The line with another path, if it is about a path that a backend was asked for. -/
def showing (path? : Option FilePath) (line : LogLine) : LogLine :=
  match line, path? with
  | .opened _ token, some path => .opened path token
  | .refused _, some path => .refused path
  | .registrySession token _, some path => .registrySession token path
  | line, _ => line

theorem showing_eq_self {shown? : Option FilePath} {line : LogLine}
    (hown : ∀ path, line.path? = some path → shown? = some path) : line.showing shown? = line := by
  cases line with
  | opened path token => rw [hown path rfl]; rfl
  | refused path => rw [hown path rfl]; rfl
  | registrySession token path => rw [hown path rfl]; rfl
  | _ => cases shown? <;> rfl

end LogLine

namespace Answer

variable {Report : Type}

/-- The path an answer tells. -/
def path? : Answer Report → Option FilePath
  | .notOpened error => error.openPath?
  | _ => none

/-- The answer with another path, if it is that a file did not open. -/
def showing (path? : Option FilePath) (answer : Answer Report) : Answer Report :=
  match answer, path? with
  | .notOpened (.opening _), some path => .notOpened (.opening ⟨path⟩)
  | answer, _ => answer

theorem showing_eq_self {shown? : Option FilePath} {answer : Answer Report}
    (hown : ∀ path, answer.path? = some path → shown? = some path) :
    answer.showing shown? = answer := by
  cases answer with
  | notOpened error =>
    cases error with
    | opening error => rw [hown error.path rfl]; rfl
    | loading error => cases shown? <;> rfl
    | other error => cases shown? <;> rfl
  | _ => cases shown? <;> rfl

end Answer

/-! ## What a step tells -/

namespace Outcome

variable {State : Type}

/-- No path is told but that of the step. -/
structure Tells (next : Step Registry.Command)
    (outcome : Outcome State Call (Answer Registry.Report)) : Prop where
  value : ∀ path, outcome.value.path? = some path → next.path? = some path
  log : ∀ line ∈ outcome.log, ∀ path, line.path? = some path → next.path? = some path

theorem Tells.of_path?_eq_none {next : Step Registry.Command}
    {outcome : Outcome State Call (Answer Registry.Report)} (hvalue : outcome.value.path? = none)
    (hlog : ∀ line ∈ outcome.log, ∀ path, line.path? = some path → next.path? = some path) :
    outcome.Tells next where
  value path hpath := by
    rw [hvalue] at hpath
    cases hpath
  log := hlog

/-- The second outcome tells what the first does, with the path of the step. -/
structure Retold (next : Step Registry.Command)
    (first second : Outcome State Call (Answer Registry.Report)) : Prop where
  value_eq : second.value = first.value.showing next.path?
  log_eq : second.log = first.log.map (LogLine.showing next.path?)

theorem Retold.of_alike {next : Step Registry.Command} {related : State → State → Prop}
    {first second : Outcome State Call (Answer Registry.Report)}
    (halike : first.Alike related second) (htells : first.Tells next) :
    Retold next first second where
  value_eq := by rw [← halike.value_eq, Answer.showing_eq_self htells.value]
  log_eq := by
    rw [← halike.log_eq, List.map_congr_left fun line hline =>
      LogLine.showing_eq_self (htells.log line hline), List.map_id']

end Outcome

namespace Client

theorem path?_eq_none_of_mem_log (number : Int) (use : HandleUse) (client : Client Registry) :
    ∀ line ∈ (step (@Registry.service Call) (.useHandle number use) client).log,
      line.path? = none := by
  have hpair : ∀ raw? (registry : Registry),
      ∀ line ∈ (RawMetadata.decode raw? registry : Outcome _ Call MetadataMap).log,
        line.path? = none := by
    intro raw? registry line hline
    obtain ⟨key, value, rfl⟩ := RawMetadata.log_decode raw? registry line hline
    rfl
  have hclose : ∀ token (registry : Registry), ∀ line ∈
      ((Handle.opened token).close (@Registry.service Call).backend registry).log,
        line.path? = none := by
    intro token registry line hline
    obtain rfl := List.mem_singleton.mp hline
    split <;> rfl
  cases hheld : client.handles[number]? with
  | none => simp [step_useHandle_of_free use hheld]
  | some handle =>
    rw [step_useHandle_of_held use hheld]
    cases handle with
    | closed =>
      cases use <;> simp [useHandle, onBackend, Handle.metadata, Handle.thermal, Handle.cover,
        Handle.close, Handle.drop, hold, letGo, remember]
    | opened token =>
      cases use with
      | isOpen | describe => simp [useHandle]
      | cover => simp [useHandle, onBackend, Handle.cover, Registry.service,
          Registry.fetchCover_apply]
      | metadata | thermal =>
        simpa [useHandle, onBackend, Handle.thermal, Handle.metadata, Registry.service,
          Registry.fetchMetadata_apply] using hpair _ _
      | close => simpa [useHandle, onBackend, hold] using hclose token client.backend
      | drop =>
        have hdropped : (LogLine.droppedOpen token).path? = none := rfl
        simpa [useHandle, onBackend, Handle.drop, letGo, hdropped] using
          hclose token client.backend
      | forget => simp [useHandle, remember, letGo]

theorem path?_value_useHandle (number : Int) (use : HandleUse) (client : Client Registry) :
    (step (@Registry.service Call) (.useHandle number use) client).value.path? = none := by
  cases hheld : client.handles[number]? with
  | none => rw [step_useHandle_of_free use hheld]; rfl
  | some handle =>
    rw [step_useHandle_of_held use hheld]
    cases use <;> rfl

/-- A step tells no path but its own. -/
theorem tells_step (next : Step Registry.Command) (client : Client Registry) :
    (step (@Registry.service Call) next client).Tells next := by
  cases next with
  | openHandle number path =>
    cases hheld : client.handles[number]? with
    | some handle =>
      rw [step_openHandle_of_held path hheld]
      exact .of_path?_eq_none rfl (by simp)
    | none =>
      cases hfile : client.backend.file? path with
      | none =>
        rw [step_openHandle_of_unregistered hheld hfile]
        exact ⟨fun _ hpath => hpath, by simp [LogLine.path?, Step.path?]⟩
      | some file =>
        rw [step_openHandle_of_registered hheld (Option.isSome_of_mem hfile)]
        exact .of_path?_eq_none rfl (by simp [LogLine.path?, Step.path?])
  | useHandle number use =>
    refine .of_path?_eq_none (path?_value_useHandle number use client) fun line hline path => ?_
    rw [path?_eq_none_of_mem_log number use client line hline]
    simp
  | request request =>
    refine .of_path?_eq_none rfl ?_
    cases request with
    | allocate path =>
      cases hfile : client.backend.file? path with
      | none => simp [step, onBackend, Backend.answer, Registry.service, Registry.backend,
          Registry.allocate_of_unregistered hfile]
      | some file => simp [step, onBackend, Backend.answer, Registry.service, Registry.backend,
          Registry.allocate_of_registered (Option.isSome_of_mem hfile), LogLine.path?, Step.path?]
    | release token => simp [step, onBackend, Backend.answer, Registry.service,
        Registry.backend, Registry.release]
    | fetchMetadata token => simp [step, onBackend, Backend.answer, Registry.service,
        Registry.fetchMetadata_apply]
    | fetchCover token => simp [step, onBackend, Backend.answer, Registry.service,
        Registry.fetchCover_apply]
  | command command =>
    refine .of_path?_eq_none rfl ?_
    simp [step, onBackend, Registry.service, Registry.log_perform]

end Client

/-! ## Registries that differ in spelling -/

namespace Registry

/-- The same files are registered, and the same slots are taken, by sessions on paths that
agree. -/
structure Respelled (registry registry' : Registry) : Prop where
  files : registry'.files = registry.files
  paths : ∀ slot, (registry'.sessions.get? slot).map FilePath.parts =
    (registry.sessions.get? slot).map FilePath.parts
  count : registry'.sessions.count = registry.sessions.count

namespace Respelled

variable {registry registry' : Registry}

theorem refl (registry : Registry) : Respelled registry registry := ⟨rfl, fun _ => rfl, rfl⟩

theorem file?_eq (hrespelled : Respelled registry registry') {path path' : FilePath}
    (hagrees : path.Agrees path') : registry'.file? path' = registry.file? path := by
  unfold file?
  rw [hrespelled.files, (FilePath.parts_eq_iff path path').mpr hagrees]

theorem isSome_get?_iff (hrespelled : Respelled registry registry') (slot : Nat) :
    (registry'.sessions.get? slot).isSome ↔ (registry.sessions.get? slot).isSome := by
  rw [← Option.isSome_map, hrespelled.paths, Option.isSome_map]

theorem sessionFile?_eq (hrespelled : Respelled registry registry') (token : Token) :
    registry'.sessionFile? token = registry.sessionFile? token := by
  have hfile : ∀ registry : Registry, registry.sessionFile? token =
      ((registry.sessions.get? token.slot).map FilePath.parts).bind fun parts =>
        registry.files[parts]? := by
    intro registry
    unfold sessionFile?
    cases registry.sessions.get? token.slot <;> rfl
  rw [hfile, hfile, hrespelled.paths, hrespelled.files]

theorem nextSlot_eq (hrespelled : Respelled registry registry') :
    registry'.sessions.nextSlot = registry.sessions.nextSlot := by
  rcases Nat.lt_trichotomy registry'.sessions.nextSlot registry.sessions.nextSlot with
    hlt | heq | hgt
  · have htaken := registry.sessions.isSome_get?_of_lt_nextSlot hlt
    rw [← hrespelled.isSome_get?_iff, Slab.get?_nextSlot] at htaken
    cases htaken
  · exact heq
  · have htaken := registry'.sessions.isSome_get?_of_lt_nextSlot hgt
    rw [hrespelled.isSome_get?_iff, Slab.get?_nextSlot] at htaken
    cases htaken

theorem insert (hrespelled : Respelled registry registry') {path path' : FilePath}
    (hagrees : path.Agrees path') :
    Respelled { registry with sessions := registry.sessions.insert path }
      { registry' with sessions := registry'.sessions.insert path' } where
  files := hrespelled.files
  paths slot := by
    rw [Slab.get?_insert, Slab.get?_insert, hrespelled.nextSlot_eq]
    split
    · exact congrArg some ((FilePath.parts_eq_iff path path').mpr hagrees).symm
    · exact hrespelled.paths slot
  count := by rw [Slab.count_insert, Slab.count_insert, hrespelled.count]

theorem remove (hrespelled : Respelled registry registry') {slot : Nat}
    (htaken : (registry.sessions.get? slot).isSome) :
    Respelled { registry with sessions := registry.sessions.remove slot }
      { registry' with sessions := registry'.sessions.remove slot } where
  files := hrespelled.files
  paths other := by
    rw [Slab.get?_remove, Slab.get?_remove]
    split
    · rfl
    · exact hrespelled.paths other
  count := by
    have hcount := registry.sessions.count_remove htaken
    have hcount' := registry'.sessions.count_remove ((hrespelled.isSome_get?_iff slot).mpr htaken)
    have hsame := hrespelled.count
    show (registry'.sessions.remove slot).count = (registry.sessions.remove slot).count
    omega

end Respelled

/-- Sessions on agreeing paths are given alike, and each is told as it was spelled. -/
theorem allocate_respelled {registry registry' : Registry}
    (hrespelled : Respelled registry registry') {path path' : FilePath}
    (hagrees : path.Agrees path') :
    let first := (allocate path : Action Registry Call (Option Token)) registry
    let second := (allocate path' : Action Registry Call (Option Token)) registry'
    second.value = first.value ∧ second.log = first.log.map (LogLine.showing (some path')) ∧
      Respelled first.state second.state := by
  have hfile := hrespelled.file?_eq hagrees
  cases hregistered : registry.file? path with
  | none =>
    rw [hregistered] at hfile
    rw [allocate_of_unregistered hregistered, allocate_of_unregistered hfile]
    exact ⟨rfl, rfl, hrespelled⟩
  | some file =>
    rw [hregistered] at hfile
    rw [allocate_of_registered (Option.isSome_of_mem hregistered),
      allocate_of_registered (Option.isSome_of_mem hfile), hrespelled.nextSlot_eq]
    exact ⟨rfl, rfl, hrespelled.insert hagrees⟩

theorem release_respelled (token : Token) :
    (release token : Action Registry Call Int32).Alike Respelled
      (release token : Action Registry Call Int32) := by
  intro registry registry' hrespelled
  have htaken := hrespelled.isSome_get?_iff token.slot
  cases hlive : registry.sessions.get? token.slot with
  | none =>
    have hdead : registry'.sessions.get? token.slot = none := by simpa [hlive] using htaken
    rw [release_of_dead hlive, release_of_dead hdead]
    exact ⟨rfl, rfl, hrespelled⟩
  | some path =>
    have hlive := Option.isSome_of_mem hlive
    rw [release_of_live hlive, release_of_live (htaken.mpr hlive)]
    exact ⟨rfl, rfl, hrespelled.remove hlive⟩

/-- The path that is told is the one that was asked for. -/
theorem map_showing_log_allocate (path : FilePath) (registry : Registry) :
    let log := ((allocate path : Action Registry Call (Option Token)) registry).log
    log.map (LogLine.showing (some path)) = log := by
  cases hfile : registry.file? path with
  | none =>
    rw [allocate_of_unregistered hfile]
    rfl
  | some file =>
    rw [allocate_of_registered (Option.isSome_of_mem hfile)]
    rfl

theorem backend_respelled :
    (backend : Backend Registry Call).Alike Respelled (backend : Backend Registry Call) where
  allocate path registry registry' hrespelled := by
    obtain ⟨hvalue, hlog, hstate⟩ := @allocate_respelled Call _ _ hrespelled path path ⟨rfl, rfl⟩
    rw [map_showing_log_allocate] at hlog
    exact ⟨hvalue.symm, hlog.symm, hstate⟩
  release := release_respelled
  fetchMetadata token := by
    refine Action.Alike.bind (.read fun registry registry' hrespelled => ?_) fun _ => .pure _
    exact (hrespelled.sessionFile?_eq token).symm
  fetchCover token := by
    refine Action.Alike.bind (.read fun registry registry' hrespelled => ?_) fun _ => .pure _
    exact (hrespelled.sessionFile?_eq token).symm

theorem perform_respelled (command : Command) :
    (perform command : Action Registry Call Report).Alike Respelled
      (perform command : Action Registry Call Report) := by
  intro registry registry' hrespelled
  obtain ⟨hfiles, hvalue⟩ := perform_congr Call command hrespelled.files
  refine ⟨?_, by rw [log_perform, log_perform], hfiles, ?_, ?_⟩
  · by_cases hcommand : command = .countSessions
    · subst hcommand
      exact congrArg Report.count hrespelled.count.symm
    · exact (hvalue hcommand).symm
  · rw [sessions_perform, sessions_perform]
    exact hrespelled.paths
  · rw [sessions_perform, sessions_perform]
    exact hrespelled.count

theorem service_respelled :
    (@service Call).Alike Respelled (@service Call) where
  backend := backend_respelled
  perform := perform_respelled

/-- A command is the same command for an agreeing path. -/
theorem perform_eq_of_respells {command command' : Command}
    (hrespells : Step.Respells (.command command) (.command command')) :
    (perform command' : Action Registry Call Report) = perform command := by
  have hregister : ∀ {path path' : FilePath}, path.Agrees path' →
      ∀ registry : Registry, registry.register path' = registry.register path := by
    intro path path' hagrees registry
    funext file
    rw [register, register, (FilePath.parts_eq_iff path path').mpr hagrees]
  cases hrespells with
  | insert hagrees => simp only [perform, hregister hagrees]
  | insertEmpty hagrees => simp only [perform, hregister hagrees]
  | @setCover path path' cover hagrees =>
    have hfile : ∀ registry : Registry, registry.file? path' = registry.file? path := by
      intro registry
      exact (Respelled.refl registry).file?_eq hagrees
    simp only [perform, setCover, hregister hagrees, hfile]
  | same => rfl

end Registry

/-- The second outcome retells the first, and what is left of the two differs in spelling. -/
structure Outcome.Respelled (next : Step Registry.Command)
    (first second : Outcome (Client Registry) Call (Answer Registry.Report)) : Prop where
  retold : Retold next first second
  state : Client.Alike Registry.Respelled first.state second.state

namespace Client

variable {client client' : Client Registry}

theorem step_openHandle_respelled (hclient : Client.Alike Registry.Respelled client client')
    (number : Int) {path path' : FilePath} (hagrees : path.Agrees path') :
    Outcome.Respelled (.openHandle number path')
      (step (@Registry.service Call) (.openHandle number path) client)
      (step (@Registry.service Call) (.openHandle number path') client') := by
  have hsame := congrArg (·[number]?) hclient.handles_eq
  cases hheld : client.handles[number]? with
  | some handle =>
    rw [step_openHandle_of_held path hheld,
      step_openHandle_of_held path' (hsame.symm.trans hheld)]
    exact ⟨⟨rfl, rfl⟩, hclient⟩
  | none =>
    obtain ⟨hvalue, hlog, hstate⟩ := @Registry.allocate_respelled Call _ _ hclient.backend _ _
      hagrees
    have hfree := hsame.symm.trans hheld
    cases htoken : ((Registry.allocate path : Action Registry Call _) client.backend).value with
    | none =>
      have hfirst : step (@Registry.service Call) (.openHandle number path) client = _ :=
        step_openHandle_of_refusal hheld htoken
      have hsecond : step (@Registry.service Call) (.openHandle number path') client' = _ :=
        step_openHandle_of_refusal hfree (hvalue.trans htoken)
      rw [hfirst, hsecond]
      refine ⟨⟨rfl, ?_⟩, hstate, hclient.handles_eq, hclient.forgotten_eq⟩
      rw [List.map_append]
      exact congrArg (· ++ _) hlog
    | some token =>
      have hfirst : step (@Registry.service Call) (.openHandle number path) client = _ :=
        step_openHandle_of_token hheld htoken
      have hsecond : step (@Registry.service Call) (.openHandle number path') client' = _ :=
        step_openHandle_of_token hfree (hvalue.trans htoken)
      rw [hfirst, hsecond]
      refine ⟨⟨rfl, ?_⟩, hstate, ?_, hclient.forgotten_eq⟩
      · rw [List.map_append]
        exact congrArg (· ++ _) hlog
      · simp only [hclient.handles_eq]

theorem step_allocate_respelled (hclient : Client.Alike Registry.Respelled client client')
    {path path' : FilePath} (hagrees : path.Agrees path') :
    Outcome.Respelled (.request (.allocate path'))
      (step (@Registry.service Call) (.request (.allocate path)) client)
      (step (@Registry.service Call) (.request (.allocate path')) client') := by
  have hstep : ∀ path (client : Client Registry),
      let given := (Registry.allocate path : Action Registry Call _) client.backend
      step (@Registry.service Call) (.request (.allocate path)) client =
        ⟨.reply (.token given.value), { client with backend := given.state }, given.log,
          given.calls⟩ := by
    intro path client given
    simp only [step, onBackend, Backend.answer, Action.bind_apply, Action.pure_apply,
      List.append_nil]
    rfl
  obtain ⟨hvalue, hlog, hstate⟩ := @Registry.allocate_respelled Call _ _ hclient.backend _ _
    hagrees
  rw [hstep, hstep]
  exact ⟨⟨congrArg (fun token? => Answer.reply (.token token?)) hvalue, hlog⟩, hstate,
    hclient.handles_eq, hclient.forgotten_eq⟩

/-- A step that is taken by the same action. -/
theorem step_respelled_of_eq {next next' : Step Registry.Command}
    (hsame : step (@Registry.service Call) next' = step (@Registry.service Call) next)
    (hclient : Client.Alike Registry.Respelled client client') :
    Outcome.Respelled next' (step (@Registry.service Call) next client)
      (step (@Registry.service Call) next' client') := by
  have halike := step_alike (@Registry.service_respelled Call) next client client' hclient
  have htells := @tells_step Call next' client
  rw [hsame] at htells ⊢
  exact ⟨.of_alike halike htells, halike.state⟩

theorem step_respelled {next next' : Step Registry.Command} (hrespells : next.Respells next')
    (hclient : Client.Alike Registry.Respelled client client') :
    Outcome.Respelled next' (step (@Registry.service Call) next client)
      (step (@Registry.service Call) next' client') := by
  have hcommand : ∀ command command', Step.Respells (.command command) (.command command') →
      step (@Registry.service Call) (.command command') =
        step (@Registry.service Call) (.command command) := by
    intro command command' hrespells
    have hperform := @Registry.perform_eq_of_respells Call _ _ hrespells
    simp only [step, Registry.service, hperform]
  cases hrespells with
  | openHandle hagrees => exact step_openHandle_respelled hclient _ hagrees
  | allocate hagrees => exact step_allocate_respelled hclient hagrees
  | insert hagrees => exact step_respelled_of_eq (hcommand _ _ (.insert hagrees)) hclient
  | insertEmpty hagrees => exact step_respelled_of_eq (hcommand _ _ (.insertEmpty hagrees)) hclient
  | setCover hagrees => exact step_respelled_of_eq (hcommand _ _ (.setCover hagrees)) hclient
  | same => exact step_respelled_of_eq rfl hclient

theorem run_respelled {steps steps' : List (Step Registry.Command)}
    (hrespells : List.Forall₂ Step.Respells steps steps') :
    ∀ client client' : Client Registry, Client.Alike Registry.Respelled client client' →
      List.Forall₂ (fun told second => Outcome.Retold told.1 told.2 second)
        (steps'.zip (run (@Registry.service Call) client steps))
        (run (@Registry.service Call) client' steps') ∧
      Client.Alike Registry.Respelled (after (@Registry.service Call) client steps)
        (after (@Registry.service Call) client' steps') := by
  induction hrespells with
  | nil => exact fun _ _ hclient => ⟨.nil, hclient⟩
  | cons hnext _ ih =>
    intro client client' hclient
    obtain ⟨htold, hstate⟩ := @step_respelled Call _ _ _ _ hnext hclient
    obtain ⟨hrest, hreached⟩ := ih _ _ hstate
    exact ⟨.cons htold hrest, hreached⟩

/-! ## Paths that do not agree -/

theorem exists_registers?_iff {path : FilePath} (steps : List (Step Registry.Command)) :
    (∃ next ∈ steps, next.registers? path ≠ none) ↔
      ∃ registered : FilePath, registered.Agrees path ∧
        ((∃ raw, .command (.insert registered raw) ∈ steps) ∨
          .command (.insertEmpty registered) ∈ steps) := by
  constructor
  · rintro ⟨next, hnext, hregisters⟩
    cases next with
    | openHandle | useHandle | request => simp [Step.registers?] at hregisters
    | command command =>
      cases command with
      | insert registered raw =>
        have hparts : registered.parts = path.parts := by simpa [Step.registers?] using hregisters
        exact ⟨registered, (FilePath.parts_eq_iff _ _).mp hparts, .inl ⟨raw, hnext⟩⟩
      | insertEmpty registered =>
        have hparts : registered.parts = path.parts := by simpa [Step.registers?] using hregisters
        exact ⟨registered, (FilePath.parts_eq_iff _ _).mp hparts, .inr hnext⟩
      | setCover | countSessions | abandonInsert => simp [Step.registers?] at hregisters
  · rintro ⟨registered, hagrees, ⟨raw, hnext⟩ | hnext⟩
    · refine ⟨_, hnext, ?_⟩
      simp [Step.registers?, (FilePath.parts_eq_iff _ _).mpr hagrees]
    · refine ⟨_, hnext, ?_⟩
      simp [Step.registers?, (FilePath.parts_eq_iff _ _).mpr hagrees]

theorem isSome_allocate_iff (path : FilePath) (registry : Registry) :
    ((Registry.allocate path : Action Registry Call _) registry).value.isSome ↔
      (registry.file? path).isSome := by
  cases hfile : registry.file? path with
  | none => simp [Registry.allocate_of_unregistered hfile]
  | some file => simp [Registry.allocate_of_registered (Option.isSome_of_mem hfile)]

theorem value_openHandle_eq_opened_iff {number : Int} (path : FilePath)
    (hfree : client.handles[number]? = none) :
    (step (@Registry.service Call) (.openHandle number path) client).value = .opened ↔
      (client.backend.file? path).isSome := by
  cases hfile : client.backend.file? path with
  | none => simp [step_openHandle_of_unregistered hfree hfile]
  | some file => simp [step_openHandle_of_registered hfree (Option.isSome_of_mem hfile)]

theorem file?_step_of_not_agrees {command : Registry.Command} {changed path : FilePath}
    (hchanged : (Step.command command).path? = some changed) (hother : ¬ changed.Agrees path)
    (client : Client Registry) :
    (step (@Registry.service Call) (.command command) client).state.backend.file? path =
      client.backend.file? path := by
  have hparts : changed.parts ≠ path.parts := mt (FilePath.parts_eq_iff _ _).mp hother
  have hspared : (Step.command command).registers? path = none ∧
      (Step.command command).covers? path = none := by
    cases command with
    | insert | insertEmpty | setCover =>
      obtain rfl := Option.some.inj hchanged
      simp [Step.registers?, Step.covers?, hparts]
    | countSessions | abandonInsert => cases hchanged
  rw [file?_step, hspared.1, hspared.2]
  simp

theorem file?_after_congr {path : FilePath} (steps : List (Step Registry.Command)) :
    ∀ client client' : Client Registry,
      client.backend.file? path = client'.backend.file? path →
        (after (@Registry.service Call) client steps).backend.file? path =
          (after (@Registry.service Call) client' steps).backend.file? path := by
  induction steps with
  | nil => exact fun _ _ hfile => hfile
  | cons next rest ih =>
    intro client client' hfile
    refine ih _ _ ?_
    rw [file?_step, file?_step, hfile]

theorem file?_after_append_cons {command : Registry.Command} {changed path : FilePath}
    (hchanged : (Step.command command).path? = some changed) (hother : ¬ changed.Agrees path)
    (client : Client Registry) (earlier later : List (Step Registry.Command)) :
    (after (@Registry.service Call) client
        (earlier ++ .command command :: later)).backend.file? path =
      (after (@Registry.service Call) client (earlier ++ later)).backend.file? path := by
  rw [after_append, after_append]
  exact file?_after_congr later _ _ (file?_step_of_not_agrees hchanged hother _)

theorem value_fetch_of_sessionPath? {registry : Registry} {token : Token} {path other : FilePath}
    (hpath : registry.sessionPath? token = some other) (hagrees : other.Agrees path) :
    ((@Registry.service Call).backend.fetchMetadata token registry).value =
        (registry.file? path).bind RegisteredFile.metadata? ∧
      ((@Registry.service Call).backend.fetchCover token registry).value =
        (registry.file? path).bind RegisteredFile.cover? := by
  have hfile : registry.sessionFile? token = registry.file? path :=
    (Registry.sessionFile?_of_sessionPath? hpath).trans
      (registry.file?_congr ((FilePath.parts_eq_iff _ _).mpr hagrees))
  rw [← hfile]
  exact ⟨congrArg Outcome.value (Registry.fetchMetadata_apply token registry),
    congrArg Outcome.value (Registry.fetchCover_apply token registry)⟩

/-! ## The main statement -/

theorem tells_run (steps : List (Step Registry.Command)) :
    ∀ client : Client Registry,
      List.Forall₂ (fun next outcome => Outcome.Tells next outcome) steps
        (run (@Registry.service Call) client steps) := by
  induction steps with
  | nil => exact fun _ => .nil
  | cons next rest ih => exact fun client => .cons (tells_step next client) (ih _)

/-- **Spellings make no difference.**  Let two runs differ in nothing but the spellings of
the paths that are given, for files that are registered, covered, opened or asked for.
Then they answer and log alike, now and at the end, but for the path of the step, which
is told as it is spelled in the step.  In no run is another path told.

Paths that do not agree are never confused.  A path can be opened, and a session be asked
for it, just if an agreeing path was inserted before.  And a command for another path can be
left out of a run: then and ever after, the same file is registered for the path, and the
sessions on it read the same.  The command itself changes no handle and no session. -/
theorem spellings_make_no_difference {steps steps' : List (Step Registry.Command)}
    (hrespells : List.Forall₂ Step.Respells steps steps') :
    let service := @Registry.service Call
    let start := fresh Registry.empty
    let reached := after service start steps
    List.Forall₂ (fun told second => Outcome.Retold told.1 told.2 second)
      (steps'.zip (run service start steps)) (run service start steps') ∧
    (finish service.backend (after service start steps')).log =
      (finish service.backend reached).log ∧
    (∀ taken, List.Forall₂ (fun next outcome => Outcome.Tells next outcome) taken
      (run service start taken)) ∧
    (∀ path : FilePath,
      let inserted := ∃ registered : FilePath, registered.Agrees path ∧
        ((∃ raw, .command (.insert registered raw) ∈ steps) ∨
          .command (.insertEmpty registered) ∈ steps)
      ((service.backend.allocate path reached.backend).value.isSome ↔ inserted) ∧
      ∀ number : Int, reached.handles[number]? = none →
        ((step service (.openHandle number path) reached).value = .opened ↔ inserted)) ∧
    (∀ earlier command later changed path, (Step.command command).path? = some changed →
      ¬ changed.Agrees path →
        let kept := (after service start (earlier ++ .command command :: later)).backend
        let left := (after service start (earlier ++ later)).backend
        kept.file? path = left.file? path ∧
        ∀ token token' other other', kept.sessionPath? token = some other →
          left.sessionPath? token' = some other' → other.Agrees path → other'.Agrees path →
            (service.backend.fetchMetadata token kept).value =
                (service.backend.fetchMetadata token' left).value ∧
              (service.backend.fetchCover token kept).value =
                (service.backend.fetchCover token' left).value) ∧
    ∀ command client,
      (step service (.command command) client).state.handles = client.handles ∧
        (step service (.command command) client).state.backend.sessions =
          client.backend.sessions := by
  intro service start reached
  obtain ⟨htold, hreached⟩ := @run_respelled Call _ _ hrespells start start
    (fresh_alike (Registry.Respelled.refl _))
  have hending := finish_alike (@Registry.backend_respelled Call) _ _ hreached
  refine ⟨htold, hending.log_eq.symm, fun taken => tells_run taken start, fun path => ?_,
    fun earlier command later changed path hchanged hother => ?_, fun command client => ?_⟩
  · have hregistered : (reached.backend.file? path).isSome ↔ _ :=
      (isSome_file?_after_iff steps).trans (exists_registers?_iff steps)
    exact ⟨(isSome_allocate_iff path reached.backend).trans hregistered,
      fun number hfree => (value_openHandle_eq_opened_iff path hfree).trans hregistered⟩
  · intro kept left
    have hfile : kept.file? path = left.file? path :=
      file?_after_append_cons hchanged hother start earlier later
    refine ⟨hfile, fun token token' other other' hkept hleft hagrees hagrees' => ?_⟩
    obtain ⟨hmetadata, hcover⟩ := @value_fetch_of_sessionPath? Call _ _ _ _ hkept hagrees
    obtain ⟨hmetadata', hcover'⟩ := @value_fetch_of_sessionPath? Call _ _ _ _ hleft hagrees'
    rw [hfile] at hmetadata hcover
    exact ⟨hmetadata.trans hmetadata'.symm, hcover.trans hcover'.symm⟩
  · exact ⟨rfl, Registry.sessions_perform command client.backend⟩

/-- A file is opened under another spelling in each of two runs, and under a third one past
the handles.  A dot that opens the path makes it another path. -/
theorem spellings_make_no_difference_dots :
    let raw : RawMetadata := [([0x6B], [0x31])]
    let steps : List (Step Registry.Command) :=
      [.command (.insert (.ofText "a") raw), .openHandle 1 (.ofText "a//."),
        .openHandle 2 (.ofText "./a"), .useHandle 1 .metadata]
    let steps' : List (Step Registry.Command) :=
      [.command (.insert (.ofText "a/./") raw), .openHandle 1 (.ofText "a"),
        .openHandle 2 (.ofText ".//a/."), .useHandle 1 .metadata]
    let service := @Registry.service Empty
    let start := fresh Registry.empty
    let reached := after service start steps
    List.Forall₂ Step.Respells steps steps' ∧
      (run service start steps').map Outcome.log =
        [[], [.registrySession (.ofSlot 0) (.ofText "a"), .opened (.ofText "a") (.ofSlot 0)],
          [.refused (.ofText ".//a/.")], [.pair "k" "1"]] ∧
      (finish service.backend (after service start steps')).log =
        (finish service.backend reached).log ∧
      (service.backend.allocate (.ofText "a/") reached.backend).value.isSome ∧
      ¬ (service.backend.allocate (.ofText "./a") reached.backend).value.isSome := by
  intro raw steps steps' service start reached
  have hrespells : List.Forall₂ Step.Respells steps steps' :=
    .cons (.insert ⟨by decide, by decide⟩) (.cons (.openHandle ⟨by decide, by decide⟩)
      (.cons (.openHandle ⟨by decide, by decide⟩) (.cons (.same _) .nil)))
  obtain ⟨-, hending, -, hopened, -⟩ := @spellings_make_no_difference Empty _ _ hrespells
  refine ⟨hrespells, by decide, hending, (hopened _).1.mpr ?_, mt (hopened _).1.mp ?_⟩
  · exact ⟨.ofText "a", ⟨by decide, by decide⟩, .inl ⟨raw, List.mem_cons_self⟩⟩
  · rintro ⟨registered, hagrees, hinserted⟩
    obtain rfl : registered = .ofText "a" := by simpa [steps] using hinserted
    exact absurd hagrees.components_eq (by decide)

end Client

end DemuxSession
