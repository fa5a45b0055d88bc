import DemuxSession.Proofs.Ownership
import DemuxSession.Proofs.SessionMap

/-!
# What a session reads

A session of the registry reads what is registered for its path at the time, so that
what it reads is decided by the registrations of the whole run, before it was opened
and after.  Two tables take part in an answer: the slab has the path of the session,
the registered files what belongs to the path.

* Which path a token stands for is told by the exchanges of the run
  (`Exchange.rebind`), and the slab agrees (`boundPath?_eq`).
* What is registered for a path is told by the steps of the run: the last
  registration of the path, and the last cover given to it since
  (`file?_after_of_last`).
* The path of a session stays registered (`Registry.SessionsRegistered`), because a
  session is opened on a registered path and no step takes a registration back.
-/

namespace DemuxSession

variable {Call : Type}

/-! ## Registrations of a run -/

namespace Step

/-- What a step registers for a path, if it registers the path: metadata, or nothing. -/
def registers? (path : FilePath) : Step Registry.Command → Option (Option RawMetadata)
  | .command (.insert registered raw) =>
    if registered.parts = path.parts then some (some raw) else none
  | .command (.insertEmpty registered) =>
    if registered.parts = path.parts then some none else none
  | _ => none

/-- The cover a step gives to a path, if it gives one to the path. -/
def covers? (path : FilePath) : Step Registry.Command → Option Cover
  | .command (.setCover covered cover) =>
    if covered.parts = path.parts then some cover else none
  | _ => none

/-- Whether a step begins a registration and gives it up. -/
def abandons (next : Step Registry.Command) : Bool := next = .command .abandonInsert

end Step

/-- The last registration of a path in a run: what it registered, and the steps that
came later. -/
structure LastRegistration (path : FilePath) (steps : List (Step Registry.Command))
    (raw? : Option RawMetadata) (later : List (Step Registry.Command)) : Prop where
  registration : ∃ earlier next, steps = earlier ++ next :: later ∧
    next.registers? path = some raw?
  last : ∀ next ∈ later, next.registers? path = none

/-- The cover that was given to a path last. -/
def lastCover? (path : FilePath) (steps : List (Step Registry.Command)) : Option Cover :=
  (steps.filterMap (Step.covers? path)).getLast?

theorem lastCover?_cons (path : FilePath) (next : Step Registry.Command)
    (rest : List (Step Registry.Command)) :
    lastCover? path (next :: rest) = (lastCover? path rest).or (next.covers? path) := by
  unfold lastCover?
  cases hcover : next.covers? path with
  | none => rw [List.filterMap_cons_none hcover, Option.or_none]
  | some cover =>
    rw [List.filterMap_cons_some hcover, List.getLast?_cons]
    cases (rest.filterMap (Step.covers? path)).getLast? <;> rfl

theorem exists_lastRegistration {path : FilePath} (steps : List (Step Registry.Command))
    (hregistered : ∃ next ∈ steps, next.registers? path ≠ none) :
    ∃ raw? later, LastRegistration path steps raw? later := by
  induction steps with
  | nil => simp at hregistered
  | cons first rest ih =>
    by_cases hrest : ∃ next ∈ rest, next.registers? path ≠ none
    · obtain ⟨raw?, later, ⟨earlier, next, rfl, hnext⟩, hlast⟩ := ih hrest
      exact ⟨raw?, later, ⟨first :: earlier, next, rfl, hnext⟩, hlast⟩
    · -- The first step is the only registration of the path.
      push Not at hrest
      obtain ⟨next, hmem, hnext⟩ := hregistered
      rcases List.mem_cons.mp hmem with rfl | hmem
      · obtain ⟨raw?, hraw⟩ := Option.ne_none_iff_exists'.mp hnext
        exact ⟨raw?, rest, ⟨[], next, rfl, hraw⟩, hrest⟩
      · exact absurd (hrest next hmem) hnext

namespace Registry

theorem file?_congr (registry : Registry) {path other : FilePath}
    (hparts : path.parts = other.parts) : registry.file? path = registry.file? other := by
  unfold file?
  rw [hparts]

/-- A cover goes to its path if that is registered, and nowhere else. -/
theorem file?_setCover (registry : Registry) (covered path : FilePath) (cover : Cover) :
    (registry.setCover covered cover).2.file? path =
      (registry.file? path).map fun file =>
        if covered.parts = path.parts then { file with cover? := some cover } else file := by
  unfold setCover
  by_cases hparts : covered.parts = path.parts
  · rw [← registry.file?_congr hparts]
    cases hfile : registry.file? covered with
    | none => simpa [registry.file?_congr hparts] using hfile
    | some file => simp [file?_register, hparts]
  · cases hfile : registry.file? covered with
    | none => simp [hparts]
    | some file => simp [file?_register, hparts]

end Registry

namespace Client

/-- A registration decides what is registered for its path.  What is no registration
of a path can only give it another cover. -/
theorem file?_step (next : Step Registry.Command) (client : Client Registry) (path : FilePath) :
    (step (@Registry.service Call) next client).state.backend.file? path =
      match next.registers? path with
      | some raw? => some ⟨raw?, none⟩
      | none => (client.backend.file? path).map fun file =>
          { file with cover? := (next.covers? path).or file.cover? } := by
  have hfiles : (∀ command, next ≠ .command command) →
      (step (@Registry.service Call) next client).state.backend.files = client.backend.files :=
    fun hnext => step_keeps Registry.backend_keeps_files Registry.sameFiles_composes next
      (fun command hcommand => absurd hcommand (hnext command)) client
  have hfile : (∀ command, next ≠ .command command) →
      (step (@Registry.service Call) next client).state.backend.file? path =
        client.backend.file? path := by
    intro hnext
    unfold Registry.file?
    rw [hfiles hnext]
  cases next with
  | openHandle number opened => simp [hfile, Step.registers?, Step.covers?]
  | useHandle number use => simp [hfile, Step.registers?, Step.covers?]
  | request request => simp [hfile, Step.registers?, Step.covers?]
  | command command =>
    cases command with
    | insert registered raw =>
      refine (client.backend.file?_register registered path ⟨some raw, none⟩).trans ?_
      by_cases hparts : registered.parts = path.parts
      · simp [Step.registers?, hparts]
      · simp [Step.registers?, Step.covers?, hparts]
    | insertEmpty registered =>
      refine (client.backend.file?_register registered path ⟨none, none⟩).trans ?_
      by_cases hparts : registered.parts = path.parts
      · simp [Step.registers?, hparts]
      · simp [Step.registers?, Step.covers?, hparts]
    | setCover covered cover =>
      refine (client.backend.file?_setCover covered path cover).trans ?_
      by_cases hparts : covered.parts = path.parts
      · simp [Step.registers?, Step.covers?, hparts]
      · simp [Step.registers?, Step.covers?, hparts]
    | countSessions => simp [step, onBackend, Registry.service, Registry.perform,
        Step.registers?, Step.covers?]
    | abandonInsert => simp [step, onBackend, Registry.service, Registry.perform,
        Step.registers?, Step.covers?]

/-! ### Runs -/

/-- As long as a path is not registered anew, it can only be given covers. -/
theorem file?_after_of_not_registered (path : FilePath) (steps : List (Step Registry.Command)) :
    ∀ client : Client Registry, (∀ next ∈ steps, next.registers? path = none) →
      (after (@Registry.service Call) client steps).backend.file? path =
        (client.backend.file? path).map fun file =>
          { file with cover? := (lastCover? path steps).or file.cover? } := by
  induction steps with
  | nil =>
    intro client _
    exact (Option.map_id_apply).symm
  | cons next rest ih =>
    intro client hsteps
    have hnext := hsteps next List.mem_cons_self
    have hrest := ih (step (@Registry.service Call) next client).state
      fun later hlater => hsteps later (List.mem_cons_of_mem _ hlater)
    refine hrest.trans ?_
    rw [file?_step, hnext, lastCover?_cons]
    cases client.backend.file? path with
    | none => rfl
    | some file => simp [Option.or_assoc]

/-- **The registered file.**  After a run, what is registered for a path is what its
last registration says, with the last cover given since. -/
theorem file?_after_of_last {path : FilePath} {steps later : List (Step Registry.Command)}
    {raw? : Option RawMetadata} (hlast : LastRegistration path steps raw? later)
    (client : Client Registry) :
    (after (@Registry.service Call) client steps).backend.file? path =
      some ⟨raw?, lastCover? path later⟩ := by
  obtain ⟨⟨earlier, next, rfl, hnext⟩, hlater⟩ := hlast
  have hregistered : (step (@Registry.service Call) next
      (after (@Registry.service Call) client earlier)).state.backend.file? path =
        some ⟨raw?, none⟩ := by
    rw [file?_step, hnext]
  rw [after_append]
  refine (file?_after_of_not_registered path later _ hlater).trans ?_
  rw [hregistered]
  simp

theorem isSome_file?_after_iff {path : FilePath} (steps : List (Step Registry.Command)) :
    ((after (@Registry.service Call) (fresh Registry.empty) steps).backend.file? path).isSome ↔
      ∃ next ∈ steps, next.registers? path ≠ none := by
  by_cases hregistered : ∃ next ∈ steps, next.registers? path ≠ none
  · obtain ⟨raw?, later, hlast⟩ := exists_lastRegistration steps hregistered
    simp [file?_after_of_last hlast, hregistered]
  · have hsteps : ∀ next ∈ steps, next.registers? path = none := by
      push Not at hregistered
      exact hregistered
    rw [file?_after_of_not_registered path steps _ hsteps]
    simp [fresh, Registry.file?, Registry.empty, hregistered]

end Client

/-! ## Sessions on registered paths -/

namespace Registry

/-- The paths of all sessions are registered. -/
def SessionsRegistered (registry : Registry) : Prop :=
  ∀ slot path, registry.sessions.get? slot = some path → (registry.file? path).isSome

/-- If the paths of all sessions were registered, they still are. -/
def KeepsRegistered (registry : Registry) (_ : List Call) (registry' : Registry) : Prop :=
  registry.SessionsRegistered → registry'.SessionsRegistered

theorem keepsRegistered_composes :
    Composes (KeepsRegistered : Registry → List Call → Registry → Prop) where
  nil _ := id
  append hfirst hsecond := hsecond ∘ hfirst

theorem SessionsRegistered.insert {registry : Registry} (hregistered : registry.SessionsRegistered)
    {path : FilePath} (hfile : (registry.file? path).isSome) :
    SessionsRegistered { registry with sessions := registry.sessions.insert path } := by
  intro slot other hslot
  rw [Slab.get?_insert] at hslot
  by_cases hnew : slot = registry.sessions.nextSlot
  · rw [if_pos hnew] at hslot
    obtain rfl := Option.some.inj hslot
    exact hfile
  · rw [if_neg hnew] at hslot
    exact hregistered slot other hslot

theorem SessionsRegistered.remove {registry : Registry} (hregistered : registry.SessionsRegistered)
    (removed : Nat) :
    SessionsRegistered { registry with sessions := registry.sessions.remove removed } := by
  intro slot other hslot
  rw [Slab.get?_remove] at hslot
  by_cases hremoved : slot = removed
  · rw [if_pos hremoved] at hslot
    cases hslot
  · rw [if_neg hremoved] at hslot
    exact hregistered slot other hslot

theorem backend_keeps_registered : (@backend Call).Keeps KeepsRegistered := by
  refine keeps_of_serves fun hserves hregistered => ?_
  cases hserves with
  | opened hfile => exact hregistered.insert hfile
  | ended => exact hregistered.remove _
  | refused | unknown | metadata | cover => exact hregistered

theorem perform_keeps_registered (command : Command) :
    (perform command : Action Registry Call Report).Keeps KeepsRegistered := by
  intro registry hregistered slot path hslot
  rw [sessions_perform] at hslot
  have hfile := hregistered slot path hslot
  have hperformed : ((perform command : Action Registry Call Report) registry).state.file? path =
      _ := Client.file?_step (.command command) (Client.fresh registry) path
  rw [hperformed]
  cases (Step.command command).registers? path with
  | some raw? => rfl
  | none => simpa [Client.fresh] using hfile

theorem sessionsRegistered_after (steps : List (Step Command)) :
    (Client.after (@service Call) (Client.fresh empty) steps).backend.SessionsRegistered := by
  have hkeeps : (@service Call).backend.Keeps KeepsRegistered := backend_keeps_registered
  have hrun := Client.run_keeps hkeeps perform_keeps_registered keepsRegistered_composes steps
    (Client.fresh empty)
  refine hrun fun slot path hslot => ?_
  cases hslot

end Registry

/-! ## Paths of tokens -/

/-- The path a token stands for after an exchange, given the one it stood for before. -/
def Exchange.rebind (token : Token) (bound? : Option FilePath) : Exchange → Option FilePath
  | ⟨.allocate path, .token (some given)⟩ => if token = given then some path else bound?
  | ⟨.release released, .status status⟩ =>
    if token = released ∧ status = 0 then none else bound?
  | _ => bound?

/-- The path a token stands for after the exchanges of a run: the one it was given for,
if it was not released since. -/
def boundPath? (token : Token) (exchanges : List Exchange) : Option FilePath :=
  exchanges.foldl (Exchange.rebind token) none

namespace Registry

theorem sessionFile?_of_sessionPath? {registry : Registry} {token : Token} {path : FilePath}
    (hpath : registry.sessionPath? token = some path) :
    registry.sessionFile? token = registry.file? path := by
  have hslot : registry.sessions.get? token.slot = some path := hpath
  unfold sessionFile?
  rw [hslot]
  rfl

/-- Every token stands for the path that the exchanges say. -/
def Rebound (registry : Registry) (exchanges : List Exchange) (registry' : Registry) : Prop :=
  ∀ token, registry'.sessionPath? token =
    exchanges.foldl (Exchange.rebind token) (registry.sessionPath? token)

theorem rebound_composes : Composes Rebound where
  nil _ _ := rfl
  append hfirst hsecond token := by
    rw [List.foldl_append, ← hfirst, ← hsecond]

theorem recorded_keeps_rebound : (@backend Call).recorded.Keeps Rebound := by
  refine recorded_keeps_of_serves fun {registry _ _} hserves token => ?_
  cases hserves with
  | opened => simp [Exchange.rebind, sessionPath?_insert]
  | ended => simp [Exchange.rebind, sessionPath?_remove]
  | unknown => simp [Exchange.rebind, unknownToken]
  | refused | metadata | cover => simp [Exchange.rebind]

theorem recorded_perform_keeps_rebound (command : Command) :
    ((@service Call).recorded.perform command).Keeps Rebound := by
  intro registry token
  exact congrArg (fun sessions => sessions.get? token.slot) (sessions_perform command registry)

end Registry

/-- The slab has the path of every token that the exchanges of the run tell. -/
theorem boundPath?_eq (steps : List (Step Registry.Command)) (token : Token) :
    boundPath? token ((Client.run (@Registry.service Call).recorded (Client.fresh Registry.empty)
        steps).flatMap Outcome.calls) =
      (Client.after (@Registry.service Call) (Client.fresh Registry.empty)
        steps).backend.sessionPath? token := by
  have hkeeps : (@Registry.service Call).recorded.backend.Keeps Registry.Rebound :=
    Registry.recorded_keeps_rebound
  have hrun := Client.run_keeps hkeeps Registry.recorded_perform_keeps_rebound
    Registry.rebound_composes steps (Client.fresh Registry.empty) token
  rw [← Client.backend_after_recorded, hrun]
  rfl

namespace Client

/-! ## Registrations that are given up -/

theorem state_step_of_abandons {next : Step Registry.Command} (habandons : next.abandons)
    (client : Client Registry) : (step (@Registry.service Call) next client).state = client := by
  obtain rfl : next = .command .abandonInsert := by simpa [Step.abandons] using habandons
  rfl

/-- Without the registrations that are given up, the rest of a run goes as it did. -/
theorem run_filter_abandons (steps : List (Step Registry.Command)) :
    ∀ client : Client Registry,
      let kept := steps.filter (!·.abandons)
      ((steps.zip (run (@Registry.service Call) client steps)).filter (!·.1.abandons)) =
          kept.zip (run (@Registry.service Call) client kept) ∧
        after (@Registry.service Call) client kept =
          after (@Registry.service Call) client steps := by
  induction steps with
  | nil => exact fun _ => ⟨rfl, rfl⟩
  | cons next rest ih =>
    intro client
    cases habandons : next.abandons with
    | true =>
      have hstate := @state_step_of_abandons Call _ habandons client
      simpa [habandons, run, after, hstate] using ih client
    | false =>
      simpa [habandons, run, after] using ih (step (@Registry.service Call) next client).state

/-! ## The main statement -/

theorem exists_opened_of_path? {client : Client Registry} {number : Int} {path : FilePath}
    (hpath : client.path? number = some path) :
    ∃ token, client.handles[number]? = some (.opened token) ∧
      client.backend.sessionPath? token = some path := by
  cases hheld : client.handles[number]? with
  | none => simp [path?_eq_none_of_free hheld] at hpath
  | some handle =>
    cases handle with
    | closed => simp [path?_eq_none_of_closed hheld] at hpath
    | opened token => exact ⟨token, rfl, (path?_eq_of_opened hheld).symm.trans hpath⟩

/-- **Reads follow the registrations.**  In any run on the registry, with steps on
handles, commands, and requests past the handles with any tokens:

* a token stands for a path, as the exchanges tell, exactly if the slab has the path
  in its slot;
* the path that a token stands for was registered, and the token reads the metadata of
  the last registration and the last cover given since; so does a handle that holds
  the token;
* if the sessions of the handles are spared, an open handle holds a token that stands
  for the path the handle was opened on;
* a cover is accepted exactly if its path was registered before, and changes nothing
  otherwise;
* registrations that were given up can be left out of the run. -/
theorem reads_follow_registrations (steps : List (Step Registry.Command)) :
    let service := @Registry.service Call
    let start := fresh Registry.empty
    let reached := after service start steps
    let exchanges := (run service.recorded start steps).flatMap Outcome.calls
    let ledger := Ledger.empty.noteAll steps (run service start steps)
    let kept := steps.filter (!·.abandons)
    (∀ token, boundPath? token exchanges = reached.backend.sessionPath? token) ∧
    (∀ token path, boundPath? token exchanges = some path →
      (∃ raw? later, LastRegistration path steps raw? later) ∧
      ∀ raw? later, LastRegistration path steps raw? later →
        service.backend.fetchMetadata token reached.backend =
          ⟨raw?, reached.backend, [], []⟩ ∧
        service.backend.fetchCover token reached.backend =
          ⟨lastCover? path later, reached.backend, [], []⟩ ∧
        ∀ number : Int, reached.handles[number]? = some (.opened token) →
          (step service (.useHandle number .metadata) reached).value = .metadata
            (RawMetadata.decode raw? reached.backend : Outcome _ Call MetadataMap).value ∧
          (step service (.useHandle number .cover) reached).value =
            .cover (lastCover? path later)) ∧
    (SparesHandles service start steps → ∀ (number : Int) path,
      ledger.opened[number]? = some path →
        ∃ token, reached.handles[number]? = some (.opened token) ∧
          boundPath? token exchanges = some path) ∧
    (∀ path cover,
      let outcome := step service (.command (.setCover path cover)) reached
      (outcome.value = .report (.known true) ↔ ∃ next ∈ steps, next.registers? path ≠ none) ∧
      (outcome.value = .report (.known true) ∨
        outcome = ⟨.report (.known false), reached, [], []⟩)) ∧
    ((steps.zip (run service start steps)).filter (!·.1.abandons) =
        kept.zip (run service start kept) ∧
      after service start kept = reached) := by
  intro service start reached exchanges ledger kept
  have hbound : ∀ token, boundPath? token exchanges = reached.backend.sessionPath? token :=
    fun token => boundPath?_eq steps token
  refine ⟨hbound, fun token path hpath => ?_, fun hspares number path hopened => ?_,
    fun path cover => ?_, run_filter_abandons steps start⟩
  · rw [hbound] at hpath
    have hfile := Registry.sessionFile?_of_sessionPath? hpath
    -- The path of a session is registered, and so has a last registration.
    have hregistered := (@isSome_file?_after_iff Call _ steps).mp
      (Registry.sessionsRegistered_after steps token.slot path hpath)
    refine ⟨exists_lastRegistration steps hregistered, fun raw? later hlast => ?_⟩
    have hreached : reached.backend.sessionFile? token = some ⟨raw?, lastCover? path later⟩ :=
      hfile.trans (file?_after_of_last hlast start)
    have hmetadata : service.backend.fetchMetadata token reached.backend =
        ⟨raw?, reached.backend, [], []⟩ := by
      refine (Registry.fetchMetadata_apply token reached.backend).trans ?_
      rw [hreached]
      rfl
    have hcover : service.backend.fetchCover token reached.backend =
        ⟨lastCover? path later, reached.backend, [], []⟩ := by
      refine (Registry.fetchCover_apply token reached.backend).trans ?_
      rw [hreached]
      rfl
    refine ⟨hmetadata, hcover, fun number hheld => ⟨?_, ?_⟩⟩
    · rw [step_useHandle_of_held .metadata hheld]
      simp [useHandle, onBackend, Handle.metadata, hmetadata]
    · rw [step_useHandle_of_held .cover hheld]
      simp [useHandle, onBackend, Handle.cover, hcover]
  · have howned : Owned reached ledger :=
      owned_after steps start Ledger.empty Owned.fresh_empty hspares
    obtain ⟨token, hheld, hpath⟩ :=
      exists_opened_of_path? ((howned.opened number).symm.trans hopened)
    exact ⟨token, hheld, (hbound token).trans hpath⟩
  · intro outcome
    have hregistered : (reached.backend.file? path).isSome ↔
        ∃ next ∈ steps, next.registers? path ≠ none := isSome_file?_after_iff steps
    have houtcome : outcome =
        ⟨.report (.known (reached.backend.setCover path cover).1),
          { reached with backend := (reached.backend.setCover path cover).2 }, [], []⟩ := rfl
    rw [houtcome, ← hregistered]
    unfold Registry.setCover
    cases hfile : reached.backend.file? path with
    | none => exact ⟨by simp, .inr rfl⟩
    | some file => exact ⟨by simp, .inl rfl⟩

/-- A file is registered again under another spelling while a handle is open on it.
The handle reads the later registration, which dropped the cover given before. -/
theorem reads_follow_registrations_again :
    let path := FilePath.ofText "a"
    let spelled := FilePath.ofText "a//."
    let raw : RawMetadata := [([0x6B], [0x32])]
    let later : List (Step Registry.Command) :=
      [.command .abandonInsert, .command (.setCover path ⟨.png, [7]⟩)]
    let steps : List (Step Registry.Command) :=
      [.command (.insert path [([0x6B], [0x31])]), .openHandle 1 spelled,
        .command (.setCover path ⟨.jpeg, [6]⟩), .command (.insert spelled raw)] ++ later
    let service := @Registry.service Empty
    let start := fresh Registry.empty
    let reached := after service start steps
    let exchanges := (run service.recorded start steps).flatMap Outcome.calls
    boundPath? (.ofSlot 0) exchanges = some spelled ∧
      LastRegistration path steps (some raw) later ∧
      (service.backend.fetchMetadata (.ofSlot 0) reached.backend).value = some raw ∧
      (step service (.useHandle 1 .cover) reached).value = .cover (some ⟨.png, [7]⟩) := by
  intro path spelled raw later steps service start reached exchanges
  have hbound : boundPath? (.ofSlot 0) exchanges = some spelled := by decide
  have hlast : LastRegistration path steps (some raw) later :=
    ⟨⟨[_, _, _], .command (.insert spelled raw), rfl, by decide⟩, by decide⟩
  have hspelled : LastRegistration spelled steps (some raw) later :=
    ⟨⟨[_, _, _], .command (.insert spelled raw), rfl, by decide⟩, by decide⟩
  obtain ⟨-, hreads, -⟩ := @reads_follow_registrations Empty steps
  obtain ⟨hmetadata, -, hhandle⟩ := (hreads _ _ hbound).2 _ _ hspelled
  have hcover := (hhandle 1 (by decide)).2
  exact ⟨hbound, hlast, congrArg Outcome.value hmetadata, hcover.trans rfl⟩

end Client

end DemuxSession
