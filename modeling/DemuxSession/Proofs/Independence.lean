import DemuxSession.Proofs.Ownership
import Mathlib.Data.List.Forall2
import Mathlib.Data.Set.Insert

/-!
# Handles do not see each other

Take a run on the registry without requests past the handles, hide some of the
handles, and delete every step on a hidden handle, and perhaps some of the steps
that only read.  What is left of the run goes as it went before, up to the numbers
of the sessions.

The two runs give different tokens to the same handle and use slots again at
different times.  They are compared along a renaming of tokens (`Mirrors`): the
handles that are not hidden are the same up to the renaming, and the sessions of
such a handle stand on one path in both registries.  A handle that is opened takes
a fresh token in each run, and the renaming is updated there; it stays right about
the other handles because their tokens are taken (`Client.Owned`).

* `Mirrors.delete` treats a step that is deleted,
* `Mirrors.keep` treats a step that is kept,
* `handles_independent` follows the marked steps of a run.
-/

namespace DemuxSession

variable {State Call Command Report : Type}

/-! ## Renaming -/

/-- The handle with its session renamed. -/
def Handle.rename (counterpart : Token → Token) : Handle → Handle
  | .opened token => .opened (counterpart token)
  | .closed => .closed

/-- The line with its session, if it is about one, renamed. -/
def LogLine.rename (counterpart : Token → Token) : LogLine → LogLine
  | .opened path token => .opened path (counterpart token)
  | .released token => .released (counterpart token)
  | .releaseFailed token status => .releaseFailed (counterpart token) status
  | .droppedOpen token => .droppedOpen (counterpart token)
  | .registrySession token path => .registrySession (counterpart token) path
  | .stringsCounted token count => .stringsCounted (counterpart token) count
  | line => line

theorem RawMetadata.map_rename_log_decode (counterpart : Token → Token)
    (raw? : Option RawMetadata) (state : State) :
    (decode raw? state : Outcome State Call MetadataMap).log.map (LogLine.rename counterpart) =
      (decode raw? state : Outcome State Call MetadataMap).log := by
  refine (List.map_congr_left fun line hline => ?_).trans (List.map_id _)
  obtain ⟨key, value, rfl⟩ := log_decode raw? state line hline
  rfl

theorem RawMetadata.decode_congr (Call : Type) (raw? : Option RawMetadata)
    (first second : State) :
    (decode raw? second : Outcome State Call MetadataMap).value =
        (decode raw? first : Outcome State Call MetadataMap).value ∧
      (decode raw? second : Outcome State Call MetadataMap).log =
        (decode raw? first : Outcome State Call MetadataMap).log := by
  have halike : (decode raw? : Action State Call MetadataMap).Alike (fun _ _ => True)
      (decode raw? : Action State Call MetadataMap) := decode_alike raw?
  exact ⟨(halike second first trivial).value_eq, (halike second first trivial).log_eq⟩

/-! ## Kinds of steps -/

namespace Step

theorem isRequest_of_handle? {next : Step Command} {number : Int}
    (hon : next.handle? = some number) : next.isRequest = false := by
  cases next with
  | openHandle number path => rfl
  | useHandle number use => rfl
  | request request => simp [handle?] at hon
  | command command => rfl

/-- The step is on a hidden handle. -/
def IsOn (hidden : Set Int) (next : Step Command) : Prop :=
  ∃ number ∈ hidden, next.handle? = some number

/-- Whether a step only asks something. -/
def onlyReads : Step Registry.Command → Bool
  | .useHandle _ use => use.reads
  | .command .countSessions => true
  | _ => false

/-- Whether the answer to a step tells about session numbers, or how many there
are. -/
def tellsSessions : Step Registry.Command → Bool
  | .useHandle _ .describe | .command .countSessions => true
  | _ => false

end Step

namespace Client

/-! ## Watching a run -/

/-- A step of a run, with the client before it and what came of it. -/
structure Moment (State Call Command Report : Type) where
  before : Client State
  next : Step Command
  outcome : Outcome (Client State) Call (Answer Report)

/-- The moments of the marked steps of a run.  The other steps are taken as well. -/
def watched (service : Service State Call Command Report) :
    Client State → List (Step Command × Bool) → List (Moment State Call Command Report)
  | _, [] => []
  | client, (next, marked) :: rest =>
    let outcome := step service next client
    let later := watched service outcome.state rest
    if marked then ⟨client, next, outcome⟩ :: later else later

theorem map_outcome_watched (service : Service State Call Command Report)
    (steps : List (Step Command × Bool)) :
    ∀ client : Client State, (watched service client steps).map Moment.outcome =
      ((run service client (steps.map Prod.fst)).zip (steps.map Prod.snd)).filterMap
        fun entry => if entry.2 then some entry.1 else none := by
  induction steps with
  | nil => exact fun _ => rfl
  | cons entry rest ih =>
    intro client
    obtain ⟨next, marked⟩ := entry
    cases marked with
    | true => simp [watched, run, ih]
    | false => simp [watched, run, ih]

/-- The handles that are not hidden are the same up to the numbers of their
sessions, and different sessions have different counterparts. -/
structure SameHandles (counterpart : Token → Token) (hidden : Set Int)
    (client client' : Client State) : Prop where
  handles : ∀ number ∉ hidden,
    client'.handles[number]? = client.handles[number]?.map (Handle.rename counterpart)
  apart : ∀ first ∉ hidden, ∀ second ∉ hidden, ∀ token token',
    client.handles[first]? = some (.opened token) →
    client.handles[second]? = some (.opened token') →
    counterpart token = counterpart token' → token = token'

/-- The same step was taken twice, and went the same way up to the numbers of the
sessions. -/
structure Moment.Matches (hidden : Set Int)
    (first second : Moment Registry Call Registry.Command Registry.Report) : Prop where
  next_eq : second.next = first.next
  value_eq : first.next.tellsSessions = false → second.outcome.value = first.outcome.value
  renamed : ∃ counterpart : Token → Token,
    SameHandles counterpart hidden first.before second.before ∧
    SameHandles counterpart hidden first.outcome.state second.outcome.state ∧
    second.outcome.log = first.outcome.log.map (LogLine.rename counterpart)

/-! ## Other handles -/

section Others

variable {client : Client Registry} {ledger : Ledger} {number : Int}

theorem path?_step_of_ne (howned : Owned client ledger) {next : Step Registry.Command}
    (hrequest : next.isRequest = false) (hother : next.handle? ≠ some number) :
    (step (@Registry.service Call) next client).state.path? number =
      client.path? number := by
  have hspares : client.Spares next :=
    spares_of_isRequest client hrequest
  calc (step (@Registry.service Call) next client).state.path? number
      = (ledger.note next _).opened[number]? := ((owned_step howned next hspares).opened _).symm
    _ = ledger.opened[number]? := ledger.opened_note_of_ne hother _
    _ = client.path? number := howned.opened number

theorem files_step_of_handle (client : Client Registry) {next : Step Registry.Command}
    (hon : next.handle? = some number) :
    (step (@Registry.service Call) next client).state.backend.files = client.backend.files := by
  have hcommand : ∀ command, next = .command command →
      ((@Registry.service Call).perform command).Keeps Registry.SameFiles := by
    rintro command rfl
    simp [Step.handle?] at hon
  exact step_keeps Registry.backend_keeps_files Registry.sameFiles_composes next hcommand client

theorem sessionFile?_eq_of_opened {token : Token}
    (hheld : client.handles[number]? = some (.opened token)) :
    client.backend.sessionFile? token =
      (client.path? number).bind fun path => client.backend.file? path := by
  rw [path?_eq_of_opened hheld]
  rfl

end Others

/-! ## Two runs side by side -/

/-- The two clients have the same files and, up to the numbers of the sessions, the
same handles that are not hidden, and the sessions of those stand on the same
paths. -/
structure Mirrors (counterpart : Token → Token) (hidden : Set Int)
    (client client' : Client Registry) : Prop where
  files : client'.backend.files = client.backend.files
  handles : ∀ number ∉ hidden,
    client'.handles[number]? = client.handles[number]?.map (Handle.rename counterpart)
  paths : ∀ number ∉ hidden, client'.path? number = client.path? number
  owned : ∃ ledger, Owned client ledger
  owned' : ∃ ledger, Owned client' ledger

namespace Mirrors

variable {counterpart : Token → Token} {hidden : Set Int} {client client' : Client Registry}
  {number : Int}

theorem fresh_empty (counterpart : Token → Token) (hidden : Set Int) :
    Mirrors counterpart hidden (fresh Registry.empty) (fresh Registry.empty) where
  files := rfl
  handles _ _ := by simp [fresh]
  paths _ _ := rfl
  owned := ⟨Ledger.empty, Owned.fresh_empty⟩
  owned' := ⟨Ledger.empty, Owned.fresh_empty⟩

theorem handle_of_held (hmirrors : Mirrors counterpart hidden client client')
    (hvisible : number ∉ hidden) {handle : Handle}
    (hheld : client.handles[number]? = some handle) :
    client'.handles[number]? = some (handle.rename counterpart) := by
  rw [hmirrors.handles number hvisible, hheld]
  rfl

theorem handle_of_free (hmirrors : Mirrors counterpart hidden client client')
    (hvisible : number ∉ hidden) (hfree : client.handles[number]? = none) :
    client'.handles[number]? = none := by
  rw [hmirrors.handles number hvisible, hfree]
  rfl

/-- Different sessions have different counterparts, because no handle of the
second client shares its session. -/
theorem sameHandles (hmirrors : Mirrors counterpart hidden client client') :
    SameHandles counterpart hidden client client' where
  handles := hmirrors.handles
  apart first hfirst second hsecond token token' hheld hheld' heq := by
    obtain ⟨ledger, howned⟩ := hmirrors.owned'
    -- Handles with one session in the second client are one handle.
    have hnodup : (heldTokens client'.handles).Nodup :=
      (howned.held.nodup.sublist (List.sublist_append_left _ _)).sublist
        (List.sublist_append_left _ _)
    have hfirst' : client'.handles[first]? = some (.opened (counterpart token)) :=
      hmirrors.handle_of_held hfirst hheld
    have hsecond' : client'.handles[second]? = some (.opened (counterpart token)) := by
      rw [heq]
      exact hmirrors.handle_of_held hsecond hheld'
    obtain rfl := eq_of_opened_of_nodup hnodup hfirst' hsecond'
    rw [hheld] at hheld'
    cases hheld'
    rfl

/-- What the counterpart of a free token is does not matter. -/
theorem update (hmirrors : Mirrors counterpart hidden client client') {token : Token}
    (hfree : ∀ number : Int, client.handles[number]? ≠ some (.opened token)) (given : Token) :
    Mirrors (Function.update counterpart token given) hidden client client' where
  files := hmirrors.files
  handles number hvisible := by
    rw [hmirrors.handles number hvisible]
    cases hheld : client.handles[number]? with
    | none => rfl
    | some handle =>
      cases handle with
      | closed => rfl
      | opened held =>
        have hne : held ≠ token := by
          rintro rfl
          exact hfree number hheld
        simp [Handle.rename, Function.update_of_ne hne]
  paths := hmirrors.paths
  owned := hmirrors.owned
  owned' := hmirrors.owned'

/-! ### Deleted steps -/

/-- A step on a hidden handle is not seen. -/
theorem delete (hmirrors : Mirrors counterpart hidden client client')
    {next : Step Registry.Command} (hon : next.IsOn hidden) :
    Mirrors counterpart hidden (step (@Registry.service Call) next client).state client' := by
  obtain ⟨number, hmem, hhandle⟩ := hon
  obtain ⟨ledger, howned⟩ := hmirrors.owned
  have hrequest : next.isRequest = false := Step.isRequest_of_handle? hhandle
  have hother : ∀ other ∉ hidden, next.handle? ≠ some other := by
    intro other hvisible hother
    obtain rfl : number = other := Option.some.inj (hhandle.symm.trans hother)
    exact hvisible hmem
  refine ⟨?_, fun other hvisible => ?_, fun other hvisible => ?_, ?_, hmirrors.owned'⟩
  · rw [hmirrors.files, files_step_of_handle client hhandle]
  · rw [hmirrors.handles other hvisible, handles_step_of_ne next (hother other hvisible)]
  · rw [hmirrors.paths other hvisible, path?_step_of_ne howned hrequest (hother other hvisible)]
  · exact ⟨_, owned_step howned next (spares_of_isRequest client hrequest)⟩

/-! ### Kept steps -/

/-- A step that is taken in both runs leaves them alike if it leaves its own handle
alike. -/
theorem step_of_handle (hmirrors : Mirrors counterpart hidden client client')
    {next : Step Registry.Command} (hon : next.handle? = some number)
    (hhandle : (step (@Registry.service Call) next client').state.handles[number]? =
      (step (@Registry.service Call) next client).state.handles[number]?.map
        (Handle.rename counterpart))
    (hpath : (step (@Registry.service Call) next client').state.path? number =
      (step (@Registry.service Call) next client).state.path? number) :
    Mirrors counterpart hidden (step (@Registry.service Call) next client).state
      (step (@Registry.service Call) next client').state := by
  obtain ⟨ledger, howned⟩ := hmirrors.owned
  obtain ⟨ledger', howned'⟩ := hmirrors.owned'
  have hrequest : next.isRequest = false := Step.isRequest_of_handle? hon
  refine ⟨?_, fun other hvisible => ?_, fun other hvisible => ?_, ?_, ?_⟩
  · rw [files_step_of_handle client' hon, hmirrors.files, files_step_of_handle client hon]
  · -- The handle of the step is given, and the others are as they were.
    by_cases hother : number = other
    · rw [← hother, hhandle]
    · have hne : next.handle? ≠ some other := by simpa [hon] using hother
      rw [handles_step_of_ne next hne, hmirrors.handles other hvisible,
        handles_step_of_ne next hne]
  · by_cases hother : number = other
    · rw [← hother, hpath]
    · have hne : next.handle? ≠ some other := by simpa [hon] using hother
      rw [path?_step_of_ne howned' hrequest hne, hmirrors.paths other hvisible,
        path?_step_of_ne howned hrequest hne]
  · exact ⟨_, owned_step howned next (spares_of_isRequest client hrequest)⟩
  · exact ⟨_, owned_step howned' next (spares_of_isRequest client' hrequest)⟩

/-- A step that leaves the two clients alike along one renaming matches itself. -/
theorem matches_self (hbefore : Mirrors counterpart hidden client client')
    {next : Step Registry.Command}
    (hafter : Mirrors counterpart hidden (step (@Registry.service Call) next client).state
      (step (@Registry.service Call) next client').state)
    (hlog : (step (@Registry.service Call) next client').log =
      (step (@Registry.service Call) next client).log.map (LogLine.rename counterpart))
    (hvalue : next.tellsSessions = false →
      (step (@Registry.service Call) next client').value =
        (step (@Registry.service Call) next client).value) :
    Moment.Matches hidden ⟨client, next, step (@Registry.service Call) next client⟩
      ⟨client', next, step (@Registry.service Call) next client'⟩ :=
  ⟨rfl, hvalue, counterpart, hbefore.sameHandles, hafter.sameHandles, hlog⟩

/-- The step is kept: it leaves the clients alike, along some renaming, and matches
itself. -/
def Keeps (Call : Type) (hidden : Set Int) (next : Step Registry.Command)
    (client client' : Client Registry) : Prop :=
  ∃ counterpart,
    Mirrors counterpart hidden (step (@Registry.service Call) next client).state
      (step (@Registry.service Call) next client').state ∧
    Moment.Matches hidden ⟨client, next, step (@Registry.service Call) next client⟩
      ⟨client', next, step (@Registry.service Call) next client'⟩

theorem keep_of_outcomes (hmirrors : Mirrors counterpart hidden client client')
    {next : Step Registry.Command} (hon : next.handle? = some number)
    {outcome outcome' : Outcome (Client Registry) Call (Answer Registry.Report)}
    (hstep : step Registry.service next client = outcome)
    (hstep' : step Registry.service next client' = outcome')
    (hvalue : outcome'.value = outcome.value)
    (hlog : outcome'.log = outcome.log.map (LogLine.rename counterpart))
    (hhandle : outcome'.state.handles[number]? =
      outcome.state.handles[number]?.map (Handle.rename counterpart))
    (hpath : outcome'.state.path? number = outcome.state.path? number) :
    Keeps Call hidden next client client' := by
  subst hstep hstep'
  have hafter := hmirrors.step_of_handle hon hhandle hpath
  exact ⟨counterpart, hafter, hmirrors.matches_self hafter hlog fun _ => hvalue⟩

/-! ### Opening -/

theorem file?_eq (hmirrors : Mirrors counterpart hidden client client') (path : FilePath) :
    client'.backend.file? path = client.backend.file? path := by
  unfold Registry.file?
  rw [hmirrors.files]

theorem keep_openHandle (hmirrors : Mirrors counterpart hidden client client')
    (hvisible : number ∉ hidden) (path : FilePath) :
    Keeps Call hidden (.openHandle number path) client client' := by
  cases hheld : client.handles[number]? with
  | some handle =>
    refine hmirrors.keep_of_outcomes rfl (step_openHandle_of_held path hheld)
      (step_openHandle_of_held path (hmirrors.handle_of_held hvisible hheld)) rfl rfl ?_ ?_
    · exact hmirrors.handles number hvisible
    · exact hmirrors.paths number hvisible
  | none =>
    have hfree := hmirrors.handle_of_free hvisible hheld
    have hfiles := hmirrors.file?_eq path
    cases hfile : client.backend.file? path with
    | none =>
      refine hmirrors.keep_of_outcomes rfl (step_openHandle_of_unregistered hheld hfile)
        (step_openHandle_of_unregistered hfree (hfiles.trans hfile)) rfl rfl ?_ ?_
      · exact hmirrors.handles number hvisible
      · exact hmirrors.paths number hvisible
    | some file =>
      -- The new token of the first run is free in it, so that the renaming can be
      -- updated there.
      have hnew : ∀ other : Int, client.handles[other]? ≠
          some (.opened (.ofSlot client.backend.sessions.nextSlot)) := by
        intro other hother
        obtain ⟨ledger, howned⟩ := hmirrors.owned
        exact howned.held.ofSlot_nextSlot_notMem
          (List.mem_append_left _ (mem_sessions_of_opened hother))
      have hupdated := hmirrors.update hnew (.ofSlot client'.backend.sessions.nextSlot)
      refine hupdated.keep_of_outcomes rfl
        (step_openHandle_of_registered hheld (Option.isSome_of_mem hfile))
        (step_openHandle_of_registered hfree (Option.isSome_of_mem (hfiles.trans hfile)))
        rfl ?_ ?_ ?_
      · simp [LogLine.rename]
      · rw [Std.ExtTreeMap.getElem?_insert_self, Std.ExtTreeMap.getElem?_insert_self]
        simp [Handle.rename]
      · rw [path?_eq_of_opened Std.ExtTreeMap.getElem?_insert_self,
          path?_eq_of_opened Std.ExtTreeMap.getElem?_insert_self]
        simp [Slab.get?_insert]

/-! ### Uses -/

theorem sessionFile?_eq (hmirrors : Mirrors counterpart hidden client client')
    (hvisible : number ∉ hidden) {token : Token}
    (hheld : client.handles[number]? = some (.opened token)) :
    client'.backend.sessionFile? (counterpart token) = client.backend.sessionFile? token := by
  have hheld' : client'.handles[number]? = some (.opened (counterpart token)) :=
    hmirrors.handle_of_held hvisible hheld
  rw [sessionFile?_eq_of_opened hheld, sessionFile?_eq_of_opened hheld',
    hmirrors.paths number hvisible]
  simp only [hmirrors.file?_eq]

variable (Call) in
theorem reads_alike (hmirrors : Mirrors counterpart hidden client client')
    (hvisible : number ∉ hidden) {use : HandleUse} (hreads : use.reads) :
    let next : Step Registry.Command := .useHandle number use
    (step (@Registry.service Call) next client').log =
        (step (@Registry.service Call) next client).log.map (LogLine.rename counterpart) ∧
      (next.tellsSessions = false →
        (step (@Registry.service Call) next client').value =
          (step (@Registry.service Call) next client).value) := by
  intro next
  cases hheld : client.handles[number]? with
  | none =>
    have hfree := hmirrors.handle_of_free hvisible hheld
    rw [step_useHandle_of_free use hheld, step_useHandle_of_free use hfree]
    exact ⟨rfl, fun _ => rfl⟩
  | some handle =>
    rw [step_useHandle_of_held use hheld,
      step_useHandle_of_held use (hmirrors.handle_of_held hvisible hheld)]
    cases handle with
    | closed =>
      cases use with
      | isOpen | metadata | thermal | cover | describe => exact ⟨rfl, fun _ => rfl⟩
      | close | drop | forget => simp [HandleUse.reads] at hreads
    | opened token =>
      have hfile := hmirrors.sessionFile?_eq hvisible hheld
      cases use with
      | isOpen => exact ⟨rfl, fun _ => rfl⟩
      | describe => exact ⟨rfl, fun htells => by simp [next, Step.tellsSessions] at htells⟩
      | cover =>
        simp [useHandle, onBackend, Handle.cover, Handle.rename, Registry.service,
          Registry.fetchCover_apply, hfile]
      | metadata | thermal =>
        obtain ⟨hvalue, hlog⟩ := RawMetadata.decode_congr Call
          ((client.backend.sessionFile? token).bind RegisteredFile.metadata?)
          client.backend client'.backend
        simp [useHandle, onBackend, Handle.metadata, Handle.thermal, Handle.rename,
          Registry.service, Registry.fetchMetadata_apply, hfile, hvalue, hlog,
          RawMetadata.map_rename_log_decode]
      | close | drop | forget => simp [HandleUse.reads] at hreads

theorem keep_useHandle (hmirrors : Mirrors counterpart hidden client client')
    (hvisible : number ∉ hidden) (use : HandleUse) :
    Keeps Call hidden (.useHandle number use) client client' := by
  cases hreads : use.reads with
  | true =>
    obtain ⟨hlog, hvalue⟩ := hmirrors.reads_alike Call hvisible hreads
    refine ⟨counterpart, ?_, hmirrors.matches_self ?_ hlog hvalue⟩
    · rw [state_step_of_reads hreads, state_step_of_reads hreads]
      exact hmirrors
    · rw [state_step_of_reads hreads, state_step_of_reads hreads]
      exact hmirrors
  | false =>
    cases hheld : client.handles[number]? with
    | none =>
      refine hmirrors.keep_of_outcomes rfl (step_useHandle_of_free use hheld)
        (step_useHandle_of_free use (hmirrors.handle_of_free hvisible hheld)) rfl rfl ?_ ?_
      · exact hmirrors.handles number hvisible
      · exact hmirrors.paths number hvisible
    | some handle =>
      have hheld' := hmirrors.handle_of_held hvisible hheld
      cases handle with
      | closed =>
        rcases HandleUse.eq_of_not_reads hreads with rfl | rfl | rfl
        · refine hmirrors.keep_of_outcomes rfl (step_close_of_closed hheld)
            (step_close_of_closed hheld') rfl rfl ?_ ?_
          · exact hmirrors.handles number hvisible
          · exact hmirrors.paths number hvisible
        · refine hmirrors.keep_of_outcomes rfl (step_letGo_of_closed rfl hheld)
            (step_letGo_of_closed rfl hheld') rfl rfl ?_ ?_
          · simp
          · simp [path?]
        · refine hmirrors.keep_of_outcomes rfl (step_letGo_of_closed rfl hheld)
            (step_letGo_of_closed rfl hheld') rfl rfl ?_ ?_
          · simp
          · simp [path?]
      | opened token =>
        -- The handle owns its session in both runs, so that both releases succeed.
        obtain ⟨ledger, howned⟩ := hmirrors.owned
        obtain ⟨ledger', howned'⟩ := hmirrors.owned'
        have hlive := howned.isSome_of_opened hheld
        have hlive' := howned'.isSome_of_opened hheld'
        rcases HandleUse.eq_of_not_reads hreads with rfl | rfl | rfl
        · refine hmirrors.keep_of_outcomes rfl (step_close_of_live hheld hlive)
            (step_close_of_live hheld' hlive') rfl rfl ?_ ?_
          · simp [Handle.rename]
          · simp [path?, Handle.token?]
        · refine hmirrors.keep_of_outcomes rfl (step_drop_of_live hheld hlive)
            (step_drop_of_live hheld' hlive') rfl rfl ?_ ?_
          · simp
          · simp [path?]
        · refine hmirrors.keep_of_outcomes rfl (step_forget_of_opened hheld)
            (step_forget_of_opened hheld') rfl rfl ?_ ?_
          · simp
          · simp [path?]

/-! ### Commands -/

theorem keep_command (hmirrors : Mirrors counterpart hidden client client')
    (command : Registry.Command) : Keeps Call hidden (.command command) client client' := by
  obtain ⟨hfiles, hvalue⟩ := Registry.perform_congr Call command hmirrors.files
  obtain ⟨ledger, howned⟩ := hmirrors.owned
  obtain ⟨ledger', howned'⟩ := hmirrors.owned'
  have hafter : Mirrors counterpart hidden
      (step (@Registry.service Call) (.command command) client).state
      (step (@Registry.service Call) (.command command) client').state := by
    refine ⟨hfiles, hmirrors.handles, fun number hvisible => ?_, ?_, ?_⟩
    · have hother : (Step.command command).handle? ≠ some number := by simp [Step.handle?]
      rw [path?_step_of_ne howned' rfl hother, hmirrors.paths number hvisible,
        path?_step_of_ne howned rfl hother]
    · exact ⟨_, howned.withBackend (Registry.sessions_perform command client.backend)⟩
    · exact ⟨_, howned'.withBackend (Registry.sessions_perform command client'.backend)⟩
  refine ⟨counterpart, hafter, hmirrors.matches_self hafter ?_ fun htells => ?_⟩
  · simp [step, onBackend, Registry.service, Registry.log_perform]
  · have hcommand : command ≠ .countSessions := by
      rintro rfl
      simp [Step.tellsSessions] at htells
    simp [step, onBackend, Registry.service, hvalue hcommand]

theorem keep (hmirrors : Mirrors counterpart hidden client client') {next : Step Registry.Command}
    (hrequest : next.isRequest = false) (hon : ¬ next.IsOn hidden) :
    Keeps Call hidden next client client' := by
  have hvisible : ∀ number, next.handle? = some number → number ∉ hidden :=
    fun number hhandle hmem => hon ⟨number, hmem, hhandle⟩
  cases next with
  | openHandle number path => exact hmirrors.keep_openHandle (hvisible number rfl) path
  | useHandle number use => exact hmirrors.keep_useHandle (hvisible number rfl) use
  | request request => simp [Step.isRequest] at hrequest
  | command command => exact hmirrors.keep_command command

end Mirrors

/-! ## The main statement -/

theorem state_step_of_onlyReads {next : Step Registry.Command} (hreads : next.onlyReads)
    (client : Client Registry) : (step (@Registry.service Call) next client).state = client := by
  cases next with
  | openHandle number path => simp [Step.onlyReads] at hreads
  | useHandle number use => exact state_step_of_reads hreads
  | request request => simp [Step.onlyReads] at hreads
  | command command =>
    cases command with
    | countSessions => simp [step, onBackend, Registry.service, Registry.perform]
    | insert path raw => simp [Step.onlyReads] at hreads
    | insertEmpty path => simp [Step.onlyReads] at hreads
    | setCover path cover => simp [Step.onlyReads] at hreads
    | abandonInsert => simp [Step.onlyReads] at hreads

/-- Two runs that begin alike, the second without the steps that are not marked,
match at the marked steps. -/
theorem watched_matches {hidden : Set Int} (steps : List (Step Registry.Command × Bool)) :
    ∀ (counterpart : Token → Token) (client client' : Client Registry),
      Mirrors counterpart hidden client client' →
      (∀ entry ∈ steps, entry.1.isRequest = false) →
      (∀ entry ∈ steps, entry.2 = true → ¬ entry.1.IsOn hidden) →
      (∀ entry ∈ steps, entry.2 = false → entry.1.IsOn hidden ∨ entry.1.onlyReads) →
      List.Forall₂ (Moment.Matches hidden) (watched (@Registry.service Call) client steps)
        (watched (@Registry.service Call) client' (steps.filter Prod.snd)) := by
  induction steps with
  | nil => exact fun _ _ _ _ _ _ _ => .nil
  | cons entry rest ih =>
    -- The renaming is not fixed along the induction: a step that opens a handle
    -- changes it.
    intro counterpart client client' hmirrors hrequests hkept hdeleted
    obtain ⟨next, marked⟩ := entry
    have hrest := fun counterpart client client' hmirrors =>
      ih counterpart client client' hmirrors
        (fun entry hentry => hrequests entry (List.mem_cons_of_mem _ hentry))
        (fun entry hentry => hkept entry (List.mem_cons_of_mem _ hentry))
        (fun entry hentry => hdeleted entry (List.mem_cons_of_mem _ hentry))
    cases marked with
    | true =>
      have hkeep : Mirrors.Keeps Call hidden next client client' :=
        hmirrors.keep (hrequests _ List.mem_cons_self) (hkept _ List.mem_cons_self rfl)
      obtain ⟨counterpart', hafter, hmatches⟩ := hkeep
      exact .cons hmatches (hrest counterpart' _ _ hafter)
    | false =>
      rcases hdeleted _ List.mem_cons_self rfl with hon | hreads
      · exact hrest counterpart _ _ (hmirrors.delete hon)
      · have hstate : (step (@Registry.service Call) next client).state = client :=
          state_step_of_onlyReads hreads client
        have hafter := hrest counterpart client client' hmirrors
        simpa [watched, hstate] using hafter

/-- **Handles do not see each other.**  In a run on the registry without requests
past the handles, some of the steps are marked.  No step on a hidden handle is
marked, and of the other steps all are, except perhaps some that only read.

Then the run of the marked steps alone goes, step by step, as they went in the
full run: the answers are the same, but for those that tell about session numbers,
and the logs are the same up to the numbers of the sessions. -/
theorem handles_independent (hidden : Set Int) (steps : List (Step Registry.Command × Bool))
    (hrequests : ∀ entry ∈ steps, entry.1.isRequest = false)
    (hkept : ∀ entry ∈ steps, entry.2 = true → ¬ entry.1.IsOn hidden)
    (hdeleted : ∀ entry ∈ steps, entry.2 = false → entry.1.IsOn hidden ∨ entry.1.onlyReads) :
    List.Forall₂ (Moment.Matches hidden)
      (watched (@Registry.service Call) (fresh Registry.empty) steps)
      (watched (@Registry.service Call) (fresh Registry.empty) (steps.filter Prod.snd)) := by
  have hmirrors := Mirrors.fresh_empty id hidden
  exact watched_matches steps id _ _ hmirrors hrequests hkept hdeleted

/-- The third handle takes the slot of the first in the full run, and a new slot
when the first is hidden. -/
theorem handles_independent_reused :
    let path := FilePath.ofText "a"
    let steps : List (Step Registry.Command × Bool) :=
      [(.command (.insertEmpty path), true), (.openHandle 1 path, false),
        (.openHandle 2 path, true), (.useHandle 2 .describe, false), (.useHandle 1 .close, false),
        (.openHandle 3 path, true), (.command .countSessions, false), (.useHandle 3 .drop, true)]
    let full := watched (@Registry.service Empty) (fresh Registry.empty) steps
    let thin := watched (@Registry.service Empty) (fresh Registry.empty) (steps.filter Prod.snd)
    (full.map fun moment => moment.outcome.log).getLast? =
        some [.droppedOpen (.ofSlot 0), .released (.ofSlot 0)] ∧
      (thin.map fun moment => moment.outcome.log).getLast? =
        some [.droppedOpen (.ofSlot 1), .released (.ofSlot 1)] ∧
      List.Forall₂ (Moment.Matches {1}) full thin := by
  intro path steps full thin
  refine ⟨by decide, by decide, handles_independent {1} steps (by decide) ?_ ?_⟩
  · simp [steps, Step.IsOn, Step.handle?]
  · simp [steps, Step.IsOn, Step.handle?, Step.onlyReads, HandleUse.reads]

end Client

end DemuxSession
