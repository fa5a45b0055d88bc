import DemuxSession.Library.Backend
import DemuxSession.Proofs.Release
import DemuxSession.Proofs.Sessions
import DemuxSession.Proofs.Wording

/-!
# The log is a journal of the sessions

Handles log when they are opened, when they are dropped while open, and when their
session is released.  No backend of this library logs such lines on its own
(`Service.Quiet`), so the log of a run tells what the handles did, and nothing else.

* **One step.**  What a step logs of this kind is what it asks of the backend
  (`Client.tellsExchanges_step`): a line for every session that was given to a handle,
  and a line for every release.  How the lines stand in the log is said by
  `Client.JournalsEndings`.
* **A run.**  The exchanges of a run balance with the sessions that are open
  (`Client.count_sessions_run`), and so do the lines.

`Client.log_keeps_journal` says both of the written log, in which a session is known by
its text alone.
-/

namespace DemuxSession

variable {State Call Value Next Command Report : Type}

/-! ## The lines of handles -/

namespace LogLine

/-- Whether it is a handle that logs such a line about its session. -/
def ofHandle : LogLine → Bool
  | .opened .. | .released _ | .releaseFailed .. | .droppedOpen _ => true
  | .refused _ | .pair .. | .registrySession .. | .zeroInPath _ | .stringsCounted .. |
    .stringPair .. | .callFailed .. | .unknownCoverKind _ | .loading _ | .entryPointsFound => false

/-- Whether the line tells that a handle holds the session. -/
def opens (token : Token) : LogLine → Bool
  | .opened _ given => given = token
  | _ => false

/-- Whether the line tells that the session was released. -/
def ends (token : Token) : LogLine → Bool
  | .released ended | .releaseFailed ended _ => ended = token
  | _ => false

/-- The line about the release of a session. -/
def ending (token : Token) (status : Int32) : LogLine :=
  if status = 0 then .released token else .releaseFailed token status

variable {line : LogLine} {token : Token}

theorem opens_eq_false (hline : line.ofHandle = false) : line.opens token = false := by
  cases line <;> simp [ofHandle, opens] at hline ⊢

theorem ends_eq_false (hline : line.ofHandle = false) : line.ends token = false := by
  cases line <;> simp [ofHandle, ends] at hline ⊢

@[simp] theorem opens_opened (path : FilePath) (given token : Token) :
    (opened path given).opens token = decide (given = token) := rfl

@[simp] theorem ends_opened (path : FilePath) (given token : Token) :
    (opened path given).ends token = false := rfl

@[simp] theorem opens_refused (path : FilePath) (token : Token) :
    (refused path).opens token = false := rfl

@[simp] theorem ends_refused (path : FilePath) (token : Token) :
    (refused path).ends token = false := rfl

@[simp] theorem opens_droppedOpen (dropped token : Token) :
    (droppedOpen dropped).opens token = false := rfl

@[simp] theorem ends_droppedOpen (dropped token : Token) :
    (droppedOpen dropped).ends token = false := rfl

@[simp] theorem opens_ending (released token : Token) (status : Int32) :
    (ending released status).opens token = false := by
  unfold ending
  split <;> rfl

@[simp] theorem ends_ending (released token : Token) (status : Int32) :
    (ending released status).ends token = decide (released = token) := by
  unfold ending
  split <;> rfl

theorem countP_opens_entry (log : List LogLine) (token : Token) :
    (log.map entry).countP (fun entry => entry.Opens token.display) = log.countP (opens token) := by
  rw [List.countP_map]
  refine List.countP_congr fun line _ => ?_
  rw [Function.comp_apply, decide_eq_true_iff, opens_entry_iff]
  cases line <;> simp [opens]

theorem countP_ends_entry (log : List LogLine) (token : Token) :
    (log.map entry).countP (fun entry => entry.Ends token.display) = log.countP (ends token) := by
  rw [List.countP_map]
  refine List.countP_congr fun line _ => ?_
  rw [Function.comp_apply, decide_eq_true_iff, ends_entry_iff]
  cases line <;> simp [ends]

end LogLine

/-! ## Quiet backends -/

/-- The action logs no line of the kind that handles log. -/
def Action.Quiet (action : Action State Call Value) : Prop :=
  ∀ state, ∀ line ∈ (action state).log, line.ofHandle = false

namespace Action

theorem Quiet.pure (value : Value) : (Pure.pure value : Action State Call Value).Quiet :=
  fun _ _ hline => absurd hline List.not_mem_nil

theorem Quiet.read (view : State → Value) : (Action.read view : Action State Call Value).Quiet :=
  fun _ _ hline => absurd hline List.not_mem_nil

theorem Quiet.update (change : State → Value × State) :
    (Action.update change : Action State Call Value).Quiet :=
  fun _ _ hline => absurd hline List.not_mem_nil

theorem Quiet.call (event : Call) : (Action.call event : Action State Call Unit).Quiet :=
  fun _ _ hline => absurd hline List.not_mem_nil

theorem Quiet.log {line : LogLine} (hline : line.ofHandle = false) :
    (Action.log line : Action State Call Unit).Quiet := by
  intro _ logged hlogged
  obtain rfl := List.mem_singleton.mp hlogged
  exact hline

theorem Quiet.bind {action : Action State Call Value} {next : Value → Action State Call Next}
    (haction : action.Quiet) (hnext : ∀ value, (next value).Quiet) : (action >>= next).Quiet := by
  intro state line hline
  rcases List.mem_append.mp hline with hline | hline
  · exact haction state line hline
  · exact hnext _ _ line hline

end Action

/-- The operations of the backend log no lines of the kind that handles log, and releasing
a session logs nothing at all. -/
structure Backend.Quiet (backend : Backend State Call) : Prop where
  allocate : ∀ path, (backend.allocate path).Quiet
  release : ∀ token state, (backend.release token state).log = []
  fetchMetadata : ∀ token, (backend.fetchMetadata token).Quiet
  fetchCover : ∀ token, (backend.fetchCover token).Quiet

/-- Neither the operations of the backend nor the commands log lines of the kind that
handles log. -/
structure Service.Quiet (service : Service State Call Command Report) : Prop where
  backend : service.backend.Quiet
  perform : ∀ command, (service.perform command).Quiet

theorem Backend.Quiet.alone {backend : Backend State Call} (hquiet : backend.Quiet) :
    backend.alone.Quiet :=
  ⟨hquiet, nofun⟩

theorem Backend.Quiet.answer {backend : Backend State Call} (hquiet : backend.Quiet)
    (request : Request) : (backend.answer request).Quiet := by
  cases request with
  | allocate path => exact (hquiet.allocate path).bind fun _ => .pure _
  | release token =>
    refine Action.Quiet.bind (fun state line hline => ?_) fun _ => .pure _
    rw [hquiet.release token state] at hline
    exact absurd hline List.not_mem_nil
  | fetchMetadata token => exact (hquiet.fetchMetadata token).bind fun _ => .pure _
  | fetchCover token => exact (hquiet.fetchCover token).bind fun _ => .pure _

/-- Recording logs nothing. -/
theorem Service.Quiet.recorded {service : Service State Call Command Report}
    (hquiet : service.Quiet) : service.recorded.Quiet := by
  have halike := service.backend.recorded_alike
  refine ⟨⟨fun path state => ?_, fun token state => ?_, fun token state => ?_,
    fun token state => ?_⟩, hquiet.perform⟩
  · rw [backend_recorded, ← (halike.allocate path state state rfl).log_eq]
    exact hquiet.backend.allocate path state
  · rw [backend_recorded, ← (halike.release token state state rfl).log_eq]
    exact hquiet.backend.release token state
  · rw [backend_recorded, ← (halike.fetchMetadata token state state rfl).log_eq]
    exact hquiet.backend.fetchMetadata token state
  · rw [backend_recorded, ← (halike.fetchCover token state state rfl).log_eq]
    exact hquiet.backend.fetchCover token state

/-! ### The backends of this library -/

theorem Registry.service_quiet : (@Registry.service Call).Quiet := by
  refine ⟨⟨fun path => ?_, fun token registry => rfl, fun token => ?_, fun token => ?_⟩,
    fun command registry line hline => ?_⟩
  · refine .bind (.read _) fun file? => ?_
    cases file? with
    | none => exact .pure none
    | some file => exact .bind (.update _) fun slot => .bind (.log rfl) fun _ => .pure _
  · exact .bind (.read _) fun _ => .pure _
  · exact .bind (.read _) fun _ => .pure _
  · rw [Registry.service, log_perform] at hline
    exact absurd hline List.not_mem_nil

theorem Script.replying_quiet (knowsCovers : Bool) : (Script.replying knowsCovers).Quiet := by
  refine ⟨fun path => .update _, fun token script => rfl, fun token => .update _,
    fun token => ?_⟩
  cases knowsCovers with
  | true => exact .update _
  | false => exact .pure none

namespace Library

theorem logPairs_quiet (raw : RawMetadata) : (logPairs raw).Quiet := by
  induction raw with
  | nil => exact .pure ()
  | cons pair rest ih => exact .bind (.log rfl) fun _ => ih

theorem StringsReply.metadata?_quiet (reply : StringsReply) : reply.metadata?.Quiet := by
  unfold metadata?
  split
  · exact .bind (.log rfl) fun _ => .pure none
  · split
    · exact .pure none
    · split
      · exact .bind (logPairs_quiet _) fun _ => .pure _
      · exact .pure none

theorem queryCover_quiet (token : Token) : (queryCover token).Quiet := by
  refine .bind (.bind (.call _) fun _ => .update _) fun reply => ?_
  dsimp only
  split
  · exact .bind (.log rfl) fun _ => .pure none
  · split
    · exact .pure none
    · exact .pure _

theorem copyCover_quiet (token : Token) (announced : CoverVariables) :
    (copyCover token announced).Quiet := by
  refine .bind (.bind (.call _) fun _ => .update _) fun reply => ?_
  dsimp only
  split
  · exact .bind (.log rfl) fun _ => .pure none
  · split
    · exact .pure _
    · exact .bind (.log rfl) fun _ => .pure none

theorem backend_quiet : Library.backend.Quiet := by
  refine ⟨fun path => ?_, fun token replies => rfl, fun token => ?_, fun token => ?_⟩
  · show (Library.allocate path).Quiet
    unfold Library.allocate
    split
    · exact .bind (.log rfl) fun _ => .pure none
    · exact .bind (.bind (.call _) fun _ => .update _) fun _ => .pure _
  · exact .bind (.bind (.call _) fun _ => .update _) fun reply =>
      .bind (.log rfl) fun _ => reply.metadata?_quiet
  · refine .bind (queryCover_quiet token) fun announced? => ?_
    cases announced? with
    | some announced => exact copyCover_quiet token announced
    | none => exact .pure none

end Library

/-! ## What a step logs -/

namespace LogLine

theorem countP_opens_eq_zero {log : List LogLine} (token : Token)
    (hquiet : ∀ line ∈ log, line.ofHandle = false) : log.countP (opens token) = 0 :=
  List.countP_eq_zero.mpr fun line hline => by simp [opens_eq_false (hquiet line hline)]

theorem countP_ends_eq_zero {log : List LogLine} (token : Token)
    (hquiet : ∀ line ∈ log, line.ofHandle = false) : log.countP (ends token) = 0 :=
  List.countP_eq_zero.mpr fun line hline => by simp [ends_eq_false (hquiet line hline)]

end LogLine

/-- The lines that tell of the session being given to handles and released are as many as
the exchanges that did so. -/
structure Outcome.TellsExchanges (token : Token) (outcome : Outcome State Exchange Value) :
    Prop where
  opens : outcome.log.countP (LogLine.opens token) = outcome.calls.countP (Exchange.gives token)
  ends : outcome.log.countP (LogLine.ends token) = outcome.calls.countP (Exchange.releases token)

/-- Where nothing is given or released and nothing is logged about it, there is nothing to
tell. -/
theorem Outcome.TellsExchanges.of_quiet {outcome : Outcome State Exchange Value} {token : Token}
    (hquiet : ∀ line ∈ outcome.log, line.ofHandle = false)
    (hgives : ∀ exchange ∈ outcome.calls, exchange.gives token = false)
    (hreleases : ∀ exchange ∈ outcome.calls, exchange.releases token = false) :
    outcome.TellsExchanges token where
  opens := by
    rw [LogLine.countP_opens_eq_zero token hquiet, eq_comm, List.countP_eq_zero]
    exact fun exchange hmem => by simp [hgives exchange hmem]
  ends := by
    rw [LogLine.countP_ends_eq_zero token hquiet, eq_comm, List.countP_eq_zero]
    exact fun exchange hmem => by simp [hreleases exchange hmem]

theorem RawMetadata.decode_quiet (raw? : Option RawMetadata) :
    (decode raw? : Action State Call MetadataMap).Quiet := by
  intro state line hline
  obtain ⟨key, value, rfl⟩ := log_decode raw? state line hline
  rfl

namespace Client

variable {service : Service State Call Command Report} {client : Client State} {number : Int}
  {token : Token}

theorem quiet_of_reads (hquiet : service.Quiet) (client : Client State) (number : Int)
    {use : HandleUse} (hreads : use.reads) :
    ∀ line ∈ (step service (.useHandle number use) client).log, line.ofHandle = false := by
  cases hheld : client.handles[number]? with
  | none =>
    rw [step_useHandle_of_free use hheld]
    exact fun line hline => absurd hline List.not_mem_nil
  | some handle =>
    rw [step_useHandle_of_held use hheld]
    have hmetadata : (handle.metadata service.backend).Quiet := by
      cases handle with
      | opened token =>
        exact (hquiet.backend.fetchMetadata token).bind RawMetadata.decode_quiet
      | closed => exact .pure ∅
    have hcover : (handle.cover service.backend).Quiet := by
      cases handle with
      | opened token => exact hquiet.backend.fetchCover token
      | closed => exact .pure none
    cases use with
    | isOpen | describe => exact fun line hline => absurd hline List.not_mem_nil
    | metadata =>
      simpa [useHandle, onBackend] using hmetadata client.backend
    | thermal =>
      simpa [useHandle, onBackend, Handle.thermal] using hmetadata client.backend
    | cover => simpa [useHandle, onBackend] using hcover client.backend
    | close | drop | forget => simp [HandleUse.reads] at hreads

theorem close_recorded (hquiet : service.Quiet)
    (hheld : client.handles[number]? = some (.opened token)) :
    ∃ status,
      (step service.recorded (.useHandle number .close) client).calls =
          [⟨.release token, .status status⟩] ∧
        (step service.recorded (.useHandle number .close) client).log =
          [LogLine.ending token status] := by
  refine ⟨_, calls_close_recorded service hheld, ?_⟩
  rw [step_close_of_opened hheld]
  simp [Backend.recorded_release_apply, hquiet.backend.release, LogLine.ending]

theorem drop_recorded (hquiet : service.Quiet)
    (hheld : client.handles[number]? = some (.opened token)) :
    ∃ status,
      (step service.recorded (.useHandle number .drop) client).calls =
          [⟨.release token, .status status⟩] ∧
        (step service.recorded (.useHandle number .drop) client).log =
          [.droppedOpen token, LogLine.ending token status] := by
  refine ⟨_, calls_drop_recorded service hheld, ?_⟩
  rw [step_drop_of_opened hheld]
  simp [Backend.recorded_release_apply, hquiet.backend.release, LogLine.ending]

theorem log_step_of_closed (service : Service State Call Command Report) (use : HandleUse)
    (hheld : client.handles[number]? = some .closed) :
    (step service (.useHandle number use) client).log = [] := by
  cases use with
  | isOpen | metadata | thermal | cover | describe =>
    rw [step_useHandle_of_held _ hheld]
    rfl
  | close => rw [step_close_of_closed hheld]
  | drop | forget => rw [step_letGo_of_closed rfl hheld]

theorem tellsExchanges_openHandle (hquiet : service.Quiet) (client : Client State) (number : Int)
    (path : FilePath) (token : Token) :
    (step service.recorded (.openHandle number path) client).TellsExchanges token := by
  have hallocate := hquiet.backend.allocate path client.backend
  have hopens := LogLine.countP_opens_eq_zero token hallocate
  have hends := LogLine.countP_ends_eq_zero token hallocate
  cases hheld : client.handles[number]? with
  | some handle =>
    rw [step_openHandle_of_held path hheld]
    exact ⟨rfl, rfl⟩
  | none =>
    have hvalue := service.backend.value_allocate_recorded path client.backend
    cases htoken : (service.backend.allocate path client.backend).value with
    | none =>
      rw [step_openHandle_of_refusal hheld (hvalue.trans htoken)]
      exact ⟨by simp [Backend.recorded_allocate_apply, hopens, htoken, Exchange.gives],
        by simp [Backend.recorded_allocate_apply, hends, Exchange.releases]⟩
    | some given =>
      rw [step_openHandle_of_token hheld (hvalue.trans htoken)]
      exact ⟨by simp [Backend.recorded_allocate_apply, hopens, htoken, Exchange.gives],
        by simp [Backend.recorded_allocate_apply, hends, Exchange.releases]⟩

theorem tellsExchanges_useHandle (hquiet : service.Quiet) (client : Client State) (number : Int)
    (use : HandleUse) (token : Token) :
    (step service.recorded (.useHandle number use) client).TellsExchanges token := by
  cases hheld : client.handles[number]? with
  | none =>
    rw [step_useHandle_of_free use hheld]
    exact ⟨rfl, rfl⟩
  | some handle =>
    cases handle with
    | closed =>
      have hlog := log_step_of_closed service.recorded use hheld
      have hcalls := (step_useHandle_of_closed service.recorded use hheld).1
      exact ⟨by rw [hlog, hcalls]; rfl, by rw [hlog, hcalls]; rfl⟩
    | opened held =>
      cases hreads : use.reads with
      | true =>
        have hfetches := isFetch_of_reads service hheld hreads
        exact .of_quiet (quiet_of_reads hquiet.recorded client number hreads)
          (fun fetch hfetch => (hfetches fetch hfetch).gives_eq_false)
          (fun fetch hfetch => (hfetches fetch hfetch).releases_eq_false)
      | false =>
        rcases HandleUse.eq_of_not_reads hreads with rfl | rfl | rfl
        · obtain ⟨status, hcalls, hlog⟩ := close_recorded hquiet hheld
          exact ⟨by simp [hcalls, hlog, Exchange.gives],
            by simp [hcalls, hlog, Exchange.releases]⟩
        · obtain ⟨status, hcalls, hlog⟩ := drop_recorded hquiet hheld
          exact ⟨by simp [hcalls, hlog, Exchange.gives],
            by simp [hcalls, hlog, Exchange.releases]⟩
        · rw [step_forget_of_opened hheld]
          exact ⟨rfl, rfl⟩

/-- A step tells what it asked of the backend. -/
theorem tellsExchanges_step (hquiet : service.Quiet) (client : Client State) (token : Token)
    {next : Step Command} (hrequest : next.isRequest = false) :
    (step service.recorded next client).TellsExchanges token := by
  cases next with
  | openHandle number path => exact tellsExchanges_openHandle hquiet client number path token
  | useHandle number use => exact tellsExchanges_useHandle hquiet client number use token
  | request request => simp [Step.isRequest] at hrequest
  | command command =>
    have hcalls : (step service.recorded (.command command) client).calls = [] := by
      simp [step, onBackend, Service.recorded]
    refine .of_quiet ?_ (by simp [hcalls]) (by simp [hcalls])
    simpa [step, onBackend] using hquiet.recorded.perform command client.backend

/-- So does a run. -/
theorem tellsExchanges_run (hquiet : service.Quiet) (token : Token) (steps : List (Step Command)) :
    ∀ client : Client State, (∀ next ∈ steps, next.isRequest = false) →
      ((run service.recorded client steps).flatMap Outcome.log).countP (LogLine.opens token) =
          ((run service.recorded client steps).flatMap Outcome.calls).countP
            (Exchange.gives token) ∧
        ((run service.recorded client steps).flatMap Outcome.log).countP (LogLine.ends token) =
          ((run service.recorded client steps).flatMap Outcome.calls).countP
            (Exchange.releases token) := by
  induction steps with
  | nil => exact fun _ _ => ⟨rfl, rfl⟩
  | cons next rest ih =>
    intro client hrequests
    have hnext := tellsExchanges_step hquiet client token (hrequests next List.mem_cons_self)
    obtain ⟨hopens, hends⟩ := ih (step service.recorded next client).state
      fun later hlater => hrequests later (List.mem_cons_of_mem _ hlater)
    simp only [run, List.flatMap_cons, List.countP_append, hnext.opens, hnext.ends, hopens, hends,
      and_self]

/-! ## How endings stand in the log -/

/-- A line about a session, other than that a handle was opened, is logged where an open
handle is closed or dropped. -/
theorem exists_held_of_mem_log (hquiet : service.Quiet) {next : Step Command} {line : LogLine}
    (hline : line ∈ (step service.recorded next client).log) (hhandle : line.ofHandle = true)
    (hopened : ∀ path token, line ≠ .opened path token) :
    ∃ number token status, client.handles[number]? = some (.opened token) ∧
      (next = .useHandle number .close ∧ line = LogLine.ending token status ∨
        next = .useHandle number .drop ∧
          (line = .droppedOpen token ∨ line = LogLine.ending token status)) := by
  have hloud : ∀ {log : List LogLine}, (∀ line ∈ log, line.ofHandle = false) → line ∉ log := by
    intro log hlog hmem
    rw [hlog line hmem] at hhandle
    cases hhandle
  cases next with
  | openHandle number path =>
    exfalso
    have hallocate := hloud (hquiet.recorded.backend.allocate path client.backend)
    cases hheld : client.handles[number]? with
    | some handle =>
      rw [step_openHandle_of_held path hheld] at hline
      exact List.not_mem_nil hline
    | none =>
      cases htoken : (service.recorded.backend.allocate path client.backend).value with
      | none =>
        rw [step_openHandle_of_refusal hheld htoken] at hline
        rcases List.mem_append.mp hline with hline | hline
        · exact hallocate hline
        · obtain rfl := List.mem_singleton.mp hline
          simp [LogLine.ofHandle] at hhandle
      | some token =>
        rw [step_openHandle_of_token hheld htoken] at hline
        rcases List.mem_append.mp hline with hline | hline
        · exact hallocate hline
        · exact hopened path token (List.mem_singleton.mp hline)
  | useHandle number use =>
    cases hheld : client.handles[number]? with
    | none =>
      rw [step_useHandle_of_free use hheld] at hline
      exact absurd hline List.not_mem_nil
    | some handle =>
      cases handle with
      | closed =>
        rw [log_step_of_closed service.recorded use hheld] at hline
        exact absurd hline List.not_mem_nil
      | opened token =>
        cases hreads : use.reads with
        | true => exact absurd hline (hloud (quiet_of_reads hquiet.recorded client number hreads))
        | false =>
          rcases HandleUse.eq_of_not_reads hreads with rfl | rfl | rfl
          · obtain ⟨status, -, hlog⟩ := close_recorded hquiet hheld
            rw [hlog] at hline
            exact ⟨number, token, status, hheld, .inl ⟨rfl, List.mem_singleton.mp hline⟩⟩
          · obtain ⟨status, -, hlog⟩ := drop_recorded hquiet hheld
            rw [hlog] at hline
            exact ⟨number, token, status, hheld, .inr ⟨rfl, by simpa using hline⟩⟩
          · rw [step_forget_of_opened hheld] at hline
            exact absurd hline List.not_mem_nil
  | request request =>
    have hanswer := hloud (hquiet.recorded.backend.answer request client.backend)
    exact absurd (by simpa [step, onBackend] using hline) hanswer
  | command command =>
    have hperform := hloud (hquiet.recorded.perform command client.backend)
    exact absurd (by simpa [step, onBackend] using hline) hperform

end Client

/-- The entry tells of the release of the session, with a warning if the backend answered
with a status. -/
def LogEntry.TellsRelease (session : String) (status : Int32) (entry : LogEntry) : Prop :=
  if status = 0 then entry.Releases session
  else entry.FailsToRelease session (LogLine.decimal status)

theorem LogLine.tellsRelease_ending (token : Token) (status : Int32) :
    (LogLine.ending token status).entry.TellsRelease token.display status := by
  unfold LogEntry.TellsRelease LogLine.ending
  split
  · exact ⟨rfl, rfl⟩
  · exact ⟨rfl, rfl⟩

namespace Client

/-- What a step writes about the end of sessions.  To close an open handle is one release,
and one entry tells of it; to drop one is one release, and a warning stands before that
entry.  Nothing else writes such entries, for any session. -/
structure JournalsEndings (client : Client State) (next : Step Command)
    (outcome : Outcome (Client State) Exchange (Answer Report)) : Prop where
  close : ∀ number token, next = .useHandle number .close →
    client.handles[number]? = some (.opened token) →
    ∃ status ending, outcome.calls = [⟨.release token, .status status⟩] ∧
      outcome.log.map LogLine.entry = [ending] ∧ ending.TellsRelease token.display status
  drop : ∀ number token, next = .useHandle number .drop →
    client.handles[number]? = some (.opened token) →
    ∃ status warning ending, outcome.calls = [⟨.release token, .status status⟩] ∧
      outcome.log.map LogLine.entry = [warning, ending] ∧
      warning.WarnsOfDrop token.display ∧ ending.TellsRelease token.display status
  onlyDrop : ∀ entry ∈ outcome.log.map LogLine.entry, ∀ session, entry.WarnsOfDrop session →
    ∃ number token, next = .useHandle number .drop ∧
      client.handles[number]? = some (.opened token) ∧ session = token.display
  onlyEndings : ∀ entry ∈ outcome.log.map LogLine.entry, ∀ session, entry.Ends session →
    ∃ number token, (next = .useHandle number .close ∨ next = .useHandle number .drop) ∧
      client.handles[number]? = some (.opened token)

variable {service : Service State Call Command Report}

theorem journalsEndings_step (hquiet : service.Quiet) (client : Client State)
    (next : Step Command) : JournalsEndings client next (step service.recorded next client) where
  close number token := by
    rintro rfl hheld
    obtain ⟨status, hcalls, hlog⟩ := close_recorded hquiet hheld
    refine ⟨status, _, hcalls, ?_, LogLine.tellsRelease_ending token status⟩
    rw [hlog, List.map_singleton]
  drop number token := by
    rintro rfl hheld
    obtain ⟨status, hcalls, hlog⟩ := drop_recorded hquiet hheld
    refine ⟨status, _, _, hcalls, ?_, LogLine.warnsOfDrop_entry_iff.mpr rfl,
      LogLine.tellsRelease_ending token status⟩
    rw [hlog, List.map_cons, List.map_singleton]
  onlyDrop entry hentry session hwarns := by
    obtain ⟨line, hline, rfl⟩ := List.mem_map.mp hentry
    obtain ⟨token, rfl, rfl⟩ := LogLine.exists_droppedOpen_of_warnsOfDrop hwarns
    obtain ⟨number, held, status, hheld, hnext⟩ := exists_held_of_mem_log hquiet hline rfl nofun
    have hending : LogLine.droppedOpen token ≠ LogLine.ending held status := by
      unfold LogLine.ending
      split <;> nofun
    rcases hnext with ⟨-, hline⟩ | ⟨rfl, hline | hline⟩
    · exact absurd hline hending
    · obtain rfl := LogLine.droppedOpen.inj hline
      exact ⟨number, token, rfl, hheld, rfl⟩
    · exact absurd hline hending
  onlyEndings entry hentry session hends := by
    obtain ⟨line, hline, rfl⟩ := List.mem_map.mp hentry
    have hkind : line.ofHandle = true ∧ ∀ path token, line ≠ .opened path token := by
      rcases hends with hreleases | ⟨status, hfails⟩
      · obtain ⟨token, rfl, -⟩ := LogLine.exists_released_of_releases hreleases
        exact ⟨rfl, nofun⟩
      · obtain ⟨token, code, rfl⟩ := LogLine.exists_releaseFailed_of_failsToRelease hfails
        exact ⟨rfl, nofun⟩
    obtain ⟨number, token, status, hheld, hnext⟩ :=
      exists_held_of_mem_log hquiet hline hkind.1 hkind.2
    rcases hnext with ⟨rfl, -⟩ | ⟨rfl, -⟩
    · exact ⟨number, token, .inl rfl, hheld⟩
    · exact ⟨number, token, .inr rfl, hheld⟩

/-! ## The main statement -/

/-- The written log of a run. -/
def written (outcomes : List (Outcome (Client State) Call (Answer Report))) : List LogEntry :=
  (outcomes.flatMap Outcome.log).map LogLine.entry

theorem written_run_recorded (service : Service State Call Command Report)
    (client : Client State) (steps : List (Step Command)) :
    written (run service.recorded client steps) = written (run service client steps) := by
  obtain ⟨-, hlogs⟩ :=
    map_run_eq_of_alike service.recorded_alike steps client client ⟨rfl, rfl, rfl⟩
  simp only [written, List.flatMap_def, hlogs]

/-- **The log is a journal of the sessions.**  A session is known in it by the text of its
token, which is the shortest hexadecimal numeral of it and different for every token.  None
of the backends of this library writes about sessions what handles write.  On a backend
that does not, in a run without requests past the handles and up to the end where the
handles still held are dropped:

* at every point the entries about the opening of a session are as many as those about its
  release and the handles, held or forgotten, that are still open with it;
* every step writes about the end of sessions what `JournalsEndings` says. -/
theorem log_keeps_journal :
    (∀ Call : Type, (@Registry.service Call).Quiet) ∧
    (∀ knowsCovers, (Script.replying knowsCovers).alone.Quiet) ∧
    Library.backend.alone.Quiet ∧
    (∀ token : Token, ∃ numeral, token.display = "0x" ++ String.ofList numeral ∧
      Token.IsNumeral numeral token.value) ∧
    (∀ first second : Token, first.display = second.display → first = second) ∧
    ∀ {State Call Command Report : Type} (service : Service State Call Command Report)
      (state : State) (steps : List (Step Command)), service.Quiet →
      (∀ next ∈ steps, next.isRequest = false) →
      let start := fresh state
      let reached := after service.recorded start steps
      let ending := finish service.recorded.backend reached
      let whole := steps ++ reached.drops
      (ending.state = after service.recorded start whole ∧
        ending.log = (run service.recorded reached reached.drops).flatMap Outcome.log) ∧
      (∀ earlier later, whole = earlier ++ later →
        let log := written (run service.recorded start earlier)
        log = written (run service start earlier) ∧
        ∀ token : Token, log.countP (fun entry => entry.Opens token.display) =
          log.countP (fun entry => entry.Ends token.display) +
            (after service.recorded start earlier).sessions.count token) ∧
      ∀ earlier next later, whole = earlier ++ next :: later →
        let before := after service.recorded start earlier
        JournalsEndings before next (step service.recorded next before) := by
  refine ⟨fun Call => Registry.service_quiet, fun knowsCovers =>
    (Script.replying_quiet knowsCovers).alone, Library.backend_quiet.alone,
    Token.exists_numeral, fun first second htext => Token.display_injective htext, ?_⟩
  intro State Call Command Report service state steps hquiet hrequests start reached ending whole
  have hfinish : ending = _ := finish_eq service.recorded reached
  have hwhole : ∀ next ∈ whole, next.isRequest = false := by
    intro next hnext
    rcases List.mem_append.mp hnext with hnext | hnext
    · exact hrequests next hnext
    · exact isRequest_of_mem_drops next hnext
  refine ⟨⟨?_, by rw [hfinish]⟩, fun earlier later hsplit => ⟨?_, fun token => ?_⟩,
    fun earlier next later _ => journalsEndings_step hquiet _ next⟩
  · rw [hfinish, after_append]
  · exact written_run_recorded service start earlier
  · -- The entries are as many as the exchanges, and those balance with the open sessions.
    have hearlier : ∀ next ∈ earlier, next.isRequest = false := by
      intro next hnext
      apply hwhole next
      rw [hsplit]
      exact List.mem_append_left _ hnext
    obtain ⟨hopens, hends⟩ := tellsExchanges_run hquiet token earlier start hearlier
    have hbalance := count_sessions_run service token earlier start hearlier
    rw [sessions_fresh, List.count_nil, Nat.add_zero] at hbalance
    simp only [written, LogLine.countP_opens_entry, LogLine.countP_ends_entry, hopens, hends]
    exact hbalance

/-- One path imitates the entry of another session.  Its handle is dropped and the release
fails, and the other handle is dropped at the end. -/
theorem log_keeps_journal_imitated :
    let service := (Script.replying true).alone
    let two : Token := ⟨2, by decide⟩
    let steps : List (Step Empty) :=
      [.openHandle 1 (.ofText "x as session 0x2"), .openHandle 2 (.ofText "a"),
        .useHandle 1 .drop]
    let last : Step Empty := .useHandle 2 .drop
    let start := fresh ⟨[some ⟨5, by decide⟩, some two], [-7], [], []⟩
    let reached := after service.recorded start steps
    let log := written (run service.recorded start steps)
    service.Quiet ∧ (∀ next ∈ steps, next.isRequest = false) ∧
      log.map LogEntry.text =
        ["opened x as session 0x2 as session 0x5", "opened a as session 0x2",
          "session 0x5 dropped without close, releasing",
          "release of session 0x5 returned -7"] ∧
      log.countP (fun entry => entry.Opens two.display) =
        log.countP (fun entry => entry.Ends two.display) + 1 ∧
      JournalsEndings reached last (step service.recorded last reached) := by
  intro service two steps last start reached log
  have hquiet : service.Quiet := (Script.replying_quiet true).alone
  have hrequests : ∀ next ∈ steps, next.isRequest = false := by decide
  obtain ⟨-, -, -, -, -, hjournal⟩ := log_keeps_journal
  obtain ⟨-, hcount, hendings⟩ := hjournal service _ steps hquiet hrequests
  have hsessions : reached.sessions.count two = 1 := by decide
  refine ⟨hquiet, hrequests, by decide, ?_, ?_⟩
  · rw [← hsessions]
    exact (hcount steps reached.drops rfl).2 two
  · exact hendings steps last [] rfl

end Client

end DemuxSession
