import DemuxSession.Proofs.LibraryReads
import DemuxSession.Proofs.Release
import DemuxSession.Proofs.Sessions

/-!
# A refused file leaves no trace

A handle is opened under a free number, and the backend gives no session for the path.
What is left of the attempt is an answer with the path, and whatever the backend keeps of
being asked.

* `after_of_free`: the number stays free until a handle is opened under it, and
  `exists_held_of_mem_calls`: what a step asks of the backend about a session, it asks for
  a handle that holds that session.  So nothing is ever asked for the attempt.
* A registry keeps nothing.  A script and the demuxer library have used up one reply, but
  the library only if the path could be handed over.
* `saysTheSame_of_refusing`: as long as no session is asked for, a backend may as well
  refuse all files (`Backend.refusing`).  For a script and for the library this makes
  states alike that differ in the replies about sessions alone, so the attempt is not
  noticed by any other handle.

`refused_open_leaves_no_trace` puts these together.
-/

namespace DemuxSession

variable {State State' Call Call' Command Report : Type}

namespace Step

/-- Whether the step opens a handle under the number. -/
def opens (number : Int) : Step Command → Bool
  | .openHandle other _ => other = number
  | .useHandle .. | .request _ | .command _ => false

/-- Whether the step may ask the backend for a session. -/
def allocates : Step Command → Bool
  | .openHandle .. | .request (.allocate _) => true
  | .useHandle .. | .request _ | .command _ => false

end Step

namespace Client

variable (service : Service State Call Command Report) {client : Client State} {number : Int}

/-! ## Nothing is asked for a free number -/

theorem step_of_free {next : Step Command} (hfree : client.handles[number]? = none)
    (hopens : next.opens number = false) :
    (step service next client).state.handles[number]? = none := by
  by_cases hon : next.handle? = some number
  · cases next with
    | openHandle other path =>
      obtain rfl : other = number := by simpa [Step.handle?] using hon
      simp [Step.opens] at hopens
    | useHandle other use =>
      obtain rfl : other = number := by simpa [Step.handle?] using hon
      rw [step_useHandle_of_free use hfree, hfree]
    | request request => simp [Step.handle?] at hon
    | command command => simp [Step.handle?] at hon
  · rw [handles_step_of_ne next hon, hfree]

theorem after_of_free (later : List (Step Command)) :
    ∀ client : Client State, client.handles[number]? = none →
      (∀ next ∈ later, next.opens number = false) →
      (after service client later).handles[number]? = none := by
  induction later with
  | nil => exact fun client hfree _ => hfree
  | cons next rest ih =>
    intro client hfree hopens
    have hnext := step_of_free service hfree (hopens next List.mem_cons_self)
    exact ih _ hnext fun other hother => hopens other (List.mem_cons_of_mem _ hother)

variable {service}

/-- The backend is asked for a session where a handle is opened, and about a session where
the handle that holds it is used. -/
theorem exists_held_of_mem_calls {next : Step Command} {exchange : Exchange}
    (hrequest : next.isRequest = false)
    (hmem : exchange ∈ (step service.recorded next client).calls) :
    (∃ number path, next = .openHandle number path ∧ exchange.request = .allocate path) ∨
      ∃ number use token, next = .useHandle number use ∧
        client.handles[number]? = some (.opened token) ∧
        (exchange.IsFetch token ∨ exchange.releases token = true) := by
  cases next with
  | openHandle number path =>
    refine .inl ⟨number, path, rfl, ?_⟩
    cases hheld : client.handles[number]? with
    | some handle => simp [step_openHandle_of_held path hheld] at hmem
    | none =>
      rw [calls_openHandle_recorded service path hheld] at hmem
      rw [List.mem_singleton.mp hmem]
  | useHandle number use =>
    cases hheld : client.handles[number]? with
    | none => simp [step_useHandle_of_free use hheld] at hmem
    | some handle =>
      cases handle with
      | closed => simp [(step_useHandle_of_closed service.recorded use hheld).1] at hmem
      | opened token =>
        refine .inr ⟨number, use, token, rfl, hheld, ?_⟩
        cases hreads : use.reads with
        | true => exact .inl (isFetch_of_reads service hheld hreads exchange hmem)
        | false =>
          rcases HandleUse.eq_of_not_reads hreads with rfl | rfl | rfl
          · rw [calls_close_recorded service hheld] at hmem
            obtain rfl := List.mem_singleton.mp hmem
            exact .inr (decide_eq_true rfl)
          · rw [calls_drop_recorded service hheld] at hmem
            obtain rfl := List.mem_singleton.mp hmem
            exact .inr (decide_eq_true rfl)
          · simp [step_forget_of_opened hheld] at hmem
  | request request => simp [Step.isRequest] at hrequest
  | command command => simp [step, onBackend, Service.recorded] at hmem

theorem releases_of_mem_dropEach (backend : Backend State Call) (entries : List (Int × Handle)) :
    ∀ (client : Client State), ∀ exchange ∈ (dropEach backend.recorded entries client).calls,
      ∃ number token, (number, Handle.opened token) ∈ entries ∧ exchange.releases token = true := by
  induction entries with
  | nil => exact fun client exchange hmem => nomatch hmem
  | cons entry rest ih =>
    obtain ⟨number, handle⟩ := entry
    intro client exchange hmem
    rcases List.mem_append.mp hmem with hfirst | hlater
    · cases handle with
      | closed => cases hfirst
      | opened token =>
        refine ⟨number, token, List.mem_cons_self, ?_⟩
        obtain rfl : exchange = _ := by
          simpa [onBackend, Handle.drop, Handle.close, Backend.recorded_release_apply] using hfirst
        simp [Exchange.releases]
    · obtain ⟨other, token, hentry, hreleases⟩ := ih _ exchange hlater
      exact ⟨other, token, List.mem_cons_of_mem _ hentry, hreleases⟩

theorem releases_of_mem_finish {backend : Backend State Call} {exchange : Exchange}
    (hmem : exchange ∈ (finish backend.recorded client).calls) :
    ∃ (number : Int) (token : Token), client.handles[number]? = some (.opened token) ∧
      exchange.releases token = true := by
  obtain ⟨number, token, hentry, hreleases⟩ :=
    releases_of_mem_dropEach backend client.handles.toList client exchange hmem
  exact ⟨number, token, Std.ExtTreeMap.mem_toList_iff_getElem?_eq_some.mp hentry, hreleases⟩

/-! ## What is left of an attempt -/

/-- What an attempt to open a handle leaves behind if the backend refuses the file. -/
structure LeavesNoTrace (service : Service State Call Command Report) (client : Client State)
    (number : Int) (path : FilePath) : Prop where
  /-- The answer is a failure to open that has the path, byte for byte. -/
  answer : ∃ error, (step service (.openHandle number path) client).value = .notOpened error ∧
    error.openPath? = some path
  /-- No handle has changed, and the backend is as it is after it was asked. -/
  state : (step service (.openHandle number path) client).state =
    { client with backend := (service.backend.allocate path client.backend).state }
  /-- The backend was asked for a session and gave none. -/
  asked : (step service.recorded (.openHandle number path) client).calls =
    [⟨.allocate path, .token none⟩]
  /-- The number is not in use until a handle is opened under it, and that can be done as soon
  as the backend gives a session. -/
  free : ∀ later : List (Step Command), (∀ next ∈ later, next.opens number = false) →
    let reached := after service (step service (.openHandle number path) client).state later
    (∀ use, step service (.useHandle number use) reached = ⟨.noHandle, reached, [], []⟩) ∧
    ∀ path' token, (service.backend.allocate path' reached.backend).value = some token →
      (step service (.openHandle number path') reached).value = .opened ∧
        (step service (.openHandle number path') reached).state.handles[number]? =
          some (.opened token)
  /-- Whatever the backend is asked about a session, then and at the end, it is asked for a
  handle that holds the session. -/
  asked_later : ∀ later : List (Step Command),
    let reached := after service (step service (.openHandle number path) client).state later
    (∀ next, next.isRequest = false → ∀ exchange ∈ (step service.recorded next reached).calls,
      (∃ other path', next = .openHandle other path' ∧ exchange.request = .allocate path') ∨
        ∃ other use token, next = .useHandle other use ∧
          reached.handles[other]? = some (.opened token) ∧
          (exchange.IsFetch token ∨ exchange.releases token = true)) ∧
    ∀ exchange ∈ (finish service.recorded.backend reached).calls,
      ∃ (other : Int) (token : Token), reached.handles[other]? = some (.opened token) ∧
        exchange.releases token = true

theorem leavesNoTrace_of_refusal {path : FilePath} (hfree : client.handles[number]? = none)
    (hrefusal : (service.backend.allocate path client.backend).value = none) :
    LeavesNoTrace service client number path := by
  have hattempt : step service (.openHandle number path) client = _ :=
    step_openHandle_of_refusal hfree hrefusal
  have hfree' : (step service (.openHandle number path) client).state.handles[number]? = none := by
    rw [hattempt, hfree]
  refine ⟨⟨_, by rw [hattempt], rfl⟩, by rw [hattempt], ?_, ?_, ?_⟩
  · rw [calls_openHandle_recorded service path hfree, hrefusal]
  · intro later hopens reached
    have hreached : reached.handles[number]? = none := after_of_free service later _ hfree' hopens
    refine ⟨fun use => step_useHandle_of_free use hreached, fun path' token htoken => ?_⟩
    rw [step_openHandle_of_token hreached htoken]
    exact ⟨rfl, Std.ExtTreeMap.getElem?_insert_self⟩
  · intro later reached
    exact ⟨fun next hrequest exchange hmem => exists_held_of_mem_calls hrequest hmem,
      fun exchange hmem => releases_of_mem_finish hmem⟩

end Client

/-! ## Where no session is asked for -/

/-- The backend with every file refused. -/
def Backend.refusing (backend : Backend State Call) : Backend State Call :=
  { backend with allocate := fun _ => pure none }

/-- The service with every file refused. -/
def Service.refusing (service : Service State Call Command Report) :
    Service State Call Command Report :=
  { service with backend := service.backend.refusing }

namespace Client

section Refusing

variable (service : Service State Call Command Report)

theorem step_refusing {next : Step Command} (hallocates : next.allocates = false) :
    step service.refusing next = step service next := by
  cases next with
  | openHandle number path => cases hallocates
  | useHandle number use =>
    funext client
    cases hheld : client.handles[number]? with
    | none => rw [step_useHandle_of_free use hheld, step_useHandle_of_free use hheld]
    | some handle =>
      rw [step_useHandle_of_held use hheld, step_useHandle_of_held use hheld]
      cases use <;> cases handle <;> rfl
  | request request =>
    cases request with
    | allocate path => cases hallocates
    | release token | fetchMetadata token | fetchCover token => rfl
  | command command => rfl

theorem run_refusing (later : List (Step Command)) :
    ∀ client : Client State, (∀ next ∈ later, next.allocates = false) →
      run service.refusing client later = run service client later ∧
        after service.refusing client later = after service client later := by
  induction later with
  | nil => exact fun _ _ => ⟨rfl, rfl⟩
  | cons next rest ih =>
    intro client hallocates
    have hnext := step_refusing service (hallocates next List.mem_cons_self)
    obtain ⟨hrun, hafter⟩ := ih (step service next client).state
      fun other hother => hallocates other (List.mem_cons_of_mem _ hother)
    refine ⟨?_, ?_⟩
    · rw [run, run, hnext, hrun]
    · rw [after, List.foldl_cons, hnext]
      exact hafter

theorem finish_refusing (backend : Backend State Call) :
    finish backend.refusing = finish backend := by
  have hdrop : ∀ handle : Handle, handle.drop backend.refusing = handle.drop backend := by
    intro handle
    cases handle <;> rfl
  have heach : ∀ entries, dropEach backend.refusing entries = dropEach backend entries := by
    intro entries
    induction entries with
    | nil => rfl
    | cons entry rest ih => simp only [dropEach, hdrop, ih]
  simp only [finish, heach]

/-- Two clients get the same answers in a run, and the same lines are logged in it and at its
end. -/
structure SaysTheSame (service : Service State Call Command Report)
    (client client' : Client State) (later : List (Step Command)) : Prop where
  answers : (run service client later).map Outcome.value =
    (run service client' later).map Outcome.value
  log : (run service client later).map Outcome.log = (run service client' later).map Outcome.log
  ending : (finish service.backend (after service client later)).log =
    (finish service.backend (after service client' later)).log

variable {service} {client client' : Client State}

/-- Where states are alike for a backend that refuses all files, clients in such states get
the same answers in a run that asks for no session. -/
theorem saysTheSame_of_refusing {related : State → State → Prop}
    (halike : service.refusing.Alike related service.refusing)
    (hclient : Client.Alike related client client') {later : List (Step Command)}
    (hallocates : ∀ next ∈ later, next.allocates = false) :
    SaysTheSame service client client' later := by
  obtain ⟨hrun, hafter⟩ := run_refusing service later client hallocates
  obtain ⟨hrun', hafter'⟩ := run_refusing service later client' hallocates
  obtain ⟨hanswers, hlog⟩ := map_run_eq_of_alike halike later _ _ hclient
  have hreached := after_alike halike later client client' hclient
  have hending := finish_alike halike.backend _ _ hreached
  rw [hrun, hrun'] at hanswers hlog
  rw [hafter, hafter', Service.refusing, finish_refusing] at hending
  exact ⟨hanswers, hlog, hending.log_eq⟩

end Refusing

end Client

/-! ## Replies about sessions alone -/

/-- Scripts that differ in the tokens alone are alike while no session is asked for. -/
theorem Script.refusing_alike (knowsCovers : Bool) :
    (replying knowsCovers).alone.refusing.Alike
      (fun script script' => ∃ tokens, script' = { script with tokens := tokens })
      (replying knowsCovers).alone.refusing where
  backend :=
    { allocate := fun _ => .pure none
      release := by
        rintro token script _ ⟨tokens, rfl⟩
        exact ⟨rfl, rfl, tokens, rfl⟩
      fetchMetadata := by
        rintro token script _ ⟨tokens, rfl⟩
        exact ⟨rfl, rfl, tokens, rfl⟩
      fetchCover := by
        cases knowsCovers with
        | false => exact fun _ => .pure none
        | true =>
          rintro token script _ ⟨tokens, rfl⟩
          exact ⟨rfl, rfl, tokens, rfl⟩ }
  perform := nofun

/-- So are libraries that differ in the pointers alone. -/
theorem Library.refusing_alike :
    backend.alone.refusing.Alike
      (fun replies replies' => ∃ pointers, replies' = { replies with pointers := pointers })
      backend.alone.refusing where
  backend :=
    { allocate := fun _ => .pure none
      release := by
        rintro token replies _ ⟨pointers, rfl⟩
        exact ⟨rfl, rfl, pointers, rfl⟩
      fetchMetadata := by
        rintro token replies _ ⟨pointers, rfl⟩
        change (fetchMetadata token replies).Alike _ (fetchMetadata token _)
        rw [fetchMetadata_apply, fetchMetadata_apply]
        exact ⟨rfl, rfl, pointers, rfl⟩
      fetchCover := by
        rintro token replies _ ⟨pointers, rfl⟩
        change (fetchCover token replies).Alike _ (fetchCover token _)
        cases hannounced : replies.nextCover.announced? with
        | none =>
          have houtcome := @fetchCover_of_not_announced replies token hannounced
          have houtcome' :=
            @fetchCover_of_not_announced { replies with pointers := pointers } token hannounced
          rw [houtcome, houtcome']
          exact ⟨rfl, rfl, pointers, rfl⟩
        | some announced =>
          have houtcome := @fetchCover_of_announced replies token announced hannounced
          have houtcome' :=
            @fetchCover_of_announced { replies with pointers := pointers } token announced
              hannounced
          rw [houtcome, houtcome']
          exact ⟨rfl, rfl, pointers, rfl⟩ }
  perform := nofun

/-! ## Why files are refused -/

section Refusals

variable {path : FilePath}

theorem Registry.allocate_eq_none_iff {registry : Registry} :
    ((allocate path : Action Registry Call (Option Token)) registry).value = none ↔
      registry.file? path = none := by
  cases hfile : registry.file? path with
  | none => simp [allocate_of_unregistered hfile]
  | some file => simp [allocate_of_registered (Option.isSome_of_mem hfile)]

theorem FilePath.holdsZero_iff : path.holdsZero = true ↔ 0 ∈ path.bytes :=
  List.contains_iff_mem

theorem Token.ofNat?_eq_none_iff {value : Nat} : ofNat? value = none ↔ value = 0 := by
  simp [ofNat?]

namespace Library

theorem allocate_eq_none_iff {replies : Replies} :
    (allocate path replies).value = none ↔ 0 ∈ path.bytes ∨ replies.pointers.headD 0 = 0 := by
  rw [← FilePath.holdsZero_iff]
  cases hzero : path.holdsZero with
  | true => simp [allocate_of_holdsZero hzero]
  | false => simp [allocate_of_not_holdsZero hzero, Token.ofNat?_eq_none_iff]

theorem allocate_keeps (path : FilePath) (replies : Replies) :
    (allocate path replies).calls = (if 0 ∈ path.bytes then [] else [.openFile path]) ∧
      (allocate path replies).state =
        { replies with
          pointers := if 0 ∈ path.bytes then replies.pointers else replies.pointers.tail } := by
  simp only [← FilePath.holdsZero_iff]
  cases hzero : path.holdsZero with
  | true => simp [allocate_of_holdsZero hzero]
  | false => simp [allocate_of_not_holdsZero hzero]

/-- The pointer to a session that a call passes. -/
def Call.pointer? : Library.Call → Option Nat
  | .openFile _ => none
  | .closeFile token | .readStrings token | .readCover token _ => some token.value

/-- The null pointer is no session, so it is never passed. -/
theorem Call.pointer?_ne_zero (call : Library.Call) : call.pointer? ≠ some 0 := by
  cases call with
  | openFile path => simp [pointer?]
  | closeFile token | readStrings token | readCover token buffer =>
    simpa [pointer?] using Nat.ne_of_gt token.positive

end Library

end Refusals

/-! ## The main statement -/

namespace Client

/-- **A refused file leaves no trace.**  On any service, whatever is held and whatever the
bytes of the path are, an attempt to open a handle under a free number that the backend
refuses leaves nothing (`LeavesNoTrace`).  What the backends of this library keep of it:

* a registry refuses what is not registered, and stays as it is;
* a script has one reply less about sessions;
* the library refuses a path with a zero byte, about which it is not asked and keeps
  everything, and gives the null pointer for others, having been asked to open that path and
  with one reply less about sessions.  The null pointer is never passed to it.

After that no run that asks for no session notices the attempt, and every other run goes on
as if that reply had not been there. -/
theorem refused_open_leaves_no_trace :
    (∀ {State Call Command Report : Type} (service : Service State Call Command Report)
      (client : Client State) (number : Int) (path : FilePath),
      client.handles[number]? = none →
      (service.backend.allocate path client.backend).value = none →
      LeavesNoTrace service client number path) ∧
    (∀ {Call : Type} (client : Client Registry) (number : Int) (path : FilePath),
      let service := @Registry.service Call
      let attempt := step service (.openHandle number path) client
      let refusal := (service.backend.allocate path client.backend).value = none
      (refusal ↔ client.backend.file? path = none) ∧
      (client.handles[number]? = none → refusal →
        attempt.state = client ∧ attempt.calls = [])) ∧
    (∀ (knowsCovers : Bool) (client : Client Script) (number : Int) (path : FilePath),
      let service := (Script.replying knowsCovers).alone
      let attempt := step service (.openHandle number path) client
      let refusal := (service.backend.allocate path client.backend).value = none
      (refusal ↔ client.backend.tokens.headD none = none) ∧
      (client.handles[number]? = none → refusal →
        attempt.state = { client with
          backend := { client.backend with tokens := client.backend.tokens.tail } } ∧
        ∀ later, (∀ next ∈ later, next.allocates = false) →
          SaysTheSame service attempt.state client later)) ∧
    (∀ (client : Client Library.Replies) (number : Int) (path : FilePath),
      let service := Library.backend.alone
      let attempt := step service (.openHandle number path) client
      let refusal := (service.backend.allocate path client.backend).value = none
      (refusal ↔ 0 ∈ path.bytes ∨ client.backend.pointers.headD 0 = 0) ∧
      (client.handles[number]? = none → refusal →
        attempt.calls = (if 0 ∈ path.bytes then [] else [.openFile path]) ∧
        attempt.state = { client with backend := { client.backend with pointers :=
          if 0 ∈ path.bytes then client.backend.pointers else client.backend.pointers.tail } } ∧
        ∀ later, (∀ next ∈ later, next.allocates = false) →
          SaysTheSame service attempt.state client later)) ∧
    ∀ call : Library.Call, call.pointer? ≠ some 0 := by
  refine ⟨fun service client number path hfree hrefusal => leavesNoTrace_of_refusal hfree hrefusal,
    ?_, ?_, ?_, Library.Call.pointer?_ne_zero⟩
  · intro Call client number path service attempt refusal
    refine ⟨Registry.allocate_eq_none_iff, fun hfree hrefusal => ?_⟩
    have hattempt : attempt = _ := step_openHandle_of_refusal hfree hrefusal
    have hallocate : service.backend.allocate path client.backend = _ :=
      Registry.allocate_of_unregistered (Registry.allocate_eq_none_iff.mp hrefusal)
    rw [hattempt, hallocate]
    exact ⟨rfl, rfl⟩
  · intro knowsCovers client number path service attempt refusal
    refine ⟨Iff.rfl, fun hfree hrefusal => ?_⟩
    have hstate : attempt.state = { client with
        backend := { client.backend with tokens := client.backend.tokens.tail } } :=
      congrArg Outcome.state (step_openHandle_of_refusal hfree hrefusal)
    refine ⟨hstate, fun later hallocates => ?_⟩
    apply saysTheSame_of_refusing (Script.refusing_alike knowsCovers) _ hallocates
    rw [hstate]
    exact ⟨⟨client.backend.tokens, rfl⟩, rfl, rfl⟩
  · intro client number path service attempt refusal
    refine ⟨Library.allocate_eq_none_iff, fun hfree hrefusal => ?_⟩
    have hattempt : attempt = _ := step_openHandle_of_refusal hfree hrefusal
    obtain ⟨hcalls, hreplies⟩ := Library.allocate_keeps path client.backend
    have hstate : attempt.state = { client with backend := { client.backend with pointers :=
        if 0 ∈ path.bytes then client.backend.pointers else client.backend.pointers.tail } } := by
      rw [hattempt, ← hreplies]
      rfl
    refine ⟨?_, hstate, fun later hallocates => ?_⟩
    · rw [hattempt]
      exact hcalls
    · apply saysTheSame_of_refusing Library.refusing_alike _ hallocates
      rw [hstate]
      exact ⟨⟨client.backend.pointers, rfl⟩, rfl, rfl⟩

/-- The library gives the null pointer for a path that is no UTF-8, and is not asked about one
with a zero byte.  The number can be opened afterwards. -/
theorem refused_open_leaves_no_trace_null :
    let service := Library.backend.alone
    let client := fresh ⟨[0, 5], [], [], []⟩
    let path : FilePath := ⟨[0xFF, 0x2F, 0x2F, 0x2E]⟩
    let attempt := step service (.openHandle 7 path) client
    (service.backend.allocate path client.backend).value = none ∧
      (∃ error, attempt.value = .notOpened error ∧ error.openPath? = some path) ∧
      attempt.calls = [.openFile path] ∧
      (step service (.openHandle 7 ⟨[0x61]⟩) attempt.state).value = .opened := by
  intro service client path attempt
  have hfree : client.handles[(7 : Int)]? = none := rfl
  have hrefusal : (service.backend.allocate path client.backend).value = none := by decide
  obtain ⟨htrace, -, -, hlibrary, -⟩ := refused_open_leaves_no_trace
  obtain ⟨hanswer, hstate, -, hnumber, -⟩ := htrace service client 7 path hfree hrefusal
  obtain ⟨-, hkept⟩ := hlibrary client 7 path
  obtain ⟨hcalls, -⟩ := hkept hfree hrefusal
  refine ⟨hrefusal, hanswer, hcalls, ?_⟩
  obtain ⟨-, hopened⟩ := hnumber [] (by simp)
  exact (hopened ⟨[0x61]⟩ ⟨5, by decide⟩ (by decide)).1

end Client

end DemuxSession
