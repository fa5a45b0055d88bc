import DemuxSession.Proofs.Run
import DemuxSession.Script

/-!
# Every session is released once

A backend is taken as it comes: it may give one token twice and answer a release
with any status.  What counts is what is asked of it, so the service is recorded
and the exchanges of its backend are the calls of the run.

The argument has two halves.

* **One handle.**  `life` follows the handle under a number from use to use until
  it is let go.  `LivesOnce` is what its calls look like: fetches of one session,
  then the release of that session if the handle was closed or dropped, and
  nothing after that.  A handle that was closed makes no call any more
  (`calls_life_of_closed`), and an open one lives once (`livesOnce_of_opened`).
* **All handles.**  A step that gives a session to a handle, or takes one from it,
  changes `Client.sessions` by just that session (`count_sessions_step`), so over
  a run the sessions given and not released are those still open
  (`count_sessions_run`).

`Client.sessions_released_once` puts both together.
-/

namespace DemuxSession

variable {State Call Command Report : Type}

/-! ## Exchanges -/

namespace Exchange

/-- Whether the backend was asked what a session carries. -/
def IsFetch (token : Token) (exchange : Exchange) : Prop :=
  exchange.request = .fetchMetadata token ∨ exchange.request = .fetchCover token

/-- Whether the backend gave the session. -/
def gives (token : Token) : Exchange → Bool
  | ⟨.allocate _, .token (some given)⟩ => given = token
  | _ => false

/-- Whether the backend was asked to release the session. -/
def releases (token : Token) : Exchange → Bool
  | ⟨.release released, _⟩ => released = token
  | _ => false

variable {held token : Token} {exchange : Exchange}

theorem IsFetch.gives_eq_false (hfetch : exchange.IsFetch held) :
    exchange.gives token = false := by
  obtain ⟨request, reply⟩ := exchange
  rcases hfetch with rfl | rfl <;> rfl

theorem IsFetch.releases_eq_false (hfetch : exchange.IsFetch held) :
    exchange.releases token = false := by
  obtain ⟨request, reply⟩ := exchange
  rcases hfetch with rfl | rfl <;> rfl

end Exchange

/-! ## What the recorded backend leaves behind -/

namespace Backend

variable (backend : Backend State Call)

theorem recorded_allocate_apply (path : FilePath) (state : State) :
    backend.recorded.allocate path state =
      ⟨(backend.allocate path state).value, (backend.allocate path state).state,
        (backend.allocate path state).log,
        [⟨.allocate path, .token (backend.allocate path state).value⟩]⟩ := by
  simp [recorded]

theorem value_allocate_recorded (path : FilePath) (state : State) :
    (backend.recorded.allocate path state).value = (backend.allocate path state).value := by
  rw [recorded_allocate_apply]

theorem recorded_release_apply (token : Token) (state : State) :
    backend.recorded.release token state =
      ⟨(backend.release token state).value, (backend.release token state).state,
        (backend.release token state).log,
        [⟨.release token, .status (backend.release token state).value⟩]⟩ := by
  simp [recorded]

theorem isFetch_of_mem_fetchMetadata (token : Token) (state : State) {exchange : Exchange}
    (hmem : exchange ∈ (backend.recorded.fetchMetadata token state).calls) :
    exchange.IsFetch token := by
  obtain rfl : exchange = _ := by simpa [recorded] using hmem
  exact Or.inl rfl

theorem isFetch_of_mem_fetchCover (token : Token) (state : State) {exchange : Exchange}
    (hmem : exchange ∈ (backend.recorded.fetchCover token state).calls) :
    exchange.IsFetch token := by
  cases hreader : backend.coverReader? with
  | none => simp [fetchCover, recorded, hreader] at hmem
  | some readCover =>
    obtain rfl : exchange = _ := by simpa [fetchCover, recorded, hreader] using hmem
    exact Or.inr rfl

end Backend

/-! ## The life of one handle -/

namespace Step

/-- The use a step makes of the handle under a number, if it makes one. -/
def useOf? (number : Int) : Step Command → Option HandleUse
  | .useHandle other use => if other = number then some use else none
  | .openHandle .. | .request _ | .command _ => none

theorem useOf?_eq_some_iff {number : Int} {next : Step Command} {use : HandleUse} :
    next.useOf? number = some use ↔ next = .useHandle number use := by
  cases next <;> simp [useOf?]

end Step

namespace Client

/-- The uses of the handle under a number up to the one that lets go of it, each
with its outcome. -/
def life (service : Service State Call Command Report) (number : Int) :
    Client State → List (Step Command) →
      List (HandleUse × Outcome (Client State) Call (Answer Report))
  | _, [] => []
  | client, next :: rest =>
    let outcome := step service next client
    match next.useOf? number with
    | none => life service number outcome.state rest
    | some use =>
      (use, outcome) :: if use.letsGo then [] else life service number outcome.state rest

theorem life_sublist_run (service : Service State Call Command Report) (number : Int)
    (steps : List (Step Command)) :
    ∀ client : Client State,
      ((life service number client steps).map Prod.snd).Sublist (run service client steps) := by
  induction steps with
  | nil => exact fun _ => .slnil
  | cons next rest ih =>
    intro client
    cases huse : next.useOf? number with
    | none =>
      simp only [life, run, huse]
      exact (ih _).cons _
    | some use =>
      simp only [life, run, huse, List.map_cons]
      refine List.Sublist.cons_cons _ ?_
      cases use.letsGo with
      | true => exact List.nil_sublist _
      | false => exact ih _

/-- In its life the handle only fetches what its session carries, and then has the
session released, if it was closed or dropped at all.  Nothing is asked of the
backend on its behalf after that. -/
def LivesOnce (token : Token)
    (life : List (HandleUse × Outcome (Client State) Exchange (Answer Report))) : Prop :=
  ∃ fetches ending,
    life.flatMap (fun moment => moment.2.calls) = fetches ++ ending ∧
    (∀ fetch ∈ fetches, fetch.IsFetch token) ∧
    if .close ∈ life.map Prod.fst ∨ .drop ∈ life.map Prod.fst then
      ∃ status, ending = [⟨.release token, .status status⟩]
    else ending = []

variable {service : Service State Call Command Report} {client : Client State} {number : Int}

theorem step_useHandle_of_closed (service : Service State Call Command Report) (use : HandleUse)
    (hheld : client.handles[number]? = some .closed) :
    (step service (.useHandle number use) client).calls = [] ∧
      (use.letsGo = false →
        (step service (.useHandle number use) client).state.handles[number]? = some .closed) := by
  cases use with
  | isOpen | metadata | thermal | cover | describe =>
    rw [step_useHandle_of_held _ hheld]
    exact ⟨rfl, fun _ => hheld⟩
  | close =>
    rw [step_close_of_closed hheld]
    exact ⟨rfl, fun _ => hheld⟩
  | drop | forget =>
    rw [step_letGo_of_closed rfl hheld]
    exact ⟨rfl, fun hletsGo => by simp [HandleUse.letsGo] at hletsGo⟩

theorem handles_step_of_useOf?_eq_none {handle : Handle} {next : Step Command}
    (hheld : client.handles[number]? = some handle) (huse : next.useOf? number = none) :
    (step service next client).state.handles[number]? = some handle := by
  by_cases hon : next.handle? = some number
  · cases next with
    | openHandle other path =>
      obtain rfl : other = number := by simpa [Step.handle?] using hon
      rw [step_openHandle_of_held path hheld, hheld]
    | useHandle other use =>
      obtain rfl : other = number := by simpa [Step.handle?] using hon
      simp [Step.useOf?] at huse
    | request request => simp [Step.handle?] at hon
    | command command => simp [Step.handle?] at hon
  · rw [handles_step_of_ne next hon, hheld]

theorem calls_life_of_closed (service : Service State Call Command Report)
    (steps : List (Step Command)) :
    ∀ client : Client State, client.handles[number]? = some .closed →
      (life service number client steps).flatMap (fun moment => moment.2.calls) = [] := by
  induction steps with
  | nil => intro client _; rfl
  | cons next rest ih =>
    intro client hheld
    cases huse : next.useOf? number with
    | none =>
      simp only [life, huse]
      exact ih _ (handles_step_of_useOf?_eq_none hheld huse)
    | some use =>
      obtain rfl := Step.useOf?_eq_some_iff.mp huse
      obtain ⟨hcalls, hclosed⟩ := step_useHandle_of_closed service use hheld
      simp only [life, huse, List.flatMap_cons, hcalls, List.nil_append]
      cases hletsGo : use.letsGo with
      | true => rfl
      | false => exact ih _ (hclosed hletsGo)

/-! What a recorded step on a handle asks. -/

theorem calls_openHandle_recorded (service : Service State Call Command Report) (path : FilePath)
    (hfree : client.handles[number]? = none) :
    (step service.recorded (.openHandle number path) client).calls =
      [⟨.allocate path, .token (service.backend.allocate path client.backend).value⟩] := by
  cases htoken : (service.recorded.backend.allocate path client.backend).value with
  | none =>
    rw [step_openHandle_of_refusal hfree htoken, Service.backend_recorded,
      Backend.recorded_allocate_apply]
  | some token =>
    rw [step_openHandle_of_token hfree htoken, Service.backend_recorded,
      Backend.recorded_allocate_apply]

theorem calls_close_recorded (service : Service State Call Command Report) {token : Token}
    (hheld : client.handles[number]? = some (.opened token)) :
    (step service.recorded (.useHandle number .close) client).calls =
      [⟨.release token, .status (service.backend.release token client.backend).value⟩] := by
  rw [step_close_of_opened hheld, Service.backend_recorded, Backend.recorded_release_apply]

theorem calls_drop_recorded (service : Service State Call Command Report) {token : Token}
    (hheld : client.handles[number]? = some (.opened token)) :
    (step service.recorded (.useHandle number .drop) client).calls =
      [⟨.release token, .status (service.backend.release token client.backend).value⟩] := by
  rw [step_drop_of_opened hheld, Service.backend_recorded, Backend.recorded_release_apply]

theorem isFetch_of_reads (service : Service State Call Command Report)
    {token : Token} {use : HandleUse}
    (hheld : client.handles[number]? = some (.opened token)) (hreads : use.reads) :
    ∀ fetch ∈ (step service.recorded (.useHandle number use) client).calls,
      fetch.IsFetch token := by
  rw [step_useHandle_of_held use hheld]
  intro fetch hfetch
  cases use with
  | isOpen | describe => simp [useHandle] at hfetch
  | metadata =>
    refine service.backend.isFetch_of_mem_fetchMetadata token client.backend ?_
    simpa [useHandle, onBackend, Handle.metadata, Service.recorded] using hfetch
  | thermal =>
    refine service.backend.isFetch_of_mem_fetchMetadata token client.backend ?_
    simpa [useHandle, onBackend, Handle.thermal, Handle.metadata, Service.recorded] using hfetch
  | cover =>
    refine service.backend.isFetch_of_mem_fetchCover token client.backend ?_
    simpa [useHandle, onBackend, Handle.cover, Service.recorded] using hfetch
  | close | drop | forget => simp [HandleUse.reads] at hreads

/-- A life that begins with questions is lived once if the rest of it is. -/
theorem LivesOnce.cons_of_reads {token : Token} {use : HandleUse}
    {outcome : Outcome (Client State) Exchange (Answer Report)}
    {later : List (HandleUse × Outcome (Client State) Exchange (Answer Report))}
    (hlater : LivesOnce token later) (hreads : use.reads)
    (hfetches : ∀ fetch ∈ outcome.calls, fetch.IsFetch token) :
    LivesOnce token ((use, outcome) :: later) := by
  obtain ⟨fetches, ending, hcalls, hfetch, hending⟩ := hlater
  have hclose : use ≠ .close := by rintro rfl; simp [HandleUse.reads] at hreads
  have hdrop : use ≠ .drop := by rintro rfl; simp [HandleUse.reads] at hreads
  refine ⟨outcome.calls ++ fetches, ending, ?_, ?_, ?_⟩
  · rw [List.flatMap_cons, hcalls, List.append_assoc]
  · intro fetch hmem
    rcases List.mem_append.mp hmem with hmem | hmem
    · exact hfetches fetch hmem
    · exact hfetch fetch hmem
  · have hends : (HandleUse.close ∈ ((use, outcome) :: later).map Prod.fst ∨
        HandleUse.drop ∈ ((use, outcome) :: later).map Prod.fst) ↔
        (HandleUse.close ∈ later.map Prod.fst ∨ HandleUse.drop ∈ later.map Prod.fst) := by
      simp [hclose.symm, hdrop.symm]
    rwa [if_congr hends rfl rfl]

/-- An open handle lives once, whatever is done with it and around it. -/
theorem livesOnce_of_opened {token : Token} (steps : List (Step Command)) :
    ∀ client : Client State, client.handles[number]? = some (.opened token) →
      LivesOnce token (life service.recorded number client steps) := by
  induction steps with
  | nil => intro client _; exact ⟨[], [], rfl, by simp, by simp [life]⟩
  | cons next rest ih =>
    intro client hheld
    cases huse : next.useOf? number with
    | none =>
      simp only [life, huse]
      exact ih _ (handles_step_of_useOf?_eq_none hheld huse)
    | some use =>
      obtain rfl := Step.useOf?_eq_some_iff.mp huse
      simp only [life, huse]
      cases hreads : use.reads with
      | true =>
        obtain ⟨hhandles, -⟩ := step_of_reads service.recorded client number hreads
        rw [HandleUse.letsGo_of_reads hreads]
        exact (ih _ (by rw [hhandles, hheld])).cons_of_reads hreads
          (isFetch_of_reads service hheld hreads)
      | false =>
        rcases HandleUse.eq_of_not_reads hreads with rfl | rfl | rfl
        · -- Closed, the handle makes the call of its release, and none after that.
          have hclosed := calls_life_of_closed service.recorded rest
            (step service.recorded (.useHandle number .close) client).state
            (by rw [step_close_of_opened hheld]; exact Std.ExtTreeMap.getElem?_insert_self)
          refine ⟨[],
            [⟨.release token, .status (service.backend.release token client.backend).value⟩],
            ?_, by simp, by simp⟩
          simp only [List.flatMap_cons, HandleUse.letsGo, Bool.false_eq_true, if_false, hclosed]
          simp [calls_close_recorded service hheld]
        · -- Dropped, it makes the same call, and its life ends there.
          refine ⟨[],
            [⟨.release token, .status (service.backend.release token client.backend).value⟩],
            ?_, by simp, by simp⟩
          simp [calls_drop_recorded service hheld, HandleUse.letsGo]
        · refine ⟨[], [], ?_, by simp, by simp [HandleUse.letsGo]⟩
          simp [step_forget_of_opened hheld, HandleUse.letsGo]

theorem handles_after_of_closed (later : List (Step Command)) :
    ∀ client : Client State, client.handles[number]? = some .closed →
      (∀ use : HandleUse, use.letsGo → .useHandle number use ∉ later) →
      (after service client later).handles[number]? = some .closed := by
  induction later with
  | nil => exact fun client hheld _ => hheld
  | cons next rest ih =>
    intro client hheld hkept
    have hkept' : ∀ use : HandleUse, use.letsGo → .useHandle number use ∉ rest :=
      fun use hletsGo hmem => hkept use hletsGo (List.mem_cons_of_mem _ hmem)
    refine ih _ ?_ hkept'
    cases huse : next.useOf? number with
    | none => exact handles_step_of_useOf?_eq_none hheld huse
    | some use =>
      obtain rfl := Step.useOf?_eq_some_iff.mp huse
      refine (step_useHandle_of_closed service use hheld).2 ?_
      have hnot := fun hletsGo => hkept use hletsGo List.mem_cons_self
      simpa using hnot

/-! ## The sessions of all handles -/

theorem count_sessions_openHandle (service : Service State Call Command Report)
    (client : Client State) (number : Int) (path : FilePath) (token : Token) :
    (step service.recorded (.openHandle number path) client).calls.countP (Exchange.gives token) +
        client.sessions.count token =
      (step service.recorded (.openHandle number path) client).calls.countP
          (Exchange.releases token) +
        (step service.recorded (.openHandle number path) client).state.sessions.count token := by
  cases hheld : client.handles[number]? with
  | some handle => simp [step_openHandle_of_held path hheld]
  | none =>
    have hvalue := service.backend.value_allocate_recorded path client.backend
    cases htoken : (service.backend.allocate path client.backend).value with
    | none =>
      rw [step_openHandle_of_refusal hheld (hvalue.trans htoken)]
      simp [Backend.recorded_allocate_apply, htoken, Exchange.gives, Exchange.releases, sessions]
    | some given =>
      have hcount := (heldTokens_insert_opened given hheld).count_eq token
      rw [step_openHandle_of_token hheld (hvalue.trans htoken)]
      simp only [sessions, List.count_append, hcount, List.count_cons]
      simp [Backend.recorded_allocate_apply, htoken, Exchange.gives, Exchange.releases]
      omega

theorem count_sessions_useHandle_closed (service : Service State Call Command Report)
    (token : Token) (use : HandleUse) (hheld : client.handles[number]? = some .closed) :
    (step service.recorded (.useHandle number use) client).calls = [] ∧
      (step service.recorded (.useHandle number use) client).state.sessions.count token =
        client.sessions.count token := by
  refine ⟨(step_useHandle_of_closed service.recorded use hheld).1, ?_⟩
  cases use with
  | isOpen | metadata | thermal | cover | describe =>
    rw [step_useHandle_of_held _ hheld]
    rfl
  | close => rw [step_close_of_closed hheld]
  | drop | forget =>
    have hcount := (heldTokens_erase_closed hheld).count_eq token
    rw [step_letGo_of_closed rfl hheld]
    simp [sessions, hcount]

theorem count_sessions_useHandle_opened (service : Service State Call Command Report)
    (token : Token) {held : Token} (use : HandleUse)
    (hheld : client.handles[number]? = some (.opened held)) :
    (step service.recorded (.useHandle number use) client).calls.countP (Exchange.gives token) = 0 ∧
      client.sessions.count token =
        (step service.recorded (.useHandle number use) client).calls.countP
            (Exchange.releases token) +
          (step service.recorded (.useHandle number use) client).state.sessions.count token := by
  cases hreads : use.reads with
  | true =>
    have hfetches := isFetch_of_reads service hheld hreads
    obtain ⟨hhandles, hforgotten⟩ := step_of_reads service.recorded client number hreads
    have hgives : (step service.recorded (.useHandle number use) client).calls.countP
        (Exchange.gives token) = 0 :=
      List.countP_eq_zero.mpr fun fetch hfetch => by
        simp [(hfetches fetch hfetch).gives_eq_false]
    have hreleases : (step service.recorded (.useHandle number use) client).calls.countP
        (Exchange.releases token) = 0 :=
      List.countP_eq_zero.mpr fun fetch hfetch => by
        simp [(hfetches fetch hfetch).releases_eq_false]
    refine ⟨hgives, ?_⟩
    rw [hreleases, sessions, sessions, hhandles, hforgotten, Nat.zero_add]
  | false =>
    rcases HandleUse.eq_of_not_reads hreads with rfl | rfl | rfl
    · have hcount := (heldTokens_insert_closed hheld).count_eq token
      rw [step_close_of_opened hheld]
      simp only [sessions, List.count_append, hcount, List.count_cons]
      simp [Backend.recorded_release_apply, Exchange.gives, Exchange.releases]
      omega
    · have hcount := (heldTokens_erase_opened hheld).count_eq token
      rw [step_drop_of_opened hheld]
      simp only [sessions, List.count_append, hcount, List.count_cons]
      simp [Backend.recorded_release_apply, Exchange.gives, Exchange.releases]
      omega
    · -- A forgotten session is open as before, only not under a number any more.
      have hcount := (heldTokens_erase_opened hheld).count_eq token
      rw [step_forget_of_opened hheld]
      simp only [sessions, List.count_append, hcount, List.count_cons]
      simp
      omega

/-- The sessions that a step gives to handles, with those that were open, are those
it releases and those that are open then. -/
theorem count_sessions_step (service : Service State Call Command Report) (client : Client State)
    (token : Token) {next : Step Command} (hrequest : next.isRequest = false) :
    (step service.recorded next client).calls.countP (Exchange.gives token) +
        client.sessions.count token =
      (step service.recorded next client).calls.countP (Exchange.releases token) +
        (step service.recorded next client).state.sessions.count token := by
  cases next with
  | request request => simp [Step.isRequest] at hrequest
  | command command => simp [step, onBackend, Service.recorded, sessions]
  | openHandle number path => exact count_sessions_openHandle service client number path token
  | useHandle number use =>
    cases hheld : client.handles[number]? with
    | none => simp [step_useHandle_of_free use hheld]
    | some handle =>
      cases handle with
      | closed =>
        obtain ⟨hcalls, hcount⟩ := count_sessions_useHandle_closed service token use hheld
        rw [hcalls, hcount]
        rfl
      | opened held =>
        obtain ⟨hgives, hcount⟩ := count_sessions_useHandle_opened service token use hheld
        rw [hgives, hcount, Nat.zero_add]

theorem count_sessions_run (service : Service State Call Command Report) (token : Token)
    (steps : List (Step Command)) :
    ∀ client : Client State, (∀ next ∈ steps, next.isRequest = false) →
      ((run service.recorded client steps).flatMap Outcome.calls).countP (Exchange.gives token) +
          client.sessions.count token =
        ((run service.recorded client steps).flatMap Outcome.calls).countP
            (Exchange.releases token) +
          (after service.recorded client steps).sessions.count token := by
  induction steps with
  | nil => intro client _; rfl
  | cons next rest ih =>
    intro client hrequests
    -- The exchanges of the run are those of its first step and those of the rest.
    have hnext := count_sessions_step service client token (hrequests next List.mem_cons_self)
    have hrest := ih (step service.recorded next client).state
      fun later hlater => hrequests later (List.mem_cons_of_mem _ hlater)
    simp only [run, after, List.foldl_cons, List.flatMap_cons, List.countP_append] at hrest ⊢
    omega

/-! ## The main statement -/

/-- An open that succeeds is one allocation, and holds the session it gave. -/
theorem exists_token_of_opened (service : Service State Call Command Report) {path : FilePath}
    (hopened : (step service.recorded (.openHandle number path) client).value = .opened) :
    ∃ token,
      (step service.recorded (.openHandle number path) client).calls =
          [⟨.allocate path, .token (some token)⟩] ∧
        (step service.recorded (.openHandle number path) client).state.handles[number]? =
          some (.opened token) := by
  cases hheld : client.handles[number]? with
  | some handle =>
    rw [step_openHandle_of_held path hheld] at hopened
    cases hopened
  | none =>
    cases htoken : (service.recorded.backend.allocate path client.backend).value with
    | none =>
      rw [step_openHandle_of_refusal hheld htoken] at hopened
      cases hopened
    | some token =>
      refine ⟨token, ?_, ?_⟩
      · rw [Service.backend_recorded, Backend.value_allocate_recorded] at htoken
        rw [calls_openHandle_recorded service path hheld, htoken]
      · rw [step_openHandle_of_token hheld htoken]
        exact Std.ExtTreeMap.getElem?_insert_self

/-- **Every session is released once.**  In a run without requests past the
handles, on a backend that answers as it likes:

* a handle that was opened was given one session, and lives once on it, up to any
  point of the run and up to the end where the handles still held are dropped;
* at every point, and at the end, the sessions given and not released are those of
  the handles, held or forgotten, that are still open;
* a closed handle stays closed for as long as it is held. -/
theorem sessions_released_once (service : Service State Call Command Report) (state : State)
    (steps : List (Step Command)) (hrequests : ∀ next ∈ steps, next.isRequest = false) :
    let start := fresh state
    let reached := after service.recorded start steps
    let ending := finish service.recorded.backend reached
    let calls := (run service.recorded start steps).flatMap Outcome.calls
    (∀ earlier number path later, steps = earlier ++ .openHandle number path :: later →
      let opening := step service.recorded (.openHandle number path)
        (after service.recorded start earlier)
      opening.value = .opened →
        ∃ token, opening.calls = [⟨.allocate path, .token (some token)⟩] ∧
          LivesOnce token (life service.recorded number opening.state later) ∧
          LivesOnce token (life service.recorded number opening.state (later ++ reached.drops))) ∧
    (∀ token, calls.countP (Exchange.gives token) =
      calls.countP (Exchange.releases token) + reached.sessions.count token) ∧
    (ending.calls = (run service.recorded reached reached.drops).flatMap Outcome.calls ∧
      ending.state.handles = ∅ ∧
      ∀ token, (calls ++ ending.calls).countP (Exchange.gives token) =
        (calls ++ ending.calls).countP (Exchange.releases token) +
          reached.forgotten.count token) ∧
    (∀ earlier number later, steps = earlier ++ later →
      (after service.recorded start earlier).handles[number]? = some .closed →
      (∀ use : HandleUse, use.letsGo → .useHandle number use ∉ later) →
        reached.handles[number]? = some .closed) := by
  intro start reached ending calls
  have hcount : ∀ token, calls.countP (Exchange.gives token) =
      calls.countP (Exchange.releases token) + reached.sessions.count token := by
    intro token
    have hrun := count_sessions_run service token steps start hrequests
    rwa [sessions_fresh, List.count_nil, Nat.add_zero] at hrun
  have hfinish : ending = _ := finish_eq service.recorded reached
  obtain ⟨hhandles, -⟩ := finish_table service.recorded.backend reached
  refine ⟨?_, hcount, ⟨by rw [hfinish], hhandles, ?_⟩, ?_⟩
  · -- One handle, up to this point of the run and up to the end of it.
    rintro earlier number path later - opening hopened
    obtain ⟨token, hcalls, hheld⟩ := exists_token_of_opened service hopened
    exact ⟨token, hcalls, livesOnce_of_opened _ _ hheld, livesOnce_of_opened _ _ hheld⟩
  · -- The end is a run of drops, after which only forgotten handles are open.
    intro token
    have hend := count_sessions_run service token reached.drops reached isRequest_of_mem_drops
    have hsessions : (after service.recorded reached reached.drops).sessions =
        reached.forgotten := by
      rw [← sessions_finish service.recorded.backend reached, finish_eq]
    rw [hsessions] at hend
    have hcalls : ending.calls =
        (run service.recorded reached reached.drops).flatMap Outcome.calls := by rw [hfinish]
    rw [hcalls, List.countP_append, List.countP_append]
    have hrun := hcount token
    omega
  · rintro earlier number later rfl hclosed hkept
    have hreached : reached = after service.recorded (after service.recorded start earlier) later :=
      after_append service.recorded start earlier later
    rw [hreached]
    exact handles_after_of_closed later _ hclosed hkept

/-- Two handles are given one token by a backend that fails to release it.  The
first is closed twice and then dropped, the second is forgotten. -/
theorem sessions_released_once_repeated :
    let service := (Script.replying true).alone
    let path := FilePath.ofText "a"
    let five : Token := ⟨5, by decide⟩
    let later : List (Step Empty) :=
      [.openHandle 2 path, .useHandle 1 .metadata, .useHandle 1 .close, .useHandle 1 .close,
        .useHandle 2 .forget, .useHandle 1 .drop]
    let start := fresh ⟨[some five, some five], [-7], [], []⟩
    let opening := step service.recorded (.openHandle 1 path) start
    let reached := after service.recorded start (.openHandle 1 path :: later)
    let calls := (run service.recorded start (.openHandle 1 path :: later)).flatMap Outcome.calls
    (∀ next ∈ .openHandle 1 path :: later, next.isRequest = false) ∧
      opening.value = .opened ∧
      LivesOnce five (life service.recorded 1 opening.state later) ∧
      calls.countP (Exchange.gives five) = 2 ∧
      calls.countP (Exchange.releases five) + reached.forgotten.count five = 2 := by
  intro service path five later start opening reached calls
  have hrequests : ∀ next ∈ .openHandle 1 path :: later, next.isRequest = false := by decide
  have hopened : opening.value = .opened := rfl
  have hgiven : calls.countP (Exchange.gives five) = 2 := by decide
  obtain ⟨hlives, hcount, -, -⟩ := sessions_released_once service
    ⟨[some five, some five], [-7], [], []⟩ (.openHandle 1 path :: later) hrequests
  obtain ⟨token, hcalls, hlife, -⟩ := hlives [] 1 path later rfl hopened
  obtain rfl : token = five := by
    have hallocated : [(⟨.allocate path, .token (some five)⟩ : Exchange)] =
        [⟨.allocate path, .token (some token)⟩] := hcalls
    simpa using hallocated.symm
  have hsessions : reached.sessions = reached.forgotten := rfl
  refine ⟨hrequests, hopened, hlife, hgiven, ?_⟩
  rw [← hsessions, ← hgiven]
  exact (hcount five).symm

end Client

end DemuxSession
