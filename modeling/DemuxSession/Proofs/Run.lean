import DemuxSession.Proofs.Simulation
import Mathlib.Data.List.Nodup

/-!
# Runs of a client

What every later argument about runs needs: how runs compose, what a step on a
handle comes to once it is known whether the handle is held and open, which
sessions a client holds, and that the end of a run is itself a run.

* `heldTokens` lists the sessions of the open handles of a table, and
  `Client.sessions` adds those of the handles that were forgotten while open.  A
  token that two handles were given stands in it twice.
* `Client.finish_eq` says that letting go of everything at the end is a run of
  drops, `Client.drops`, so whatever holds after every run also holds during and
  after the end of it.
-/

namespace DemuxSession

variable {State Call Command Report : Type}

/-! ## Kinds of steps -/

namespace Step

/-- The number of the handle a step is on; none for a request or a command. -/
def handle? : Step Command → Option Int
  | .openHandle number _ | .useHandle number _ => some number
  | .request _ | .command _ => none

/-- Whether a step goes past the handles to the backend. -/
def isRequest : Step Command → Bool
  | .request _ => true
  | .openHandle .. | .useHandle .. | .command _ => false

end Step

namespace HandleUse

/-- Whether a use only asks something of the handle. -/
def reads : HandleUse → Bool
  | .isOpen | .metadata | .thermal | .cover | .describe => true
  | .close | .drop | .forget => false

/-- Whether a use is the last one of a handle. -/
def letsGo : HandleUse → Bool
  | .drop | .forget => true
  | .isOpen | .metadata | .thermal | .cover | .describe | .close => false

theorem letsGo_of_reads {use : HandleUse} (hreads : use.reads) : use.letsGo = false := by
  cases use <;> first | rfl | simp [reads] at hreads

/-- A use that does more than to ask something ends the handle in one of three ways. -/
theorem eq_of_not_reads {use : HandleUse} (hreads : use.reads = false) :
    use = .close ∨ use = .drop ∨ use = .forget := by
  cases use <;> simp [reads] at hreads ⊢

end HandleUse

/-! ## The sessions of a client -/

/-- The sessions of the open handles. -/
def heldTokens (handles : Std.ExtTreeMap Int Handle) : List Token :=
  handles.toList.filterMap fun entry => entry.2.token?

theorem getElem?_of_mem_toList {handles : Std.ExtTreeMap Int Handle} :
    ∀ entry ∈ handles.toList, handles[entry.1]? = some entry.2 :=
  fun _ hentry => Std.ExtTreeMap.mem_toList_iff_getElem?_eq_some.mp hentry

theorem nodup_map_fst_toList (handles : Std.ExtTreeMap Int Handle) :
    (handles.toList.map Prod.fst).Nodup := by
  rw [Std.ExtTreeMap.map_fst_toList_eq_keys]
  exact Std.ExtTreeMap.nodup_keys

theorem toList_perm_cons {handles : Std.ExtTreeMap Int Handle} {number : Int} {handle : Handle}
    (hheld : handles[number]? = some handle) :
    handles.toList.Perm ((number, handle) :: (handles.erase number).toList) := by
  have hnodup : ∀ table : Std.ExtTreeMap Int Handle, table.toList.Nodup :=
    fun table => (nodup_map_fst_toList table).of_map Prod.fst
  have hfirst : (number, handle) ∉ (handles.erase number).toList := by
    rw [Std.ExtTreeMap.mem_toList_iff_getElem?_eq_some]
    simp
  -- Neither list repeats an entry, so it is enough that they have the same entries.
  refine (List.perm_ext_iff_of_nodup (hnodup _) (List.nodup_cons.mpr ⟨hfirst, hnodup _⟩)).mpr ?_
  rintro ⟨other, candidate⟩
  rw [List.mem_cons, Std.ExtTreeMap.mem_toList_iff_getElem?_eq_some,
    Std.ExtTreeMap.mem_toList_iff_getElem?_eq_some, Std.ExtTreeMap.getElem?_erase]
  by_cases hnumber : number = other
  · subst hnumber
    simp [hheld, eq_comm]
  · simp [hnumber, Ne.symm hnumber]

/-- The session of a held handle, if it has one, and those of the other handles. -/
theorem heldTokens_perm {handles : Std.ExtTreeMap Int Handle} {number : Int} {handle : Handle}
    (hheld : handles[number]? = some handle) :
    (heldTokens handles).Perm (handle.token?.toList ++ heldTokens (handles.erase number)) := by
  have hperm := (toList_perm_cons hheld).filterMap fun entry : Int × Handle => entry.2.token?
  cases htoken : handle.token? with
  | none => simpa [heldTokens, List.filterMap_cons, htoken] using hperm
  | some token => simpa [heldTokens, List.filterMap_cons, htoken] using hperm

theorem erase_eq_of_free {Value : Type} {handles : Std.ExtTreeMap Int Value} {number : Int}
    (hfree : handles[number]? = none) : handles.erase number = handles := by
  refine Std.ExtTreeMap.ext_getElem? fun other => ?_
  rw [Std.ExtTreeMap.getElem?_erase]
  by_cases hnumber : number = other
  · subst hnumber
    simp [hfree]
  · simp [hnumber]

/-- Holding a handle puts its session, if it has one, in place of the one that was
held under the number. -/
theorem heldTokens_insert (handles : Std.ExtTreeMap Int Handle) (number : Int) (handle : Handle) :
    (heldTokens (handles.insert number handle)).Perm
      (handle.token?.toList ++ heldTokens (handles.erase number)) := by
  have herase : (handles.insert number handle).erase number = handles.erase number := by
    refine Std.ExtTreeMap.ext_getElem? fun other => ?_
    rw [Std.ExtTreeMap.getElem?_erase, Std.ExtTreeMap.getElem?_erase,
      Std.ExtTreeMap.getElem?_insert]
    by_cases hnumber : number = other <;> simp [hnumber]
  have hself : (handles.insert number handle)[number]? = some handle :=
    Std.ExtTreeMap.getElem?_insert_self
  rw [← herase]
  exact heldTokens_perm hself

section Changes

variable {handles : Std.ExtTreeMap Int Handle} {number : Int} {token : Token}

theorem heldTokens_insert_opened (token : Token) (hfree : handles[number]? = none) :
    (heldTokens (handles.insert number (.opened token))).Perm (token :: heldTokens handles) := by
  have hperm := heldTokens_insert handles number (.opened token)
  rwa [erase_eq_of_free hfree] at hperm

theorem heldTokens_insert_closed (hheld : handles[number]? = some (.opened token)) :
    (heldTokens handles).Perm (token :: heldTokens (handles.insert number .closed)) :=
  (heldTokens_perm hheld).trans ((heldTokens_insert handles number .closed).symm.cons token)

theorem heldTokens_erase_opened (hheld : handles[number]? = some (.opened token)) :
    (heldTokens handles).Perm (token :: heldTokens (handles.erase number)) :=
  heldTokens_perm hheld

theorem heldTokens_erase_closed (hheld : handles[number]? = some .closed) :
    (heldTokens (handles.erase number)).Perm (heldTokens handles) :=
  (heldTokens_perm hheld).symm

theorem insert_eq_of_held {handle : Handle} (hheld : handles[number]? = some handle) :
    handles.insert number handle = handles := by
  refine Std.ExtTreeMap.ext_getElem? fun other => ?_
  rw [Std.ExtTreeMap.getElem?_insert]
  by_cases hnumber : number = other
  · subst hnumber
    simp [hheld]
  · simp [hnumber]

end Changes

theorem mem_heldTokens_iff {handles : Std.ExtTreeMap Int Handle} {token : Token} :
    token ∈ heldTokens handles ↔ ∃ number : Int, handles[number]? = some (Handle.opened token) := by
  unfold heldTokens
  rw [List.mem_filterMap]
  constructor
  · rintro ⟨⟨number, handle⟩, hentry, htoken⟩
    rw [Std.ExtTreeMap.mem_toList_iff_getElem?_eq_some] at hentry
    cases handle with
    | closed => simp [Handle.token?] at htoken
    | opened held =>
      obtain rfl : held = token := by simpa [Handle.token?] using htoken
      exact ⟨number, hentry⟩
  · rintro ⟨number, hheld⟩
    exact ⟨(number, Handle.opened token),
      Std.ExtTreeMap.mem_toList_iff_getElem?_eq_some.mpr hheld, rfl⟩

/-- A session that is held once is held under one number. -/
theorem eq_of_opened_of_nodup {handles : Std.ExtTreeMap Int Handle} {first second : Int}
    {token : Token} (hnodup : (heldTokens handles).Nodup)
    (hfirst : handles[first]? = some (Handle.opened token))
    (hsecond : handles[second]? = some (Handle.opened token)) : first = second := by
  by_contra hne
  have hmem : token ∈ heldTokens (handles.erase first) := by
    refine mem_heldTokens_iff.mpr ⟨second, ?_⟩
    rw [Std.ExtTreeMap.getElem?_erase, if_neg (by simpa using hne), hsecond]
  have hnodup' := (heldTokens_erase_opened hfirst).nodup_iff.mp hnodup
  exact (List.nodup_cons.mp hnodup').1 hmem

namespace Client

/-- The sessions of the handles that are open, held or forgotten. -/
def sessions (client : Client State) : List Token :=
  heldTokens client.handles ++ client.forgotten

@[simp] theorem sessions_fresh (state : State) : (fresh state).sessions = [] := rfl

theorem mem_sessions_of_opened {client : Client State} {number : Int} {token : Token}
    (hheld : client.handles[number]? = some (.opened token)) : token ∈ client.sessions :=
  List.mem_append_left _ (mem_heldTokens_iff.mpr ⟨number, hheld⟩)

/-! ## What a step on a handle comes to -/

section Steps

variable {service : Service State Call Command Report} {client : Client State} {number : Int}

theorem step_openHandle_of_held {handle : Handle} (path : FilePath)
    (hheld : client.handles[number]? = some handle) :
    step service (.openHandle number path) client = ⟨.handleInUse, client, [], []⟩ := by
  simp [step, hheld]

theorem step_openHandle_of_token {path : FilePath} {token : Token}
    (hfree : client.handles[number]? = none)
    (htoken : (service.backend.allocate path client.backend).value = some token) :
    step service (.openHandle number path) client =
      ⟨.opened,
        { client with
          backend := (service.backend.allocate path client.backend).state
          handles := client.handles.insert number (.opened token) },
        (service.backend.allocate path client.backend).log ++ [.opened path token],
        (service.backend.allocate path client.backend).calls⟩ := by
  simp [step, hfree, openHandle, onBackend, Handle.openOn, htoken, hold]

theorem step_openHandle_of_refusal {path : FilePath}
    (hfree : client.handles[number]? = none)
    (hrefusal : (service.backend.allocate path client.backend).value = none) :
    step service (.openHandle number path) client =
      ⟨.notOpened (.opening ⟨path⟩),
        { client with backend := (service.backend.allocate path client.backend).state },
        (service.backend.allocate path client.backend).log ++ [.refused path],
        (service.backend.allocate path client.backend).calls⟩ := by
  simp [step, hfree, openHandle, onBackend, Handle.openOn, hrefusal]

theorem step_useHandle_of_free (use : HandleUse) (hfree : client.handles[number]? = none) :
    step service (.useHandle number use) client = ⟨.noHandle, client, [], []⟩ := by
  simp [step, hfree]

theorem step_useHandle_of_held {handle : Handle} (use : HandleUse)
    (hheld : client.handles[number]? = some handle) :
    step service (.useHandle number use) client =
      useHandle service.backend number handle use client := by
  simp [step, hheld]

/-! ### Uses of an open handle -/

section Opened

variable {token : Token}

theorem step_close_of_opened (hheld : client.handles[number]? = some (.opened token)) :
    let released := service.backend.release token client.backend
    step service (.useHandle number .close) client =
      ⟨.closed false,
        { client with backend := released.state, handles := client.handles.insert number .closed },
        released.log ++
          [if released.value = 0 then .released token else .releaseFailed token released.value],
        released.calls⟩ := by
  intro released
  rw [step_useHandle_of_held .close hheld]
  simp [useHandle, onBackend, Handle.close, hold, Handle.isOpen, Handle.token?, released]

theorem step_drop_of_opened (hheld : client.handles[number]? = some (.opened token)) :
    let released := service.backend.release token client.backend
    step service (.useHandle number .drop) client =
      ⟨.letGo,
        { client with backend := released.state, handles := client.handles.erase number },
        .droppedOpen token :: released.log ++
          [if released.value = 0 then .released token else .releaseFailed token released.value],
        released.calls⟩ := by
  intro released
  rw [step_useHandle_of_held .drop hheld]
  simp [useHandle, onBackend, Handle.drop, Handle.close, letGo, released]

theorem step_forget_of_opened (hheld : client.handles[number]? = some (.opened token)) :
    step service (.useHandle number .forget) client =
      ⟨.letGo,
        { client with
          handles := client.handles.erase number
          forgotten := token :: client.forgotten },
        [], []⟩ := by
  rw [step_useHandle_of_held .forget hheld]
  simp [useHandle, remember, Handle.token?, letGo]

end Opened

/-! ### Uses of a closed handle -/

theorem step_close_of_closed (hheld : client.handles[number]? = some .closed) :
    step service (.useHandle number .close) client = ⟨.closed false, client, [], []⟩ := by
  rw [step_useHandle_of_held .close hheld]
  simp [useHandle, onBackend, Handle.close, hold, Handle.isOpen, Handle.token?,
    insert_eq_of_held hheld]

theorem step_letGo_of_closed {use : HandleUse} (hletsGo : use.letsGo)
    (hheld : client.handles[number]? = some .closed) :
    step service (.useHandle number use) client =
      ⟨.letGo, { client with handles := client.handles.erase number }, [], []⟩ := by
  rw [step_useHandle_of_held use hheld]
  cases use with
  | isOpen | metadata | thermal | cover | describe | close => simp [HandleUse.letsGo] at hletsGo
  | drop | forget => simp [useHandle, onBackend, Handle.drop, remember, Handle.token?, letGo]

/-! ### Questions -/

theorem step_of_reads (service : Service State Call Command Report) (client : Client State)
    (number : Int) {use : HandleUse} (hreads : use.reads) :
    (step service (.useHandle number use) client).state.handles = client.handles ∧
      (step service (.useHandle number use) client).state.forgotten = client.forgotten := by
  cases hheld : client.handles[number]? with
  | none => rw [step_useHandle_of_free use hheld]; exact ⟨rfl, rfl⟩
  | some handle =>
    rw [step_useHandle_of_held use hheld]
    cases use with
    | isOpen | metadata | thermal | cover | describe => exact ⟨rfl, rfl⟩
    | close | drop | forget => simp [HandleUse.reads] at hreads

/-! ### Other handles -/

theorem handles_step_of_ne (next : Step Command) (hother : next.handle? ≠ some number) :
    (step service next client).state.handles[number]? = client.handles[number]? := by
  have hinsert : ∀ (other : Int) (handle : Handle), other ≠ number →
      (client.handles.insert other handle)[number]? = client.handles[number]? := by
    intro other handle hne
    rw [Std.ExtTreeMap.getElem?_insert, if_neg (by simpa using hne)]
  have herase : ∀ other : Int, other ≠ number →
      (client.handles.erase other)[number]? = client.handles[number]? := by
    intro other hne
    rw [Std.ExtTreeMap.getElem?_erase, if_neg (by simpa using hne)]
  cases next with
  | openHandle other path =>
    have hne : other ≠ number := by simpa [Step.handle?] using hother
    cases hheld : client.handles[other]? with
    | some handle => rw [step_openHandle_of_held path hheld]
    | none =>
      cases htoken : (service.backend.allocate path client.backend).value with
      | some token => rw [step_openHandle_of_token hheld htoken]; exact hinsert _ _ hne
      | none => rw [step_openHandle_of_refusal hheld htoken]
  | useHandle other use =>
    have hne : other ≠ number := by simpa [Step.handle?] using hother
    cases hheld : client.handles[other]? with
    | none => rw [step_useHandle_of_free use hheld]
    | some handle =>
      rw [step_useHandle_of_held use hheld]
      cases use with
      | close => exact hinsert _ _ hne
      | drop | forget => exact herase _ hne
      | isOpen | metadata | thermal | cover | describe => rfl
  | request request => rfl
  | command command => rfl

end Steps

/-! ## Composition of runs -/

theorem after_append (service : Service State Call Command Report) (client : Client State)
    (steps later : List (Step Command)) :
    after service client (steps ++ later) = after service (after service client steps) later := by
  simp [after]

/-! ## The end of a run -/

/-- The steps that let go of every handle, in the order of the numbers. -/
def drops (client : Client State) : List (Step Command) :=
  client.handles.keys.map fun number => .useHandle number .drop

theorem isRequest_of_mem_drops {client : Client State} :
    ∀ next ∈ (client.drops : List (Step Command)), next.isRequest = false := by
  intro next hnext
  obtain ⟨number, -, rfl⟩ := List.mem_map.mp hnext
  rfl

theorem dropEach_eq (service : Service State Call Command Report) (entries : List (Int × Handle)) :
    ∀ client : Client State, (∀ entry ∈ entries, client.handles[entry.1]? = some entry.2) →
      (entries.map Prod.fst).Nodup →
      let steps := entries.map fun entry => (.useHandle entry.1 .drop : Step Command)
      dropEach service.backend entries client =
        ⟨(), after service client steps, (run service client steps).flatMap Outcome.log,
          (run service client steps).flatMap Outcome.calls⟩ := by
  induction entries with
  | nil => intro client _ _; rfl
  | cons entry rest ih =>
    obtain ⟨number, handle⟩ := entry
    intro client hheld hnodup
    obtain ⟨hfirst, hnodup⟩ := List.nodup_cons.mp hnodup
    have hstep : step service (.useHandle number .drop) client = _ :=
      step_useHandle_of_held .drop (hheld _ List.mem_cons_self)
    -- Dropping the first handle leaves the others where they are.
    have hothers : ∀ other ∈ rest,
        (useHandle service.backend number handle .drop client :
          Outcome _ _ (Answer Report)).state.handles[other.1]? = some other.2 := by
      intro other hother
      rw [← hstep, handles_step_of_ne]
      · exact hheld other (List.mem_cons_of_mem _ hother)
      · have hne : number ≠ other.1 := by
          rintro rfl
          exact hfirst (List.mem_map.mpr ⟨other, hother, rfl⟩)
        simpa [Step.handle?] using hne
    simp only [List.map_cons, run, after, List.foldl_cons, List.flatMap_cons, hstep]
    simp only [dropEach, Action.bind_apply]
    have hrest := ih _ hothers hnodup
    simp only [useHandle, Action.bind_apply, Action.pure_apply] at hrest ⊢
    rw [hrest]
    simp [after]

/-- Letting go of everything at the end is a run of drops. -/
theorem finish_eq (service : Service State Call Command Report) (client : Client State) :
    finish service.backend client =
      ⟨(), after service client client.drops,
        (run service client client.drops).flatMap Outcome.log,
        (run service client client.drops).flatMap Outcome.calls⟩ := by
  have hsteps : (client.handles.toList.map fun entry => (.useHandle entry.1 .drop : Step Command)) =
      client.drops := by
    rw [drops, ← Std.ExtTreeMap.map_fst_toList_eq_keys, List.map_map]
    rfl
  have hdrops := dropEach_eq service client.handles.toList client getElem?_of_mem_toList
    (nodup_map_fst_toList client.handles)
  simp only [hsteps] at hdrops
  simp only [finish, Action.bind_apply, Action.read_apply, hdrops, List.nil_append]

theorem dropEach_table (backend : Backend State Call) (entries : List (Int × Handle)) :
    ∀ client : Client State,
      (dropEach backend entries client).state.handles =
          entries.foldl (fun handles entry => handles.erase entry.1) client.handles ∧
        (dropEach backend entries client).state.forgotten = client.forgotten := by
  induction entries with
  | nil => exact fun _ => ⟨rfl, rfl⟩
  | cons entry rest ih => exact fun client => ih _

theorem getElem?_foldl_erase (entries : List (Int × Handle)) (number : Int) :
    ∀ handles : Std.ExtTreeMap Int Handle,
      (entries.foldl (fun handles entry => handles.erase entry.1) handles)[number]? =
        if number ∈ entries.map Prod.fst then none else handles[number]? := by
  induction entries with
  | nil => simp
  | cons entry rest ih =>
    intro handles
    rw [List.foldl_cons, ih, Std.ExtTreeMap.getElem?_erase, List.map_cons]
    by_cases hnumber : entry.1 = number
    · simp [hnumber]
    · have hmem : number ∈ entry.1 :: rest.map Prod.fst ↔ number ∈ rest.map Prod.fst := by
        rw [List.mem_cons]
        exact or_iff_right (Ne.symm hnumber)
      have hne : ¬ compare entry.1 number = .eq := by simpa using hnumber
      rw [if_congr hmem rfl rfl, if_neg hne]

theorem finish_table (backend : Backend State Call) (client : Client State) :
    (finish backend client).state.handles = ∅ ∧
      (finish backend client).state.forgotten = client.forgotten := by
  obtain ⟨hhandles, hforgotten⟩ := dropEach_table backend client.handles.toList client
  refine ⟨?_, by simpa [finish] using hforgotten⟩
  simp only [finish, Action.bind_apply, Action.read_apply, hhandles]
  refine Std.ExtTreeMap.ext_getElem? fun number => ?_
  rw [getElem?_foldl_erase, Std.ExtTreeMap.map_fst_toList_eq_keys]
  split
  case isTrue hheld => simp
  case isFalse hfree =>
    rw [Std.ExtTreeMap.mem_keys] at hfree
    simpa using Std.ExtTreeMap.getElem?_eq_none hfree

theorem sessions_finish (backend : Backend State Call) (client : Client State) :
    (finish backend client).state.sessions = client.forgotten := by
  obtain ⟨hhandles, hforgotten⟩ := finish_table backend client
  rw [sessions, hhandles, hforgotten]
  rfl

end Client

end DemuxSession
