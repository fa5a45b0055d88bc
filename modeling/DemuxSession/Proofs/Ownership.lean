import DemuxSession.Proofs.Sessions

/-!
# Who owns the sessions of the registry

A session of the registry belongs to the handle that opened it, or to whoever
asked for it past the handles.  The ledger of a run is kept from the steps and
answers alone: which handles are open and on which path, which were forgotten
while open, and which tokens were given past the handles and not released since.

Tokens are used again as soon as their slots are free, so the registry by itself
does not keep an old token from ending a new session.  What does is that the
handles and the ledger own disjoint sessions, and all of them (`Owned`).  A step
keeps that as long as no request past the handles releases the session of a handle
(`Client.Spares`):

* `Owned.openHandle`, `Owned.endSession`, `Owned.forget`, `Owned.letGo` and
  `Owned.request` treat the steps one kind after the other,
* `owned_step` puts them together, and `owned_after` carries them along a run.
-/

namespace DemuxSession

variable {State Call Command Report : Type}

/-! ## The ledger -/

/-- Who owns a session, as told by the steps of a run and their answers. -/
structure Ledger where
  /-- The paths of the open handles. -/
  opened : Std.ExtTreeMap Int FilePath
  /-- The paths of the handles that were forgotten while open, the last one first. -/
  forgotten : List FilePath
  /-- The tokens given past the handles and not released past them since. -/
  requested : List Token

namespace Ledger

def empty : Ledger := ⟨∅, [], []⟩

/-- The ledger after a step with its answer. -/
def note (ledger : Ledger) : Step Command → Answer Report → Ledger
  | .openHandle number path, .opened =>
    { ledger with opened := ledger.opened.insert number path }
  | .useHandle number .close, _ | .useHandle number .drop, _ =>
    { ledger with opened := ledger.opened.erase number }
  | .useHandle number .forget, _ =>
    { ledger with
      opened := ledger.opened.erase number
      forgotten := ledger.opened[number]?.toList ++ ledger.forgotten }
  | .request (.allocate _), .reply (.token (some token)) =>
    { ledger with requested := token :: ledger.requested }
  | .request (.release token), _ =>
    { ledger with requested := ledger.requested.erase token }
  | _, _ => ledger

theorem note_of_reads (ledger : Ledger) {number : Int} {use : HandleUse} (hreads : use.reads)
    (answer : Answer Report) :
    ledger.note (.useHandle number use : Step Command) answer = ledger := by
  cases use with
  | isOpen | metadata | thermal | cover | describe => rfl
  | close | drop | forget => simp [HandleUse.reads] at hreads

theorem opened_note_of_ne (ledger : Ledger) {number : Int} {next : Step Command}
    (hother : next.handle? ≠ some number) (answer : Answer Report) :
    (ledger.note next answer).opened[number]? = ledger.opened[number]? := by
  cases next with
  | openHandle other path =>
    have hne : other ≠ number := by simpa [Step.handle?] using hother
    cases answer with
    | opened => simp [note, Std.ExtTreeMap.getElem?_insert, hne]
    | _ => rfl
  | useHandle other use =>
    have hne : other ≠ number := by simpa [Step.handle?] using hother
    cases use with
    | isOpen | metadata | thermal | cover | describe => rfl
    | close | drop | forget => simp [note, Std.ExtTreeMap.getElem?_erase, hne]
  | request request =>
    cases request with
    | allocate path =>
      unfold note
      split <;> first | rfl | contradiction
    | release token => rfl
    | fetchMetadata token => rfl
    | fetchCover token => rfl
  | command command => rfl

theorem requested_note (ledger : Ledger) {next : Step Command} (hrequest : next.isRequest = false)
    (answer : Answer Report) : (ledger.note next answer).requested = ledger.requested := by
  cases next with
  | openHandle number path => cases answer <;> rfl
  | useHandle number use => cases use <;> rfl
  | request request => simp [Step.isRequest] at hrequest
  | command command => rfl

/-- The ledger after the steps of a run with their outcomes. -/
def noteAll (ledger : Ledger) (steps : List (Step Command))
    (outcomes : List (Outcome (Client State) Call (Answer Report))) : Ledger :=
  (steps.zip outcomes).foldl (fun ledger moment => ledger.note moment.1 moment.2.value) ledger

theorem requested_noteAll (steps : List (Step Command)) :
    ∀ (ledger : Ledger) (outcomes : List (Outcome (Client State) Call (Answer Report))),
      (∀ next ∈ steps, next.isRequest = false) →
      (ledger.noteAll steps outcomes).requested = ledger.requested := by
  induction steps with
  | nil => exact fun ledger outcomes _ => rfl
  | cons next rest ih =>
    intro ledger outcomes hrequests
    cases outcomes with
    | nil => rfl
    | cons outcome outcomes =>
      have hrest := ih (ledger.note next outcome.value) outcomes
        fun later hlater => hrequests later (List.mem_cons_of_mem _ hlater)
      exact hrest.trans (requested_note ledger (hrequests next List.mem_cons_self) outcome.value)

end Ledger

namespace Client

/-- The step releases no session of a handle past the handle. -/
def Spares (client : Client State) : Step Command → Prop
  | .request (.release token) => token ∉ client.sessions
  | _ => True

/-- Every step of the run spares the sessions of the handles. -/
def SparesHandles (service : Service State Call Command Report) :
    Client State → List (Step Command) → Prop
  | _, [] => True
  | client, next :: rest =>
    client.Spares next ∧ SparesHandles service (step service next client).state rest

instance decidableSpares (client : Client State) :
    (next : Step Command) → Decidable (client.Spares next)
  | .request (.release token) => inferInstanceAs (Decidable (token ∉ client.sessions))
  | .request (.allocate _) | .request (.fetchMetadata _) | .request (.fetchCover _) =>
    .isTrue trivial
  | .openHandle .. | .useHandle .. | .command _ => .isTrue trivial

instance decidableSparesHandles (service : Service State Call Command Report) :
    (client : Client State) → (steps : List (Step Command)) →
      Decidable (SparesHandles service client steps)
  | _, [] => .isTrue trivial
  | client, next :: rest =>
    have := decidableSparesHandles service (step service next client).state rest
    inferInstanceAs (Decidable (client.Spares next ∧ _))

theorem spares_of_isRequest (client : Client State) {next : Step Command}
    (hrequest : next.isRequest = false) : client.Spares next := by
  cases next with
  | openHandle number path => trivial
  | useHandle number use => trivial
  | request request => simp [Step.isRequest] at hrequest
  | command command => trivial

theorem sparesHandles_of_isRequest (service : Service State Call Command Report)
    (steps : List (Step Command)) :
    ∀ client : Client State, (∀ next ∈ steps, next.isRequest = false) →
      SparesHandles service client steps := by
  induction steps with
  | nil => exact fun _ _ => trivial
  | cons next rest ih =>
    intro client hrequests
    refine ⟨spares_of_isRequest client (hrequests next List.mem_cons_self), ?_⟩
    exact ih _ fun later hlater => hrequests later (List.mem_cons_of_mem _ hlater)

/-- The path of the session of a handle that is open. -/
def path? (client : Client Registry) (number : Int) : Option FilePath :=
  (client.handles[number]?.bind Handle.token?).bind fun token =>
    client.backend.sessions.get? token.slot

section Paths

variable {client : Client Registry} {number : Int}

theorem path?_eq_of_opened {token : Token}
    (hheld : client.handles[number]? = some (.opened token)) :
    client.path? number = client.backend.sessions.get? token.slot := by
  simp [path?, hheld, Handle.token?]

theorem path?_eq_none_of_closed (hheld : client.handles[number]? = some .closed) :
    client.path? number = none := by
  simp [path?, hheld, Handle.token?]

theorem path?_eq_none_of_free (hfree : client.handles[number]? = none) :
    client.path? number = none := by
  simp [path?, hfree]

/-- The path of a handle is found anew if the handle is the same and its session
still stands in its slot. -/
theorem path?_congr (client other : Client Registry)
    (hhandle : other.handles[number]? = client.handles[number]?)
    (hslot : ∀ token, client.handles[number]? = some (.opened token) →
      other.backend.sessions.get? token.slot = client.backend.sessions.get? token.slot) :
    other.path? number = client.path? number := by
  unfold path?
  rw [hhandle]
  cases hheld : client.handles[number]? with
  | none => rfl
  | some handle =>
    cases handle with
    | closed => rfl
    | opened token => exact hslot token hheld

theorem path?_withBackend {registry : Registry}
    (hslot : ∀ token, client.handles[number]? = some (.opened token) →
      registry.sessions.get? token.slot = client.backend.sessions.get? token.slot) :
    ({ client with backend := registry } : Client Registry).path? number = client.path? number :=
  path?_congr client { client with backend := registry } rfl hslot

end Paths

/-- The handles and the ledger own the sessions of the registry, each of them one,
and every handle its session on the path that it was opened on. -/
structure Owned (client : Client Registry) (ledger : Ledger) : Prop where
  held : client.backend.sessions.HeldBy (client.sessions ++ ledger.requested)
  opened : ∀ number : Int, ledger.opened[number]? = client.path? number
  forgotten : ledger.forgotten.map some =
    client.forgotten.map fun token => client.backend.sessions.get? token.slot

namespace Owned

variable {client : Client Registry} {ledger : Ledger} {number : Int} {token : Token}

theorem fresh_empty : Owned (fresh Registry.empty) Ledger.empty where
  held := Slab.HeldBy.of_empty
  opened number := by simp [Ledger.empty, path?, fresh]
  forgotten := rfl

theorem isSome_of_opened (howned : Owned client ledger)
    (hheld : client.handles[number]? = some (.opened token)) :
    (client.backend.sessions.get? token.slot).isSome :=
  (howned.held.isSome_iff token).mpr
    (List.mem_append_left _ (mem_sessions_of_opened hheld))

/-! ### Opening -/

/-- A new session belongs to the handle that is opened on it. -/
theorem openHandle (howned : Owned client ledger) (hfree : client.handles[number]? = none)
    (path : FilePath) :
    Owned
      { client with
        backend := { client.backend with sessions := client.backend.sessions.insert path }
        handles :=
          client.handles.insert number (.opened (.ofSlot client.backend.sessions.nextSlot)) }
      { ledger with opened := ledger.opened.insert number path } where
  held := by
    refine (howned.held.insert path).perm ?_
    have htokens := heldTokens_insert_opened (.ofSlot client.backend.sessions.nextSlot) hfree
    exact (htokens.append_right client.forgotten).append_right ledger.requested
  opened other := by
    by_cases hother : other = number
    · subst hother
      rw [Std.ExtTreeMap.getElem?_insert_self]
      rw [path?_eq_of_opened Std.ExtTreeMap.getElem?_insert_self]
      simp [Slab.get?_insert]
    · have hne : ¬ compare number other = .eq := by simpa using Ne.symm hother
      rw [Std.ExtTreeMap.getElem?_insert, if_neg hne, howned.opened]
      refine (path?_congr client _ ?_ fun token hheld => ?_).symm
      · rw [Std.ExtTreeMap.getElem?_insert, if_neg hne]
      · exact howned.held.get?_insert_of_mem path
          (List.mem_append_left _ (mem_sessions_of_opened hheld))
  forgotten := by
    rw [howned.forgotten]
    refine List.map_congr_left fun token hmem => (howned.held.get?_insert_of_mem path ?_).symm
    exact List.mem_append_left _ (List.mem_append_right _ hmem)

/-! ### Closing and dropping -/

/-- A session that a handle ends is no other's.  The handle is closed or gone
afterwards, and the other handles are as they were. -/
theorem endSession (howned : Owned client ledger)
    (hheld : client.handles[number]? = some (.opened token))
    {handles : Std.ExtTreeMap Int Handle}
    (htokens : (heldTokens client.handles).Perm (token :: heldTokens handles))
    (hnumber : handles[number]?.bind Handle.token? = none)
    (hothers : ∀ other : Int, other ≠ number → handles[other]? = client.handles[other]?) :
    Owned
      { client with
        backend := { client.backend with sessions := client.backend.sessions.remove token.slot }
        handles := handles }
      { ledger with opened := ledger.opened.erase number } := by
  have hperm : (client.sessions ++ ledger.requested).Perm
      (token :: ((heldTokens handles ++ client.forgotten) ++ ledger.requested)) :=
    (htokens.append_right client.forgotten).append_right ledger.requested
  -- With the token of the handle put first, it is none of the others.
  have hslots := howned.held.perm hperm.symm
  have hfirst : token ∉ (heldTokens handles ++ client.forgotten) ++ ledger.requested :=
    (List.nodup_cons.mp hslots.nodup).1
  refine ⟨hslots.remove, fun other => ?_, ?_⟩
  · by_cases hother : other = number
    · subst hother
      simp [path?, hnumber]
    · have hne : ¬ compare number other = .eq := by simpa using Ne.symm hother
      rw [Std.ExtTreeMap.getElem?_erase, if_neg hne, howned.opened]
      refine (path?_congr client _ (hothers other hother) fun kept hkept => ?_).symm
      refine Slab.get?_remove_of_ne _ ?_
      rintro rfl
      have hmem : kept ∈ heldTokens handles :=
        mem_heldTokens_iff.mpr ⟨other, (hothers other hother).trans hkept⟩
      exact hfirst (List.mem_append_left _ (List.mem_append_left _ hmem))
  · rw [howned.forgotten]
    refine List.map_congr_left fun kept hmem => (Slab.get?_remove_of_ne _ ?_).symm
    rintro rfl
    exact hfirst (List.mem_append_left _ (List.mem_append_right _ hmem))

/-! ### Forgetting -/

/-- A handle that is forgotten while open leaves its session to nobody. -/
theorem forget (howned : Owned client ledger)
    (hheld : client.handles[number]? = some (.opened token)) :
    Owned
      { client with
        handles := client.handles.erase number
        forgotten := token :: client.forgotten }
      { ledger with
        opened := ledger.opened.erase number
        forgotten := ledger.opened[number]?.toList ++ ledger.forgotten } where
  held := by
    refine howned.held.perm ?_
    have htokens := (heldTokens_erase_opened hheld).symm
    refine List.Perm.append_right ledger.requested ?_
    exact List.perm_middle.trans (htokens.append_right client.forgotten)
  opened other := by
    by_cases hother : other = number
    · subst hother
      simp [path?]
    · have hne : ¬ compare number other = .eq := by simpa using Ne.symm hother
      rw [Std.ExtTreeMap.getElem?_erase, if_neg hne, howned.opened]
      refine (path?_congr client _ ?_ ?_).symm
      · rw [Std.ExtTreeMap.getElem?_erase, if_neg hne]
      · exact fun _ _ => rfl
  forgotten := by
    obtain ⟨path, hpath⟩ := Option.isSome_iff_exists.mp (howned.isSome_of_opened hheld)
    rw [howned.opened, path?_eq_of_opened hheld, hpath]
    simp [howned.forgotten, hpath]

/-! ### Closed handles and free numbers -/

theorem erase_eq (howned : Owned client ledger) (hpath : client.path? number = none) :
    ledger.opened.erase number = ledger.opened :=
  erase_eq_of_free ((howned.opened number).trans hpath)

theorem letGo (howned : Owned client ledger) (hheld : client.handles[number]? = some .closed) :
    Owned { client with handles := client.handles.erase number } ledger where
  held := by
    refine howned.held.perm ?_
    exact ((heldTokens_erase_closed hheld).append_right client.forgotten).append_right _
  opened other := by
    rw [howned.opened]
    by_cases hother : other = number
    · subst hother
      rw [path?_eq_none_of_closed hheld]
      simp [path?]
    · have hne : ¬ compare number other = .eq := by simpa using Ne.symm hother
      refine (path?_congr client _ ?_ ?_).symm
      · rw [Std.ExtTreeMap.getElem?_erase, if_neg hne]
      · exact fun _ _ => rfl
  forgotten := howned.forgotten

/-! ### Past the handles -/

theorem withBackend (howned : Owned client ledger) {registry : Registry}
    (hsessions : registry.sessions = client.backend.sessions) :
    Owned { client with backend := registry } ledger where
  held := by
    show registry.sessions.HeldBy (client.sessions ++ ledger.requested)
    rw [hsessions]
    exact howned.held
  opened other := by
    refine (howned.opened other).trans (path?_withBackend fun token _ => ?_).symm
    rw [hsessions]
  forgotten := by
    show ledger.forgotten.map some =
      client.forgotten.map fun token => registry.sessions.get? token.slot
    rw [hsessions]
    exact howned.forgotten

theorem allocate (howned : Owned client ledger) (path : FilePath) :
    Owned
      { client with
        backend := { client.backend with sessions := client.backend.sessions.insert path } }
      { ledger with
        requested := .ofSlot client.backend.sessions.nextSlot :: ledger.requested } where
  held := (howned.held.insert path).perm List.perm_middle
  opened other := by
    refine (howned.opened other).trans (path?_withBackend fun token hheld => ?_).symm
    exact howned.held.get?_insert_of_mem path
      (List.mem_append_left _ (mem_sessions_of_opened hheld))
  forgotten := by
    rw [howned.forgotten]
    refine List.map_congr_left fun token hmem => (howned.held.get?_insert_of_mem path ?_).symm
    exact List.mem_append_left _ (List.mem_append_right _ hmem)

theorem mem_requested (howned : Owned client ledger)
    (hlive : (client.backend.sessions.get? token.slot).isSome)
    (hspares : token ∉ client.sessions) : token ∈ ledger.requested :=
  (List.mem_append.mp ((howned.held.isSome_iff token).mp hlive)).resolve_left hspares

theorem release (howned : Owned client ledger)
    (hlive : (client.backend.sessions.get? token.slot).isSome)
    (hspares : token ∉ client.sessions) :
    Owned
      { client with
        backend :=
          { client.backend with sessions := client.backend.sessions.remove token.slot } }
      { ledger with requested := ledger.requested.erase token } where
  held := by
    have hmem := howned.mem_requested hlive hspares
    have hperm := (List.perm_cons_erase hmem).append_left client.sessions
    exact (howned.held.perm (hperm.trans List.perm_middle).symm).remove
  opened other := by
    refine (howned.opened other).trans (path?_withBackend fun kept hheld => ?_).symm
    refine Slab.get?_remove_of_ne _ ?_
    rintro rfl
    exact hspares (mem_sessions_of_opened hheld)
  forgotten := by
    rw [howned.forgotten]
    refine List.map_congr_left fun kept hmem => (Slab.get?_remove_of_ne _ ?_).symm
    rintro rfl
    exact hspares (List.mem_append_right _ hmem)

/-- A request past the handles that spares their sessions keeps the ledger right. -/
theorem request (howned : Owned client ledger) (request : Request)
    (hspares : client.Spares (.request request : Step Registry.Command)) :
    let outcome := step (@Registry.service Call) (.request request) client
    Owned outcome.state (ledger.note (.request request : Step Registry.Command) outcome.value) := by
  intro outcome
  cases request with
  | allocate path =>
    cases hfile : client.backend.file? path with
    | none =>
      have hallocate : (@Registry.service Call).backend.allocate path
          client.backend = _ := Registry.allocate_of_unregistered hfile
      simpa [outcome, step, onBackend, Backend.answer, hallocate, Ledger.note] using howned
    | some file =>
      have hallocate : (@Registry.service Call).backend.allocate path
          client.backend = _ := Registry.allocate_of_registered (Option.isSome_of_mem hfile)
      simpa [outcome, step, onBackend, Backend.answer, hallocate, Ledger.note] using
        howned.allocate path
  | release token =>
    cases hlive : client.backend.sessions.get? token.slot with
    | none =>
      have hrelease : (@Registry.service Call).backend.release token
          client.backend = _ := Registry.release_of_dead hlive
      have hdead : token ∉ client.sessions ++ ledger.requested := by
        rw [← howned.held.isSome_iff, hlive]
        simp
      have herase : ledger.requested.erase token = ledger.requested :=
        List.erase_of_not_mem fun hmem => hdead (List.mem_append_right _ hmem)
      simpa [outcome, step, onBackend, Backend.answer, hrelease, Ledger.note, herase] using howned
    | some path =>
      have hrelease : (@Registry.service Call).backend.release token
          client.backend = _ := Registry.release_of_live (Option.isSome_of_mem hlive)
      simpa [outcome, step, onBackend, Backend.answer, hrelease, Ledger.note] using
        howned.release (Option.isSome_of_mem hlive) hspares
  | fetchMetadata token =>
    simpa [outcome, step, onBackend, Backend.answer, Registry.service,
      Registry.fetchMetadata_apply, Ledger.note] using howned
  | fetchCover token =>
    simpa [outcome, step, onBackend, Backend.answer, Registry.service,
      Registry.fetchCover_apply, Ledger.note] using howned

end Owned

/-! ## Steps and runs -/

section Runs

variable {client : Client Registry} {ledger : Ledger}

theorem owned_useHandle (howned : Owned client ledger) (number : Int) (use : HandleUse) :
    let outcome := step (@Registry.service Call) (.useHandle number use) client
    Owned outcome.state
      (ledger.note (.useHandle number use : Step Registry.Command) outcome.value) := by
  intro outcome
  cases hreads : use.reads with
  | true =>
    have hstate : outcome.state = client := state_step_of_reads hreads
    rw [hstate, Ledger.note_of_reads ledger hreads]
    exact howned
  | false =>
    cases hheld : client.handles[number]? with
    | none =>
      -- The ledger has nothing under the number that it could lose.
      have houtcome : outcome = _ := step_useHandle_of_free use hheld
      have herase := howned.erase_eq (path?_eq_none_of_free hheld)
      have hnone : ledger.opened[number]? = none :=
        (howned.opened number).trans (path?_eq_none_of_free hheld)
      rw [houtcome]
      rcases HandleUse.eq_of_not_reads hreads with rfl | rfl | rfl <;>
        simpa [Ledger.note, herase, hnone] using howned
    | some handle =>
      cases handle with
      | closed =>
        have herase := howned.erase_eq (path?_eq_none_of_closed hheld)
        have hnone : ledger.opened[number]? = none :=
          (howned.opened number).trans (path?_eq_none_of_closed hheld)
        rcases HandleUse.eq_of_not_reads hreads with rfl | rfl | rfl
        · have houtcome : outcome = _ := step_close_of_closed hheld
          rw [houtcome]
          simpa [Ledger.note, herase] using howned
        · have houtcome : outcome = _ := step_letGo_of_closed rfl hheld
          rw [houtcome]
          simpa [Ledger.note, herase] using howned.letGo hheld
        · have houtcome : outcome = _ := step_letGo_of_closed rfl hheld
          rw [houtcome]
          simpa [Ledger.note, herase, hnone] using howned.letGo hheld
      | opened token =>
        have hlive := howned.isSome_of_opened hheld
        rcases HandleUse.eq_of_not_reads hreads with rfl | rfl | rfl
        · have houtcome : outcome = _ := step_close_of_live hheld hlive
          rw [houtcome]
          refine howned.endSession hheld (heldTokens_insert_closed hheld) ?_ fun other hother => ?_
          · rw [Std.ExtTreeMap.getElem?_insert_self]
            rfl
          · rw [Std.ExtTreeMap.getElem?_insert, if_neg (by simpa using Ne.symm hother)]
        · have houtcome : outcome = _ := step_drop_of_live hheld hlive
          rw [houtcome]
          refine howned.endSession hheld (heldTokens_erase_opened hheld) ?_ fun other hother => ?_
          · simp
          · rw [Std.ExtTreeMap.getElem?_erase, if_neg (by simpa using Ne.symm hother)]
        · have houtcome : outcome = _ := step_forget_of_opened hheld
          rw [houtcome]
          exact howned.forget hheld

/-- A step that spares the sessions of the handles keeps the ledger right. -/
theorem owned_step (howned : Owned client ledger) (next : Step Registry.Command)
    (hspares : client.Spares next) :
    let outcome := step (@Registry.service Call) next client
    Owned outcome.state (ledger.note next outcome.value) := by
  intro outcome
  cases next with
  | openHandle number path =>
    cases hheld : client.handles[number]? with
    | some handle =>
      have houtcome : outcome = _ := step_openHandle_of_held path hheld
      rw [houtcome]
      exact howned
    | none =>
      cases hfile : client.backend.file? path with
      | none =>
        have houtcome : outcome = _ := step_openHandle_of_unregistered hheld hfile
        rw [houtcome]
        exact howned
      | some file =>
        have houtcome : outcome = _ :=
          step_openHandle_of_registered hheld (Option.isSome_of_mem hfile)
        rw [houtcome]
        exact howned.openHandle hheld path
  | useHandle number use => exact owned_useHandle howned number use
  | request request => exact howned.request request hspares
  | command command =>
    exact howned.withBackend (Registry.sessions_perform command client.backend)

theorem owned_after (steps : List (Step Registry.Command)) :
    ∀ (client : Client Registry) (ledger : Ledger), Owned client ledger →
      SparesHandles (@Registry.service Call) client steps →
      Owned (after (@Registry.service Call) client steps)
        (ledger.noteAll steps (run (@Registry.service Call) client steps)) := by
  induction steps with
  | nil => exact fun client ledger howned _ => howned
  | cons next rest ih =>
    intro client ledger howned hspares
    exact ih _ _ (owned_step howned next hspares.1) hspares.2

/-- Every outcome of such a run is that of a step taken where the ledger is right. -/
theorem exists_owned_of_mem_run (steps : List (Step Registry.Command)) :
    ∀ (client : Client Registry) (ledger : Ledger), Owned client ledger →
      SparesHandles (@Registry.service Call) client steps →
      ∀ outcome ∈ run (@Registry.service Call) client steps,
        ∃ before next, outcome = step (@Registry.service Call) next before ∧
          ∃ ledger : Ledger, Owned before ledger := by
  induction steps with
  | nil => intro client ledger _ _ outcome hmem; cases hmem
  | cons next rest ih =>
    intro client ledger howned hspares outcome hmem
    rcases List.mem_cons.mp hmem with rfl | hrest
    · exact ⟨client, next, rfl, ledger, howned⟩
    · exact ih _ _ (owned_step howned next hspares.1) hspares.2 outcome hrest

theorem releaseFailed_notMem_log (howned : Owned client ledger) (next : Step Registry.Command)
    (token : Token) (status : Int32) :
    .releaseFailed token status ∉
      (step (@Registry.service Call) next client).log := by
  cases next with
  | openHandle number path =>
    cases hheld : client.handles[number]? with
    | some handle => simp [step_openHandle_of_held path hheld]
    | none =>
      cases hfile : client.backend.file? path with
      | none => simp [step_openHandle_of_unregistered hheld hfile]
      | some file => simp [step_openHandle_of_registered hheld (Option.isSome_of_mem hfile)]
  | useHandle number use =>
    cases hheld : client.handles[number]? with
    | none => simp [step_useHandle_of_free use hheld]
    | some handle =>
      cases handle with
      | closed =>
        rw [step_useHandle_of_held use hheld]
        cases use <;> simp [useHandle, onBackend, Handle.metadata, Handle.thermal, Handle.cover,
          Handle.close, Handle.drop, hold, letGo, remember]
      | opened held =>
        have hlive := howned.isSome_of_opened hheld
        cases use with
        | close => simp [step_close_of_live hheld hlive]
        | drop => simp [step_drop_of_live hheld hlive]
        | forget => simp [step_forget_of_opened hheld]
        | isOpen | describe => simp [step_useHandle_of_held _ hheld, useHandle]
        | cover =>
          simp [step_useHandle_of_held _ hheld, useHandle, onBackend, Handle.cover,
            Registry.service, Registry.fetchCover_apply]
        | metadata | thermal =>
          -- What is logged here are the pairs that are decoded.
          intro hmem
          rw [step_useHandle_of_held _ hheld] at hmem
          simp only [useHandle, onBackend, Handle.thermal, Handle.metadata, Registry.service,
            Action.bind_apply, Action.pure_apply, Registry.fetchMetadata_apply, List.nil_append,
            List.append_nil] at hmem
          obtain ⟨key, value, hline⟩ := RawMetadata.log_decode _ _ _ hmem
          cases hline
  | request request =>
    cases request with
    | allocate path =>
      cases hfile : client.backend.file? path with
      | none =>
        simp [step, onBackend, Backend.answer, Registry.service, Registry.backend,
          Registry.allocate_of_unregistered hfile]
      | some file =>
        simp [step, onBackend, Backend.answer, Registry.service, Registry.backend,
          Registry.allocate_of_registered (Option.isSome_of_mem hfile)]
    | release released => simp [step, onBackend, Backend.answer, Registry.service,
        Registry.backend, Registry.release]
    | fetchMetadata fetched => simp [step, onBackend, Backend.answer, Registry.service,
        Registry.fetchMetadata_apply]
    | fetchCover fetched => simp [step, onBackend, Backend.answer, Registry.service,
        Registry.fetchCover_apply]
  | command command => simp [step, onBackend, Registry.service, Registry.log_perform]

end Runs

/-! ## The main statement -/

/-- **Every session has one owner.**  In a run on the registry that may register
files, open and use handles, and ask for and release sessions past the handles,
but never releases the session of a handle that way:

* the open handles, the handles forgotten while open, and the sessions given past
  the handles and not released have different tokens, and those are the tokens of
  the slots that are taken;
* the slot of a handle stores the path the handle was opened on;
* the release of a handle's session succeeds, now and at the end, so that no
  release by a handle is ever reported as failed;
* the sessions that are live are as many as the owners. -/
theorem sessions_owned (steps : List (Step Registry.Command))
    (hspares : SparesHandles (@Registry.service Call)
      (fresh Registry.empty) steps) :
    let service : Service Registry Call _ _ := Registry.service
    let start := fresh Registry.empty
    let reached := after service start steps
    let ledger := Ledger.empty.noteAll steps (run service start steps)
    let owners := heldTokens reached.handles ++ reached.forgotten ++ ledger.requested
    let ending := finish service.backend reached
    owners.Nodup ∧
    (∀ token : Token, (reached.backend.sessions.get? token.slot).isSome ↔ token ∈ owners) ∧
    (∀ (number : Int) path, ledger.opened[number]? = some path ↔
      ∃ token, reached.handles[number]? = some (.opened token) ∧
        reached.backend.sessions.get? token.slot = some path) ∧
    (reached.forgotten.map fun token => reached.backend.sessions.get? token.slot) =
      ledger.forgotten.map some ∧
    (∀ (number : Int) token, reached.handles[number]? = some (.opened token) →
      (service.backend.release token reached.backend).value = 0) ∧
    (∀ outcome ∈ run service start steps, ∀ token status,
      .releaseFailed token status ∉ outcome.log) ∧
    (∀ token status, .releaseFailed token status ∉ ending.log) ∧
    reached.backend.sessionCount = (heldTokens reached.handles).length +
      reached.forgotten.length + ledger.requested.length ∧
    ending.state.backend.sessionCount = reached.forgotten.length + ledger.requested.length := by
  intro service start reached ledger owners ending
  have howned : Owned reached ledger :=
    owned_after steps start Ledger.empty Owned.fresh_empty hspares
  have hspared : SparesHandles service reached reached.drops :=
    sparesHandles_of_isRequest service reached.drops reached isRequest_of_mem_drops
  have hending : ending = _ := finish_eq service reached
  refine ⟨howned.held.nodup, howned.held.isSome_iff, fun number path => ?_,
    howned.forgotten.symm, fun number token hheld => ?_, fun outcome hmem => ?_, ?_, ?_, ?_⟩
  · rw [howned.opened]
    constructor
    · intro hpath
      cases hheld : reached.handles[number]? with
      | none => simp [path?_eq_none_of_free hheld] at hpath
      | some handle =>
        cases handle with
        | closed => simp [path?_eq_none_of_closed hheld] at hpath
        | opened token => exact ⟨token, rfl, path?_eq_of_opened hheld ▸ hpath⟩
    · rintro ⟨token, hheld, hpath⟩
      rw [path?_eq_of_opened hheld, hpath]
  · -- The session of an open handle is live, so that its release succeeds.
    have hrelease : service.backend.release token reached.backend = _ :=
      Registry.release_of_live (howned.isSome_of_opened hheld)
    rw [hrelease]
  · obtain ⟨before, next, rfl, ledger', howned'⟩ :=
      exists_owned_of_mem_run steps start Ledger.empty Owned.fresh_empty hspares outcome hmem
    exact releaseFailed_notMem_log howned' next
  · intro token status hmem
    rw [hending] at hmem
    obtain ⟨outcome, hrun, hline⟩ := List.mem_flatMap.mp hmem
    obtain ⟨before, next, rfl, ledger', howned'⟩ :=
      exists_owned_of_mem_run reached.drops reached ledger howned hspared outcome hrun
    exact releaseFailed_notMem_log howned' next token status hline
  · calc reached.backend.sessionCount
        = owners.length := howned.held.count_eq
      _ = _ := by simp [owners, Nat.add_assoc]
  · -- The drops at the end keep the ledger right, and leave no handle but the
    -- forgotten ones.
    have hend := owned_after reached.drops reached ledger howned hspared
    have hsessions : (after service reached reached.drops).sessions = reached.forgotten := by
      rw [← sessions_finish service.backend reached, finish_eq]
    have hrequested := Ledger.requested_noteAll (reached.drops : List (Step Registry.Command))
      ledger (run service reached reached.drops) isRequest_of_mem_drops
    rw [hending]
    refine hend.held.count_eq.trans ?_
    rw [List.length_append, hsessions, hrequested]

/-- Slots are used again: the first token given past the handles is released and
given to a handle, and the token of a closed handle is released past it. -/
theorem sessions_owned_reused :
    let path := FilePath.ofText "a"
    let steps : List (Step Registry.Command) :=
      [.command (.insertEmpty path), .openHandle 1 path, .request (.allocate path),
        .openHandle 2 path, .request (.release (.ofSlot 1)), .openHandle 3 path,
        .useHandle 1 .close, .useHandle 2 .forget, .request (.release (.ofSlot 0)),
        .request (.allocate path)]
    let service : Service Registry Empty _ _ := Registry.service
    let reached := after service (fresh Registry.empty) steps
    SparesHandles service (fresh Registry.empty) steps ∧
      reached.handles[(3 : Int)]? = some (.opened (.ofSlot 1)) ∧
      (service.backend.release (.ofSlot 1) reached.backend).value = 0 ∧
      reached.backend.sessionCount = 3 := by
  intro path steps service reached
  have hspares : SparesHandles service (fresh Registry.empty) steps := by decide
  have hheld : reached.handles[(3 : Int)]? = some (.opened (.ofSlot 1)) := by decide
  obtain ⟨-, -, -, -, hrelease, -, -, hcount, -⟩ := sessions_owned steps hspares
  exact ⟨hspares, hheld, hrelease 3 (.ofSlot 1) hheld, hcount.trans (by decide)⟩

end Client

end DemuxSession
