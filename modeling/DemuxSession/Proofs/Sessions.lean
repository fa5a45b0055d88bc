import DemuxSession.Proofs.Run
import DemuxSession.Proofs.Trace

/-!
# Sessions of the registry

What the operations of the registry come to once it is known whether a path is
registered or a token has a session, and what that makes of the steps of a client.

`Slab.HeldBy` says that a list of tokens names the sessions of a slab: no token
stands in it twice, and the tokens in it are those whose slots are taken.  Opening
a session adds its token to the list, ending one takes its token out.
-/

namespace DemuxSession

variable {Call : Type}

/-! ## The operations -/

namespace Registry

variable {registry : Registry} {path : FilePath} {token : Token}

theorem allocate_of_registered (hfile : (registry.file? path).isSome) :
    (allocate path : Action Registry Call (Option Token)) registry =
      ⟨some (.ofSlot registry.sessions.nextSlot),
        { registry with sessions := registry.sessions.insert path },
        [.registrySession (.ofSlot registry.sessions.nextSlot) path], []⟩ := by
  obtain ⟨file, hfile⟩ := Option.isSome_iff_exists.mp hfile
  simp [allocate, hfile]

theorem allocate_of_unregistered (hfile : registry.file? path = none) :
    (allocate path : Action Registry Call (Option Token)) registry = ⟨none, registry, [], []⟩ := by
  simp [allocate, hfile]

theorem release_of_live (hlive : (registry.sessions.get? token.slot).isSome) :
    (release token : Action Registry Call Int32) registry =
      ⟨0, { registry with sessions := registry.sessions.remove token.slot }, [], []⟩ := by
  obtain ⟨path, hlive⟩ := Option.isSome_iff_exists.mp hlive
  simp [release, hlive]

theorem release_of_dead (hdead : registry.sessions.get? token.slot = none) :
    (release token : Action Registry Call Int32) registry = ⟨unknownToken, registry, [], []⟩ := by
  simp [release, hdead]

theorem fetchMetadata_apply (token : Token) (registry : Registry) :
    (backend : Backend Registry Call).fetchMetadata token registry =
      ⟨(registry.sessionFile? token).bind RegisteredFile.metadata?, registry, [], []⟩ := by
  simp [backend]

theorem fetchCover_apply (token : Token) (registry : Registry) :
    (backend : Backend Registry Call).fetchCover token registry =
      ⟨(registry.sessionFile? token).bind RegisteredFile.cover?, registry, [], []⟩ := by
  simp [backend, Backend.fetchCover]

/-- An exchange with the registry, and the registry after it: a session is opened on a
registered path, a live session is ended, and nothing else changes anything. -/
inductive Serves (registry : Registry) : Exchange → Registry → Prop
  | opened {path : FilePath} (hfile : (registry.file? path).isSome) :
      Serves registry ⟨.allocate path, .token (some (.ofSlot registry.sessions.nextSlot))⟩
        { registry with sessions := registry.sessions.insert path }
  | refused {path : FilePath} (hfile : registry.file? path = none) :
      Serves registry ⟨.allocate path, .token none⟩ registry
  | ended {token : Token} (hlive : (registry.sessions.get? token.slot).isSome) :
      Serves registry ⟨.release token, .status 0⟩
        { registry with sessions := registry.sessions.remove token.slot }
  | unknown {token : Token} (hdead : registry.sessions.get? token.slot = none) :
      Serves registry ⟨.release token, .status unknownToken⟩ registry
  | metadata {token : Token} {raw? : Option RawMetadata} :
      Serves registry ⟨.fetchMetadata token, .metadata raw?⟩ registry
  | cover {token : Token} {cover? : Option Cover} :
      Serves registry ⟨.fetchCover token, .cover cover?⟩ registry

theorem serves (request : Request) (registry : Registry) :
    let outcome := (backend : Backend Registry Call).answer request registry
    Serves registry ⟨request, outcome.value⟩ outcome.state := by
  cases request with
  | allocate path =>
    cases hfile : registry.file? path with
    | none => simpa [Backend.answer, backend, allocate_of_unregistered hfile] using .refused hfile
    | some file =>
      have hfile := Option.isSome_of_mem hfile
      simpa [Backend.answer, backend, allocate_of_registered hfile] using .opened hfile
  | release token =>
    cases hlive : registry.sessions.get? token.slot with
    | none => simpa [Backend.answer, backend, release_of_dead hlive] using .unknown hlive
    | some path =>
      have hlive := Option.isSome_of_mem hlive
      simpa [Backend.answer, backend, release_of_live hlive] using .ended hlive
  | fetchMetadata token => simpa [Backend.answer, fetchMetadata_apply] using .metadata
  | fetchCover token => simpa [Backend.answer, fetchCover_apply] using .cover

/-- What holds of all exchanges, the recorded registry keeps. -/
theorem recorded_keeps_of_serves {relation : Registry → List Exchange → Registry → Prop}
    (hserves : ∀ {registry exchange registry'}, Serves registry exchange registry' →
      relation registry [exchange] registry') :
    (backend : Backend Registry Call).recorded.Keeps relation where
  allocate path registry := hserves (@serves Call (.allocate path) registry)
  release token registry := hserves (@serves Call (.release token) registry)
  fetchMetadata token registry := hserves (@serves Call (.fetchMetadata token) registry)
  fetchCover token registry := hserves (@serves Call (.fetchCover token) registry)

/-- What holds of the registry before and after all exchanges, the registry keeps. -/
theorem keeps_of_serves {relation : Registry → Registry → Prop}
    (hserves : ∀ {registry exchange registry'}, Serves registry exchange registry' →
      relation registry registry') :
    (backend : Backend Registry Call).Keeps fun registry _ registry' =>
      relation registry registry' where
  allocate path registry := hserves (@serves Call (.allocate path) registry)
  release token registry := hserves (@serves Call (.release token) registry)
  fetchMetadata token registry := hserves (@serves Call (.fetchMetadata token) registry)
  fetchCover token registry := hserves (@serves Call (.fetchCover token) registry)

theorem sessions_perform (command : Command) (registry : Registry) :
    ((perform command : Action Registry Call Report) registry).state.sessions =
      registry.sessions := by
  cases command with
  | setCover path cover =>
    unfold perform setCover
    cases hfile : registry.file? path <;> simp [hfile]
  | insert path raw => simp [perform]
  | insertEmpty path => simp [perform]
  | countSessions => simp [perform]
  | abandonInsert => simp [perform]

theorem log_perform (command : Command) (registry : Registry) :
    ((perform command : Action Registry Call Report) registry).log = [] := by
  cases command <;> simp [perform]

/-- A command sees the files and not the sessions, unless it counts them. -/
theorem perform_congr (Call : Type) (command : Command) {registry registry' : Registry}
    (hfiles : registry'.files = registry.files) :
    ((perform command : Action Registry Call Report) registry').state.files =
        ((perform command : Action Registry Call Report) registry).state.files ∧
      (command ≠ .countSessions →
        ((perform command : Action Registry Call Report) registry').value =
          ((perform command : Action Registry Call Report) registry).value) := by
  cases command with
  | insert path raw => exact ⟨by simp [perform, register, hfiles], fun _ => rfl⟩
  | insertEmpty path => exact ⟨by simp [perform, register, hfiles], fun _ => rfl⟩
  | setCover path cover =>
    have hfile : registry'.file? path = registry.file? path := by
      unfold file?
      rw [hfiles]
    unfold perform setCover
    cases hfound : registry.file? path <;> simp [hfile, hfound, register, hfiles]
  | countSessions => exact ⟨hfiles, fun hcommand => absurd rfl hcommand⟩
  | abandonInsert => exact ⟨hfiles, fun _ => rfl⟩

/-- The files were not changed. -/
def SameFiles (registry : Registry) (_ : List Call) (registry' : Registry) : Prop :=
  registry'.files = registry.files

theorem sameFiles_composes : Composes (SameFiles : Registry → List Call → Registry → Prop) where
  nil _ := rfl
  append hfirst hsecond := hsecond.trans hfirst

theorem backend_keeps_files : (backend : Backend Registry Call).Keeps SameFiles := by
  refine keeps_of_serves fun hserves => ?_
  cases hserves <;> rfl

end Registry

/-! ## The steps of a client -/

namespace Client

section Steps

variable {client : Client Registry} {number : Int} {path : FilePath} {token : Token}

theorem step_openHandle_of_registered (hfree : client.handles[number]? = none)
    (hfile : (client.backend.file? path).isSome) :
    let given := Token.ofSlot client.backend.sessions.nextSlot
    step (@Registry.service Call) (.openHandle number path) client =
      ⟨.opened,
        { client with
          backend := { client.backend with sessions := client.backend.sessions.insert path }
          handles := client.handles.insert number (.opened given) },
        [.registrySession given path, .opened path given], []⟩ := by
  intro given
  have hallocate : (@Registry.service Call).backend.allocate path
      client.backend = _ := Registry.allocate_of_registered hfile
  rw [step_openHandle_of_token hfree (congrArg Outcome.value hallocate), hallocate]
  rfl

theorem step_openHandle_of_unregistered (hfree : client.handles[number]? = none)
    (hfile : client.backend.file? path = none) :
    step (@Registry.service Call) (.openHandle number path) client =
      ⟨.notOpened (.opening ⟨path⟩), client, [.refused path], []⟩ := by
  have hallocate : (@Registry.service Call).backend.allocate path
      client.backend = _ := Registry.allocate_of_unregistered hfile
  rw [step_openHandle_of_refusal hfree (congrArg Outcome.value hallocate), hallocate]
  rfl

theorem step_close_of_live (hheld : client.handles[number]? = some (.opened token))
    (hlive : (client.backend.sessions.get? token.slot).isSome) :
    step (@Registry.service Call) (.useHandle number .close) client =
      ⟨.closed false,
        { client with
          backend :=
            { client.backend with sessions := client.backend.sessions.remove token.slot }
          handles := client.handles.insert number .closed },
        [.released token], []⟩ := by
  have hrelease : (@Registry.service Call).backend.release token
      client.backend = _ := Registry.release_of_live hlive
  rw [step_close_of_opened hheld, hrelease]
  rfl

theorem step_drop_of_live (hheld : client.handles[number]? = some (.opened token))
    (hlive : (client.backend.sessions.get? token.slot).isSome) :
    step (@Registry.service Call) (.useHandle number .drop) client =
      ⟨.letGo,
        { client with
          backend :=
            { client.backend with sessions := client.backend.sessions.remove token.slot }
          handles := client.handles.erase number },
        [.droppedOpen token, .released token], []⟩ := by
  have hrelease : (@Registry.service Call).backend.release token
      client.backend = _ := Registry.release_of_live hlive
  rw [step_drop_of_opened hheld, hrelease]
  rfl

theorem state_step_of_reads {use : HandleUse} (hreads : use.reads) :
    (step (@Registry.service Call) (.useHandle number use) client).state =
      client := by
  cases hheld : client.handles[number]? with
  | none => rw [step_useHandle_of_free use hheld]
  | some handle =>
    rw [step_useHandle_of_held use hheld]
    cases use with
    | isOpen | describe => rfl
    | metadata => cases handle <;>
        simp [useHandle, onBackend, Handle.metadata, Registry.service, Registry.fetchMetadata_apply]
    | thermal => cases handle <;>
        simp [useHandle, onBackend, Handle.thermal, Handle.metadata, Registry.service,
          Registry.fetchMetadata_apply]
    | cover => cases handle <;>
        simp [useHandle, onBackend, Handle.cover, Registry.service, Registry.fetchCover_apply]
    | close | drop | forget => simp [HandleUse.reads] at hreads

end Steps

end Client

/-! ## The sessions of a slab -/

namespace Token

theorem eq_of_slot_eq {first second : Token} (hslot : first.slot = second.slot) :
    first = second := by
  rw [← ofSlot_slot first, hslot, ofSlot_slot]

end Token

namespace Slab

variable {Item : Type} {slab : Slab Item} {tokens : List Token} {token : Token}

theorem get?_remove_of_ne {other : Token} (slab : Slab Item) (hne : other ≠ token) :
    (slab.remove token.slot).get? other.slot = slab.get? other.slot := by
  rw [get?_remove, if_neg]
  exact fun hslot => hne (Token.eq_of_slot_eq hslot)

/-- The tokens name the items of the slab, each once. -/
structure HeldBy (slab : Slab Item) (tokens : List Token) : Prop where
  nodup : tokens.Nodup
  isSome_iff : ∀ token : Token, (slab.get? token.slot).isSome ↔ token ∈ tokens
  count_eq : slab.count = tokens.length

namespace HeldBy

theorem of_empty : (empty : Slab Item).HeldBy [] :=
  ⟨List.nodup_nil, by simp, rfl⟩

theorem perm {other : List Token} (hheld : slab.HeldBy tokens) (hperm : other.Perm tokens) :
    slab.HeldBy other where
  nodup := hperm.nodup_iff.mpr hheld.nodup
  isSome_iff token := (hheld.isSome_iff token).trans hperm.mem_iff.symm
  count_eq := hheld.count_eq.trans hperm.length_eq.symm

/-- The token a new item is given is none of those that name items already. -/
theorem ofSlot_nextSlot_notMem (hheld : slab.HeldBy tokens) :
    Token.ofSlot slab.nextSlot ∉ tokens := by
  rw [← hheld.isSome_iff, Token.slot_ofSlot, get?_nextSlot]
  simp

theorem insert (hheld : slab.HeldBy tokens) (item : Item) :
    (slab.insert item).HeldBy (.ofSlot slab.nextSlot :: tokens) where
  nodup := List.nodup_cons.mpr ⟨hheld.ofSlot_nextSlot_notMem, hheld.nodup⟩
  isSome_iff token := by
    rw [get?_insert, List.mem_cons, ← hheld.isSome_iff]
    -- Only the slot of the new token changes, and tokens are slots counted from one.
    by_cases hslot : token.slot = slab.nextSlot
    · have htoken : token = .ofSlot slab.nextSlot := by rw [← hslot, Token.ofSlot_slot]
      simp [htoken]
    · have htoken : token ≠ .ofSlot slab.nextSlot := by
        rintro rfl
        exact hslot (Token.slot_ofSlot _)
      simp [hslot, htoken]
  count_eq := by rw [count_insert, hheld.count_eq, List.length_cons]

theorem remove (hheld : slab.HeldBy (token :: tokens)) :
    (slab.remove token.slot).HeldBy tokens where
  nodup := (List.nodup_cons.mp hheld.nodup).2
  isSome_iff other := by
    have hfirst := (List.nodup_cons.mp hheld.nodup).1
    rw [get?_remove]
    by_cases hslot : other.slot = token.slot
    · obtain rfl := Token.eq_of_slot_eq hslot
      simp [hfirst]
    · have hother : other ≠ token := fun htoken => hslot (congrArg Token.slot htoken)
      rw [if_neg hslot, hheld.isSome_iff, List.mem_cons]
      exact or_iff_right hother
  count_eq := by
    have hlive := (hheld.isSome_iff token).mpr List.mem_cons_self
    have hcount := slab.count_remove hlive
    have hlength : (token :: tokens).length = tokens.length + 1 := rfl
    have htotal := hheld.count_eq
    omega

theorem get?_insert_of_mem (hheld : slab.HeldBy tokens) (item : Item) (hmem : token ∈ tokens) :
    (slab.insert item).get? token.slot = slab.get? token.slot := by
  rw [get?_insert, if_neg]
  intro hslot
  have hlive := (hheld.isSome_iff token).mpr hmem
  rw [hslot, get?_nextSlot] at hlive
  cases hlive

end HeldBy

end Slab

end DemuxSession
