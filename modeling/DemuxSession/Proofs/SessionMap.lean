import DemuxSession.Proofs.Sessions
import Mathlib.Data.Fintype.EquivFin
import Mathlib.Data.Nat.Find

/-!
# The slab is a map from tokens to paths

`SessionMap` is the registry as it would be written on paper: a finite map binds the
live tokens to paths, and a new session is bound to the least positive number that
is free.  The registry keeps its sessions in a slab instead, with slots counted from
zero and freed slots used again.

No client can tell the two apart: the slab represents the map (`Represents`), every
operation keeps that, and gives the same value and the same log on both
(`service_alike`), so that runs of any length do (`sessions_refine_map`).  What the
operations do to the bindings is also stated on the registry itself
(`Registry.SessionLaws`), and the sessions that are live are counted from the
exchanges of the run.
-/

namespace DemuxSession

variable {Call : Type}

/-! ## The map -/

/-- The registered files, and the paths bound to the live tokens, by their values. -/
structure SessionMap where
  files : Std.ExtTreeMap (List Bytes) RegisteredFile
  paths : Std.ExtTreeMap Nat FilePath

namespace SessionMap

def empty : SessionMap := ⟨∅, ∅⟩

/-- The registry with the same files and without sessions. -/
def registry (map : SessionMap) : Registry := ⟨map.files, .empty⟩

/-- What is registered for a path. -/
def file? (map : SessionMap) (path : FilePath) : Option RegisteredFile :=
  map.registry.file? path

/-- Only finitely many numbers are bound. -/
theorem exists_free (map : SessionMap) : ∃ value, 0 < value ∧ value ∉ map.paths := by
  obtain ⟨value, hvalue⟩ := Infinite.exists_notMem_finset (insert 0 map.paths.keys.toFinset)
  rw [Finset.mem_insert, not_or, List.mem_toFinset, Std.ExtTreeMap.mem_keys] at hvalue
  exact ⟨value, Nat.pos_of_ne_zero hvalue.1, hvalue.2⟩

/-- The least positive number that is not bound. -/
def leastFree (map : SessionMap) : Token :=
  ⟨Nat.find map.exists_free, (Nat.find_spec map.exists_free).1⟩

/-- Binds a registered path to the least free token. -/
def allocate (path : FilePath) : Action SessionMap Call (Option Token) := do
  match ← Action.read (file? · path) with
  | none => return none
  | some _ =>
    let token ← Action.update fun map =>
      (map.leastFree, { map with paths := map.paths.insert map.leastFree.value path })
    Action.log (.registrySession token path)
    return some token

/-- Unbinds a token.  A token that is not bound changes nothing. -/
def release (token : Token) : Action SessionMap Call Int32 :=
  Action.update fun map =>
    match map.paths[token.value]? with
    | some _ => (0, { map with paths := map.paths.erase token.value })
    | none => (Registry.unknownToken, map)

/-- What is registered for the path a token is bound to. -/
def sessionFile? (map : SessionMap) (token : Token) : Option RegisteredFile :=
  map.paths[token.value]?.bind fun path => map.file? path

def backend : Backend SessionMap Call where
  allocate := allocate
  release := release
  fetchMetadata token := do
    return (← Action.read (sessionFile? · token)).bind RegisteredFile.metadata?
  coverReader? := some fun token => do
    return (← Action.read (sessionFile? · token)).bind RegisteredFile.cover?

/-- Files are registered as in the registry; what is counted are the bindings. -/
def perform : Registry.Command → Action SessionMap Call Registry.Report
  | .countSessions => do return .count (← Action.read fun map => map.paths.size)
  | command => fun map =>
    let outcome := Registry.perform command map.registry
    ⟨outcome.value, { map with files := outcome.state.files }, outcome.log, outcome.calls⟩

def service : Service SessionMap Call Registry.Command Registry.Report where
  backend := backend
  perform := perform

end SessionMap

/-! ## Representation -/

/-- The slots of the registry stand for the bindings of the map. -/
structure Represents (registry : Registry) (map : SessionMap) : Prop where
  files : map.files = registry.files
  paths : ∀ token : Token, map.paths[token.value]? = registry.sessions.get? token.slot
  size : map.paths.size = registry.sessions.count

namespace Represents

variable {registry : Registry} {map : SessionMap}

theorem empty : Represents Registry.empty SessionMap.empty where
  files := rfl
  paths token := by simp [SessionMap.empty, Registry.empty]
  size := rfl

theorem file?_eq (hrepresents : Represents registry map) (path : FilePath) :
    map.file? path = registry.file? path := by
  unfold SessionMap.file? Registry.file? SessionMap.registry
  rw [hrepresents.files]

theorem sessionFile?_eq (hrepresents : Represents registry map) (token : Token) :
    map.sessionFile? token = registry.sessionFile? token := by
  unfold SessionMap.sessionFile? Registry.sessionFile?
  rw [hrepresents.paths]
  simp only [hrepresents.file?_eq]
  rfl

theorem mem_paths_iff (hrepresents : Represents registry map) (token : Token) :
    token.value ∈ map.paths ↔ (registry.sessions.get? token.slot).isSome := by
  rw [Std.ExtTreeMap.mem_iff_isSome_getElem?, hrepresents.paths]

/-- The least free token is that of the next slot: the next slot is free, and all
slots before it are taken. -/
theorem leastFree_eq (hrepresents : Represents registry map) :
    map.leastFree = .ofSlot registry.sessions.nextSlot := by
  have hfind : Nat.find map.exists_free = registry.sessions.nextSlot + 1 := by
    rw [Nat.find_eq_iff]
    constructor
    · -- The next slot is free.
      refine ⟨Nat.succ_pos _, fun hmem => ?_⟩
      have htaken := (hrepresents.mem_paths_iff (.ofSlot registry.sessions.nextSlot)).mp hmem
      rw [Token.slot_ofSlot, Slab.get?_nextSlot] at htaken
      cases htaken
    · -- A smaller number stands for a slot before the next one, which is taken.
      rintro value hlt ⟨hpositive, hfree⟩
      apply hfree
      rw [hrepresents.mem_paths_iff ⟨value, hpositive⟩]
      apply Slab.isSome_get?_of_lt_nextSlot
      show value - 1 < registry.sessions.nextSlot
      omega
  unfold SessionMap.leastFree Token.ofSlot
  simp only [hfind]

theorem insert (hrepresents : Represents registry map) (path : FilePath) :
    Represents { registry with sessions := registry.sessions.insert path }
      { map with paths := map.paths.insert map.leastFree.value path } where
  files := hrepresents.files
  paths token := by
    rw [hrepresents.leastFree_eq, Std.ExtTreeMap.getElem?_insert, Slab.get?_insert]
    by_cases hslot : token.slot = registry.sessions.nextSlot
    · have htoken : token = .ofSlot registry.sessions.nextSlot := by
        rw [← hslot, Token.ofSlot_slot]
      simp [htoken]
    · have hvalue :
          ¬ compare (Token.ofSlot registry.sessions.nextSlot).value token.value = .eq := by
        intro hcompare
        have heq : (Token.ofSlot registry.sessions.nextSlot).value = token.value := by
          simpa using hcompare
        apply hslot
        rw [← Token.slot_ofSlot registry.sessions.nextSlot]
        unfold Token.slot
        rw [heq]
      rw [if_neg hvalue, if_neg hslot, hrepresents.paths]
  size := by
    have hfree : map.leastFree.value ∉ map.paths := (Nat.find_spec map.exists_free).2
    rw [Std.ExtTreeMap.mem_iff_contains] at hfree
    rw [Std.ExtTreeMap.size_insert, if_neg hfree, hrepresents.size, Slab.count_insert]

theorem remove (hrepresents : Represents registry map) {token : Token}
    (hlive : (registry.sessions.get? token.slot).isSome) :
    Represents { registry with sessions := registry.sessions.remove token.slot }
      { map with paths := map.paths.erase token.value } where
  files := hrepresents.files
  paths other := by
    rw [Std.ExtTreeMap.getElem?_erase, Slab.get?_remove]
    by_cases hslot : other.slot = token.slot
    · obtain rfl := Token.eq_of_slot_eq hslot
      simp
    · have hvalue : ¬ compare token.value other.value = .eq := by
        intro hcompare
        have heq : token.value = other.value := by simpa using hcompare
        apply hslot
        unfold Token.slot
        rw [heq]
      rw [if_neg hvalue, if_neg hslot, hrepresents.paths]
  size := by
    have hmem := (hrepresents.mem_paths_iff token).mpr hlive
    have hcount := registry.sessions.count_remove hlive
    rw [Std.ExtTreeMap.mem_iff_contains] at hmem
    rw [Std.ExtTreeMap.size_erase, if_pos hmem, hrepresents.size, ← hcount]
    rfl

end Represents

/-! ## Operations -/

namespace SessionMap

theorem allocate_alike (path : FilePath) :
    (Registry.allocate path : Action Registry Call (Option Token)).Alike Represents
      (allocate path : Action SessionMap Call (Option Token)) := by
  intro registry map hrepresents
  have hfile := hrepresents.file?_eq path
  cases hregistered : registry.file? path with
  | none =>
    rw [Registry.allocate_of_unregistered hregistered]
    simp only [allocate, Action.bind_apply, Action.read_apply, hfile, hregistered]
    exact ⟨rfl, rfl, hrepresents⟩
  | some file =>
    rw [Registry.allocate_of_registered (Option.isSome_of_mem hregistered)]
    simp only [allocate, Action.bind_apply, Action.read_apply, hfile, hregistered]
    have hfree := hrepresents.leastFree_eq
    exact ⟨by simp [hfree], by simp [hfree], hrepresents.insert path⟩

theorem release_alike (token : Token) :
    (Registry.release token : Action Registry Call Int32).Alike Represents
      (release token : Action SessionMap Call Int32) := by
  intro registry map hrepresents
  have hpath := hrepresents.paths token
  cases hlive : registry.sessions.get? token.slot with
  | none =>
    rw [Registry.release_of_dead hlive]
    simp only [release, Action.update_apply, hpath, hlive]
    exact ⟨rfl, rfl, hrepresents⟩
  | some path =>
    rw [Registry.release_of_live (Option.isSome_of_mem hlive)]
    simp only [release, Action.update_apply, hpath, hlive]
    exact ⟨rfl, rfl, hrepresents.remove (Option.isSome_of_mem hlive)⟩

theorem backend_alike :
    (Registry.backend : Backend Registry Call).Alike Represents
      (backend : Backend SessionMap Call) where
  allocate := allocate_alike
  release := release_alike
  fetchMetadata token := by
    refine Action.Alike.bind (.read fun registry map hrepresents => ?_) fun _ => .pure _
    exact (hrepresents.sessionFile?_eq token).symm
  fetchCover token := by
    refine Action.Alike.bind (.read fun registry map hrepresents => ?_) fun _ => .pure _
    exact (hrepresents.sessionFile?_eq token).symm

theorem perform_alike (command : Registry.Command) :
    (Registry.perform command : Action Registry Call Registry.Report).Alike Represents
      (perform command : Action SessionMap Call Registry.Report) := by
  intro registry map hrepresents
  by_cases hcommand : command = .countSessions
  · subst hcommand
    have hregistry : (Registry.perform .countSessions : Action Registry Call _) registry =
        ⟨.count registry.sessionCount, registry, [], []⟩ := rfl
    have hmap : (perform .countSessions : Action SessionMap Call _) map =
        ⟨.count map.paths.size, map, [], []⟩ := rfl
    rw [hregistry, hmap, hrepresents.size]
    exact ⟨rfl, rfl, hrepresents⟩
  · -- The map registers files as a registry without sessions does.
    have hsame : map.registry.files = registry.files := hrepresents.files
    obtain ⟨hfiles, hvalue⟩ := Registry.perform_congr Call command hsame
    have hmap : (perform command : Action SessionMap Call Registry.Report) map =
        let outcome :=
          (Registry.perform command : Action Registry Call Registry.Report) map.registry
        ⟨outcome.value, { map with files := outcome.state.files }, outcome.log,
          outcome.calls⟩ := by
      cases command with
      | countSessions => exact absurd rfl hcommand
      | insert path raw => rfl
      | insertEmpty path => rfl
      | setCover path cover => rfl
      | abandonInsert => rfl
    rw [hmap]
    refine ⟨(hvalue hcommand).symm, ?_, hfiles, ?_, ?_⟩
    · rw [Registry.log_perform, Registry.log_perform]
    · rw [Registry.sessions_perform]
      exact hrepresents.paths
    · rw [Registry.sessions_perform]
      exact hrepresents.size

/-- The registry and the map cannot be told apart. -/
theorem service_alike : (@Registry.service Call).Alike Represents (@service Call) where
  backend := backend_alike
  perform := perform_alike

end SessionMap

/-! ## Laws -/

namespace Registry

/-- The path that a live token is bound to. -/
def sessionPath? (registry : Registry) (token : Token) : Option FilePath :=
  registry.sessions.get? token.slot

/-- What the operations on sessions give, and what they do to the bindings. -/
structure SessionLaws (Call : Type) (registry : Registry) : Prop where
  /-- A registered path is bound to the least token that is free. -/
  allocate_registered : ∀ path, (registry.file? path).isSome →
    let outcome := (allocate path : Action Registry Call (Option Token)) registry
    ∃ token, outcome.value = some token ∧
      registry.sessionPath? token = none ∧
      (∀ other : Token, other.value < token.value → (registry.sessionPath? other).isSome) ∧
      outcome.state.files = registry.files ∧
      ∀ other, outcome.state.sessionPath? other =
        if other = token then some path else registry.sessionPath? other
  allocate_unregistered : ∀ path, registry.file? path = none →
    (allocate path : Action Registry Call (Option Token)) registry = ⟨none, registry, [], []⟩
  release_live : ∀ token, (registry.sessionPath? token).isSome →
    let outcome := (release token : Action Registry Call Int32) registry
    outcome.value = 0 ∧ outcome.state.files = registry.files ∧
      ∀ other, outcome.state.sessionPath? other =
        if other = token then none else registry.sessionPath? other
  release_dead : ∀ token, registry.sessionPath? token = none →
    (release token : Action Registry Call Int32) registry = ⟨-22, registry, [], []⟩
  fetch_keeps : ∀ token,
    ((backend : Backend Registry Call).fetchMetadata token registry).state = registry ∧
      ((backend : Backend Registry Call).fetchCover token registry).state = registry
  fetch_dead : ∀ token, registry.sessionPath? token = none →
    ((backend : Backend Registry Call).fetchMetadata token registry).value = none ∧
      ((backend : Backend Registry Call).fetchCover token registry).value = none

theorem sessionPath?_insert (registry : Registry) (path : FilePath) (other : Token) :
    sessionPath? { registry with sessions := registry.sessions.insert path } other =
      if other = .ofSlot registry.sessions.nextSlot then some path
      else registry.sessionPath? other := by
  have hslot : other.slot = registry.sessions.nextSlot ↔
      other = .ofSlot registry.sessions.nextSlot := by
    constructor
    · intro hslot
      rw [← hslot, Token.ofSlot_slot]
    · rintro rfl
      exact Token.slot_ofSlot _
  unfold sessionPath?
  rw [Slab.get?_insert, if_congr hslot rfl rfl]

theorem sessionPath?_remove (registry : Registry) (token other : Token) :
    sessionPath? { registry with sessions := registry.sessions.remove token.slot } other =
      if other = token then none else registry.sessionPath? other := by
  have hslot : other.slot = token.slot ↔ other = token :=
    ⟨Token.eq_of_slot_eq, congrArg Token.slot⟩
  unfold sessionPath?
  rw [Slab.get?_remove, if_congr hslot rfl rfl]

/-- The laws hold of every registry. -/
theorem sessionLaws (Call : Type) (registry : Registry) : SessionLaws Call registry where
  allocate_registered path hfile := by
    rw [allocate_of_registered hfile]
    refine ⟨_, rfl, registry.sessions.get?_nextSlot, fun other hlt => ?_, rfl, ?_⟩
    · apply Slab.isSome_get?_of_lt_nextSlot
      have hlt : other.value < registry.sessions.nextSlot + 1 := hlt
      have hpositive := other.positive
      unfold Token.slot
      omega
    · exact registry.sessionPath?_insert path
  allocate_unregistered path hfile := allocate_of_unregistered hfile
  release_live token hlive := by
    rw [release_of_live hlive]
    exact ⟨rfl, rfl, registry.sessionPath?_remove token⟩
  release_dead token hdead := release_of_dead hdead
  fetch_keeps token := by
    rw [fetchMetadata_apply, fetchCover_apply]
    exact ⟨rfl, rfl⟩
  fetch_dead token hdead := by
    have hfile : registry.sessionFile? token = none := by
      unfold sessionFile?
      rw [show registry.sessions.get? token.slot = none from hdead]
      rfl
    rw [fetchMetadata_apply, fetchCover_apply, hfile]
    exact ⟨rfl, rfl⟩

end Registry

/-! ## Counting -/

namespace Exchange

/-- Whether a session was opened. -/
def opensSession : Exchange → Bool
  | ⟨.allocate _, .token (some _)⟩ => true
  | _ => false

/-- Whether a session was ended, with success. -/
def endsSession : Exchange → Bool
  | ⟨.release _, .status status⟩ => status = 0
  | _ => false

end Exchange

namespace Registry

/-- The sessions that were live and those opened are those ended and those live
then. -/
def Balanced (registry : Registry) (exchanges : List Exchange) (registry' : Registry) : Prop :=
  exchanges.countP Exchange.opensSession + registry.sessionCount =
    exchanges.countP Exchange.endsSession + registry'.sessionCount

theorem balanced_composes : Composes Balanced where
  nil _ := rfl
  append hfirst hsecond := by
    unfold Balanced at hfirst hsecond ⊢
    rw [List.countP_append, List.countP_append]
    omega

theorem recorded_keeps_balanced : (@Registry.backend Call).recorded.Keeps Balanced := by
  refine recorded_keeps_of_serves fun {registry _ _} hserves => ?_
  cases hserves with
  | opened =>
    simp [Balanced, Exchange.opensSession, Exchange.endsSession, sessionCount, Slab.count_insert]
    omega
  | ended hlive =>
    have hcount := registry.sessions.count_remove hlive
    simp [Balanced, Exchange.opensSession, Exchange.endsSession, sessionCount]
    omega
  | unknown =>
    simp [Balanced, Exchange.opensSession, Exchange.endsSession, unknownToken]
  | refused | metadata | cover =>
    simp [Balanced, Exchange.opensSession, Exchange.endsSession]

theorem recorded_perform_keeps_balanced (command : Command) :
    ((@Registry.service Call).recorded.perform command).Keeps Balanced := by
  intro registry
  have hsessions : ((perform command : Action Registry Call Report) registry).state.sessionCount =
      registry.sessionCount := congrArg Slab.count (sessions_perform command registry)
  simp [Service.recorded, Registry.service, Balanced, hsessions]

end Registry

/-! ## The main statement -/

namespace Client

/-- **The slab refines a map from tokens to paths.**  Over any run on the registry,
with steps on handles, commands, and requests past the handles with any tokens:

* every step, and the end of the run, gives the answer and the log that the map
  gives, and leaves a registry that represents the map then;
* the registry that is reached follows the laws of the map;
* the sessions that are live are as many as the bound tokens, and as many as were
  opened and not ended since. -/
theorem sessions_refine_map (steps : List (Step Registry.Command)) :
    let service := @Registry.service Call
    let start := fresh Registry.empty
    let reached := after service start steps
    let start' := fresh SessionMap.empty
    let reached' := after (@SessionMap.service Call) start' steps
    let exchanges := (run service.recorded start steps).flatMap Outcome.calls
    List.Forall₂ (Outcome.Alike (Client.Alike Represents)) (run service start steps)
      (run (@SessionMap.service Call) start' steps) ∧
    (finish service.backend reached).Alike (Client.Alike Represents)
      (finish (@SessionMap.backend Call) reached') ∧
    Registry.SessionLaws Call reached.backend ∧
    reached.backend.sessionCount = reached'.backend.paths.size ∧
    exchanges.countP Exchange.opensSession =
      exchanges.countP Exchange.endsSession + reached.backend.sessionCount := by
  intro service start reached start' reached' exchanges
  have hstart : Client.Alike Represents start start' := fresh_alike Represents.empty
  have hservice := @SessionMap.service_alike Call
  have hreached : Client.Alike Represents reached reached' :=
    after_alike hservice steps start start' hstart
  refine ⟨run_alike hservice steps start start' hstart,
    finish_alike SessionMap.backend_alike reached reached' hreached,
    Registry.sessionLaws Call reached.backend, hreached.backend.size.symm, ?_⟩
  have hbalanced : Registry.Balanced Registry.empty exchanges
      (after service.recorded start steps).backend :=
    run_keeps Registry.recorded_keeps_balanced Registry.recorded_perform_keeps_balanced
      Registry.balanced_composes steps start
  -- Recording does not change where the run ends.
  have hrecorded : (after service.recorded start steps).backend = reached.backend :=
    (after_alike service.recorded_alike steps start start (fresh_alike rfl)).backend.symm
  rwa [Registry.Balanced, hrecorded] at hbalanced

end Client

end DemuxSession
