import DemuxSession.Proofs.Ownership
import Mathlib.Data.List.Perm.Basic

/-!
# Sessions of the registry end in any order

Handles are ended by being closed or dropped.  With the handles go their sessions, and in
which order that happens makes no difference: not to the registry, nor to the handles that
remain, nor to what each ending logs.

Ending a handle frees the slot of its session and changes its entry in the table of handles
(`Client.ended`).  These are changes in different places for different handles, so they can
be exchanged (`ended_comm`).  That a step comes to just that, and logs no failure, needs the
session to be live (`step_of_owned`), and it is because no two handles own the same session
(`Owned`): otherwise the second ending would find the slot free, or given to another one.

At the end of a run the handles that are still held are dropped one after the other, so the
same is true of that (`dropEach_of_perm`).
-/

namespace DemuxSession

variable {Call Command : Type}

/-! ## Endings -/

/-- How a handle is ended. -/
inductive Means where
  | close
  | drop
  deriving DecidableEq

namespace Means

def use : Means → HandleUse
  | .close => .close
  | .drop => .drop

/-- What is held afterwards, given what was held before. -/
def left? : Means → Option Handle → Option Handle
  | .close, handle? => handle?.map fun _ => .closed
  | .drop, _ => none

/-- What is logged, given what was held before. -/
def lines : Means → Option Handle → List LogLine
  | .close, some (.opened token) => [.released token]
  | .drop, some (.opened token) => [.droppedOpen token, .released token]
  | _, some .closed | _, none => []

end Means

/-- The end of the handle under a number. -/
structure Ending where
  number : Int
  means : Means
  deriving DecidableEq

def Ending.step (ending : Ending) : Step Command :=
  .useHandle ending.number ending.means.use

namespace Slab

variable {Item : Type} (slab : Slab Item)

theorem remove_comm (first second : Nat) :
    (slab.remove first).remove second = (slab.remove second).remove first := by
  by_cases hslot : first = second
  · rw [hslot]
  · exact congrArg Slab.mk (List.set_comm none none hslot)

/-- The slab without the session of a token, if there is a token. -/
def without (token? : Option Token) : Slab Item :=
  token?.elim slab fun token => slab.remove token.slot

theorem without_comm (first second : Option Token) :
    (slab.without first).without second = (slab.without second).without first := by
  cases first with
  | none => rfl
  | some first =>
    cases second with
    | none => rfl
    | some second => exact slab.remove_comm first.slot second.slot

end Slab

theorem alter_comm (handles : Std.ExtTreeMap Int Handle) {first second : Int}
    (hne : first ≠ second) (change change' : Option Handle → Option Handle) :
    (handles.alter first change).alter second change' =
      (handles.alter second change').alter first change := by
  refine Std.ExtTreeMap.ext_getElem? fun number => ?_
  simp only [Std.ExtTreeMap.getElem?_alter, Std.LawfulEqCmp.compare_eq_iff_eq]
  by_cases hfirst : first = number
  · subst hfirst
    simp [Ne.symm hne]
  · by_cases hsecond : second = number
    · subst hsecond
      simp [hne]
    · simp [hfirst, hsecond]

section Alter

variable {handles : Std.ExtTreeMap Int Handle} {number : Int}
  {change : Option Handle → Option Handle}

theorem alter_eq_insert {handle : Handle} (hleft : change handles[number]? = some handle) :
    handles.alter number change = handles.insert number handle := by
  refine Std.ExtTreeMap.ext_getElem? fun other => ?_
  rw [Std.ExtTreeMap.getElem?_alter, Std.ExtTreeMap.getElem?_insert, hleft]

theorem alter_eq_erase (hleft : change handles[number]? = none) :
    handles.alter number change = handles.erase number := by
  refine Std.ExtTreeMap.ext_getElem? fun other => ?_
  rw [Std.ExtTreeMap.getElem?_alter, Std.ExtTreeMap.getElem?_erase, hleft]

end Alter

namespace Client

/-! ## Clients after an ending -/

/-- The client after a handle was ended: the slot of its session is free, and its entry is
changed. -/
def ended (client : Client Registry) (ending : Ending) : Client Registry :=
  { client with
    backend :=
      { client.backend with
        sessions :=
          client.backend.sessions.without (client.handles[ending.number]?.bind Handle.token?) }
    handles := client.handles.alter ending.number ending.means.left? }

theorem handles_ended_of_ne (client : Client Registry) (ending : Ending) {number : Int}
    (hne : ending.number ≠ number) :
    (client.ended ending).handles[number]? = client.handles[number]? := by
  simp [ended, Std.ExtTreeMap.getElem?_alter, hne]

theorem ended_comm (client : Client Registry) {first second : Ending}
    (hne : first.number ≠ second.number) :
    (client.ended first).ended second = (client.ended second).ended first := by
  have hfirst := client.handles_ended_of_ne second (Ne.symm hne)
  have hsecond := client.handles_ended_of_ne first hne
  have hsessions := client.backend.sessions.without_comm
    (client.handles[first.number]?.bind Handle.token?)
    (client.handles[second.number]?.bind Handle.token?)
  have hhandles := alter_comm client.handles hne first.means.left? second.means.left?
  rw [ended, hsecond, ended.eq_def (client.ended second), hfirst]
  simp only [ended, hsessions, hhandles]

/-! ## Endings are steps -/

section Steps

variable {client : Client Registry} {ledger : Ledger}

theorem ended_of_free {ending : Ending} (hfree : client.handles[ending.number]? = none) :
    client.ended ending = client := by
  have hleft : ending.means.left? client.handles[ending.number]? = none := by
    rw [hfree]
    cases ending.means <;> rfl
  simp [ended, hfree, Slab.without, alter_eq_erase hleft, erase_eq_of_free hfree]

/-- An ending does what it says: the session of an open handle is live, so that its release
succeeds. -/
theorem step_of_owned (howned : Owned client ledger) (ending : Ending) :
    (step (@Registry.service Call) ending.step client).state = client.ended ending ∧
      (step (@Registry.service Call) ending.step client).log =
        ending.means.lines client.handles[ending.number]? := by
  obtain ⟨number, means⟩ := ending
  cases hheld : client.handles[number]? with
  | none =>
    have houtcome : step (@Registry.service Call) (.useHandle number means.use) client = _ :=
      step_useHandle_of_free means.use hheld
    rw [Ending.step, houtcome, ended_of_free hheld]
    cases means <;> exact ⟨rfl, rfl⟩
  | some handle =>
    cases means with
    | close =>
      have hleft : Means.close.left? client.handles[number]? = some .closed := by
        rw [hheld]
        rfl
      cases handle with
      | closed =>
        have houtcome : step (@Registry.service Call) (.useHandle number .close) client = _ :=
          step_close_of_closed hheld
        rw [Ending.step, Means.use, houtcome]
        simp [ended, hheld, Slab.without, Handle.token?, alter_eq_insert hleft,
          insert_eq_of_held hheld, Means.lines]
      | opened token =>
        have houtcome : step (@Registry.service Call) (.useHandle number .close) client = _ :=
          step_close_of_live hheld (howned.isSome_of_opened hheld)
        rw [Ending.step, Means.use, houtcome]
        simp [ended, hheld, Slab.without, Handle.token?, alter_eq_insert hleft, Means.lines]
    | drop =>
      have hleft : Means.drop.left? client.handles[number]? = none := rfl
      cases handle with
      | closed =>
        have houtcome : step (@Registry.service Call) (.useHandle number .drop) client = _ :=
          step_letGo_of_closed rfl hheld
        rw [Ending.step, Means.use, houtcome]
        simp [ended, hheld, Slab.without, Handle.token?, alter_eq_erase hleft, Means.lines]
      | opened token =>
        have houtcome : step (@Registry.service Call) (.useHandle number .drop) client = _ :=
          step_drop_of_live hheld (howned.isSome_of_opened hheld)
        rw [Ending.step, Means.use, houtcome]
        simp [ended, hheld, Slab.without, Handle.token?, alter_eq_erase hleft, Means.lines]

theorem exists_owned_ended (howned : Owned client ledger) (ending : Ending) :
    ∃ ledger' : Ledger, Owned (client.ended ending) ledger' := by
  have hspares : client.Spares (ending.step : Step Registry.Command) :=
    spares_of_isRequest client rfl
  have hstep : Owned (step (@Registry.service Empty) ending.step client).state _ :=
    owned_step howned ending.step hspares
  rw [(step_of_owned howned ending).1] at hstep
  exact ⟨_, hstep⟩

end Steps

/-! ## Endings in a row -/

theorem isRequest_of_mem_endings {endings : List Ending} :
    ∀ next ∈ (endings.map Ending.step : List (Step Command)), next.isRequest = false := by
  intro next hnext
  obtain ⟨ending, -, rfl⟩ := List.mem_map.mp hnext
  rfl

theorem after_endings (endings : List Ending) : ∀ (client : Client Registry) (ledger : Ledger),
    Owned client ledger →
      after (@Registry.service Call) client (endings.map Ending.step) =
        endings.foldl ended client := by
  induction endings with
  | nil => exact fun _ _ _ => rfl
  | cons ending rest ih =>
    intro client ledger howned
    obtain ⟨ledger', howned'⟩ := exists_owned_ended howned ending
    have hstate : (step (@Registry.service Call) ending.step client).state = _ :=
      (step_of_owned howned ending).1
    simp only [List.map_cons, after, List.foldl_cons, hstate]
    exact ih _ ledger' howned'

/-- In a run of endings of different handles, each logs what it would have logged first. -/
theorem map_log_endings (endings : List Ending) : ∀ (client : Client Registry) (ledger : Ledger),
    Owned client ledger → (endings.map Ending.number).Nodup →
      (run (@Registry.service Call) client (endings.map Ending.step)).map Outcome.log =
        endings.map fun ending => ending.means.lines client.handles[ending.number]? := by
  induction endings with
  | nil => exact fun _ _ _ _ => rfl
  | cons ending rest ih =>
    intro client ledger howned hdistinct
    obtain ⟨hfirst, hdistinct⟩ := List.nodup_cons.mp hdistinct
    obtain ⟨ledger', howned'⟩ := exists_owned_ended howned ending
    obtain ⟨hstate, hlog⟩ := @step_of_owned Call client ledger howned ending
    -- The first ending leaves the handles of the others as they are.
    have hothers : ∀ other ∈ rest,
        (client.ended ending).handles[other.number]? = client.handles[other.number]? := by
      intro other hother
      refine client.handles_ended_of_ne ending fun hnumber => hfirst ?_
      exact List.mem_map.mpr ⟨other, hother, hnumber.symm⟩
    simp only [List.map_cons, run, hstate, hlog, ih _ ledger' howned' hdistinct]
    refine congrArg (List.cons _) (List.map_congr_left fun other hother => ?_)
    rw [hothers other hother]

theorem foldl_ended_of_perm (client : Client Registry) {endings order : List Ending}
    (hdistinct : (endings.map Ending.number).Nodup) (hperm : order.Perm endings) :
    order.foldl ended client = endings.foldl ended client := by
  refine hperm.foldl_eq' (fun first hfirst second hsecond client => ?_) client
  by_cases hnumber : first.number = second.number
  · have hsame : first = second :=
      List.inj_on_of_nodup_map hdistinct (hperm.mem_iff.mp hfirst) (hperm.mem_iff.mp hsecond)
        hnumber
    rw [hsame]
  · exact client.ended_comm hnumber

/-- The end of a handle that is dropped. -/
def dropped (entry : Int × Handle) : Ending := ⟨entry.1, .drop⟩

/-- Handles that are dropped one after the other end one after the other. -/
theorem dropEach_of_owned {client : Client Registry} {ledger : Ledger}
    (howned : Owned client ledger) {entries : List (Int × Handle)}
    (hheld : ∀ entry ∈ entries, client.handles[entry.1]? = some entry.2)
    (hdistinct : (entries.map Prod.fst).Nodup) :
    (dropEach (@Registry.backend Call) entries client).state =
        (entries.map dropped).foldl ended client ∧
      (dropEach (@Registry.backend Call) entries client).log =
        entries.flatMap fun entry => Means.drop.lines (some entry.2) := by
  have hsteps : (entries.map fun entry => (.useHandle entry.1 .drop : Step Registry.Command)) =
      (entries.map dropped).map Ending.step := by
    rw [List.map_map]
    rfl
  have hdropped : ((entries.map dropped).map Ending.number).Nodup := by
    rw [List.map_map]
    exact hdistinct
  have hdrops := dropEach_eq (@Registry.service Call) entries client hheld hdistinct
  simp only [hsteps] at hdrops
  have hbackend : (@Registry.service Call).backend = Registry.backend := rfl
  rw [← hbackend, hdrops]
  refine ⟨after_endings _ client ledger howned, ?_⟩
  calc (run (@Registry.service Call) client ((entries.map dropped).map Ending.step)).flatMap
        Outcome.log
      = ((run (@Registry.service Call) client
          ((entries.map dropped).map Ending.step)).map Outcome.log).flatten := List.flatMap_def ..
    _ = entries.flatMap fun entry => Means.drop.lines client.handles[entry.1]? := by
      rw [map_log_endings _ client ledger howned hdropped, List.map_map, List.flatMap_def]
      rfl
    _ = entries.flatMap fun entry => Means.drop.lines (some entry.2) :=
      List.flatMap_congr fun entry hentry => by rw [hheld entry hentry]

theorem dropEach_of_perm {client : Client Registry} {ledger : Ledger}
    (howned : Owned client ledger) {entries : List (Int × Handle)}
    (hperm : entries.Perm client.handles.toList) :
    (dropEach (@Registry.backend Call) entries client).state =
        (finish (@Registry.backend Call) client).state ∧
      (dropEach (@Registry.backend Call) entries client).log =
        entries.flatMap fun entry => Means.drop.lines (some entry.2) := by
  have hdistinct := nodup_map_fst_toList client.handles
  have hnumbers : ((client.handles.toList.map dropped).map Ending.number).Nodup := by
    rw [List.map_map]
    exact hdistinct
  have hentries := @dropEach_of_owned Call client ledger howned entries
    (fun entry hentry => getElem?_of_mem_toList entry (hperm.mem_iff.mp hentry))
    ((hperm.map Prod.fst).nodup_iff.mpr hdistinct)
  refine ⟨?_, hentries.2⟩
  calc (dropEach (@Registry.backend Call) entries client).state
      = (entries.map dropped).foldl ended client := hentries.1
    _ = (client.handles.toList.map dropped).foldl ended client :=
      foldl_ended_of_perm client hnumbers (hperm.map dropped)
    _ = (dropEach (@Registry.backend Call) client.handles.toList client).state :=
      (dropEach_of_owned howned getElem?_of_mem_toList hdistinct).1.symm
    _ = (finish (@Registry.backend Call) client).state := by
      simp [finish]

/-! ## The main statement -/

/-- **Sessions end in any order.**  After any steps on handles of the registry and any
commands, let different handles be ended, each by its own means.

* Whatever their order, the client is left the same: the slab, the registrations and the
  handles that remain.  So whatever follows goes the same way.
* An ending logs what its means and the handle, as it was before all of them, make it log.
  No release fails.
* The handles that remain at the end of the run are dropped in any order too.

Nothing is assumed of the handles that are ended: they may be open, closed before, or not
held at all. -/
theorem endings_commute (steps : List (Step Registry.Command))
    (hhandles : ∀ next ∈ steps, next.isRequest = false) (endings : List Ending)
    (hdistinct : (endings.map Ending.number).Nodup) :
    let service : Service Registry Call _ _ := Registry.service
    let reached := after service (fresh Registry.empty) steps
    let remaining := after service reached (endings.map Ending.step)
    (∀ order : List Ending, order.Perm endings →
      after service reached (order.map Ending.step) = remaining ∧
      (∀ later : List (Step Registry.Command),
        play service (after service reached (order.map Ending.step)) later =
          play service remaining later) ∧
      (run service reached (order.map Ending.step)).map Outcome.log =
        order.map fun ending => ending.means.lines reached.handles[ending.number]?) ∧
    ∀ entries : List (Int × Handle), entries.Perm remaining.handles.toList →
      (dropEach service.backend entries remaining).state =
        (finish service.backend remaining).state ∧
      (dropEach service.backend entries remaining).log =
        entries.flatMap fun entry => Means.drop.lines (some entry.2) := by
  intro service reached remaining
  have howned : Owned reached _ :=
    owned_after steps (fresh Registry.empty) Ledger.empty Owned.fresh_empty
      (sparesHandles_of_isRequest service steps (fresh Registry.empty) hhandles)
  have hremaining : Owned remaining _ :=
    owned_after (endings.map Ending.step) reached _ howned
      (sparesHandles_of_isRequest service _ reached isRequest_of_mem_endings)
  refine ⟨fun order hperm => ?_, fun entries => dropEach_of_perm hremaining⟩
  have hafter : after service reached (order.map Ending.step) = remaining := by
    calc after service reached (order.map Ending.step)
        = order.foldl ended reached := after_endings order reached _ howned
      _ = endings.foldl ended reached := foldl_ended_of_perm reached hdistinct hperm
      _ = remaining := (after_endings endings reached _ howned).symm
  refine ⟨hafter, fun later => by rw [hafter], ?_⟩
  exact map_log_endings order reached _ howned
    ((hperm.map Ending.number).nodup_iff.mpr hdistinct)

/-- Three of four handles end in two orders, which leaves the session in slot 3.  At the end
its handle and the two that were closed are dropped, in two orders as well. -/
theorem endings_commute_reversed :
    let path := FilePath.ofText "a"
    let steps : List (Step Registry.Command) :=
      [.command (.insertEmpty path), .openHandle 1 path, .openHandle 2 path, .openHandle 3 path,
        .openHandle 4 path]
    let endings : List Ending := [⟨1, .close⟩, ⟨3, .drop⟩, ⟨2, .close⟩]
    let reached := after (@Registry.service Empty) (fresh Registry.empty) steps
    let remaining := after (@Registry.service Empty) reached (endings.map Ending.step)
    (∀ next ∈ steps, next.isRequest = false) ∧ (endings.map Ending.number).Nodup ∧
      after (@Registry.service Empty) reached (endings.reverse.map Ending.step) = remaining ∧
      (run (@Registry.service Empty) reached (endings.reverse.map Ending.step)).map Outcome.log =
        [[.released (.ofSlot 1)], [.droppedOpen (.ofSlot 2), .released (.ofSlot 2)],
          [.released (.ofSlot 0)]] ∧
      remaining.backend.sessions.slots = [none, none, none, some path] ∧
      (dropEach (@Registry.backend Empty) remaining.handles.toList.reverse remaining).state =
        (finish (@Registry.backend Empty) remaining).state := by
  intro path steps endings reached remaining
  have hhandles : ∀ next ∈ steps, next.isRequest = false := by decide
  have hdistinct : (endings.map Ending.number).Nodup := by decide
  obtain ⟨horders, hdrops⟩ := @endings_commute Empty steps hhandles endings hdistinct
  obtain ⟨hafter, -, hlogs⟩ := horders endings.reverse (List.reverse_perm endings)
  have hend := hdrops remaining.handles.toList.reverse (List.reverse_perm _)
  exact ⟨hhandles, hdistinct, hafter, hlogs.trans (by decide), by decide, hend.1⟩

end Client

end DemuxSession
