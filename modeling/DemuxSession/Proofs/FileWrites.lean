import DemuxSession.FileSystem
import Mathlib.Tactic.SplitIfs

/-!
# What a write changes

A write goes to the place that its path leads to.  The way there is told by relations.  A
walk (`Walks`) has a case for each kind of step: it passes directories, stops at links, and
arrives where nothing or a file stands.  A route (`Leads`) is one walk after the other, from
link to link.  A file that is put where the route ends is in the way of no such step, so the
path leads to the same place afterwards (`locate_put`).

There are three ways for a write to go (`Writes`).  It fails before the file is opened and
changes nothing, it breaks off and leaves the first bytes, or it succeeds and leaves all of
them.  In the last two the file is found where it was put, and nothing else differs
(`SavedAt`).
-/

namespace DemuxSession.FileSystem

variable {entries : Std.ExtTreeMap Place Entry} {position place : Place} {names : List Bytes}
  {slashFollows : Bool} {data : Bytes}

/-! ## Walking -/

/-- A file can be put at the place: nothing stands there, or a file. -/
def IsFree (entries : Std.ExtTreeMap Place Entry) (place : Place) : Prop :=
  ∀ entry, entries[place]? = some entry → ∃ data, entry = .file data

/-- The name is looked up: it is none of the two dots, and not too long. -/
structure IsLookedUp (name : Bytes) : Prop where
  ne_dot : name ≠ FilePath.dot
  ne_dotDot : name ≠ dotDot
  short : ¬ longestName < name.length

/-- The names lead from the position to where the walk halts. -/
inductive Walks (entries : Std.ExtTreeMap Place Entry) (slashFollows : Bool) :
    Place → List Bytes → Halt → Prop
  | stay {position : Place} {rest : List Bytes} {halt : Halt}
      (hwalks : Walks entries slashFollows position rest halt) :
      Walks entries slashFollows position (FilePath.dot :: rest) halt
  | up {position : Place} {rest : List Bytes} {halt : Halt}
      (hwalks : Walks entries slashFollows position.dropLast rest halt) :
      Walks entries slashFollows position (dotDot :: rest) halt
  | enter {position : Place} {name : Bytes} {rest : List Bytes} {halt : Halt}
      (hname : IsLookedUp name) (hslash : ¬ (rest = [] ∧ slashFollows))
      (hdirectory : entries[position ++ [name]]? = some .directory)
      (hwalks : Walks entries slashFollows (position ++ [name]) rest halt) :
      Walks entries slashFollows position (name :: rest) halt
  | link {position : Place} {name : Bytes} {rest : List Bytes} {target : FilePath}
      (hname : IsLookedUp name) (hslash : ¬ (rest = [] ∧ slashFollows))
      (hlink : entries[position ++ [name]]? = some (.link target)) :
      Walks entries slashFollows position (name :: rest)
        (.link position target ⟨rest, slashFollows⟩)
  | arrive {position : Place} {name : Bytes} (hname : IsLookedUp name)
      (hslash : ¬ (([] : List Bytes) = [] ∧ slashFollows))
      (hfree : IsFree entries (position ++ [name])) :
      Walks entries slashFollows position [name] (.arrived (position ++ [name]))

theorem walks_of_walk {halt : Halt}
    (hwalk : walk entries slashFollows position names = .ok halt) :
    Walks entries slashFollows position names halt := by
  fun_induction walk entries slashFollows position names with
  | case1 => cases hwalk
  | case2 position rest ih => exact .stay (ih hwalk)
  | case3 position rest hdot ih => exact .up (ih hwalk)
  | case4 => cases hwalk
  | case5 => cases hwalk
  | case6 position name rest hdot hdotDot hslash hshort place hentry ih =>
    exact .enter ⟨hdot, hdotDot, hshort⟩ hslash hentry (ih hwalk)
  | case7 position name rest hdot hdotDot hslash hshort place target hentry =>
    cases hwalk
    exact .link ⟨hdot, hdotDot, hshort⟩ hslash hentry
  | case8 position name hdot hdotDot hshort place data hentry hslash =>
    cases hwalk
    refine .arrive ⟨hdot, hdotDot, hshort⟩ hslash fun entry hsome => ⟨data, ?_⟩
    exact Option.some.inj (hsome.symm.trans hentry)
  | case9 => cases hwalk
  | case10 position name hdot hdotDot hshort place hentry hslash =>
    cases hwalk
    refine .arrive ⟨hdot, hdotDot, hshort⟩ hslash fun entry hsome => ?_
    rw [hentry] at hsome
    cases hsome
  | case11 => cases hwalk

theorem walk_of_isLookedUp {name : Bytes} {rest : List Bytes} (hname : IsLookedUp name)
    (hslash : ¬ (rest = [] ∧ slashFollows)) :
    walk entries slashFollows position (name :: rest) =
      match entries[position ++ [name]]? with
      | some .directory => walk entries slashFollows (position ++ [name]) rest
      | some (.link target) => .ok (.link position target ⟨rest, slashFollows⟩)
      | some (.file _) =>
        if rest = [] then .ok (.arrived (position ++ [name])) else .error .notADirectory
      | none => if rest = [] then .ok (.arrived (position ++ [name])) else .error .notFound := by
  rw [walk, if_neg hname.ne_dot, if_neg hname.ne_dotDot, if_neg hslash]
  exact if_neg hname.short

theorem walk_of_walks {halt : Halt} (hwalks : Walks entries slashFollows position names halt) :
    walk entries slashFollows position names = .ok halt := by
  induction hwalks with
  | stay _ ih => rw [walk, if_pos rfl, ih]
  | up _ ih => rw [walk, if_neg (by decide), if_pos rfl, ih]
  | enter hname hslash hdirectory _ ih => rw [walk_of_isLookedUp hname hslash, hdirectory, ih]
  | link hname hslash hlink => rw [walk_of_isLookedUp hname hslash, hlink]
  | @arrive position name hname hslash hfree =>
    rw [walk_of_isLookedUp hname hslash]
    cases hentry : entries[position ++ [name]]? with
    | none => rfl
    | some entry =>
      obtain ⟨data, rfl⟩ := hfree entry hentry
      rfl

theorem Walks.isFree (hwalks : Walks entries slashFollows position names (.arrived place)) :
    IsFree entries place := by
  generalize hhalt : Halt.arrived place = halt at hwalks
  induction hwalks with
  | stay _ ih => exact ih hhalt
  | up _ ih => exact ih hhalt
  | enter _ _ _ _ ih => exact ih hhalt
  | link => cases hhalt
  | arrive _ _ hfree =>
    cases hhalt
    exact hfree

/-- Only files and free places are overwritten by a file that is put at a free place. -/
theorem getElem?_insert_of_not_free {entry : Entry} (hfree : IsFree entries place)
    (hentry : entries[names]? = some entry) (hother : ∀ data, entry ≠ .file data) :
    (entries.insert place (.file data))[names]? = some entry := by
  have hne : place ≠ names := by
    rintro rfl
    obtain ⟨data, hfile⟩ := hfree entry hentry
    exact hother data hfile
  rw [Std.ExtTreeMap.getElem?_insert, if_neg (by simpa using hne), hentry]

theorem IsFree.insert {other : Place} (hfree : IsFree entries other) :
    IsFree (entries.insert place (.file data)) other := by
  intro entry hentry
  rw [Std.ExtTreeMap.getElem?_insert] at hentry
  split at hentry
  · exact ⟨data, (Option.some.inj hentry).symm⟩
  · exact hfree entry hentry

/-- A file that is put at a free place is in the way of no step. -/
theorem Walks.insert {halt : Halt} (hfree : IsFree entries place)
    (hwalks : Walks entries slashFollows position names halt) :
    Walks (entries.insert place (.file data)) slashFollows position names halt := by
  induction hwalks with
  | stay _ ih => exact .stay ih
  | up _ ih => exact .up ih
  | enter hname hslash hdirectory _ ih =>
    exact .enter hname hslash (getElem?_insert_of_not_free hfree hdirectory nofun) ih
  | link hname hslash hlink =>
    exact .link hname hslash (getElem?_insert_of_not_free hfree hlink nofun)
  | arrive hname hslash hthere => exact .arrive hname hslash hthere.insert

/-! ## Following links -/

section Resolve

variable {links : Nat} {route : Route}

/-- The route leads from the position to the place, through so many links at most. -/
inductive Leads (entries : Std.ExtTreeMap Place Entry) : Nat → Place → Route → Place → Prop
  | arrive {links : Nat} {position place : Place} {route : Route}
      (hwalks : Walks entries route.slashFollows position route.names (.arrived place)) :
      Leads entries links position route place
  | follow {links : Nat} {position before place : Place} {route rest : Route}
      {target : FilePath}
      (hwalks : Walks entries route.slashFollows position route.names (.link before target rest))
      (hleads : Leads entries links (start target before)
        ((Route.ofPath target).followedBy rest) place) :
      Leads entries (links + 1) position route place

theorem leads_of_resolve (hresolve : resolve entries links position route = .ok place) :
    Leads entries links position route place := by
  fun_induction resolve entries links position route with
  | case1 => cases hresolve
  | case2 links position route there hwalk =>
    cases hresolve
    exact .arrive (walks_of_walk hwalk)
  | case3 => cases hresolve
  | case4 position route before target rest hwalk links ih =>
    exact .follow (walks_of_walk hwalk) (ih hresolve)

theorem resolve_of_leads (hleads : Leads entries links position route place) :
    resolve entries links position route = .ok place := by
  induction hleads with
  | arrive hwalks => rw [resolve.eq_def, walk_of_walks hwalks]
  | follow hwalks _ ih =>
    rw [resolve.eq_def, walk_of_walks hwalks]
    exact ih

theorem Leads.isFree (hleads : Leads entries links position route place) :
    IsFree entries place := by
  induction hleads with
  | arrive hwalks => exact hwalks.isFree
  | follow _ _ ih => exact ih

theorem Leads.insert {other : Place} (hfree : IsFree entries other)
    (hleads : Leads entries links position route place) :
    Leads (entries.insert other (.file data)) links position route place := by
  induction hleads with
  | arrive hwalks => exact .arrive (hwalks.insert hfree)
  | follow hwalks _ ih => exact .follow (hwalks.insert hfree) ih

end Resolve

/-! ## Writing -/

variable {fileSystem : FileSystem} {path : FilePath}

theorem locate_eq_ok_iff :
    fileSystem.locate path = .ok place ↔
      path.bytes ≠ [] ∧ ¬ longestPath < path.bytes.length ∧
        resolve fileSystem.entries mostLinks (start path fileSystem.workingDirectory)
          (.ofPath path) = .ok place := by
  unfold locate
  split_ifs with hempty hlong
  · simp [hempty]
  · simp [hlong]
  · simp [hempty, hlong]

theorem locate_put (hlocate : fileSystem.locate path = .ok place) :
    (fileSystem.put place data).locate path = .ok place := by
  rw [locate_eq_ok_iff] at hlocate ⊢
  obtain ⟨hempty, hlong, hresolve⟩ := hlocate
  have hleads := leads_of_resolve hresolve
  exact ⟨hempty, hlong, resolve_of_leads (hleads.insert hleads.isFree)⟩

/-- The path leads to the place, before and after; the file there holds the data after, and
nothing else differs. -/
structure SavedAt (place : Place) (path : FilePath) (data : Bytes) (before after : FileSystem) :
    Prop where
  located_before : before.locate path = .ok place
  located_after : after.locate path = .ok place
  holds : after.entries[place]? = some (.file data)
  keeps : ∀ other, other ≠ place → after.entries[other]? = before.entries[other]?
  keeps_directory : after.workingDirectory = before.workingDirectory

theorem savedAt_put (hlocate : fileSystem.locate path = .ok place) :
    SavedAt place path data fileSystem (fileSystem.put place data) where
  located_before := hlocate
  located_after := locate_put hlocate
  holds := by simp [put]
  keeps other hother := by
    rw [put, Std.ExtTreeMap.getElem?_insert, if_neg (by simpa using Ne.symm hother)]
  keeps_directory := rfl

/-- What comes of writing the data to the path. -/
inductive Writes (before : FileSystem) (path : FilePath) (data : Bytes) : Writing → Prop
  | notOpened {error : WriteError} (hopen : before.openFile path = .error error) :
      Writes before path data ⟨.error error, before⟩
  | brokenOff {taken : Nat} {error : WriteError} {place : Place} {after : FileSystem}
      (hfault : before.fault? = some (.brokenOff taken error))
      (hsaved : SavedAt place path (data.take taken) before after) :
      Writes before path data ⟨.error error, after⟩
  | whole {place : Place} {after : FileSystem} (hfault : before.fault? = none)
      (hsaved : SavedAt place path data before after) : Writes before path data ⟨.ok (), after⟩

theorem writes_write (before : FileSystem) (path : FilePath) (data : Bytes) :
    Writes before path data (before.write path data) := by
  unfold write
  cases hopen : before.openFile path with
  | error error => exact .notOpened hopen
  | ok place =>
    unfold openFile at hopen
    unfold fill
    cases hfault : before.fault? with
    | none =>
      rw [hfault] at hopen
      exact .whole hfault (savedAt_put hopen)
    | some fault =>
      rw [hfault] at hopen
      cases fault with
      | refused error => cases hopen
      | brokenOff taken error => exact .brokenOff hfault (savedAt_put hopen)

end DemuxSession.FileSystem
