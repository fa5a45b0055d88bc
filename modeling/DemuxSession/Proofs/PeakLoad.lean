import DemuxSession.Proofs.Release
import DemuxSession.Proofs.Sessions
import Mathlib.Data.List.Induction
import Mathlib.Data.List.Infix
import Mathlib.Order.Bounds.Basic

/-!
# The slots of the registry are its peak load

A session that ends leaves its slot to the next one, and a slot is added only if no slot is
free.  So the registry has as many slots as it ever had sessions at once, no more and no
less, whatever was opened and released in between, and by whom.

* One operation: the slots afterwards are the slots before, or the sessions then, if these
  are more (`Registry.Fits`).  This is kept by opening a session, and everything else
  changes no number of slots.
* One step: it makes one request of the backend at most (`backend_step`), so the same is
  true of it (`fits_step`).  With two operations in a step the sessions in between would
  have to be looked at as well.
* A run: the slots are the greatest number of sessions in any of its states
  (`isGreatest_loads`).  A token is the number of a slot, so no token is greater.
-/

namespace DemuxSession

variable {State Call Command Report : Type}

/-! ## Slots -/

namespace Slab

variable {Item : Type} (slab : Slab Item)

theorem count_le_capacity : slab.count ≤ slab.capacity := List.countP_le_length

/-- A slot is added only if none was free. -/
theorem capacity_insert (item : Item) :
    (slab.insert item).capacity = max slab.capacity (slab.insert item).count := by
  by_cases hfree : slab.nextSlot < slab.slots.length
  · have hcapacity : (slab.insert item).capacity = slab.capacity := by
      simp [insert, hfree, capacity]
    have hcount := (slab.insert item).count_le_capacity
    omega
  · have hcapacity : (slab.insert item).capacity = slab.capacity + 1 := by
      simp [insert, hfree, capacity]
    -- All slots are taken, so there are as many items as slots.
    have hfull : slab.count = slab.capacity := by
      refine List.countP_eq_length.mpr fun slot hslot => ?_
      by_contra hnone
      exact hfree (List.findIdx_lt_length.mpr ⟨slot, hslot, by simpa using hnone⟩)
    rw [count_insert, hcapacity]
    omega

theorem capacity_remove (slot : Nat) : (slab.remove slot).capacity = slab.capacity :=
  List.length_set

theorem nextSlot_lt_capacity_insert (item : Item) :
    slab.nextSlot < (slab.insert item).capacity := by
  by_contra hout
  have hnone : (slab.insert item).slots[slab.nextSlot]? = none :=
    List.getElem?_eq_none (Nat.le_of_not_lt hout)
  have hitem : (slab.insert item).get? slab.nextSlot = some item := by
    rw [get?_insert, if_pos rfl]
  simp [get?, hnone] at hitem

end Slab

/-! ## One operation -/

namespace Registry

/-- The slots are those there were before, or as many as there are sessions if these are
more. -/
def Fits (registry registry' : Registry) : Prop :=
  registry'.sessions.capacity = max registry.sessions.capacity registry'.sessionCount

theorem Fits.of_sessions_eq {registry registry' : Registry}
    (hsessions : registry'.sessions = registry.sessions) : registry.Fits registry' := by
  have hcount := registry.sessions.count_le_capacity
  unfold Fits sessionCount
  rw [hsessions]
  omega

theorem fits_of_serves {registry registry' : Registry} {exchange : Exchange}
    (hserves : Serves registry exchange registry') : registry.Fits registry' := by
  cases hserves with
  | opened => exact registry.sessions.capacity_insert _
  | @ended token hlive =>
    have hcapacity := registry.sessions.capacity_remove token.slot
    have hcount := (registry.sessions.remove token.slot).count_le_capacity
    show (registry.sessions.remove token.slot).capacity =
      max registry.sessions.capacity (registry.sessions.remove token.slot).count
    omega
  | refused | unknown | metadata | cover => exact .of_sessions_eq rfl

/-- No slot is given up, and all tokens that are given are numbers of slots. -/
def GivesSlots (registry : Registry) (exchanges : List Exchange) (registry' : Registry) : Prop :=
  registry.sessions.capacity ≤ registry'.sessions.capacity ∧
    ∀ exchange ∈ exchanges, ∀ token, exchange.gives token →
      token.value ≤ registry'.sessions.capacity

theorem givesSlots_composes : Composes GivesSlots where
  nil registry := ⟨Nat.le_refl _, nofun⟩
  append hfirst hsecond := by
    refine ⟨hfirst.1.trans hsecond.1, fun exchange hmem token hgives => ?_⟩
    rcases List.mem_append.mp hmem with hmem | hmem
    · exact (hfirst.2 exchange hmem token hgives).trans hsecond.1
    · exact hsecond.2 exchange hmem token hgives

theorem recorded_keeps_givesSlots : (@backend Call).recorded.Keeps GivesSlots := by
  refine recorded_keeps_of_serves fun {registry exchange registry'} hserves => ?_
  have hfits := fits_of_serves hserves
  refine ⟨hfits ▸ Nat.le_max_left _ _, fun other hmem token hgives => ?_⟩
  obtain rfl := List.mem_singleton.mp hmem
  cases hserves with
  | opened =>
    obtain rfl := of_decide_eq_true hgives
    exact registry.sessions.nextSlot_lt_capacity_insert _
  | refused | ended | unknown | metadata | cover => simp [Exchange.gives] at hgives

theorem recorded_perform_keeps_givesSlots (command : Registry.Command) :
    ((@service Call).recorded.perform command).Keeps GivesSlots := by
  intro registry
  have hsessions := @sessions_perform Call command registry
  refine ⟨?_, nofun⟩
  show registry.sessions.capacity ≤
    ((perform command : Action Registry Call Registry.Report) registry).state.sessions.capacity
  rw [hsessions]

end Registry

/-! ## One step -/

namespace Client

/-- A step makes one request of the backend at most, or it is a command. -/
theorem backend_step (service : Service State Call Command Report) (next : Step Command)
    (client : Client State) :
    let reached := (step service next client).state.backend
    reached = client.backend ∨
      (∃ request, reached = (service.backend.answer request client.backend).state) ∨
      ∃ command, reached = (service.perform command client.backend).state := by
  intro reached
  cases next with
  | openHandle number path =>
    cases hheld : client.handles[number]? with
    | some handle => exact .inl (by simp only [reached, step_openHandle_of_held path hheld])
    | none =>
      refine .inr (.inl ⟨.allocate path, ?_⟩)
      cases htoken : (service.backend.allocate path client.backend).value with
      | some token => simp only [reached, step_openHandle_of_token hheld htoken]; rfl
      | none => simp only [reached, step_openHandle_of_refusal hheld htoken]; rfl
  | useHandle number use =>
    cases hheld : client.handles[number]? with
    | none => exact .inl (by simp only [reached, step_useHandle_of_free use hheld])
    | some handle =>
      simp only [reached, step_useHandle_of_held use hheld]
      cases handle with
      | closed => cases use <;> exact .inl rfl
      | opened token =>
        cases use with
        | isOpen | describe | forget => exact .inl rfl
        | metadata | thermal =>
          refine .inr (.inl ⟨.fetchMetadata token, ?_⟩)
          simp [useHandle, onBackend, Handle.thermal, Handle.metadata, RawMetadata.state_decode,
            Backend.answer]
        | cover => exact .inr (.inl ⟨.fetchCover token, rfl⟩)
        | close | drop => exact .inr (.inl ⟨.release token, rfl⟩)
  | request request => exact .inr (.inl ⟨request, rfl⟩)
  | command command => exact .inr (.inr ⟨command, rfl⟩)

theorem fits_step (next : Step Registry.Command) (client : Client Registry) :
    client.backend.Fits (step (@Registry.service Call) next client).state.backend := by
  rcases backend_step (@Registry.service Call) next client with
    hsame | ⟨request, hanswer⟩ | ⟨command, hperform⟩
  · rw [hsame]
    exact .of_sessions_eq rfl
  · rw [hanswer]
    exact Registry.fits_of_serves (Registry.serves request client.backend)
  · rw [hperform]
    exact .of_sessions_eq (Registry.sessions_perform command client.backend)

/-! ## Runs -/

/-- How many sessions are live in the states of a run, from its beginning to its end. -/
def loads (service : Service Registry Call Command Report) (client : Client Registry)
    (steps : List (Step Command)) : Set Nat :=
  {load | ∃ earlier, earlier <+: steps ∧
    (after service client earlier).backend.sessionCount = load}

theorem loads_concat (service : Service Registry Call Command Report) (client : Client Registry)
    (steps : List (Step Command)) (next : Step Command) :
    loads service client (steps ++ [next]) =
      insert (after service client (steps ++ [next])).backend.sessionCount
        (loads service client steps) := by
  ext load
  constructor
  · rintro ⟨earlier, hearlier, hload⟩
    rcases List.prefix_concat_iff.mp hearlier with rfl | hearlier
    · exact .inl hload.symm
    · exact .inr ⟨earlier, hearlier, hload⟩
  · rintro (rfl | ⟨earlier, hearlier, hload⟩)
    · exact ⟨_, List.prefix_rfl, rfl⟩
    · exact ⟨earlier, List.prefix_concat_iff.mpr (.inr hearlier), hload⟩

/-- There are as many slots as there were ever sessions at once. -/
theorem isGreatest_loads (steps : List (Step Registry.Command)) :
    let start := fresh Registry.empty
    IsGreatest (loads (@Registry.service Call) start steps)
      (after (@Registry.service Call) start steps).backend.sessions.capacity := by
  intro start
  induction steps using List.reverseRecOn with
  | nil =>
    refine ⟨⟨[], List.prefix_rfl, rfl⟩, ?_⟩
    rintro load ⟨earlier, hearlier, rfl⟩
    rw [List.prefix_nil.mp hearlier]
    rfl
  | append_singleton steps next ih =>
    have hfits := @fits_step Call next (after (@Registry.service Call) start steps)
    have hafter : after (@Registry.service Call) start (steps ++ [next]) =
        (step (@Registry.service Call) next
          (after (@Registry.service Call) start steps)).state :=
      after_append _ start steps [next]
    rw [loads_concat, hafter, hfits, max_comm]
    exact ih.insert _

theorem value_le_capacity (steps : List (Step Registry.Command)) {exchange : Exchange}
    {token : Token} (hgives : exchange.gives token)
    (hmem : exchange ∈ (run (@Registry.service Call).recorded (fresh Registry.empty) steps).flatMap
      Outcome.calls) :
    token.value ≤
      (after (@Registry.service Call) (fresh Registry.empty) steps).backend.sessions.capacity := by
  have hgiven := run_keeps Registry.recorded_keeps_givesSlots
    (@Registry.recorded_perform_keeps_givesSlots Call) Registry.givesSlots_composes steps
    (fresh Registry.empty)
  rw [← backend_after_recorded]
  exact hgiven.2 exchange hmem token hgives

/-! ## The main statement -/

/-- **The slots are the peak load.**  After any run on the registry, with steps on handles,
commands, and requests past the handles with any tokens, there are as many slots as the
greatest number of sessions that were live at once in the run, up to then.

So the tokens that were given, to handles or past them, are between one and that number, in
which the session of the token itself is counted.  And as long as the sessions that are live
do not become more than there ever were, no slot is added and no greater token is given, over
however many sessions. -/
theorem slots_are_peak_load (steps : List (Step Registry.Command)) :
    let service := @Registry.service Call
    let start := fresh Registry.empty
    let slots := fun steps => (after service start steps).backend.sessions.capacity
    let exchanges := fun steps => (run service.recorded start steps).flatMap Outcome.calls
    IsGreatest (loads service start steps) (slots steps) ∧
    (∀ exchange ∈ exchanges steps, ∀ token, exchange.gives token →
      1 ≤ token.value ∧ token.value ≤ slots steps) ∧
    ∀ later, (∀ load ∈ loads service start (steps ++ later), load ≤ slots steps) →
      slots (steps ++ later) = slots steps ∧
      ∀ exchange ∈ exchanges (steps ++ later), ∀ token, exchange.gives token →
        token.value ≤ slots steps := by
  intro service start slots exchanges
  have hgreatest : ∀ steps, IsGreatest (loads service start steps) (slots steps) :=
    isGreatest_loads
  refine ⟨hgreatest steps, fun exchange hmem token hgives =>
    ⟨token.positive, value_le_capacity steps hgives hmem⟩, fun later hloads => ?_⟩
  -- The load that was greatest before is one of the loads of the longer run.
  have hbefore : slots steps ∈ loads service start (steps ++ later) := by
    obtain ⟨earlier, hearlier, hload⟩ := (hgreatest steps).1
    exact ⟨earlier, hearlier.trans (List.prefix_append steps later), hload⟩
  have hslots : slots (steps ++ later) = slots steps :=
    Nat.le_antisymm (hloads _ (hgreatest (steps ++ later)).1)
      ((hgreatest (steps ++ later)).2 hbefore)
  refine ⟨hslots, fun exchange hmem token hgives => ?_⟩
  exact (value_le_capacity (steps ++ later) hgives hmem).trans_eq hslots

/-- The session of the first handle is released past it and its slot given to the second
handle, whose session the first one ends by being closed: in all there were two sessions at
once, and two slots serve however many come. -/
theorem slots_are_peak_load_reused :
    let path : FilePath := ⟨[97]⟩
    let steps : List (Step Registry.Command) :=
      [.command (.insertEmpty path), .openHandle 1 path, .request (.allocate path),
        .request (.release (.ofSlot 0)), .openHandle 2 path, .useHandle 1 .close]
    let later : List (Step Registry.Command) :=
      [.request (.allocate path), .request (.release (.ofSlot 1)), .request (.release (.ofSlot 1)),
        .openHandle 3 path]
    let given : Exchange := ⟨.allocate path, .token (some (.ofSlot 1))⟩
    (∀ load ∈ loads (@Registry.service Empty) (fresh Registry.empty) (steps ++ later), load ≤ 2) ∧
      given ∈ (run (@Registry.service Empty).recorded (fresh Registry.empty)
        (steps ++ later)).flatMap Outcome.calls ∧
      (Token.ofSlot 1).value ≤ 2 ∧
      (after (@Registry.service Empty) (fresh Registry.empty)
        (steps ++ later)).backend.sessions.capacity = 2 := by
  intro path steps later given
  have hloads : ∀ load ∈ loads (@Registry.service Empty) (fresh Registry.empty) (steps ++ later),
      load ≤ 2 := by
    have hinits : ∀ earlier ∈ (steps ++ later).inits,
        (after (@Registry.service Empty) (fresh Registry.empty)
          earlier).backend.sessionCount ≤ 2 := by
      decide
    rintro load ⟨earlier, hearlier, rfl⟩
    exact hinits earlier ((List.mem_inits earlier _).mpr hearlier)
  have hgiven : given ∈ (run (@Registry.service Empty).recorded (fresh Registry.empty)
      (steps ++ later)).flatMap Outcome.calls := by decide
  have hslots : (after (@Registry.service Empty) (fresh Registry.empty)
      steps).backend.sessions.capacity = 2 := by decide
  obtain ⟨-, -, hlater⟩ := @slots_are_peak_load Empty steps
  simp only [hslots] at hlater
  obtain ⟨hcapacity, htokens⟩ := hlater later hloads
  exact ⟨hloads, hgiven, htokens given hgiven (.ofSlot 1) rfl, hcapacity⟩

end Client

end DemuxSession
