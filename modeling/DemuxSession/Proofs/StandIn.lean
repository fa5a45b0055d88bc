import DemuxSession.Proofs.LibraryReads
import DemuxSession.Proofs.Sessions
import Mathlib.Data.List.TakeWhile

/-!
# The registry stands in for the library

A handle on a registered file and a handle on a file that the demuxer library tells the
same about cannot be told apart by what they answer, before they are closed and after.

The two get there differently.  The registry looks the file up and gives what was
registered.  The library hands over arrays of strings that end at their first zero byte,
counts them, and tells a cover in two calls.  So the strings must not hold a zero byte,
the counts must fit their variables, and a cover must not be empty; then the replies
tell what was registered (`raw?_telling`, `toldCover?_of_tells`).  A list without pairs
comes back as no list at all, which decodes alike.

`Alongside` relates the two handles while replies are used up, one use after the other.
-/

namespace DemuxSession

variable {Call : Type}

theorem Registry.sessionFile?_insert (registry : Registry) (path : FilePath) :
    sessionFile? { registry with sessions := registry.sessions.insert path }
        (.ofSlot registry.sessions.nextSlot) = registry.file? path := by
  have hslot : (registry.sessions.insert path).get? registry.sessions.nextSlot = some path := by
    rw [Slab.get?_insert, if_pos rfl]
  unfold sessionFile?
  rw [Token.slot_ofSlot, hslot]
  rfl

/-! ## Replies that tell of a file -/

/-- The items begin with so many that have the property. -/
def BeginsWith {Item : Type} (property : Item → Prop) (count : Nat) (items : List Item) : Prop :=
  ∃ front rest, items = front ++ rest ∧ front.length = count ∧ ∀ item ∈ front, property item

theorem BeginsWith.uncons {Item : Type} {property : Item → Prop} {count : Nat}
    {items : List Item} (hbegins : BeginsWith property (count + 1) items) :
    ∃ first rest, items = first :: rest ∧ property first ∧ BeginsWith property count rest := by
  obtain ⟨front, rest, rfl, hlength, hfront⟩ := hbegins
  cases front with
  | nil => cases hlength
  | cons first front =>
    refine ⟨first, front ++ rest, rfl, hfront first List.mem_cons_self, front, rest, rfl, ?_, ?_⟩
    · exact Nat.succ.inj hlength
    · exact fun item hitem => hfront item (List.mem_cons_of_mem _ hitem)

/-- Whether a use of a handle reads the metadata. -/
def HandleUse.readsMetadata : HandleUse → Bool
  | .metadata | .thermal => true
  | .isOpen | .cover | .describe | .close | .drop | .forget => false

namespace Library

/-- The reply that tells the pairs of a list. -/
def StringsReply.telling (raw : RawMetadata) : StringsReply :=
  ⟨0, some (.ofNat raw.length), some (raw.map fun pair => some pair.1),
    some (raw.map fun pair => some pair.2)⟩

/-- The reply tells that there is no cover, or tells the cover. -/
def CoverReply.Tells (reply : CoverReply) : Option Cover → Prop
  | none => reply.status = 0 ∧ reply.size? = some 0
  | some cover =>
    reply = ⟨0, some (.ofNat cover.data.length), some cover.kind.code, cover.data⟩

/-- The number of calls that it takes to read a cover. -/
def callsForCover : Option Cover → Nat
  | none => 1
  | some _ => 2

/-- The next replies tell of a file with the metadata and the cover, as often as the
uses of a handle ask. -/
structure Replies.TellOf (replies : Replies) (raw : RawMetadata) (cover? : Option Cover)
    (uses : List HandleUse) : Prop where
  strings : BeginsWith (· = .telling raw) (uses.countP HandleUse.readsMetadata) replies.strings
  covers : BeginsWith (CoverReply.Tells · cover?) (uses.count .cover * callsForCover cover?)
    replies.covers

/-- What the library can hand over unchanged. -/
structure Transferable (raw : RawMetadata) (cover? : Option Cover) : Prop where
  noZero : ∀ pair ∈ raw, 0 ∉ pair.1 ∧ 0 ∉ pair.2
  countable : raw.length < UInt32.size
  cover : ∀ cover, cover? = some cover → cover.data ≠ [] ∧ cover.data.length < UInt32.size

variable {raw : RawMetadata} {cover? : Option Cover}

theorem untilZero_eq_self {bytes : Bytes} (hzero : 0 ∉ bytes) : bytes.untilZero = bytes := by
  refine List.takeWhile_eq_self_iff.mpr fun byte hbyte => ?_
  have hne : byte ≠ 0 := fun heq => hzero (heq ▸ hbyte)
  simpa using hne

theorem padded_length_self (bytes : Bytes) : bytes.padded bytes.length = bytes := by
  simp [Bytes.padded]

theorem keptPairs_eq_self (hzero : ∀ pair ∈ raw, 0 ∉ pair.1 ∧ 0 ∉ pair.2) :
    keptPairs raw.length (raw.map fun pair => some pair.1) (raw.map fun pair => some pair.2) =
      raw := by
  induction raw with
  | nil => rfl
  | cons pair rest ih =>
    obtain ⟨hkey, hvalue⟩ := hzero pair List.mem_cons_self
    have hrest := ih fun later hlater => hzero later (List.mem_cons_of_mem _ hlater)
    unfold keptPairs at hrest ⊢
    simp [keptPair?, untilZero_eq_self hkey, untilZero_eq_self hvalue, hrest]

theorem raw?_telling (htransferable : Transferable raw cover?) :
    (StringsReply.telling raw).raw? = if raw = [] then none else some raw := by
  have hcount : (StringsReply.telling raw).count.toNat = raw.length :=
    UInt32.toNat_ofNat_of_lt htransferable.countable
  by_cases hraw : raw = []
  · rw [if_pos hraw, hraw]
    rfl
  · have hne : (StringsReply.telling raw).count ≠ 0 := by
      intro hzero
      rw [hzero] at hcount
      exact hraw (List.eq_nil_of_length_eq_zero hcount.symm)
    have hcounted :
        ¬ ((StringsReply.telling raw).status ≠ 0 ∨ (StringsReply.telling raw).count = 0) :=
      not_or.mpr ⟨fun hstatus => hstatus rfl, hne⟩
    rw [if_neg hraw, StringsReply.raw?, if_neg hcounted, hcount]
    exact congrArg some (keptPairs_eq_self htransferable.noZero)

theorem value_decode_telling {State State' Call' : Type}
    (htransferable : Transferable raw cover?) (state : State) (state' : State') :
    (RawMetadata.decode (some raw) state : Outcome State Call MetadataMap).value =
      (RawMetadata.decode (StringsReply.telling raw).raw? state' :
        Outcome State' Call' MetadataMap).value := by
  rw [raw?_telling htransferable]
  by_cases hraw : raw = []
  · rw [if_pos hraw, hraw]
    rfl
  · rw [if_neg hraw]
    exact RawMetadata.value_decode_eq (some raw) state state'

/-- The replies tell the cover: an empty one would look like none at all. -/
theorem toldCover?_of_tells (htransferable : Transferable raw cover?) {replies : Replies}
    (hfirst : replies.nextCover.Tells cover?)
    (hsecond : ∀ cover, cover? = some cover → replies.afterCover.nextCover.Tells cover?) :
    replies.toldCover? = cover? ∧
      (replies.nextCover.announced?.isSome ↔ cover?.isSome) := by
  unfold Replies.toldCover?
  cases cover? with
  | none =>
    obtain ⟨-, hsize⟩ := hfirst
    have hnone : replies.nextCover.announced? = none := by
      simp [CoverReply.announced?, CoverVariables.after, hsize]
    simp [hnone]
  | some cover =>
    obtain ⟨hdata, hbound⟩ := htransferable.cover cover rfl
    have hfirst : replies.nextCover = _ := hfirst
    have hsecond : replies.afterCover.nextCover = _ := hsecond cover rfl
    have hlength : (UInt32.ofNat cover.data.length).toNat = cover.data.length :=
      UInt32.toNat_ofNat_of_lt hbound
    have hne : UInt32.ofNat cover.data.length ≠ 0 := by
      intro hzero
      rw [hzero] at hlength
      exact hdata (List.eq_nil_of_length_eq_zero hlength.symm)
    have hannounced : replies.nextCover.announced? =
        some ⟨.ofNat cover.data.length, cover.kind.code⟩ := by
      rw [hfirst]
      simp [CoverReply.announced?, CoverVariables.after, hne]
    have hcover : replies.afterCover.nextCover.cover?
        ⟨.ofNat cover.data.length, cover.kind.code⟩ = some cover := by
      rw [hsecond]
      simp [CoverReply.cover?, CoverVariables.after, hlength, padded_length_self]
    simp [hannounced, hcover]

/-! ## Reads along the replies -/

variable {replies : Replies} {use : HandleUse} {rest : List HandleUse}

/-- A use that reads nothing through the library needs no reply. -/
theorem Replies.TellOf.of_cons (htell : replies.TellOf raw cover? (use :: rest))
    (hmetadata : use.readsMetadata = false) (hcover : use ≠ .cover) :
    replies.TellOf raw cover? rest where
  strings := by
    have hstrings := htell.strings
    rwa [List.countP_cons_of_neg (by simp [hmetadata])] at hstrings
  covers := by
    have hcovers := htell.covers
    rwa [List.count_cons_of_ne hcover] at hcovers

theorem fetchMetadata_of_tellOf (htell : replies.TellOf raw cover? (use :: rest))
    (hreads : use.readsMetadata = true) (token : Token) :
    (fetchMetadata token replies).value = (StringsReply.telling raw).raw? ∧
      (fetchMetadata token replies).state.TellOf raw cover? rest := by
  have hstrings := htell.strings
  rw [List.countP_cons_of_pos hreads] at hstrings
  obtain ⟨first, strings, hqueue, rfl, hrest⟩ := hstrings.uncons
  have hcovers := htell.covers
  have hne : use ≠ .cover := by
    rintro rfl
    cases hreads
  rw [List.count_cons_of_ne hne] at hcovers
  rw [fetchMetadata_apply, Replies.nextStrings, hqueue]
  exact ⟨rfl, hrest, hcovers⟩

theorem fetchCover_of_tellOf (htransferable : Transferable raw cover?)
    (htell : replies.TellOf raw cover? (.cover :: rest)) (token : Token) :
    (fetchCover token replies).value = cover? ∧
      (fetchCover token replies).state.TellOf raw cover? rest := by
  have hstrings : BeginsWith (· = .telling raw) (rest.countP HandleUse.readsMetadata)
      replies.strings := htell.strings
  have hcovers := htell.covers
  rw [List.count_cons_self, Nat.succ_mul] at hcovers
  rw [value_fetchCover]
  cases cover? with
  | none =>
    obtain ⟨first, covers, hqueue, hfirst, hrest⟩ := hcovers.uncons
    have hnext : replies.nextCover = first := by rw [Replies.nextCover, hqueue]; rfl
    obtain ⟨htold, hannounced⟩ := toldCover?_of_tells htransferable (hnext ▸ hfirst) (by simp)
    have hnone : replies.nextCover.announced? = none := by simpa using hannounced
    rw [fetchCover_of_not_announced token hnone, Replies.afterCover, hqueue]
    exact ⟨htold, hstrings, hrest⟩
  | some cover =>
    obtain ⟨first, covers, hqueue, hfirst, hcovers⟩ := hcovers.uncons
    obtain ⟨second, covers, rfl, hsecond, hrest⟩ := hcovers.uncons
    have hnext : replies.nextCover = first := by rw [Replies.nextCover, hqueue]; rfl
    have hnext' : replies.afterCover.nextCover = second := by
      rw [Replies.nextCover, Replies.afterCover, hqueue]
      rfl
    obtain ⟨htold, hannounced⟩ := toldCover?_of_tells htransferable (hnext ▸ hfirst)
      fun _ _ => hnext' ▸ hsecond
    obtain ⟨announced, hannounced⟩ := Option.isSome_iff_exists.mp (hannounced.mpr rfl)
    rw [fetchCover_of_announced token hannounced, Replies.afterCover, Replies.afterCover, hqueue]
    exact ⟨htold, hstrings, hrest⟩

end Library

/-! ## Two handles side by side -/

namespace Client

/-- The handles are open on a file and on replies that tell of it, or neither of them is
open. -/
inductive Alongside (number : Int) (raw : RawMetadata) (cover? : Option Cover)
    (uses : List HandleUse) (memory : Client Registry) (library : Client Library.Replies) : Prop
  | opened {token token' : Token}
      (hmemory : memory.handles[number]? = some (.opened token))
      (hlibrary : library.handles[number]? = some (.opened token'))
      (hfile : memory.backend.sessionFile? token = some ⟨some raw, cover?⟩)
      (htell : library.backend.TellOf raw cover? uses)
  | ended
      (hsame : library.handles[number]? = memory.handles[number]?)
      (hended : memory.handles[number]?.bind Handle.token? = none)

section Uses

variable {number : Int} {raw : RawMetadata} {cover? : Option Cover} {use : HandleUse}
  {rest : List HandleUse} {memory : Client Registry} {library : Client Library.Replies}

theorem step_of_ended (use : HandleUse)
    (hsame : library.handles[number]? = memory.handles[number]?)
    (hended : memory.handles[number]?.bind Handle.token? = none) :
    let first := step (@Registry.backend Call).alone (.useHandle number use) memory
    let second := step Library.backend.alone (.useHandle number use) library
    first.value = second.value ∧ Alongside number raw cover? rest first.state second.state := by
  intro first second
  cases hheld : memory.handles[number]? with
  | none =>
    have hfirst : first = _ := step_useHandle_of_free use hheld
    have hsecond : second = _ := step_useHandle_of_free use (hsame.trans hheld)
    rw [hfirst, hsecond]
    exact ⟨rfl, .ended hsame hended⟩
  | some handle =>
    rw [hheld] at hended
    cases handle with
    | opened token => simp [Handle.token?] at hended
    | closed =>
      have hheld' : library.handles[number]? = some .closed := hsame.trans hheld
      cases use with
      | isOpen | metadata | thermal | cover | describe =>
        have hfirst : first = _ := step_useHandle_of_held _ hheld
        have hsecond : second = _ := step_useHandle_of_held _ hheld'
        rw [hfirst, hsecond]
        refine ⟨rfl, .ended hsame ?_⟩
        simp [useHandle, onBackend, Handle.metadata, Handle.thermal, Handle.cover, hheld,
          Handle.token?]
      | close =>
        have hfirst : first = _ := step_close_of_closed hheld
        have hsecond : second = _ := step_close_of_closed hheld'
        rw [hfirst, hsecond]
        exact ⟨rfl, .ended hsame (by simp [hheld, Handle.token?])⟩
      | drop | forget =>
        have hfirst : first = _ := step_letGo_of_closed rfl hheld
        have hsecond : second = _ := step_letGo_of_closed rfl hheld'
        rw [hfirst, hsecond]
        exact ⟨rfl, .ended (by simp) (by simp)⟩

/-- Open handles answer the same, and as long as they are open the replies go on telling
of the file. -/
theorem step_of_opened {token token' : Token} (htransferable : Library.Transferable raw cover?)
    (hdescribe : use ≠ .describe)
    (hmemory : memory.handles[number]? = some (.opened token))
    (hlibrary : library.handles[number]? = some (.opened token'))
    (hfile : memory.backend.sessionFile? token = some ⟨some raw, cover?⟩)
    (htell : library.backend.TellOf raw cover? (use :: rest)) :
    let first := step (@Registry.backend Call).alone (.useHandle number use) memory
    let second := step Library.backend.alone (.useHandle number use) library
    first.value = second.value ∧ Alongside number raw cover? rest first.state second.state := by
  intro first second
  have hfirst : first = _ := step_useHandle_of_held use hmemory
  have hsecond : second = _ := step_useHandle_of_held use hlibrary
  -- While the handles are open, a use changes nothing but the replies.
  have hkeeps : ∀ replies : Library.Replies, replies.TellOf raw cover? rest →
      Alongside number raw cover? rest memory { library with backend := replies } :=
    fun replies hreplies => .opened hmemory hlibrary hfile hreplies
  cases use with
  | describe => exact absurd rfl hdescribe
  | isOpen =>
    rw [hfirst, hsecond]
    exact ⟨rfl, hkeeps library.backend (htell.of_cons rfl (by simp))⟩
  | metadata | thermal =>
    obtain ⟨hvalue, hrest⟩ := Library.fetchMetadata_of_tellOf htell rfl token'
    have hdecode : (RawMetadata.decode (some raw) memory.backend :
          Outcome Registry Call MetadataMap).value =
        (RawMetadata.decode (Library.StringsReply.telling raw).raw?
          (Library.fetchMetadata token' library.backend).state :
            Outcome Library.Replies Library.Call MetadataMap).value :=
      Library.value_decode_telling htransferable _ _
    rw [hfirst, hsecond]
    simp only [useHandle, onBackend, Handle.metadata, Handle.thermal, Backend.alone,
      Registry.fetchMetadata_apply, Library.backend, hfile, hvalue, Action.bind_apply,
      Action.pure_apply, Option.bind_some, RawMetadata.state_decode, hdecode]
    exact ⟨trivial, hkeeps _ hrest⟩
  | cover =>
    obtain ⟨hvalue, hrest⟩ := Library.fetchCover_of_tellOf htransferable htell token'
    have hfetch : Library.backend.fetchCover token' = Library.fetchCover token' := rfl
    rw [hfirst, hsecond]
    simp only [useHandle, onBackend, Handle.cover, Backend.alone, Registry.fetchCover_apply,
      hfetch, hfile, hvalue, Action.bind_apply, Action.pure_apply, Option.bind_some]
    exact ⟨trivial, hkeeps _ hrest⟩
  | close =>
    have hfirst : first = _ := step_close_of_opened hmemory
    have hsecond : second = _ := step_close_of_opened hlibrary
    rw [hfirst, hsecond]
    exact ⟨rfl, .ended (by simp) (by simp [Handle.token?])⟩
  | drop =>
    have hfirst : first = _ := step_drop_of_opened hmemory
    have hsecond : second = _ := step_drop_of_opened hlibrary
    rw [hfirst, hsecond]
    exact ⟨rfl, .ended (by simp) (by simp)⟩
  | forget =>
    have hfirst : first = _ := step_forget_of_opened hmemory
    have hsecond : second = _ := step_forget_of_opened hlibrary
    rw [hfirst, hsecond]
    exact ⟨rfl, .ended (by simp) (by simp)⟩

theorem Alongside.step (htransferable : Library.Transferable raw cover?)
    (halongside : Alongside number raw cover? (use :: rest) memory library)
    (hdescribe : use ≠ .describe) :
    let first := Client.step (@Registry.backend Call).alone (.useHandle number use) memory
    let second := Client.step Library.backend.alone (.useHandle number use) library
    first.value = second.value ∧ Alongside number raw cover? rest first.state second.state := by
  cases halongside with
  | opened hmemory hlibrary hfile htell =>
    exact step_of_opened htransferable hdescribe hmemory hlibrary hfile htell
  | ended hsame hended => exact step_of_ended use hsame hended

end Uses

theorem Alongside.run {number : Int} {raw : RawMetadata} {cover? : Option Cover}
    (htransferable : Library.Transferable raw cover?) (uses : List HandleUse) :
    ∀ (memory : Client Registry) (library : Client Library.Replies),
      Alongside number raw cover? uses memory library → .describe ∉ uses →
      (Client.run (@Registry.backend Call).alone memory
          (uses.map (.useHandle number))).map Outcome.value =
        (Client.run Library.backend.alone library
          (uses.map (.useHandle number))).map Outcome.value := by
  induction uses with
  | nil => exact fun _ _ _ _ => rfl
  | cons use rest ih =>
    intro memory library halongside hdescribe
    rw [List.mem_cons, not_or] at hdescribe
    obtain ⟨hvalue, hstate⟩ :=
      @Alongside.step Call _ _ _ _ _ _ _ htransferable halongside (Ne.symm hdescribe.1)
    simp only [List.map_cons, Client.run, hvalue, ih _ _ hstate hdescribe.2]

/-! ## The main statement -/

/-- The commands that register a file with metadata, and with a cover if it has one. -/
def registration (path : FilePath) (raw : RawMetadata) (cover? : Option Cover) :
    List (Step Registry.Command) :=
  .command (.insert path raw) ::
    cover?.toList.map fun cover => .command (.setCover path cover)

theorem file?_after_registration (registry : Registry) (path : FilePath) (raw : RawMetadata)
    (cover? : Option Cover) :
    let registered := after (@Registry.service Call) (fresh registry) (registration path raw cover?)
    registered.backend.file? path = some ⟨some raw, cover?⟩ ∧ registered.handles = ∅ := by
  have hinsert : (registry.register path ⟨some raw, none⟩).file? path = some ⟨some raw, none⟩ := by
    simp [Registry.file?_register]
  cases cover? with
  | none => exact ⟨hinsert, rfl⟩
  | some cover =>
    have hcover : ((registry.register path ⟨some raw, none⟩).setCover path cover).2 =
        (registry.register path ⟨some raw, none⟩).register path ⟨some raw, some cover⟩ := by
      simp [Registry.setCover, hinsert]
    refine ⟨?_, rfl⟩
    show ((registry.register path ⟨some raw, none⟩).setCover path cover).2.file? path = _
    rw [hcover]
    simp [Registry.file?_register]

/-- **The registry stands in for the library.**  Let a file be registered, on any
registry, with metadata and perhaps a cover that the library could hand over unchanged,
and let the library open the file, give no null pointer for it, and tell the same about
it in its next replies.

Then a handle opened on the registry and a handle opened on the library answer the same,
one use after the other, whether they are open or not.  Only what they are in words
differs, because that shows the token. -/
theorem registry_stands_in (registry : Registry) (replies : Library.Replies) (path : FilePath)
    (raw : RawMetadata) (cover? : Option Cover) (number : Int) (uses : List HandleUse)
    (hpath : path.holdsZero = false) (htransferable : Library.Transferable raw cover?)
    (hpointer : replies.pointers.headD 0 ≠ 0) (htell : replies.TellOf raw cover? uses)
    (hdescribe : .describe ∉ uses) :
    let registered := after (@Registry.service Call) (fresh registry) (registration path raw cover?)
    let steps : List (Step Empty) := .openHandle number path :: uses.map (.useHandle number)
    let answers := (run (@Registry.backend Call).alone registered steps).map Outcome.value
    answers = (run Library.backend.alone (fresh replies) steps).map Outcome.value ∧
      answers.head? = some .opened := by
  intro registered steps answers
  obtain ⟨hfile, hhandles⟩ := @file?_after_registration Call registry path raw cover?
  -- Both handles are opened, on a session of their own.
  have hallocate : (@Registry.backend Call).alone.backend.allocate path registered.backend = _ :=
    Registry.allocate_of_registered (Option.isSome_of_mem hfile)
  obtain ⟨token', htoken'⟩ := Token.exists_ofNat?_of_ne_zero hpointer
  have hallocate' : Library.backend.alone.backend.allocate path (fresh replies).backend = _ :=
    Library.allocate_of_not_holdsZero hpath
  have hfree : registered.handles[number]? = none := by rw [hhandles]; rfl
  have hfree' : (fresh replies).handles[number]? = none := rfl
  have hopen := step_openHandle_of_token hfree (congrArg Outcome.value hallocate)
  have hopen' := step_openHandle_of_token hfree'
    ((congrArg Outcome.value hallocate').trans htoken')
  have halongside : Alongside number raw cover? uses
      (step (@Registry.backend Call).alone (.openHandle number path) registered).state
      (step Library.backend.alone (.openHandle number path) (fresh replies)).state := by
    rw [hopen, hopen', hallocate, hallocate']
    refine .opened Std.ExtTreeMap.getElem?_insert_self Std.ExtTreeMap.getElem?_insert_self ?_ ?_
    · exact (registered.backend.sessionFile?_insert path).trans hfile
    · exact ⟨htell.strings, htell.covers⟩
  have hanswers := @Alongside.run Call _ _ _ htransferable uses _ _ halongside hdescribe
  refine ⟨?_, ?_⟩
  · simp only [answers, steps, run, List.map_cons, hanswers]
    rw [hopen, hopen']
  · simp only [answers, steps, run, List.map_cons, List.head?_cons]
    rw [hopen]

/-- The metadata and the cover are read, and asked for again after the handle was closed
with a status that says it failed. -/
theorem registry_stands_in_closed :
    let path := FilePath.ofText "a"
    let raw : RawMetadata := [([0x6B], [0x31]), ([], []), ([0x6B], [0xE9])]
    let cover : Cover := ⟨.png, [7, 8]⟩
    let uses : List HandleUse := [.metadata, .cover, .close, .isOpen, .thermal, .cover]
    let reply : Library.CoverReply := ⟨0, some 2, some 1, [7, 8]⟩
    let replies : Library.Replies :=
      ⟨[5], [-3], [.telling raw, .telling raw], [reply, reply, reply, reply]⟩
    let registered := after (@Registry.service Empty) (fresh Registry.empty)
      (registration path raw (some cover))
    let steps : List (Step Empty) := .openHandle 1 path :: uses.map (.useHandle 1)
    path.holdsZero = false ∧ Library.Transferable raw (some cover) ∧
      replies.pointers.headD 0 ≠ 0 ∧ replies.TellOf raw (some cover) uses ∧ .describe ∉ uses ∧
      (run (@Registry.backend Empty).alone registered steps).map Outcome.value =
        (run Library.backend.alone (fresh replies) steps).map Outcome.value := by
  intro path raw cover uses reply replies registered steps
  have hpath : path.holdsZero = false := by decide
  have htransferable : Library.Transferable raw (some cover) :=
    ⟨by decide, by decide, by simp [cover, UInt32.size]⟩
  have htell : replies.TellOf raw (some cover) uses :=
    ⟨⟨replies.strings, [], rfl, rfl, by simp [replies]⟩,
      ⟨replies.covers, [], rfl, rfl, by simp [replies, Library.CoverReply.Tells, reply, cover,
        CoverKind.code]⟩⟩
  have hanswers := @registry_stands_in Empty Registry.empty replies path raw (some cover) 1
    uses hpath htransferable (by decide) htell (by decide)
  exact ⟨hpath, htransferable, by decide, htell, by decide, hanswers.1⟩

end Client

end DemuxSession
