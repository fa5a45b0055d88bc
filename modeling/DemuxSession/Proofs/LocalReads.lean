import DemuxSession.LocalMetadata
import DemuxSession.Proofs.LibraryReads
import DemuxSession.Proofs.Run

/-!
# Reading a file in one go is a short session

To read the metadata of a file in one go, the library is loaded, the file is opened, its
metadata is read and it is closed.  Each of the first two may fail, and then nothing
more is done; reading and closing never fail.

What comes of it is told in two ways.  `LocallyRead` has a case for each way it can go,
with the result and the calls (`eq_of_locallyRead`, `locallyRead`).  And once the library
is loaded, it goes as a session of a client does that opens a handle, asks for its metadata
and closes it (`readLocalMetadata_eq_session`): with the same result, log and calls.  If
the file does not open, the client has no handle left to ask.
-/

namespace DemuxSession

open Library

variable {installation : Installation} {path : FilePath} {replies : Replies}

/-! ## Loading -/

namespace Library

/-- An entry point is missing: it is not exported, and those that are looked up before it
are. -/
def Installation.Misses (installation : Installation) (missing : EntryPoint) : Prop :=
  ∃ exported earlier later, installation.exports = .ok exported ∧
    [.openFile, .closeFile, .readStrings, .readCover] = earlier ++ missing :: later ∧
    (∀ entryPoint ∈ earlier, entryPoint ∈ exported) ∧ missing ∉ exported

theorem Installation.failure?_of_misses {missing : EntryPoint}
    (hmisses : installation.Misses missing) :
    installation.failure? = some (.missing missing (installation.reason missing)) := by
  obtain ⟨exported, earlier, later, hexports, horder, hearlier, hmissing⟩ := hmisses
  have hfind : EntryPoint.all.find? (· ∉ exported) = some missing := by
    rw [List.find?_eq_some_iff_append]
    exact ⟨by simpa using hmissing, earlier, later, horder, by simpa using hearlier⟩
  simp only [failure?, hexports, hfind, Option.map_some]

theorem Installation.exists_misses (hunusable : ¬ installation.Usable)
    {exported : List EntryPoint} (hexports : installation.exports = .ok exported) :
    ∃ missing, installation.Misses missing := by
  cases hfind : EntryPoint.all.find? (· ∉ exported) with
  | none =>
    rw [List.find?_eq_none] at hfind
    refine absurd ⟨exported, hexports, fun entryPoint => ?_⟩ hunusable
    simpa using hfind entryPoint (EntryPoint.mem_all entryPoint)
  | some missing =>
    obtain ⟨hmissing, earlier, later, horder, hearlier⟩ := List.find?_eq_some_iff_append.mp hfind
    exact ⟨missing, exported, earlier, later, hexports, horder, by simpa using hearlier,
      by simpa using hmissing⟩

theorem load_of_usable {State : Type} (husable : installation.Usable) (state : State) :
    (load installation state : Outcome State Call (Except LibraryError Unit)) =
      ⟨.ok (), state, [.loading installation.location, .entryPointsFound], []⟩ := by
  obtain ⟨exported, hexports, hall⟩ := husable
  have hfind : EntryPoint.all.find? (· ∉ exported) = none := by
    rw [List.find?_eq_none]
    simpa using fun entryPoint _ => hall entryPoint
  simp only [load, hexports, hfind, Action.bind_apply, Action.log_apply, Action.pure_apply,
    List.nil_append, List.cons_append, List.append_nil]

end Library

/-! ## The ways a read goes -/

/-- What comes of reading a file in one go, and the calls that are made for it. -/
inductive LocallyRead (installation : Installation) (path : FilePath) (replies : Replies) :
    Except DemuxError MetadataMap → List Call → Prop
  | notLoaded {reason : String} (hexports : installation.exports = .error reason) :
      LocallyRead installation path replies
        (.error (.loading (.notLoaded installation.location reason))) []
  | missing {missing : EntryPoint} (hmisses : installation.Misses missing) :
      LocallyRead installation path replies
        (.error (.loading (.missing missing (installation.reason missing)))) []
  | notHandedOver (husable : installation.Usable) (hzero : 0 ∈ path.bytes) :
      LocallyRead installation path replies (.error (.opening ⟨path⟩)) []
  | refused (husable : installation.Usable) (hzero : 0 ∉ path.bytes)
      (hnull : replies.pointers.headD 0 = 0) :
      LocallyRead installation path replies (.error (.opening ⟨path⟩)) [.openFile path]
  | read {token : Token} (husable : installation.Usable) (hzero : 0 ∉ path.bytes)
      (htoken : Token.ofNat? (replies.pointers.headD 0) = some token) :
      LocallyRead installation path replies (.ok replies.toldMap)
        [.openFile path, .readStrings token, .closeFile token]

theorem exists_locallyRead (installation : Installation) (path : FilePath) (replies : Replies) :
    ∃ value calls, LocallyRead installation path replies value calls := by
  by_cases husable : installation.Usable
  · by_cases hzero : 0 ∈ path.bytes
    · exact ⟨_, _, .notHandedOver husable hzero⟩
    · by_cases hnull : replies.pointers.headD 0 = 0
      · exact ⟨_, _, .refused husable hzero hnull⟩
      · obtain ⟨token, htoken⟩ := Token.exists_ofNat?_of_ne_zero hnull
        exact ⟨_, _, .read husable hzero htoken⟩
  · cases hexports : installation.exports with
    | error reason => exact ⟨_, _, .notLoaded hexports⟩
    | ok exported =>
      obtain ⟨missing, hmisses⟩ := Installation.exists_misses husable hexports
      exact ⟨_, _, .missing hmisses⟩

theorem readLocalMetadata_of_failure {error : LibraryError}
    (hfailure : installation.failure? = some error) :
    (readLocalMetadata installation path replies).value = .error (.loading error) ∧
      (readLocalMetadata installation path replies).calls = [] := by
  obtain ⟨hvalue, -, hcalls⟩ := load_spec installation replies
  rw [hfailure] at hvalue
  simp [readLocalMetadata, hvalue, hcalls]

section Usable

variable (husable : installation.Usable)
include husable

theorem readLocalMetadata_of_refusal (hrefusal : (allocate path replies).value = none) :
    let opened := allocate path replies
    readLocalMetadata installation path replies =
      ⟨.error (.opening ⟨path⟩), opened.state,
        [.loading installation.location, .entryPointsFound] ++ (opened.log ++ [.refused path]),
        opened.calls⟩ := by
  simp [readLocalMetadata, load_of_usable husable, Handle.openOn, backend, hrefusal]

theorem readLocalMetadata_of_token {token : Token}
    (htoken : (allocate path replies).value = some token) :
    let opened := allocate path replies
    let read := (Handle.opened token).metadata backend opened.state
    let closed := (Handle.opened token).close backend read.state
    readLocalMetadata installation path replies =
      ⟨.ok read.value, closed.state,
        [.loading installation.location, .entryPointsFound] ++
          (opened.log ++ .opened path token :: (read.log ++ closed.log)),
        opened.calls ++ (read.calls ++ closed.calls)⟩ := by
  simp [readLocalMetadata, load_of_usable husable, Handle.openOn, backend, htoken]

theorem readLocalMetadata_of_handed_over (hpath : path.holdsZero = false) {token : Token}
    (htoken : Token.ofNat? (replies.pointers.headD 0) = some token) :
    (readLocalMetadata installation path replies).value = .ok replies.toldMap ∧
      (readLocalMetadata installation path replies).calls =
        [.openFile path, .readStrings token, .closeFile token] := by
  have hallocate := @allocate_of_not_holdsZero replies path hpath
  have hopened : (allocate path replies).value = some token := by rw [hallocate, htoken]
  obtain ⟨hmap, -, hcalls⟩ := metadata_spec token { replies with pointers := replies.pointers.tail }
  rw [readLocalMetadata_of_token husable hopened, hallocate]
  simp only [hmap, hcalls, calls_close]
  exact ⟨rfl, rfl⟩

end Usable

theorem eq_of_locallyRead {value : Except DemuxError MetadataMap} {calls : List Call}
    (hread : LocallyRead installation path replies value calls) :
    (readLocalMetadata installation path replies).value = value ∧
      (readLocalMetadata installation path replies).calls = calls := by
  have hholds : path.holdsZero = true ↔ 0 ∈ path.bytes := by simp [FilePath.holdsZero]
  cases hread with
  | notLoaded hexports =>
    refine readLocalMetadata_of_failure ?_
    rw [Installation.failure?, hexports]
  | missing hmisses =>
    exact readLocalMetadata_of_failure (Installation.failure?_of_misses hmisses)
  | notHandedOver husable hzero =>
    have hallocate := @allocate_of_holdsZero replies path (hholds.mpr hzero)
    have hrefusal : (allocate path replies).value = none := by rw [hallocate]
    rw [readLocalMetadata_of_refusal husable hrefusal, hallocate]
    exact ⟨rfl, rfl⟩
  | refused husable hzero hnull =>
    have hallocate := @allocate_of_not_holdsZero replies path
      (Bool.eq_false_iff.mpr (mt hholds.mp hzero))
    have hrefusal : (allocate path replies).value = none := by
      rw [hallocate, hnull]
      rfl
    rw [readLocalMetadata_of_refusal husable hrefusal, hallocate]
    exact ⟨rfl, rfl⟩
  | read husable hzero htoken =>
    exact readLocalMetadata_of_handed_over husable (Bool.eq_false_iff.mpr (mt hholds.mp hzero))
      htoken

theorem locallyRead (installation : Installation) (path : FilePath) (replies : Replies) :
    LocallyRead installation path replies (readLocalMetadata installation path replies).value
      (readLocalMetadata installation path replies).calls := by
  obtain ⟨value, calls, hread⟩ := exists_locallyRead installation path replies
  obtain ⟨hvalue, hcalls⟩ := eq_of_locallyRead hread
  rw [hvalue, hcalls]
  exact hread

/-- Only the pointer and the strings decide how a read goes. -/
theorem LocallyRead.of_agree {value : Except DemuxError MetadataMap} {calls : List Call}
    {other : Replies} (hread : LocallyRead installation path replies value calls)
    (hpointers : other.pointers = replies.pointers) (hstrings : other.strings = replies.strings) :
    LocallyRead installation path other value calls := by
  have hmap : other.toldMap = replies.toldMap := by
    rw [Replies.toldMap, Replies.toldMap, Replies.nextStrings, Replies.nextStrings, hstrings]
  cases hread with
  | notLoaded hexports => exact .notLoaded hexports
  | missing hmisses => exact .missing hmisses
  | notHandedOver husable hzero => exact .notHandedOver husable hzero
  | refused husable hzero hnull => exact .refused husable hzero (hpointers ▸ hnull)
  | read husable hzero htoken =>
    rw [← hmap]
    exact .read husable hzero (hpointers ▸ htoken)

theorem Library.Replies.toldMap_of_untold
    (huntold : replies.nextStrings.status ≠ 0 ∨ replies.nextStrings.count?.getD 0 = 0 ∨
      replies.nextStrings.keys? = none ∨ replies.nextStrings.values? = none) :
    replies.toldMap = ∅ := by
  have hraw : replies.nextStrings.raw? = none := by
    rw [StringsReply.raw?, StringsReply.count]
    rcases huntold with hstatus | hcount | hkeys | hvalues
    · rw [if_pos (.inl hstatus)]
    · rw [if_pos (.inr hcount)]
    · simp [hkeys]
    · cases replies.nextStrings.keys? with
      | none => simp
      | some keys => simp [hvalues]
  rw [toldMap, hraw]
  rfl

/-! ## The session -/

/-- The steps of a client that opens a handle, asks for its metadata and closes it. -/
def sessionSteps (number : Int) (path : FilePath) : List (Step Empty) :=
  [.openHandle number path, .useHandle number .metadata, .useHandle number .close]

/-- What the client is told in a session with the result. -/
def sessionAnswers : Except DemuxError MetadataMap → List (Answer Empty)
  | .ok map => [.opened, .metadata map, .closed false]
  | .error error => [.notOpened error, .noHandle, .noHandle]

/-- The session that opens a file: what is told, and what comes of each step. -/
theorem run_session_of_token {token : Token}
    (htoken : (allocate path replies).value = some token) (number : Int) :
    let opened := allocate path replies
    let read := (Handle.opened token).metadata backend opened.state
    let closed := (Handle.opened token).close backend read.state
    let session := Client.run backend.alone (Client.fresh replies) (sessionSteps number path)
    session.map Outcome.value = [.opened, .metadata read.value, .closed false] ∧
      session.map Outcome.log = [opened.log ++ [.opened path token], read.log, closed.log] ∧
      session.map Outcome.calls = [opened.calls, read.calls, closed.calls] := by
  intro opened read closed session
  let holding (state : Replies) : Client Replies :=
    ⟨state, (∅ : Std.ExtTreeMap Int Handle).insert number (.opened token), []⟩
  have hheld : ∀ state, (holding state).handles[number]? = some (.opened token) :=
    fun _ => Std.ExtTreeMap.getElem?_insert_self
  have hopen : Client.step backend.alone (.openHandle number path) (Client.fresh replies) =
      ⟨.opened, holding opened.state, opened.log ++ [.opened path token], opened.calls⟩ :=
    Client.step_openHandle_of_token rfl htoken
  have hread : Client.step backend.alone (.useHandle number .metadata) (holding opened.state) =
      ⟨.metadata read.value, holding read.state, read.log, read.calls⟩ := by
    rw [Client.step_useHandle_of_held .metadata (hheld _)]
    simp only [Client.useHandle, Client.onBackend, Action.bind_apply, Action.pure_apply,
      List.append_nil]
    rfl
  have hclose : Client.step backend.alone (.useHandle number .close) (holding read.state) =
      ⟨.closed false, ⟨closed.state, (holding read.state).handles.insert number .closed, []⟩,
        closed.log, closed.calls⟩ := by
    rw [Client.step_useHandle_of_held .close (hheld _)]
    simp only [Client.useHandle, Client.onBackend, Client.hold, Action.bind_apply,
      Action.pure_apply, Action.update_apply, List.append_nil]
    rfl
  simp [session, sessionSteps, Client.run, hopen, hread, hclose]

theorem run_session_of_refusal (hrefusal : (allocate path replies).value = none) (number : Int) :
    let opened := allocate path replies
    let session := Client.run backend.alone (Client.fresh replies) (sessionSteps number path)
    session.map Outcome.value = [.notOpened (.opening ⟨path⟩), .noHandle, .noHandle] ∧
      session.map Outcome.log = [opened.log ++ [.refused path], [], []] ∧
      session.map Outcome.calls = [opened.calls, [], []] := by
  intro opened session
  have hopen : Client.step backend.alone (.openHandle number path) (Client.fresh replies) =
      ⟨.notOpened (.opening ⟨path⟩), Client.fresh opened.state, opened.log ++ [.refused path],
        opened.calls⟩ :=
    Client.step_openHandle_of_refusal rfl hrefusal
  have hask : ∀ use, Client.step backend.alone (.useHandle number use)
      (Client.fresh opened.state) = ⟨.noHandle, Client.fresh opened.state, [], []⟩ :=
    fun use => Client.step_useHandle_of_free use rfl
  simp [session, sessionSteps, Client.run, hopen, hask]

/-- Once the library is loaded, the read goes as the session does. -/
theorem readLocalMetadata_eq_session (husable : installation.Usable) (number : Int) :
    let outcome := readLocalMetadata installation path replies
    let session := Client.run backend.alone (Client.fresh replies) (sessionSteps number path)
    session.map Outcome.value = sessionAnswers outcome.value ∧
      outcome.log = [.loading installation.location, .entryPointsFound] ++
        session.flatMap Outcome.log ∧
      outcome.calls = session.flatMap Outcome.calls := by
  intro outcome session
  rw [List.flatMap_def, List.flatMap_def]
  cases htoken : (allocate path replies).value with
  | none =>
    have houtcome : outcome = _ := readLocalMetadata_of_refusal husable htoken
    obtain ⟨hvalues, hlogs, hcalls⟩ := run_session_of_refusal htoken number
    rw [hvalues, hlogs, hcalls, houtcome]
    simp [sessionAnswers]
  | some token =>
    have houtcome : outcome = _ := readLocalMetadata_of_token husable htoken
    obtain ⟨hvalues, hlogs, hcalls⟩ := run_session_of_token htoken number
    rw [hvalues, hlogs, hcalls, houtcome]
    simp [sessionAnswers]

/-! ## The main statement -/

theorem message_of_not_loaded {library? : Option FilePath} {reason : String}
    (hexports : installation.exports = .error reason)
    (hlocation : installation.location = .ofVariable library?) :
    (readLocalMetadata installation path replies).value.mapError DemuxError.message =
      .error ("Library error: " ++ ("Failed to load " ++
        (library?.map FilePath.display).getD "libmp4.so" ++ ": " ++ reason)) := by
  rw [(eq_of_locallyRead (.notLoaded hexports)).1, hlocation]
  cases library? with
  | none => rfl
  | some library => rfl

theorem message_of_misses {missing : EntryPoint} {symbol : String}
    (hmisses : installation.Misses missing)
    (hsymbol : (missing, symbol) ∈ [(.openFile, "mp4_demux_open"),
      (.closeFile, "mp4_demux_close"), (.readStrings, "mp4_demux_get_metadata_strings"),
      (.readCover, "mp4_demux_get_metadata_cover")]) :
    (readLocalMetadata installation path replies).value.mapError DemuxError.message =
      .error ("Library error: " ++ (symbol ++ ": " ++ installation.reason missing)) := by
  change (missing, symbol) ∈ EntryPoint.all.map fun known => (known, known.symbol) at hsymbol
  obtain ⟨_, -, ⟨⟩⟩ := List.mem_map.mp hsymbol
  rw [(eq_of_locallyRead (.missing hmisses)).1]
  rfl

theorem readLocalMetadata_of_untold (husable : installation.Usable) (hzero : 0 ∉ path.bytes)
    (hpointer : replies.pointers.headD 0 ≠ 0)
    (huntold : replies.nextStrings.status ≠ 0 ∨ replies.nextStrings.count?.getD 0 = 0 ∨
      replies.nextStrings.keys? = none ∨ replies.nextStrings.values? = none) :
    (readLocalMetadata installation path replies).value = .ok ∅ := by
  obtain ⟨token, htoken⟩ := Token.exists_ofNat?_of_ne_zero hpointer
  rw [(eq_of_locallyRead (.read husable hzero htoken)).1, Replies.toldMap_of_untold huntold]

theorem readCover_notMem_readLocalMetadata (installation : Installation) (path : FilePath)
    (replies : Replies) (token : Token) (buffer : Buffer) :
    .readCover token buffer ∉ (readLocalMetadata installation path replies).calls := by
  obtain ⟨value, calls, hread⟩ := exists_locallyRead installation path replies
  rw [(eq_of_locallyRead hread).2]
  cases hread with
  | notLoaded | missing | notHandedOver | refused | read => simp

/-- **Reading a file in one go.**  It fails if the library does not load, and the failure
tells where the library was looked for, or else the symbol of the first entry point that is
missing, and after that what the loader had to say.  It fails if the path cannot be handed
over or the library gives the null pointer, and the failure tells the path.  Otherwise the
metadata is read, in three calls.  No read goes another way, and none asks for a cover.

Once the library is loaded, the read goes as the session of a client does that opens a
handle, asks for its metadata and closes it.  Only the answers to opening and to reading
the strings count, and strings that are not given are no failure. -/
theorem readLocalMetadata_end_to_end (installation : Installation) (path : FilePath)
    (replies : Replies) :
    let outcome := readLocalMetadata installation path replies
    let strings := replies.strings.headD .unwritten
    (∀ value calls, LocallyRead installation path replies value calls ↔
      outcome.value = value ∧ outcome.calls = calls) ∧
    (∀ library? reason, installation.exports = .error reason →
      installation.location = .ofVariable library? →
        outcome.value.mapError DemuxError.message =
          .error ("Library error: " ++ ("Failed to load " ++
            (library?.map FilePath.display).getD "libmp4.so" ++ ": " ++ reason))) ∧
    (∀ missing symbol, installation.Misses missing →
      (missing, symbol) ∈ [(.openFile, "mp4_demux_open"), (.closeFile, "mp4_demux_close"),
        (.readStrings, "mp4_demux_get_metadata_strings"),
        (.readCover, "mp4_demux_get_metadata_cover")] →
        outcome.value.mapError DemuxError.message =
          .error ("Library error: " ++ (symbol ++ ": " ++ installation.reason missing))) ∧
    (∀ number, installation.Usable →
      let session := Client.run backend.alone (Client.fresh replies) (sessionSteps number path)
      session.map Outcome.value = sessionAnswers outcome.value ∧
        outcome.log = [.loading installation.location, .entryPointsFound] ++
          session.flatMap Outcome.log ∧
        outcome.calls = session.flatMap Outcome.calls) ∧
    (∀ statuses covers,
      let other := readLocalMetadata installation path { replies with statuses, covers }
      other.value = outcome.value ∧ other.calls = outcome.calls) ∧
    (installation.Usable → 0 ∉ path.bytes → replies.pointers.headD 0 ≠ 0 →
      (strings.status ≠ 0 ∨ strings.count?.getD 0 = 0 ∨ strings.keys? = none ∨
        strings.values? = none) → outcome.value = .ok ∅) ∧
    ∀ token buffer, .readCover token buffer ∉ outcome.calls := by
  intro outcome strings
  refine ⟨fun value calls => ⟨eq_of_locallyRead, ?_⟩,
    fun _ _ hexports hlocation => message_of_not_loaded hexports hlocation,
    fun _ _ hmisses hsymbol => message_of_misses hmisses hsymbol,
    fun number husable => readLocalMetadata_eq_session husable number,
    fun statuses covers => ?_,
    fun husable hzero hpointer huntold =>
      readLocalMetadata_of_untold husable hzero hpointer huntold,
    readCover_notMem_readLocalMetadata installation path replies⟩
  · rintro ⟨rfl, rfl⟩
    exact locallyRead installation path replies
  · have hread := locallyRead installation path replies
    exact eq_of_locallyRead (hread.of_agree rfl rfl)

/-- The strings fail and so does closing; still the read gives the empty map, as the
session does. -/
theorem readLocalMetadata_end_to_end_failing :
    let installation : Installation := ⟨.ofVariable none, .ok EntryPoint.all, fun _ => ""⟩
    let path : FilePath := .ofText "a"
    let replies : Replies := ⟨[5], [-3], [⟨-22, some 1, none, none⟩], []⟩
    let token : Token := ⟨5, by decide⟩
    let outcome := readLocalMetadata installation path replies
    installation.Usable ∧ outcome.value = .ok ∅ ∧
      outcome.calls = [.openFile path, .readStrings token, .closeFile token] ∧
      (Client.run backend.alone (Client.fresh replies) (sessionSteps 1 path)).map Outcome.value =
        [.opened, .metadata ∅, .closed false] := by
  intro installation path replies token outcome
  have husable : installation.Usable := ⟨_, rfl, EntryPoint.mem_all⟩
  have hzero : 0 ∉ path.bytes := by decide
  obtain ⟨hways, -, -, hsession, -, huntold, -⟩ :=
    readLocalMetadata_end_to_end installation path replies
  have hvalue : outcome.value = .ok ∅ := huntold husable hzero (by decide) (.inl (by decide))
  have hcalls := ((hways _ _).mp (.read husable hzero (show _ = some token from rfl))).2
  refine ⟨husable, hvalue, hcalls, ?_⟩
  rw [(hsession 1 husable).1, hvalue]
  rfl

end DemuxSession
