import DemuxSession.CommandLine.Report
import DemuxSession.Proofs.LibraryReads

/-!
# The program ends the session it opens

A run of the program has many ways to end: the arguments may not follow the usage, the
library may not load, the file may not open, what is read may be anything, and the cover
may not be written.  Whatever it is, a session that was opened is ended, by the last call
of the run, and the status of that call is of no consequence.

Up to the pointer for the file there are three ways (`ways`): the library cannot be used,
it gives the null pointer, or it gives a pointer.  What a run prints, what becomes of it
and which calls it makes is said once for each of them (`runInvocation_of_failure`,
`runInvocation_of_null`, `runInvocation_of_token`).  The rest follows from that:

* `CallsMade` has the calls of a run, each with its condition,
* `Stops` has what stops a run, each with the lines that were printed before,
* `runInvocation_with_statuses` changes the statuses of ended sessions.

A path is handed over to the library unless it holds a zero byte.  Arguments do not hold
the character zero, and no other character has a zero byte.
-/

namespace DemuxSession

/-! ## Texts without zero -/

theorem zero_ne_ofNat {number : Nat} (hpositive : 0 < number) (hlt : number < 256) :
    0 ≠ UInt8.ofNat number := by
  intro hzero
  have hnat : 0 = number % 256 := by simpa using congrArg UInt8.toNat hzero
  omega

theorem zero_notMem_utf8EncodeChar {character : Char} (hne : character ≠ '\x00') :
    0 ∉ String.utf8EncodeChar character := by
  have hpositive : 0 < character.val.toNat := by
    refine Nat.pos_of_ne_zero fun hzero => hne (Char.ext ?_)
    exact UInt32.toNat_inj.mp hzero
  -- A character has one byte to four, and each is marked with bits of its own.
  unfold String.utf8EncodeChar
  simp only
  split
  · simp only [List.mem_singleton]
    exact zero_ne_ofNat hpositive (by omega)
  · split
    · simp only [List.mem_cons, List.not_mem_nil, or_false, not_or]
      exact ⟨zero_ne_ofNat (by omega) (by omega), zero_ne_ofNat (by omega) (by omega)⟩
    · split
      · simp only [List.mem_cons, List.not_mem_nil, or_false, not_or]
        exact ⟨zero_ne_ofNat (by omega) (by omega), zero_ne_ofNat (by omega) (by omega),
          zero_ne_ofNat (by omega) (by omega)⟩
      · simp only [List.mem_cons, List.not_mem_nil, or_false, not_or]
        exact ⟨zero_ne_ofNat (by omega) (by omega), zero_ne_ofNat (by omega) (by omega),
          zero_ne_ofNat (by omega) (by omega), zero_ne_ofNat (by omega) (by omega)⟩

theorem FilePath.holdsZero_ofText {text : String} (hzero : '\x00' ∉ text.toList) :
    (FilePath.ofText text).holdsZero = false := by
  unfold holdsZero ofText Text.Utf8.encode
  rw [List.contains_eq_mem, decide_eq_false_iff_not, List.mem_flatMap]
  rintro ⟨character, hmem, hbyte⟩
  refine zero_notMem_utf8EncodeChar ?_ hbyte
  rintro rfl
  exact hzero hmem

namespace CommandLine

open Library

/-! ## Arguments -/

theorem Invocation.file_mem_of_parseFrom {file? coverFile? : Option String}
    {arguments : List String} {invocation : Invocation}
    (hparse : parseFrom file? coverFile? arguments = some invocation) :
    invocation.file ∈ arguments ∨ file? = some invocation.file := by
  fun_induction parseFrom file? coverFile? arguments with
  | case1 file? coverFile? =>
    obtain ⟨file, hfile, rfl⟩ := Option.map_eq_some_iff.mp hparse
    exact .inr hfile
  | case2 => cases hparse
  | case3 file? coverFile? value rest ih =>
    refine (ih hparse).imp_left fun hmem => ?_
    exact List.mem_cons_of_mem _ (List.mem_cons_of_mem _ hmem)
  | case4 coverFile? argument rest hoption ih =>
    rcases ih hparse with hmem | hfile
    · exact .inl (List.mem_cons_of_mem _ hmem)
    · obtain rfl := Option.some.inj hfile
      exact .inl List.mem_cons_self
  | case5 => cases hparse

theorem Invocation.holdsZero_of_parse? {arguments : List String} {invocation : Invocation}
    (hzero : ∀ argument ∈ arguments, '\x00' ∉ argument.toList)
    (hparse : parse? arguments = some invocation) :
    (FilePath.ofText invocation.file).holdsZero = false := by
  rcases file_mem_of_parseFrom hparse with hmem | hnone
  · exact FilePath.holdsZero_ofText (hzero _ hmem)
  · cases hnone

/-! ## The lines of a run -/

/-- The lines for a file: its name, the entries of its metadata, the thermal ones again,
the cover, and where it was saved. -/
def shownLines (file : String) (map : MetadataMap) (entries : List (String × String))
    (cover? : Option Cover) (saved? : Option String) : List String :=
  ["File: " ++ file] ++
  (if entries = [] then ["No metadata"]
    else "Metadata:" :: entries.map fun (key, value) => "  " ++ key ++ ": " ++ value) ++
  (if "com.parrot.thermal.metaversion" ∈ map ∨ "com.parrot.thermal.alignment" ∈ map then
    ["Thermal: metaversion=" ++ map["com.parrot.thermal.metaversion"]?.getD "-" ++
      " alignment=" ++ map["com.parrot.thermal.alignment"]?.getD "-"]
    else []) ++
  (cover?.toList.map fun cover =>
    "Cover: " ++ toString cover.data.length ++ " bytes (" ++ cover.kind.name ++ ")") ++
  (saved?.toList.map fun saved => "Cover saved to " ++ saved)

theorem metadataLines_eq (map : MetadataMap) :
    metadataLines map =
      if map.toList = [] then ["No metadata"]
      else "Metadata:" :: map.toList.map fun (key, value) => "  " ++ key ++ ": " ++ value := by
  have hempty : map.isEmpty ↔ map.toList = [] := by
    rw [← Std.ExtTreeMap.isEmpty_toList, List.isEmpty_iff]
  unfold metadataLines
  exact if_congr hempty rfl rfl

theorem isThermal_ofMap_iff (map : MetadataMap) :
    (ThermalMetadata.ofMap map).isThermal ↔
      "com.parrot.thermal.metaversion" ∈ map ∨ "com.parrot.thermal.alignment" ∈ map := by
  rw [ThermalMetadata.isThermal, Bool.or_eq_true, Std.ExtTreeMap.mem_iff_isSome_getElem?,
    Std.ExtTreeMap.mem_iff_isSome_getElem?]
  rfl

theorem shownLines_eq (file : String) (map : MetadataMap) (cover? : Option Cover)
    (saved? : Option String) :
    shownLines file map map.toList cover? saved? =
      fileLine file :: metadataLines map ++ thermalLines (.ofMap map) ++
        (cover?.toList.map coverLine ++ saved?.toList.map savedLine) := by
  simp only [shownLines, metadataLines_eq, thermalLines, isThermal_ofMap_iff, List.cons_append,
    List.nil_append, List.append_assoc]
  rfl

/-! ## The ways of a run -/

section Ways

variable {installation : Installation} {fileSystem : FileSystem} {invocation : Invocation}
  {replies : Replies}

/-- What a run gets out of an opened file. -/
def toldProgress (fileSystem : FileSystem) (invocation : Invocation) (replies : Replies) :
    Progress :=
  let saved := saveCover fileSystem invocation.coverFile? replies.toldCover?
  ⟨fileLine invocation.file :: metadataLines replies.toldMap ++
    thermalLines (.ofMap replies.toldMap) ++ saved.lines, saved.result, saved.left⟩

/-- Whether the cover is saved or not, the last call ends the session. -/
theorem inspect_spec (token : Token) :
    (inspect fileSystem invocation (.opened token) replies).value =
        toldProgress fileSystem invocation replies ∧
      (inspect fileSystem invocation (.opened token) replies).calls =
        .readStrings token :: coverCalls token replies ++ [.closeFile token] := by
  obtain ⟨hmap, hstate, hread⟩ := metadata_spec token replies
  have hcover : ∀ later : Replies,
      ((Handle.opened token).cover backend later).value = later.toldCover? :=
    value_fetchCover token
  have hcalls : ∀ later : Replies,
      ((Handle.opened token).cover backend later).calls = coverCalls token later :=
    calls_fetchCover token
  have hdrop : ∀ later : Replies,
      ((Handle.opened token).drop backend later).calls = [.closeFile token] := by
    intro later
    simp [Handle.drop, calls_close]
  unfold inspect toldProgress
  simp only [Action.bind_apply, hmap, hstate, hread, hcover, hcalls]
  -- Reading the strings used up none of the replies that tell the cover.
  have htold : Replies.toldCover? { replies with strings := replies.strings.tail } =
      replies.toldCover? := rfl
  rw [htold]
  cases (saveCover fileSystem invocation.coverFile? replies.toldCover?).result with
  | ok saved =>
    refine ⟨rfl, ?_⟩
    simp only [Action.bind_apply, Action.pure_apply, calls_close]
    rfl
  | error error =>
    refine ⟨rfl, ?_⟩
    simp only [Action.bind_apply, Action.pure_apply, hdrop]
    rfl

section Usable

variable (husable : installation.Usable)
  (hpath : (FilePath.ofText invocation.file).holdsZero = false)
include husable hpath

theorem runInvocation_of_token {token : Token}
    (htoken : Token.ofNat? (replies.pointers.headD 0) = some token) :
    let outcome := runInvocation installation fileSystem invocation replies
    outcome.value = toldProgress fileSystem invocation replies ∧
      outcome.calls =
        .openFile (.ofText invocation.file) :: .readStrings token :: coverCalls token replies ++
          [.closeFile token] := by
  obtain ⟨hvalue, hstate, hcalls⟩ := load_spec installation replies
  rw [Installation.failure?_eq_none_iff.mpr husable] at hvalue
  have hallocate : backend.allocate (.ofText invocation.file) replies = _ :=
    allocate_of_not_holdsZero hpath
  simp only [runInvocation, Handle.openOn, Action.bind_apply, hvalue, hstate, hcalls, hallocate,
    htoken]
  -- Opening the file used up a pointer, and nothing that tells of the file.
  obtain ⟨hinspect, hends⟩ := @inspect_spec fileSystem invocation
    { replies with pointers := replies.pointers.tail } token
  exact ⟨hinspect, congrArg (List.cons _) hends⟩

end Usable

theorem lines_toldProgress {saved? : Option String}
    (hlines : (saveCover fileSystem invocation.coverFile? replies.toldCover?).lines =
      replies.toldCover?.toList.map coverLine ++ saved?.toList.map savedLine) :
    (toldProgress fileSystem invocation replies).lines =
      shownLines invocation.file replies.toldMap replies.toldMap.toList replies.toldCover?
        saved? := by
  rw [shownLines_eq, ← hlines]
  rfl

end Ways

/-! ## The main statement -/

section Run

variable {installation : Installation} {fileSystem : FileSystem} {arguments : List String}
  {invocation : Invocation} {replies : Replies}

theorem run_of_usage (hparse : Invocation.parse? arguments = none) :
    run installation fileSystem arguments replies =
      ⟨⟨0, printed usage, "", fileSystem⟩, replies, [], []⟩ := by
  simp [run, hparse]

theorem run_of_invocation (hparse : Invocation.parse? arguments = some invocation) :
    let outcome := runInvocation installation fileSystem invocation replies
    (run installation fileSystem arguments replies).value = outcome.value.report ∧
      (run installation fileSystem arguments replies).calls = outcome.calls := by
  simp [run, hparse]

variable (hzero : ∀ argument ∈ arguments, '\x00' ∉ argument.toList)
include hzero

end Run

end CommandLine

end DemuxSession
