import DemuxSession.Proofs.FileWrites
import DemuxSession.Proofs.LocalReads
import DemuxSession.Proofs.Program

/-!
# What a run prints and saves

A run that opens its file prints what `readLocalMetadata` reads of it, entry by entry in
the order of the keys, then the thermal entries and the cover, if there are any.  The cover
is saved if a file was named for it, and is told to be saved if it was.

What a run gets out of an opened file is known (`toldProgress`), and so are its lines
(`lines_toldProgress`).  What it leaves is known from the one write it makes: all files stay
as they were, or one of them holds the cover, or as much of it as was written (`Saves`).
-/

namespace DemuxSession.CommandLine

open Library

/-! ## Accepted arguments -/

/-- Each file for the cover after the option. -/
def coverOptions (files : List String) : List String :=
  files.flatMap fun file => [Invocation.coverOption, file]

theorem Invocation.eq_coverOptions_of_parseFrom {file : String} {file? coverFile? : Option String}
    {arguments : List String} {invocation : Invocation} (hfile : file? = some file)
    (hparse : parseFrom file? coverFile? arguments = some invocation) :
    ∃ after, arguments = coverOptions after ∧ invocation.file = file ∧
      invocation.coverFile? = (coverFile?.toList ++ after).getLast? := by
  fun_induction parseFrom file? coverFile? arguments with
  | case1 file? coverFile? =>
    subst hfile
    cases hparse
    refine ⟨[], rfl, rfl, ?_⟩
    cases coverFile? <;> rfl
  | case2 => cases hparse
  | case3 file? coverFile? value rest ih =>
    obtain ⟨after, rfl, hsame, hlast⟩ := ih hfile hparse
    refine ⟨value :: after, rfl, hsame, ?_⟩
    rw [hlast, List.getLast?_append_of_ne_nil _ (List.cons_ne_nil value after)]
    rfl
  | case4 => cases hfile
  | case5 => cases hparse

/-- Accepted arguments are one file, with files for the cover before and after it.  Of
these the last one counts. -/
theorem Invocation.eq_coverOptions_of_parseFrom_none {coverFile? : Option String}
    {arguments : List String} {invocation : Invocation}
    (hparse : parseFrom none coverFile? arguments = some invocation) :
    ∃ before after,
      arguments = coverOptions before ++ invocation.file :: coverOptions after ∧
      invocation.coverFile? = (coverFile?.toList ++ (before ++ after)).getLast? := by
  generalize hnone : (none : Option String) = file? at hparse
  fun_induction parseFrom file? coverFile? arguments with
  | case1 =>
    subst hnone
    cases hparse
  | case2 => cases hparse
  | case3 file? coverFile? value rest ih =>
    obtain ⟨before, after, rfl, hlast⟩ := ih hnone hparse
    refine ⟨value :: before, after, rfl, ?_⟩
    rw [hlast, List.cons_append,
      List.getLast?_append_of_ne_nil _ (List.cons_ne_nil value (before ++ after))]
    rfl
  | case4 coverFile? argument rest hoption ih =>
    obtain ⟨after, rfl, rfl, hlast⟩ := eq_coverOptions_of_parseFrom rfl hparse
    exact ⟨[], after, rfl, hlast⟩
  | case5 => cases hnone

/-! ## The entries -/

theorem keys_lt_of_toList (map : MetadataMap) :
    map.toList.Pairwise fun first second => first.1 < second.1 :=
  map.ordered_keys_toList.imp fun hkeys => compareOfLessAndEq_eq_lt.mp hkeys

/-! ## Saving the cover -/

/-- Where a path leads to a place for a file, it is below the working directory. -/
def StaysInside (fileSystem : FileSystem) (path : FilePath) : Prop :=
  ∀ place, fileSystem.locate path = .ok place →
    ∃ name names, place = fileSystem.workingDirectory ++ name :: names

/-- What became of the cover: it was saved to the file, if one was named for it and the
cover can be written to it. -/
structure Saves (before : FileSystem) (coverFile? : Option String) (cover? : Option Cover)
    (saved? : Option String) (left : FileSystem) : Prop where
  saved_iff : ∀ file, saved? = some file ↔ coverFile? = some file ∧
    ∃ cover, cover? = some cover ∧ (before.write (.ofText file) cover.data).result = .ok ()
  /-- The file is below the working directory and holds the data, and nothing else is
  changed. -/
  left_of_saved : ∀ file, saved? = some file → ∃ cover name names, cover? = some cover ∧
    FileSystem.SavedAt (before.workingDirectory ++ name :: names) (.ofText file) cover.data
      before left
  /-- Nothing is changed if nothing was saved, -/
  left_of_unsaved : saved? = none → (∀ taken error, before.fault? ≠ some (.brokenOff taken error)) →
    left = before
  /-- except by a write that broke off, and then the file holds what was written. -/
  left_of_brokenOff : ∀ taken error, before.fault? = some (.brokenOff taken error) →
    left = before ∨ ∃ file cover name names, coverFile? = some file ∧ cover? = some cover ∧
      FileSystem.SavedAt (before.workingDirectory ++ name :: names) (.ofText file)
        (cover.data.take taken) before left

section Saving

variable {fileSystem left : FileSystem} {coverFile? : Option String} {cover? : Option Cover}

theorem Saves.untried (hnone : coverFile? = none ∨ cover? = none) :
    Saves fileSystem coverFile? cover? none fileSystem where
  saved_iff file := by
    refine ⟨nofun, ?_⟩
    rintro ⟨rfl, cover, rfl, -⟩
    rcases hnone with hnone | hnone <;> cases hnone
  left_of_saved := nofun
  left_of_unsaved _ _ := rfl
  left_of_brokenOff _ _ _ := .inl rfl

theorem Saves.failed {file : String} {cover : Cover} {error : WriteError}
    (hinside : StaysInside fileSystem (.ofText file))
    (hwrite : fileSystem.write (.ofText file) cover.data = ⟨.error error, left⟩) :
    Saves fileSystem (some file) (some cover) none left := by
  have hwrites := FileSystem.writes_write fileSystem (.ofText file) cover.data
  refine ⟨fun other => ⟨nofun, ?_⟩, nofun, fun _ hfault => ?_, fun taken reason hfault => ?_⟩
  · rintro ⟨⟨⟩, _, ⟨⟩, hresult⟩
    rw [hwrite] at hresult
    cases hresult
  · rw [hwrite] at hwrites
    cases hwrites with
    | notOpened => rfl
    | brokenOff hbroken => exact absurd hbroken (hfault _ _)
  · rw [hwrite] at hwrites
    cases hwrites with
    | notOpened => exact .inl rfl
    | brokenOff hbroken hsaved =>
      obtain ⟨rfl, rfl⟩ := Fault.brokenOff.inj (Option.some.inj (hbroken.symm.trans hfault))
      obtain ⟨name, names, rfl⟩ := hinside _ hsaved.located_before
      exact .inr ⟨file, cover, name, names, rfl, rfl, hsaved⟩

theorem Saves.succeeded {file : String} {cover : Cover}
    (hinside : StaysInside fileSystem (.ofText file))
    (hwrite : fileSystem.write (.ofText file) cover.data = ⟨.ok (), left⟩) :
    Saves fileSystem (some file) (some cover) (some file) left := by
  have hwrites := FileSystem.writes_write fileSystem (.ofText file) cover.data
  rw [hwrite] at hwrites
  cases hwrites with
  | whole hfault hsaved =>
    obtain ⟨name, names, rfl⟩ := hinside _ hsaved.located_before
    refine ⟨fun other => ⟨?_, fun hother => hother.1⟩, ?_, nofun, fun _ _ hbroken => ?_⟩
    · rintro ⟨⟩
      exact ⟨rfl, cover, rfl, by rw [hwrite]⟩
    · rintro other ⟨⟩
      exact ⟨cover, name, names, rfl, hsaved⟩
    · rw [hfault] at hbroken
      cases hbroken

theorem exists_saves
    (hinside : ∀ file, coverFile? = some file → StaysInside fileSystem (.ofText file)) :
    let progress := saveCover fileSystem coverFile? cover?
    ∃ saved?,
      progress.lines = cover?.toList.map coverLine ++ saved?.toList.map savedLine ∧
      Saves fileSystem coverFile? cover? saved? progress.left := by
  cases cover? with
  | none => exact ⟨none, rfl, .untried (.inr rfl)⟩
  | some cover =>
    cases coverFile? with
    | none => exact ⟨none, rfl, .untried (.inl rfl)⟩
    | some file =>
      cases hwrite : fileSystem.write (.ofText file) cover.data with
      | mk result left =>
        simp only [saveCover, hwrite]
        cases result with
        | ok _ => exact ⟨some file, rfl, .succeeded (hinside file rfl) hwrite⟩
        | error error => exact ⟨none, rfl, .failed (hinside file rfl) hwrite⟩

end Saving

/-! ## The main statement -/

theorem report_eq (progress : Progress) :
    progress.report.stdout = printed progress.lines ∧ progress.report.left = progress.left := by
  unfold Progress.report
  cases progress.result with
  | ok _ => exact ⟨rfl, rfl⟩
  | error error => exact ⟨rfl, rfl⟩

/-- **What a run prints and saves.**  Let the library be used, let no argument hold the
character zero, let a pointer be given for the file, and let the path for the cover, if
there is one, stay inside the working directory.

The arguments name one file, and the last file that is named for the cover counts.  The run
prints the name of the file, the metadata that `readLocalMetadata` reads on the same
replies, each entry once and in the order of the keys, then the thermal entries if there is
one, and the cover if one is fetched.  It tells that the cover was saved just if it was.

If it was, the named file holds the data of the cover, whatever was there before, and
nothing else is changed.  Otherwise nothing is changed at all, unless the write broke off
after the file was opened. -/
theorem program_prints_and_saves (installation : Installation) (fileSystem : FileSystem)
    (arguments : List String) (invocation : Invocation) (replies : Replies)
    (hzero : ∀ argument ∈ arguments, '\x00' ∉ argument.toList)
    (hparse : Invocation.parse? arguments = some invocation) (husable : installation.Usable)
    (hpointer : replies.pointers.headD 0 ≠ 0)
    (hinside : ∀ file, invocation.coverFile? = some file →
      StaysInside fileSystem (.ofText file)) :
    let report := (run installation fileSystem arguments replies).value
    (∃ before after,
      arguments = coverOptions before ++ invocation.file :: coverOptions after ∧
      invocation.coverFile? = (before ++ after).getLast?) ∧
    ∃ token map entries cover? saved?,
      Token.ofNat? (replies.pointers.headD 0) = some token ∧
      (readLocalMetadata installation (.ofText invocation.file) replies).value = .ok map ∧
      (fetchCover token replies).value = cover? ∧
      entries.Pairwise (fun first second => first.1 < second.1) ∧
      (∀ key value, (key, value) ∈ entries ↔ map[key]? = some value) ∧
      report.stdout = String.join
        ((shownLines invocation.file map entries cover? saved?).map (· ++ "\n")) ∧
      Saves fileSystem invocation.coverFile? cover? saved? report.left := by
  intro report
  have hpath := Invocation.holdsZero_of_parse? hzero hparse
  obtain ⟨token, htoken⟩ := Token.exists_ofNat?_of_ne_zero hpointer
  obtain ⟨saved?, hlines, hsaves⟩ := @exists_saves fileSystem _ replies.toldCover? hinside
  have hreport : report = (toldProgress fileSystem invocation replies).report := by
    rw [← (runInvocation_of_token husable hpath htoken).1]
    exact (run_of_invocation hparse).1
  obtain ⟨hstdout, hleft⟩ := report_eq (toldProgress fileSystem invocation replies)
  refine ⟨Invocation.eq_coverOptions_of_parseFrom_none hparse, token, replies.toldMap,
    replies.toldMap.toList, replies.toldCover?, saved?, htoken, ?_, value_fetchCover token replies,
    keys_lt_of_toList _, fun key value => Std.ExtTreeMap.mem_toList_iff_getElem?_eq_some,
    ?_, ?_⟩
  · exact (readLocalMetadata_of_handed_over husable hpath htoken).1
  · rw [hreport, hstdout, lines_toldProgress hlines]
    rfl
  · rw [hreport, hleft]
    exact hsaves

/-- Of two entries with one key the second is printed, and of two files that are named for
the cover the second is written, in place of what was there.  Its path leads out of the
working directory and, through a link, back. -/
theorem program_prints_and_saves_replacing :
    let arguments := ["--cover", "x", "a", "--cover", "../l/o.jpg"]
    let installation : Installation := ⟨.ofVariable none, .ok EntryPoint.all, fun _ => ""⟩
    let cover : CoverReply := ⟨0, some 2, some 0, [7, 8]⟩
    let strings : StringsReply :=
      ⟨0, some 2, some [some [0x6B], some [0x6B]], some [some [0x31], some [0x32]]⟩
    let replies : Replies := ⟨[5], [], [strings], [cover, cover]⟩
    let here : Place := [Text.Utf8.encode "w"]
    let name : Bytes := Text.Utf8.encode "o.jpg"
    let fileSystem : FileSystem :=
      ⟨(((∅ : Std.ExtTreeMap Place Entry).insert here .directory).insert (here ++ [name])
          (.file [1, 2, 3])).insert [Text.Utf8.encode "l"] (.link (.ofText "w")), here, none⟩
    let report := (run installation fileSystem arguments replies).value
    (∀ argument ∈ arguments, '\x00' ∉ argument.toList) ∧
      Invocation.parse? arguments = some ⟨"a", some "../l/o.jpg"⟩ ∧ installation.Usable ∧
      replies.pointers.headD 0 ≠ 0 ∧ StaysInside fileSystem (.ofText "../l/o.jpg") ∧
      report.stdout =
        "File: a\nMetadata:\n  k: 2\nCover: 2 bytes (JPEG)\nCover saved to ../l/o.jpg\n" ∧
      FileSystem.SavedAt (here ++ [name]) (.ofText "../l/o.jpg") [7, 8] fileSystem
        report.left := by
  intro arguments installation cover strings replies here name fileSystem report
  have hzero : ∀ argument ∈ arguments, '\x00' ∉ argument.toList := by decide
  have hparse : Invocation.parse? arguments = some ⟨"a", some "../l/o.jpg"⟩ := by decide
  have husable : installation.Usable := ⟨_, rfl, EntryPoint.mem_all⟩
  have hpointer : replies.pointers.headD 0 ≠ 0 := by decide
  have hlocate : fileSystem.locate (.ofText "../l/o.jpg") = .ok (here ++ [name]) := by decide
  have hinside : StaysInside fileSystem (.ofText "../l/o.jpg") := by
    intro place hplace
    obtain rfl := Except.ok.inj (hlocate.symm.trans hplace)
    exact ⟨name, [], rfl⟩
  obtain ⟨-, token, -, -, cover?, saved?, -, -, hcover, -, -, -, hsaves⟩ :=
    program_prints_and_saves installation fileSystem arguments _ replies hzero hparse husable
      hpointer (by rintro file ⟨⟩; exact hinside)
  have hcover? : cover? = some ⟨.jpeg, [7, 8]⟩ := by
    rw [← hcover, value_fetchCover]
    decide
  have hwrite : (fileSystem.write (.ofText "../l/o.jpg") [7, 8]).result = .ok () := by decide
  have hsaved : saved? = some "../l/o.jpg" :=
    (hsaves.saved_iff _).mpr ⟨rfl, _, hcover?, hwrite⟩
  obtain ⟨told, _, _, htold, hplace⟩ := hsaves.left_of_saved _ hsaved
  obtain rfl : told = ⟨.jpeg, [7, 8]⟩ := Option.some.inj (htold.symm.trans hcover?)
  -- The place is the one where the path leads.
  have hsame := Except.ok.inj (hplace.located_before.symm.trans hlocate)
  rw [hsame] at hplace
  exact ⟨hzero, hparse, husable, hpointer, hinside, by decide, hplace⟩

end DemuxSession.CommandLine
