import DemuxSession.Proofs.Program

/-!
# The arguments that are accepted

Arguments are put together from items: a file, or the option with its value.  The value is
whatever word comes after the option, so it may look like the option, and a file is any
word that does not.

`parseFrom_spelled` is the one fact about reading items, with anything read before: it
succeeds if there is one file among what was read before and the items, and the last file
for the cover counts.  Now every list of arguments is either spelled by items, and by these
alone (`spelled_injective`), or has the option once more at its end, without a value
(`exists_spelled`).  So reading accepts exactly the lists that are spelled by items with one
file among them.
-/

namespace DemuxSession.CommandLine

/-! ## Items -/

/-- A piece of the arguments. -/
inductive Item where
  /-- The file to read. -/
  | file (word : String) (hword : word ≠ Invocation.coverOption)
  /-- The option with its value, a file for the cover. -/
  | coverFile (value : String)
  deriving DecidableEq

namespace Item

/-- The words an item is spelled with. -/
def words : Item → List String
  | .file word _ => [word]
  | .coverFile value => [Invocation.coverOption, value]

def file? : Item → Option String
  | .file word _ => some word
  | .coverFile _ => none

def coverFile? : Item → Option String
  | .file _ _ => none
  | .coverFile value => some value

/-- The arguments that the items spell. -/
def spelled (items : List Item) : List String := items.flatMap words

/-- The files to read that are among the items. -/
def files (items : List Item) : List String := items.filterMap file?

/-- The files for the cover that are among the items. -/
def coverFiles (items : List Item) : List String := items.filterMap coverFile?

section Cons

variable (items : List Item)

@[simp] theorem spelled_file (word : String) (hword : word ≠ Invocation.coverOption) :
    spelled (.file word hword :: items) = word :: spelled items := rfl

@[simp] theorem spelled_coverFile (value : String) :
    spelled (.coverFile value :: items) = Invocation.coverOption :: value :: spelled items := rfl

@[simp] theorem files_coverFile (value : String) :
    files (.coverFile value :: items) = files items := rfl

@[simp] theorem coverFiles_coverFile (value : String) :
    coverFiles (.coverFile value :: items) = value :: coverFiles items := rfl

end Cons

/-- Items are told from the arguments they spell: a word is the option or a file, and the
word after the option is its value. -/
theorem spelled_injective : Function.Injective spelled := by
  intro items
  induction items with
  | nil =>
    intro others hspelled
    cases others with
    | nil => rfl
    | cons other _ => cases other <;> cases hspelled
  | cons item rest ih =>
    intro others hspelled
    cases others with
    | nil => cases item <;> cases hspelled
    | cons other others =>
      cases item with
      | file word hword =>
        cases other with
        | file word' hword' =>
          obtain ⟨rfl, hrest⟩ := List.cons.inj hspelled
          rw [ih hrest]
        | coverFile value => exact absurd (List.cons.inj hspelled).1 hword
      | coverFile value =>
        cases other with
        | file word hword => exact absurd (List.cons.inj hspelled).1.symm hword
        | coverFile value' =>
          obtain ⟨rfl, hrest⟩ := List.cons.inj (List.cons.inj hspelled).2
          rw [ih hrest]

/-- Arguments are spelled by items, but for an option at their end that has no value. -/
theorem exists_spelled : ∀ arguments : List String,
    ∃ items, arguments = spelled items ∨ arguments = spelled items ++ [Invocation.coverOption]
  | [] => ⟨[], .inl rfl⟩
  | argument :: rest => by
    by_cases hoption : argument = Invocation.coverOption
    · subst hoption
      cases rest with
      | nil => exact ⟨[], .inr rfl⟩
      | cons value rest =>
        obtain ⟨items, hitems⟩ := exists_spelled rest
        refine ⟨.coverFile value :: items, ?_⟩
        rcases hitems with rfl | rfl
        · exact .inl rfl
        · exact .inr rfl
    · obtain ⟨items, hitems⟩ := exists_spelled rest
      refine ⟨.file argument hoption :: items, ?_⟩
      rcases hitems with rfl | rfl
      · exact .inl rfl
      · exact .inr rfl

end Item

/-! ## Reading items -/

namespace Invocation

open Item

/-- What is asked for by files to read and files for the cover: the one file to read, and
the last file for the cover. -/
def ofFiles? (files coverFiles : List String) : Option Invocation :=
  match files with
  | [file] => some ⟨file, coverFiles.getLast?⟩
  | _ => none

theorem ofFiles?_eq_some_iff {files coverFiles : List String} {invocation : Invocation} :
    ofFiles? files coverFiles = some invocation ↔
      files = [invocation.file] ∧ coverFiles.getLast? = invocation.coverFile? := by
  obtain ⟨file, coverFile?⟩ := invocation
  unfold ofFiles?
  split
  case h_1 => simp
  case h_2 hfiles =>
    refine ⟨nofun, fun hone => ?_⟩
    exact absurd hone.1 (hfiles file)

theorem ofFiles?_eq_none_iff {files coverFiles : List String} :
    ofFiles? files coverFiles = none ↔ files = [] ∨ 2 ≤ files.length := by
  cases files with
  | nil => simp [ofFiles?]
  | cons file rest => cases rest <;> simp [ofFiles?]

section Words

variable (file? coverFile? : Option String) (rest : List String)

theorem parseFrom_word {word : String} (hword : word ≠ coverOption) :
    parseFrom file? coverFile? (word :: rest) =
      match file? with
      | none => parseFrom (some word) coverFile? rest
      | some _ => none := by
  rw [parseFrom.eq_def]
  exact if_neg hword

theorem parseFrom_option (value : String) :
    parseFrom file? coverFile? (coverOption :: value :: rest) =
      parseFrom file? (some value) rest := by
  rw [parseFrom.eq_def]
  exact if_pos rfl

theorem parseFrom_option_nil : parseFrom file? coverFile? [coverOption] = none := by
  rw [parseFrom.eq_def]
  exact if_pos rfl

end Words

/-- What is read of items comes after what was read before. -/
theorem parseFrom_spelled (items : List Item) : ∀ file? coverFile? : Option String,
    parseFrom file? coverFile? (spelled items) =
      ofFiles? (file?.toList ++ files items) (coverFile?.toList ++ coverFiles items) := by
  induction items with
  | nil =>
    intro file? coverFile?
    cases file? <;> cases coverFile? <;> rfl
  | cons item rest ih =>
    intro file? coverFile?
    cases item with
    | file word hword =>
      rw [spelled_file, parseFrom_word _ _ _ hword]
      cases file? with
      | none => exact ih (some word) coverFile?
      | some file => rfl
    | coverFile value =>
      -- The value takes the place of the one before.
      have hlast : (coverFile?.toList ++ value :: coverFiles rest).getLast? =
          ((some value).toList ++ coverFiles rest).getLast? :=
        List.getLast?_append_of_ne_nil _ (List.cons_ne_nil value _)
      rw [spelled_coverFile, parseFrom_option, ih, files_coverFile, coverFiles_coverFile]
      unfold ofFiles?
      rw [hlast]

theorem parseFrom_spelled_concat (items : List Item) : ∀ file? coverFile? : Option String,
    parseFrom file? coverFile? (spelled items ++ [coverOption]) = none := by
  induction items with
  | nil => exact fun file? coverFile? => parseFrom_option_nil file? coverFile?
  | cons item rest ih =>
    intro file? coverFile?
    cases item with
    | file word hword =>
      rw [spelled_file, List.cons_append, parseFrom_word _ _ _ hword]
      cases file? with
      | none => exact ih (some word) coverFile?
      | some file => rfl
    | coverFile value =>
      rw [spelled_coverFile, List.cons_append, List.cons_append, parseFrom_option]
      exact ih file? (some value)

theorem parse?_spelled (items : List Item) :
    parse? (spelled items) = ofFiles? (files items) (coverFiles items) :=
  parseFrom_spelled items none none

theorem parse?_spelled_concat (items : List Item) :
    parse? (spelled items ++ [coverOption]) = none :=
  parseFrom_spelled_concat items none none

theorem parse?_eq_some_iff {arguments : List String} {invocation : Invocation} :
    parse? arguments = some invocation ↔
      ∃ items, spelled items = arguments ∧ files items = [invocation.file] ∧
        (coverFiles items).getLast? = invocation.coverFile? := by
  constructor
  · intro hparse
    obtain ⟨items, rfl | rfl⟩ := exists_spelled arguments
    · rw [parse?_spelled] at hparse
      exact ⟨items, rfl, ofFiles?_eq_some_iff.mp hparse⟩
    · rw [parse?_spelled_concat] at hparse
      cases hparse
  · rintro ⟨items, rfl, hfiles⟩
    rw [parse?_spelled]
    exact ofFiles?_eq_some_iff.mpr hfiles

theorem parse?_eq_none_iff {arguments : List String} :
    parse? arguments = none ↔
      (∃ items, spelled items = arguments ∧ (files items = [] ∨ 2 ≤ (files items).length)) ∨
        ∃ items, spelled items ++ [coverOption] = arguments := by
  constructor
  · intro hparse
    obtain ⟨items, rfl | rfl⟩ := exists_spelled arguments
    · rw [parse?_spelled] at hparse
      exact .inl ⟨items, rfl, ofFiles?_eq_none_iff.mp hparse⟩
    · exact .inr ⟨items, rfl⟩
  · rintro (⟨items, rfl, hfiles⟩ | ⟨items, rfl⟩)
    · rw [parse?_spelled]
      exact ofFiles?_eq_none_iff.mpr hfiles
    · exact parse?_spelled_concat items

end Invocation

/-! ## The main statement -/

theorem printed_usage :
    printed usage = "Usage: mp4_metadata <file.mp4> [--cover <cover_file>]\n" ++
      "Example: mp4_metadata flight_0001.mp4 --cover cover.jpg\n" := by
  decide

open Item in
/-- **The arguments that are accepted.**  A file to read and a file for the cover are read
from arguments just when these are spelled by items among which that file is the only one
to read and the last file for the cover is the one, or there is none.  No other items spell
the same arguments.

All other arguments have no file to read, or several, or the option at their end without a
value.  With these the program prints the usage and succeeds: it does not look for the
library, logs nothing, and leaves all files as they are. -/
theorem arguments_follow_usage (arguments : List String) :
    (∀ file coverFile?, Invocation.parse? arguments = some ⟨file, coverFile?⟩ ↔
      ∃ items, spelled items = arguments ∧ files items = [file] ∧
        (coverFiles items).getLast? = coverFile?) ∧
    (∀ items others, spelled items = arguments → spelled others = arguments →
      items = others) ∧
    (Invocation.parse? arguments = none ↔
      (∃ items, spelled items = arguments ∧ (files items = [] ∨ 2 ≤ (files items).length)) ∨
        ∃ items, spelled items ++ ["--cover"] = arguments) ∧
    (Invocation.parse? arguments = none →
      ∀ (installation : Library.Installation) (fileSystem : FileSystem)
        (replies : Library.Replies),
        run installation fileSystem arguments replies =
          ⟨⟨0, "Usage: mp4_metadata <file.mp4> [--cover <cover_file>]\n" ++
              "Example: mp4_metadata flight_0001.mp4 --cover cover.jpg\n", "", fileSystem⟩,
            replies, [], []⟩) := by
  refine ⟨fun file coverFile? => Invocation.parse?_eq_some_iff, ?_,
    Invocation.parse?_eq_none_iff, fun hparse installation fileSystem replies => ?_⟩
  · intro items others hitems hothers
    exact spelled_injective (hitems.trans hothers.symm)
  · rw [run_of_usage hparse, printed_usage]

/-- The option is the value of the option here, and once more there is no value. -/
theorem arguments_follow_usage_repeated :
    Invocation.parse? ["--cover", "--cover", "a", "--cover", "b"] = some ⟨"a", some "b"⟩ ∧
      (run ⟨.byName, .ok [], fun _ => ""⟩ .empty ["--cover", "--cover", "a", "--cover"]
        .empty).value.stdout =
        "Usage: mp4_metadata <file.mp4> [--cover <cover_file>]\n" ++
          "Example: mp4_metadata flight_0001.mp4 --cover cover.jpg\n" := by
  have hitems : Item.spelled
      [.coverFile "--cover", .file "a" (by decide), .coverFile "b"] =
        ["--cover", "--cover", "a", "--cover", "b"] := rfl
  have hunvalued : Item.spelled [.coverFile "--cover", .file "a" (by decide)] ++ ["--cover"] =
      ["--cover", "--cover", "a", "--cover"] := rfl
  obtain ⟨haccepted, -, -, -⟩ :=
    arguments_follow_usage ["--cover", "--cover", "a", "--cover", "b"]
  obtain ⟨-, -, hrefused, husage⟩ := arguments_follow_usage ["--cover", "--cover", "a", "--cover"]
  refine ⟨(haccepted "a" (some "b")).mpr ⟨_, hitems, rfl, rfl⟩, ?_⟩
  rw [husage (hrefused.mpr (.inr ⟨_, hunvalued⟩))]

end DemuxSession.CommandLine
