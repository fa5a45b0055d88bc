import DemuxSession.Log
import Mathlib.Data.List.Basic

/-!
# What can be read off the log

A line of the log is written as a level and a text, and the text is all that a reader
gets to see.  Of the lines in which handles tell about their sessions the text says
which session is meant, whatever stands in the rest of it:

* a token is shown by the shortest hexadecimal numeral of its value
  (`Token.isNumeral_toDigits`), so different tokens are shown differently
  (`Token.display_injective`), and no token is shown with a space;
* no two kinds of lines of one level begin with the same letter (`LogLine.head?_text`);
* so a text has the form of such a line for a session only if the line was logged for
  that session (`LogLine.opens_entry_iff` and the three lemmas after it).  A path may
  imitate the rest of the text, but not the session, which stands behind the last space
  or between spaces with a fixed text before it.
-/

namespace DemuxSession

/-! ## Numerals -/

namespace Token

/-- The hexadecimal digits, in lower case. -/
def hexDigits : List Char :=
  ['0', '1', '2', '3', '4', '5', '6', '7', '8', '9', 'a', 'b', 'c', 'd', 'e', 'f']

/-- The number a list of hexadecimal digits stands for. -/
def numeralValue (numeral : List Char) : Nat :=
  numeral.foldl (fun value digit => 16 * value + hexDigits.idxOf digit) 0

/-- The hexadecimal numeral of a number, in lower case and without a leading zero. -/
structure IsNumeral (numeral : List Char) (value : Nat) : Prop where
  digits : ∀ digit ∈ numeral, digit ∈ hexDigits
  value_eq : numeralValue numeral = value
  minimal : numeral.head? ≠ some '0'

theorem idxOf_digitChar : ∀ digit < 16, hexDigits.idxOf (Nat.digitChar digit) = digit := by
  decide

theorem digitChar_mem_hexDigits : ∀ digit < 16, Nat.digitChar digit ∈ hexDigits := by
  decide

theorem numeralValue_concat (numeral : List Char) {digit : Nat} (hdigit : digit < 16) :
    numeralValue (numeral ++ [Nat.digitChar digit]) = 16 * numeralValue numeral + digit := by
  simp [numeralValue, idxOf_digitChar digit hdigit]

theorem isNumeral_toDigits {value : Nat} (hpositive : 0 < value) :
    IsNumeral (Nat.toDigits 16 value) value := by
  induction value using Nat.strongRecOn with
  | ind value ih =>
    rw [Nat.toDigits_eq_if (by decide)]
    split
    case isTrue hlt =>
      refine ⟨?_, ?_, ?_⟩
      · simpa using digitChar_mem_hexDigits value hlt
      · simp [numeralValue, idxOf_digitChar value hlt]
      · simpa using Nat.pos_iff_ne_zero.mp hpositive
    case isFalse hge =>
      -- The numeral of the quotient, which is positive, and the digit of the remainder.
      have hquotient : 0 < value / 16 := Nat.div_pos (Nat.le_of_not_lt hge) (by decide)
      have hremainder : value % 16 < 16 := Nat.mod_lt value (by decide)
      obtain ⟨hdigits, hvalue, hminimal⟩ :=
        ih (value / 16) (Nat.div_lt_self hpositive (by decide)) hquotient
      refine ⟨fun digit hdigit => ?_, ?_, ?_⟩
      · rcases List.mem_append.mp hdigit with hdigit | hdigit
        · exact hdigits digit hdigit
        · obtain rfl := List.mem_singleton.mp hdigit
          exact digitChar_mem_hexDigits _ hremainder
      · rw [numeralValue_concat _ hremainder, hvalue]
        exact Nat.div_add_mod value 16
      · rwa [List.head?_append_of_ne_nil _ Nat.toDigits_ne_nil]

theorem exists_numeral (token : Token) :
    ∃ numeral, token.display = "0x" ++ String.ofList numeral ∧ IsNumeral numeral token.value :=
  ⟨Nat.toDigits 16 token.value, rfl, isNumeral_toDigits token.positive⟩

theorem display_injective : Function.Injective display := by
  intro first second hdisplay
  have hdigits : Nat.toDigits 16 first.value = Nat.toDigits 16 second.value := by
    have hlists := congrArg String.toList hdisplay
    simpa [display] using hlists
  have hvalue : first.value = second.value :=
    calc first.value
        = numeralValue (Nat.toDigits 16 first.value) :=
          (isNumeral_toDigits first.positive).value_eq.symm
      _ = numeralValue (Nat.toDigits 16 second.value) := by rw [hdigits]
      _ = second.value := (isNumeral_toDigits second.positive).value_eq
  obtain ⟨value, positive⟩ := first
  obtain ⟨value', positive'⟩ := second
  obtain rfl : value = value' := hvalue
  rfl

theorem space_notMem_display (token : Token) : ' ' ∉ token.display.toList := by
  obtain ⟨numeral, hdisplay, hnumeral⟩ := token.exists_numeral
  have hspace : ' ' ∉ numeral := fun hmem => absurd (hnumeral.digits ' ' hmem) (by decide)
  simpa [hdisplay] using hspace

end Token

/-! ## Words -/

section Words

variable {first second before before' after after' : List Char}

/-- What stands behind the last space is determined by the whole. -/
theorem eq_of_append_space_eq (hfirst : ' ' ∉ first) (hsecond : ' ' ∉ second)
    (heq : before ++ ' ' :: first = before' ++ ' ' :: second) : first = second := by
  rcases List.append_eq_append_iff.mp heq with ⟨between, -, htail⟩ | ⟨between, -, htail⟩
  · rcases List.cons_eq_append_iff.mp htail with ⟨-, htail⟩ | ⟨rest, -, rfl⟩
    · exact (List.cons.inj htail).2.symm
    · simp at hfirst
  · rcases List.cons_eq_append_iff.mp htail with ⟨-, htail⟩ | ⟨rest, -, rfl⟩
    · exact (List.cons.inj htail).2
    · simp at hsecond

/-- What stands before the first space is determined by the whole. -/
theorem eq_of_space_append_eq (hfirst : ' ' ∉ first) (hsecond : ' ' ∉ second)
    (heq : first ++ ' ' :: after = second ++ ' ' :: after') : first = second := by
  have hreverse : after.reverse ++ ' ' :: first.reverse =
      after'.reverse ++ ' ' :: second.reverse := by
    simpa using congrArg List.reverse heq
  have hword := eq_of_append_space_eq (by simpa using hfirst) (by simpa using hsecond) hreverse
  simpa using hword

end Words

/-! ## Entries -/

/-- A line of the log as it is written. -/
structure LogEntry where
  level : LogLevel
  text : String
  deriving DecidableEq

/-- The line as it is written. -/
def LogLine.entry (line : LogLine) : LogEntry := ⟨line.level, line.text⟩

namespace LogEntry

variable (session status : String) (entry : LogEntry)

/-- A handle was opened on some path and holds the session. -/
def Opens : Prop :=
  entry.level = .debug ∧ ∃ path, entry.text = "opened " ++ path ++ " as session " ++ session

/-- The session was released. -/
def Releases : Prop :=
  entry.level = .debug ∧ entry.text = "released session " ++ session

/-- The session was released, and the backend answered with a status. -/
def FailsToRelease : Prop :=
  entry.level = .warn ∧ entry.text = "release of session " ++ session ++ " returned " ++ status

/-- The session was released, well or not. -/
def Ends : Prop :=
  entry.Releases session ∨ ∃ status, entry.FailsToRelease session status

/-- A handle was dropped that held the session. -/
def WarnsOfDrop : Prop :=
  entry.level = .warn ∧ entry.text = "session " ++ session ++ " dropped without close, releasing"

/-! Whether an entry has one of these forms can be computed, although a path or a status is
only said to exist. -/

theorem exists_status_iff (before text : String) :
    (∃ status, text = before ++ status) ↔ before.toList <+: text.toList := by
  constructor
  · rintro ⟨status, rfl⟩
    exact ⟨status.toList, String.toList_append.symm⟩
  · rintro ⟨status, htext⟩
    exact ⟨String.ofList status, String.toList_inj.mp (by simp [← htext])⟩

theorem exists_path_iff (before after text : String) :
    (∃ path, text = before ++ path ++ after) ↔
      before.toList <+: text.toList ∧ after.toList <:+ text.toList ∧
        before.length + after.length ≤ text.length := by
  constructor
  · rintro ⟨path, rfl⟩
    refine ⟨⟨path.toList ++ after.toList, by simp⟩, ⟨before.toList ++ path.toList, by simp⟩, ?_⟩
    simp only [String.length_append]
    omega
  · rintro ⟨⟨rest, hrest⟩, hsuffix, hlength⟩
    -- What stands behind the beginning is long enough to hold all of the end.
    have hlengths : after.toList.length ≤ rest.length := by
      have htotal := congrArg List.length hrest
      simp only [List.length_append, String.length_toList] at htotal ⊢
      omega
    have hrest' : rest <:+ text.toList := ⟨before.toList, hrest⟩
    obtain ⟨path, hpath⟩ := List.suffix_of_suffix_length_le hsuffix hrest' hlengths
    exact ⟨String.ofList path, String.toList_inj.mp (by simp [← hrest, ← hpath])⟩

instance decidableOpens : Decidable (entry.Opens session) :=
  decidable_of_iff (entry.level = .debug ∧ "opened ".toList <+: entry.text.toList ∧
      (" as session " ++ session).toList <:+ entry.text.toList ∧
        "opened ".length + (" as session " ++ session).length ≤ entry.text.length) <| by
    rw [← exists_path_iff, Opens]
    simp only [String.append_assoc]

instance decidableReleases : Decidable (entry.Releases session) :=
  inferInstanceAs (Decidable (_ ∧ _))

instance decidableEnds : Decidable (entry.Ends session) :=
  decidable_of_iff (entry.Releases session ∨ entry.level = .warn ∧
      ("release of session " ++ session ++ " returned ").toList <+: entry.text.toList) <| by
    rw [← exists_status_iff, Ends]
    simp only [FailsToRelease, exists_and_left]

instance decidableWarnsOfDrop : Decidable (entry.WarnsOfDrop session) :=
  inferInstanceAs (Decidable (_ ∧ _))

end LogEntry

/-! ## The lines behind the entries -/

namespace LogLine

/-- The letter a line begins with. -/
def initial : LogLine → Char
  | .opened .. => 'o'
  | .refused _ => 'b'
  | .released _ | .releaseFailed .. => 'r'
  | .droppedOpen _ | .stringsCounted .. => 's'
  | .pair .. | .registrySession .. | .callFailed .. => 'm'
  | .zeroInPath _ => 'p'
  | .stringPair .. => ' '
  | .unknownCoverKind _ => 'u'
  | .loading _ => 'L'
  | .entryPointsFound => 'A'

theorem head?_text (line : LogLine) : line.text.toList.head? = some line.initial := by
  unfold text
  cases line with
  | callFailed entryPoint status =>
    cases entryPoint <;> simp [initial, Library.EntryPoint.symbol]
  | loading location => cases location <;> simp [initial]
  | _ => simp [initial]

/-- The kind of a line shows in its level and in the letter it begins with. -/
theorem initial_eq_of_text_eq {line : LogLine} {letter : Char} {text : String}
    (htext : line.entry.text = text) (hletter : text.toList.head? = some letter) :
    line.initial = letter := by
  have hhead := line.head?_text
  rw [show line.text = text from htext, hletter] at hhead
  exact (Option.some.inj hhead).symm

variable {line : LogLine} {session status : String} {token : Token}

theorem exists_opened_of_opens (hopens : line.entry.Opens session) :
    ∃ path token, line = .opened path token := by
  obtain ⟨hlevel, path, htext⟩ := hopens
  have hinitial : line.initial = 'o' := initial_eq_of_text_eq htext (by simp)
  cases line <;> simp [initial, level, entry] at hinitial hlevel ⊢

theorem exists_released_of_releases (hreleases : line.entry.Releases session) :
    ∃ token, line = .released token ∧ session = token.display := by
  obtain ⟨hlevel, htext⟩ := hreleases
  have hinitial : line.initial = 'r' := initial_eq_of_text_eq htext (by simp)
  cases line with
  | released token =>
    have htext' : "released session " ++ token.display = "released session " ++ session := htext
    exact ⟨token, rfl, ((String.append_right_inj _).mp htext').symm⟩
  | _ => simp [initial, level, entry] at hinitial hlevel

theorem exists_releaseFailed_of_failsToRelease (hfails : line.entry.FailsToRelease session status) :
    ∃ token code, line = .releaseFailed token code := by
  obtain ⟨hlevel, htext⟩ := hfails
  have hinitial : line.initial = 'r' := initial_eq_of_text_eq htext (by simp)
  cases line <;> simp [initial, level, entry] at hinitial hlevel ⊢

theorem exists_droppedOpen_of_warnsOfDrop (hwarns : line.entry.WarnsOfDrop session) :
    ∃ token, line = .droppedOpen token ∧ session = token.display := by
  obtain ⟨hlevel, htext⟩ := hwarns
  have hinitial : line.initial = 's' := initial_eq_of_text_eq htext (by simp)
  cases line with
  | droppedOpen token =>
    have htext' : "session " ++ token.display ++ " dropped without close, releasing" =
        "session " ++ session ++ " dropped without close, releasing" := htext
    rw [String.append_left_inj, String.append_right_inj] at htext'
    exact ⟨token, rfl, htext'.symm⟩
  | _ => simp [initial, level, entry] at hinitial hlevel

theorem opens_entry_iff : line.entry.Opens token.display ↔ ∃ path, line = .opened path token := by
  constructor
  · intro hopens
    obtain ⟨path, given, rfl⟩ := exists_opened_of_opens hopens
    obtain ⟨-, imitated, htext⟩ := hopens
    have htext' : "opened " ++ path.display ++ " as session " ++ given.display =
        "opened " ++ imitated ++ " as session " ++ token.display := htext
    -- The session is the last word, so that it does not matter what is before it.
    have hchars :
        ("opened " ++ path.display ++ " as session").toList ++ ' ' :: given.display.toList =
          ("opened " ++ imitated ++ " as session").toList ++ ' ' :: token.display.toList := by
      simpa using congrArg String.toList htext'
    have hsession :=
      eq_of_append_space_eq given.space_notMem_display token.space_notMem_display hchars
    obtain rfl := Token.display_injective (String.toList_inj.mp hsession)
    exact ⟨path, rfl⟩
  · rintro ⟨path, rfl⟩
    exact ⟨rfl, path.display, rfl⟩

theorem releases_entry_iff : line.entry.Releases token.display ↔ line = .released token := by
  constructor
  · intro hreleases
    obtain ⟨released, rfl, hsession⟩ := exists_released_of_releases hreleases
    rw [Token.display_injective hsession]
  · rintro rfl
    exact ⟨rfl, rfl⟩

theorem failsToRelease_entry_iff :
    line.entry.FailsToRelease token.display status ↔
      ∃ code, line = .releaseFailed token code ∧ status = decimal code := by
  constructor
  · intro hfails
    obtain ⟨released, code, rfl⟩ := exists_releaseFailed_of_failsToRelease hfails
    have htext : "release of session " ++ released.display ++ " returned " ++ decimal code =
        "release of session " ++ token.display ++ " returned " ++ status := hfails.2
    have hchars : released.display.toList ++ ' ' :: ("returned " ++ decimal code).toList =
        token.display.toList ++ ' ' :: ("returned " ++ status).toList := by
      simpa using congrArg String.toList htext
    have hsession :=
      eq_of_space_append_eq released.space_notMem_display token.space_notMem_display hchars
    obtain rfl := Token.display_injective (String.toList_inj.mp hsession)
    exact ⟨code, rfl, ((String.append_right_inj _).mp htext).symm⟩
  · rintro ⟨code, rfl, rfl⟩
    exact ⟨rfl, rfl⟩

theorem ends_entry_iff :
    line.entry.Ends token.display ↔
      line = .released token ∨ ∃ code, line = .releaseFailed token code := by
  simp only [LogEntry.Ends, releases_entry_iff, failsToRelease_entry_iff]
  constructor
  · rintro (rfl | ⟨-, code, rfl, -⟩)
    · exact .inl rfl
    · exact .inr ⟨code, rfl⟩
  · rintro (rfl | ⟨code, rfl⟩)
    · exact .inl rfl
    · exact .inr ⟨_, code, rfl, rfl⟩

theorem warnsOfDrop_entry_iff :
    line.entry.WarnsOfDrop token.display ↔ line = .droppedOpen token := by
  constructor
  · intro hwarns
    obtain ⟨dropped, rfl, hsession⟩ := exists_droppedOpen_of_warnsOfDrop hwarns
    rw [Token.display_injective hsession]
  · rintro rfl
    exact ⟨rfl, rfl⟩

end LogLine

end DemuxSession
