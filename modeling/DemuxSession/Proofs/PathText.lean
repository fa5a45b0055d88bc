import DemuxSession.Proofs.LibraryReads
import DemuxSession.Proofs.Sequences
import DemuxSession.Proofs.Sessions
import DemuxSession.Proofs.Wording

/-!
# The text of a path

A path is any string of bytes, and what is shown for it is text.  The automaton that makes
the text looks at one byte after the other.  Here the text is described without it, by what
stands for the bytes at the front (`ShowsText`): a text stands for its own bytes, and a
replacement character for a byte that begins no sequence, or for as much of a sequence as
there is.

* Where a sequence begins, and where it is cut off, is said of the bytes of characters only
  (`Begins`, `Truncated`).  It is the same as fitting the ranges of the table
  (`begins_cons_iff`, `truncated_cons_iff`), so the automaton follows the rules
  (`showsText_display`).
* Every byte string is a character, a byte that begins no sequence or a truncated sequence in
  front of a shorter byte string.  What holds of no bytes and is kept by putting such a piece
  in front holds of all bytes (`induction_on_pieces`).
* By this induction the rules leave no choice (`ShowsText.unique`), and text behind the bytes
  is shown behind them (`ShowsText.shown_append_encode`).
* The failures and the lines of the log that show a path show it by the rules
  (`FilePath.shown_by_rules`).
-/

namespace DemuxSession

namespace Text.Utf8

/-! ## What the automaton makes of a byte -/

/-- The pieces of `rest` behind the beginning of a sequence that has bytes in the ranges to
come. -/
def piecesAfter (bits : Nat) : List ByteRange → Bytes → List Piece
  | [], rest => .scalar (Char.ofNat bits) :: pieces rest
  | expected :: later, rest => piecesFrom (some ⟨bits, expected, later⟩) rest

section Automaton

variable {bits : Nat} {byte : UInt8} {rest : Bytes} {range : ByteRange} {later : List ByteRange}

theorem pieces_of_not_announced (hnone : announcement? byte = none) (rest : Bytes) :
    pieces (byte :: rest) = .illFormed :: pieces rest := by
  simp [pieces, piecesFrom, start, hnone]

theorem pieces_of_announced {announced : Announcement}
    (hannounced : announcement? byte = some announced) (rest : Bytes) :
    pieces (byte :: rest) = piecesAfter announced.bits announced.following rest := by
  obtain ⟨bits, following⟩ := announced
  cases following with
  | nil => simp [pieces, piecesFrom, start, hannounced, piecesAfter]
  | cons expected later => simp [pieces, piecesFrom, start, hannounced, piecesAfter]

theorem piecesAfter_of_contains (hcontains : range.contains byte = true) :
    piecesAfter bits (range :: later) (byte :: rest) =
      piecesAfter (bits * 64 + (byte.toNat - 0x80)) later rest := by
  cases later with
  | nil => simp [piecesAfter, piecesFrom, Unfinished.extend, hcontains, pieces]
  | cons expected later => simp [piecesAfter, piecesFrom, Unfinished.extend, hcontains]

/-- A byte out of the range that is expected, or the end, leaves the sequence ill-formed. -/
theorem piecesAfter_of_stops (hstops : ∀ next ∈ rest.head?, range.contains next = false) :
    piecesAfter bits (range :: later) rest = .illFormed :: pieces rest := by
  cases rest with
  | nil => rfl
  | cons next rest =>
    have hout : range.contains next = false := hstops next rfl
    simp [piecesAfter, piecesFrom, Unfinished.extend, hout, pieces]

theorem piecesAfter_append {ranges : List ByteRange} {part : Bytes} (hfits : Fits ranges part) :
    piecesAfter bits (ranges ++ later) (part ++ rest) =
      piecesAfter (gather bits part) later rest := by
  induction hfits generalizing bits with
  | nil => rfl
  | cons hcontains _ ih =>
    rw [List.cons_append, List.cons_append, piecesAfter_of_contains hcontains, ih, gather, gather,
      List.foldl_cons]

end Automaton

/-! ## The beginning of a sequence -/

/-- The sequence of some character begins with the bytes. -/
def Begins (bytes : Bytes) : Prop :=
  ∃ character : Char, bytes <+: String.utf8EncodeChar character

/-- The part is the beginning of a sequence and not a whole one, and what follows does not
continue it. -/
structure Truncated (part rest : Bytes) : Prop where
  ne_nil : part ≠ []
  proper : ∃ character : Char, part <+: String.utf8EncodeChar character ∧
    part ≠ String.utf8EncodeChar character
  stops : ∀ next ∈ rest.head?, ¬ Begins (part ++ [next])

theorem fits_low {ranges : List ByteRange} (hcontinues : ∀ range ∈ ranges, range.Continues) :
    Fits ranges (ranges.map ByteRange.low) := by
  induction ranges with
  | nil => exact .nil
  | cons range later ih =>
    refine .cons (hcontinues range List.mem_cons_self).nonempty (ih fun other hother => ?_)
    exact hcontinues other (List.mem_cons_of_mem _ hother)

/-- What fits some of the ranges can be completed to a sequence. -/
theorem exists_completion {byte : UInt8} {announced : Announcement} {ranges later : List ByteRange}
    {part : Bytes} (hannounced : announcement? byte = some announced)
    (hfollowing : announced.following = ranges ++ later) (hfits : Fits ranges part) :
    ∃ character, String.utf8EncodeChar character =
      byte :: part ++ later.map ByteRange.low := by
  have hcontinues := (announces_of_announcement? hannounced).continues
  have hlow : Fits later (later.map ByteRange.low) := by
    refine fits_low fun range hrange => hcontinues range ?_
    rw [hfollowing]
    exact List.mem_append_right _ hrange
  refine ⟨_, utf8EncodeChar_eq_cons_iff.mpr ⟨announced, hannounced, ?_, rfl⟩⟩
  rw [hfollowing]
  exact List.rel_append hfits hlow

/-- Some sequence begins with the bytes exactly if they fit the first ranges that their
first byte announces. -/
theorem begins_cons_iff {byte : UInt8} {part : Bytes} :
    Begins (byte :: part) ↔ ∃ announced ranges later, announcement? byte = some announced ∧
      announced.following = ranges ++ later ∧ Fits ranges part := by
  constructor
  · rintro ⟨character, rest, hencode⟩
    obtain ⟨announced, hannounced, hfits, -⟩ := utf8EncodeChar_eq_cons_iff.mp hencode.symm
    obtain ⟨ranges, later, hfollowing, hpart, -⟩ := hfits.exists_of_append
    exact ⟨announced, ranges, later, hannounced, hfollowing, hpart⟩
  · rintro ⟨announced, ranges, later, hannounced, hfollowing, hfits⟩
    obtain ⟨character, hencode⟩ := exists_completion hannounced hfollowing hfits
    exact ⟨character, later.map ByteRange.low, hencode.symm⟩

/-- What fits the first ranges is continued by the bytes of the next range and no others. -/
theorem begins_concat_iff {byte next : UInt8} {announced : Announcement}
    {ranges later : List ByteRange} {range : ByteRange} {part : Bytes}
    (hannounced : announcement? byte = some announced)
    (hfollowing : announced.following = ranges ++ range :: later) (hfits : Fits ranges part) :
    Begins (byte :: part ++ [next]) ↔ range.contains next = true := by
  rw [List.cons_append, begins_cons_iff]
  constructor
  · rintro ⟨announced', _, later', hannounced', hfollowing', hfits'⟩
    obtain ⟨ranges', range', rfl, hpart, hcontains⟩ := hfits'.exists_of_concat
    obtain rfl : announced = announced' := Option.some.inj (hannounced.symm.trans hannounced')
    have hlength : ranges.length = ranges'.length := hfits.length_eq.trans hpart.length_eq.symm
    have hranges : ranges ++ range :: later = ranges' ++ range' :: later' := by
      rw [← hfollowing, hfollowing', List.append_assoc, List.singleton_append]
    obtain ⟨-, hlater⟩ := List.append_inj hranges hlength
    obtain ⟨rfl, -⟩ := List.cons.inj hlater
    exact hcontains
  · intro hcontains
    refine ⟨announced, ranges ++ [range], later, hannounced, ?_,
      List.rel_append hfits (.cons hcontains .nil)⟩
    rw [hfollowing, List.append_cons]

/-- The beginning of a sequence is truncated where the range that is expected next does not
have what follows. -/
theorem truncated_cons_iff {byte : UInt8} {part rest : Bytes} :
    Truncated (byte :: part) rest ↔ ∃ announced ranges range later,
      announcement? byte = some announced ∧ announced.following = ranges ++ range :: later ∧
      Fits ranges part ∧ ∀ next ∈ rest.head?, range.contains next = false := by
  constructor
  · rintro ⟨-, ⟨character, ⟨missing, hencode⟩, hproper⟩, hstops⟩
    obtain ⟨announced, hannounced, hfits, -⟩ := utf8EncodeChar_eq_cons_iff.mp hencode.symm
    obtain ⟨ranges, _, hfollowing, hpart, hmissing⟩ := hfits.exists_of_append
    cases missing with
    | nil => exact absurd (by rw [← hencode, List.append_nil]) hproper
    | cons needed missing =>
      obtain ⟨range, later, -, -, rfl⟩ := List.forall₂_cons_right_iff.mp hmissing
      refine ⟨announced, ranges, range, later, hannounced, hfollowing, hpart,
        fun next hnext => ?_⟩
      rw [← Bool.not_eq_true, ← begins_concat_iff hannounced hfollowing hpart]
      exact hstops next hnext
  · rintro ⟨announced, ranges, range, later, hannounced, hfollowing, hfits, hstops⟩
    obtain ⟨character, hencode⟩ := exists_completion hannounced hfollowing hfits
    refine ⟨List.cons_ne_nil _ _, ⟨character, ⟨_, hencode.symm⟩, fun hwhole => ?_⟩,
      fun next hnext => ?_⟩
    · rw [hencode, List.map_cons] at hwhole
      simp at hwhole
    · rw [begins_concat_iff hannounced hfollowing hfits, Bool.not_eq_true]
      exact hstops next hnext

theorem not_begins_singleton_iff {byte : UInt8} :
    ¬ Begins [byte] ↔ announcement? byte = none := by
  rw [begins_cons_iff]
  constructor
  · intro hbegins
    cases hannounced : announcement? byte with
    | none => rfl
    | some announced => exact absurd ⟨announced, [], _, hannounced, rfl, .nil⟩ hbegins
  · rintro hnone ⟨announced, _, _, hsome, -⟩
    rw [hnone] at hsome
    cases hsome

/-! ## Pieces -/

theorem pieces_utf8EncodeChar (character : Char) (rest : Bytes) :
    pieces (String.utf8EncodeChar character ++ rest) = .scalar character :: pieces rest := by
  obtain ⟨byte, part, announced, hencode, hannounces, hfits, hbits⟩ := exists_announces character
  rw [hencode, List.cons_append, pieces_of_announced (announcement?_of_announces hannounces)]
  calc piecesAfter announced.bits announced.following (part ++ rest)
      = piecesAfter announced.bits (announced.following ++ []) (part ++ rest) := by
        rw [List.append_nil]
    _ = piecesAfter (gather announced.bits part) [] rest := piecesAfter_append hfits
    _ = .scalar character :: pieces rest := by rw [hbits, piecesAfter, Char.ofNat_toNat]

theorem pieces_of_not_begins {byte : UInt8} (hbegins : ¬ Begins [byte]) (rest : Bytes) :
    pieces (byte :: rest) = .illFormed :: pieces rest :=
  pieces_of_not_announced (not_begins_singleton_iff.mp hbegins) rest

theorem pieces_of_truncated {part rest : Bytes} (htruncated : Truncated part rest) :
    pieces (part ++ rest) = .illFormed :: pieces rest := by
  cases part with
  | nil => exact absurd rfl htruncated.ne_nil
  | cons byte part =>
    obtain ⟨announced, ranges, range, later, hannounced, hfollowing, hfits, hstops⟩ :=
      truncated_cons_iff.mp htruncated
    rw [List.cons_append, pieces_of_announced hannounced, hfollowing, piecesAfter_append hfits,
      piecesAfter_of_stops hstops]

/-! ## Every byte string is made of pieces -/

theorem exists_longest_fit (ranges : List ByteRange) (bytes : Bytes) :
    ∃ fitted later part rest, ranges = fitted ++ later ∧ bytes = part ++ rest ∧
      Fits fitted part ∧
      ∀ range ∈ later.head?, ∀ next ∈ rest.head?, range.contains next = false := by
  induction ranges generalizing bytes with
  | nil => exact ⟨[], [], [], bytes, rfl, rfl, .nil, nofun⟩
  | cons range ranges ih =>
    cases bytes with
    | nil => exact ⟨[], range :: ranges, [], [], rfl, rfl, .nil, nofun⟩
    | cons byte bytes =>
      cases hcontains : range.contains byte with
      | false =>
        refine ⟨[], range :: ranges, [], byte :: bytes, rfl, rfl, .nil, ?_⟩
        rintro _ ⟨⟩ _ ⟨⟩
        exact hcontains
      | true =>
        obtain ⟨fitted, later, part, rest, rfl, rfl, hfits, hstops⟩ := ih bytes
        exact ⟨range :: fitted, later, byte :: part, rest, rfl, rfl, .cons hcontains hfits,
          hstops⟩

theorem induction_on_pieces {motive : Bytes → Prop} (nil : motive [])
    (scalar : ∀ character rest, motive rest → motive (String.utf8EncodeChar character ++ rest))
    (stray : ∀ byte rest, ¬ Begins [byte] → motive rest → motive (byte :: rest))
    (truncated : ∀ part rest, Truncated part rest → motive rest → motive (part ++ rest))
    (bytes : Bytes) : motive bytes := by
  induction hlength : bytes.length using Nat.strongRecOn generalizing bytes with
  | ind length ih =>
    cases bytes with
    | nil => exact nil
    | cons byte bytes =>
      have hrest : ∀ part rest, bytes = part ++ rest → motive rest := by
        intro part rest hbytes
        refine ih rest.length ?_ rest rfl
        rw [← hlength, hbytes, List.length_cons, List.length_append]
        omega
      cases hannounced : announcement? byte with
      | none =>
        exact stray byte bytes (not_begins_singleton_iff.mpr hannounced) (hrest [] bytes rfl)
      | some announced =>
        obtain ⟨fitted, later, part, rest, hfollowing, hbytes, hfits, hstops⟩ :=
          exists_longest_fit announced.following bytes
        cases later with
        | nil =>
          obtain ⟨character, hencode⟩ := exists_completion hannounced hfollowing hfits
          rw [List.map_nil, List.append_nil] at hencode
          have hmotive := scalar character rest (hrest part rest hbytes)
          rwa [hencode, List.cons_append, ← hbytes] at hmotive
        | cons range later =>
          have hcut : Truncated (byte :: part) rest := truncated_cons_iff.mpr
            ⟨announced, fitted, range, later, hannounced, hfollowing, hfits, hstops range rfl⟩
          have hmotive := truncated (byte :: part) rest hcut (hrest part rest hbytes)
          rwa [List.cons_append, ← hbytes] at hmotive

/-! ## The rules -/

/-- The rules by which bytes are shown as text. -/
structure ShowsText (shown : Bytes → String) : Prop where
  nil : shown [] = ""
  /-- The bytes of a text are shown as the text. -/
  encoded : ∀ (text : String) (rest : Bytes), shown (encode text ++ rest) = text ++ shown rest
  /-- A byte that begins no sequence is replaced. -/
  stray : ∀ (byte : UInt8) (rest : Bytes), ¬ Begins [byte] →
    shown (byte :: rest) = "\uFFFD" ++ shown rest
  /-- The beginning of a sequence that is not continued is replaced as a whole. -/
  truncated : ∀ part rest : Bytes, Truncated part rest →
    shown (part ++ rest) = "\uFFFD" ++ shown rest

theorem encode_singleton (character : Char) :
    encode (String.singleton character) = String.utf8EncodeChar character := by
  simp [encode]

theorem announcement?_of_mem_head?_encode {text : String} {byte : UInt8}
    (hhead : byte ∈ (encode text).head?) : announcement? byte ≠ none := by
  unfold encode at hhead
  generalize text.toList = characters at hhead
  cases characters with
  | nil => cases hhead
  | cons character characters =>
    obtain ⟨first, rest, announced, hencode, hannounces, -⟩ := exists_announces character
    rw [List.flatMap_cons, hencode] at hhead
    obtain rfl : first = byte := Option.some.inj hhead
    rw [announcement?_of_announces hannounces]
    exact Option.some_ne_none announced

/-- The first byte of a sequence continues none. -/
theorem not_begins_append {part : Bytes} {next : UInt8} (hne : part ≠ [])
    (hnext : announcement? next ≠ none) : ¬ Begins (part ++ [next]) := by
  cases part with
  | nil => exact absurd rfl hne
  | cons byte part =>
    rw [List.cons_append, begins_cons_iff]
    rintro ⟨announced, _, later, hannounced, hfollowing, hfits⟩
    obtain ⟨ranges, range, rfl, -, hcontains⟩ := hfits.exists_of_concat
    have hmem : range ∈ announced.following := by
      rw [hfollowing]
      exact List.mem_append_left later List.mem_concat_self
    have hcontinues := (announces_of_announcement? hannounced).continues range hmem
    exact hnext (announcement?_of_contains hcontinues hcontains)

namespace ShowsText

variable {shown : Bytes → String} (hrules : ShowsText shown)

include hrules

theorem shown_utf8EncodeChar (character : Char) (rest : Bytes) :
    shown (String.utf8EncodeChar character ++ rest) = String.singleton character ++ shown rest := by
  rw [← encode_singleton]
  exact hrules.encoded _ rest

/-- The rules leave no choice. -/
theorem unique {shown' : Bytes → String} (hrules' : ShowsText shown') : shown = shown' := by
  funext bytes
  induction bytes using induction_on_pieces with
  | nil => rw [hrules.nil, hrules'.nil]
  | scalar character rest ih =>
    rw [hrules.shown_utf8EncodeChar, hrules'.shown_utf8EncodeChar, ih]
  | stray byte rest hbegins ih =>
    rw [hrules.stray byte rest hbegins, hrules'.stray byte rest hbegins, ih]
  | truncated part rest htruncated ih =>
    rw [hrules.truncated part rest htruncated, hrules'.truncated part rest htruncated, ih]

theorem shown_encode (text : String) : shown (encode text) = text := by
  calc shown (encode text) = shown (encode text ++ []) := by rw [List.append_nil]
    _ = text ++ shown [] := hrules.encoded text []
    _ = text := by rw [hrules.nil, String.append_empty]

theorem shown_append_encode (bytes : Bytes) (text : String) :
    shown (bytes ++ encode text) = shown bytes ++ text := by
  induction bytes using induction_on_pieces with
  | nil => rw [List.nil_append, hrules.shown_encode, hrules.nil, String.empty_append]
  | scalar character rest ih =>
    rw [List.append_assoc, hrules.shown_utf8EncodeChar, hrules.shown_utf8EncodeChar, ih,
      String.append_assoc]
  | stray byte rest hbegins ih =>
    rw [List.cons_append, hrules.stray _ _ hbegins, hrules.stray _ _ hbegins, ih,
      String.append_assoc]
  | truncated part rest htruncated ih =>
    -- The part stays truncated, because no text begins with a byte that continues it.
    have hstill : Truncated part (rest ++ encode text) := by
      refine ⟨htruncated.ne_nil, htruncated.proper, fun next hnext => ?_⟩
      cases rest with
      | nil =>
        exact not_begins_append htruncated.ne_nil (announcement?_of_mem_head?_encode hnext)
      | cons byte rest => exact htruncated.stops next hnext
    rw [List.append_assoc, hrules.truncated _ _ hstill, hrules.truncated _ _ htruncated, ih,
      String.append_assoc]

end ShowsText

/-! ## The display of bytes -/

theorem pieces_encode (text : String) (rest : Bytes) :
    pieces (encode text ++ rest) = text.toList.map Piece.scalar ++ pieces rest := by
  unfold encode
  induction text.toList with
  | nil => rfl
  | cons character characters ih =>
    rw [List.flatMap_cons, List.append_assoc, pieces_utf8EncodeChar, ih, List.map_cons,
      List.cons_append]

theorem display_of_illFormed {bytes rest : Bytes}
    (hpieces : pieces bytes = .illFormed :: pieces rest) :
    display bytes = "\uFFFD" ++ display rest := by
  rw [display, hpieces, List.map_cons, String.ofList_cons]
  rfl

theorem showsText_display : ShowsText display where
  nil := rfl
  encoded text rest := by
    have hshown : Piece.shown ∘ Piece.scalar = id := rfl
    rw [display, pieces_encode, List.map_append, List.map_map, hshown, List.map_id,
      String.ofList_append, String.ofList_toList]
    rfl
  stray byte rest hbegins := display_of_illFormed (pieces_of_not_begins hbegins rest)
  truncated part rest htruncated := display_of_illFormed (pieces_of_truncated htruncated)

end Text.Utf8

/-! ## Where paths are shown -/

open Text

/-- The failures and the lines of the log that show a path show it as the text. -/
structure FilePath.IsShownAs (path : FilePath) (text : String) : Prop where
  /-- The failure to open it. -/
  message : (OpenError.mk path).message = "cannot open file " ++ text
  /-- A handle that is opened on it. -/
  opened : ∀ {State Call : Type} (backend : Backend State Call) (state : State) (token : Token),
    (backend.allocate path state).value = some token →
    (Handle.openOn backend path state).log.getLast?.map LogLine.entry =
      some ⟨.debug, "opened " ++ text ++ " as session " ++ token.display⟩
  /-- A handle that cannot be opened on it.  The failure is the one above. -/
  refused : ∀ {State Call : Type} (backend : Backend State Call) (state : State),
    (backend.allocate path state).value = none →
    (Handle.openOn backend path state).log.getLast?.map LogLine.entry =
      some ⟨.debug, "backend refused " ++ text⟩ ∧
    (Handle.openOn backend path state).value = .error (.opening ⟨path⟩)
  /-- A session that a registry binds to it. -/
  registered : ∀ {Call : Type} (registry : Registry), (registry.file? path).isSome →
    (Registry.allocate path registry : Outcome Registry Call _).log.map LogLine.entry =
      [⟨.debug, "memory session " ++ toString (registry.sessions.nextSlot + 1) ++ " -> " ++ text⟩]
  /-- The path, if it cannot be handed to the library. -/
  zero : ∀ replies : Library.Replies, path.holdsZero = true →
    (Library.allocate path replies).log.map LogLine.entry =
      [⟨.warn, "path " ++ text ++ " contains a NUL byte"⟩]

theorem FilePath.isShownAs_display (path : FilePath) : path.IsShownAs path.display where
  message := rfl
  opened backend state token htoken := by
    have hlog : (Handle.openOn backend path state).log =
        (backend.allocate path state).log ++ [.opened path token] := by
      simp [Handle.openOn, htoken]
    rw [hlog, List.getLast?_concat]
    rfl
  refused backend state hrefusal := by
    have hlog : (Handle.openOn backend path state).log =
        (backend.allocate path state).log ++ [.refused path] := by
      simp [Handle.openOn, hrefusal]
    refine ⟨?_, by simp [Handle.openOn, hrefusal]⟩
    rw [hlog, List.getLast?_concat]
    rfl
  registered registry hfile := by
    rw [Registry.allocate_of_registered hfile]
    rfl
  zero replies hzero := by
    rw [Library.allocate_of_holdsZero hzero]
    rfl

/-! ## The main statement -/

/-- **Paths are shown by the rules.**  There is one way to show bytes as text in which
nothing is shown as nothing, a text in front is shown as it is, and in front of anything
else a replacement character stands for a byte that begins no sequence or for the beginning
of a sequence that is not continued.  In this way every failure to open a path and every
line of the log show the path.  It follows that:

* a path that is a text is shown as this text;
* a text behind a path is shown behind it;
* the bytes of what is shown are shown in the same way. -/
theorem FilePath.shown_by_rules :
    Utf8.ShowsText Utf8.display ∧
    ∀ shown : Bytes → String, Utf8.ShowsText shown →
      shown = Utf8.display ∧
      (∀ path : FilePath, path.IsShownAs (shown path.bytes)) ∧
      (∀ text : String, shown (Utf8.encode text) = text) ∧
      (∀ (bytes : Bytes) (text : String),
        shown (bytes ++ Utf8.encode text) = shown bytes ++ text) ∧
      ∀ bytes : Bytes, shown (Utf8.encode (shown bytes)) = shown bytes := by
  refine ⟨Utf8.showsText_display, fun shown hrules => ?_⟩
  have hshown : shown = Utf8.display := hrules.unique Utf8.showsText_display
  refine ⟨hshown, fun path => ?_, hrules.shown_encode, hrules.shown_append_encode,
    fun bytes => hrules.shown_encode _⟩
  rw [hshown]
  exact path.isShownAs_display

/-- A path with a sequence of three bytes that ends after two of them, a byte that begins no
sequence, a zero byte and a letter of two bytes. -/
theorem FilePath.shown_by_rules_ill_formed :
    let path : FilePath := ⟨[0x61, 0xE2, 0x82, 0xFF, 0x00, 0xC3, 0xA9]⟩
    Utf8.ShowsText Utf8.display ∧ path.holdsZero = true ∧
      (Library.allocate path .empty).log.map LogLine.entry =
        [⟨.warn, "path a\uFFFD\uFFFD\x00é contains a NUL byte"⟩] := by
  intro path
  obtain ⟨hrules, hall⟩ := FilePath.shown_by_rules
  obtain ⟨-, hpath, -⟩ := hall Utf8.display hrules
  refine ⟨hrules, by decide, ((hpath path).zero .empty (by decide)).trans ?_⟩
  have hshown : Utf8.display path.bytes = "a\uFFFD\uFFFD\x00é" := by decide
  rw [hshown]
  decide

end DemuxSession
