import DemuxSession.Proofs.TextOrder
import Mathlib.Data.List.Forall2

/-!
# The sequences that are announced are the encoded characters

The bytes of a text are put together from characters (`String.utf8EncodeChar`), and bytes
are read by a table, which tells from the first byte of a sequence the range of each byte
to follow (`announcement?`).  The two agree: the sequences that fit the table are the bytes
of the characters, and the bits gathered from a sequence are the number of its character
(`utf8EncodeChar_eq_cons_iff`).

The table has four rows, one for each length (`Announces`).  In each of them the agreement
is arithmetic on the groups of six bits.  The ranges that are narrower than the others are
what keeps the gathered number out of the next shorter row, out of the surrogates and below
`0x110000`.
-/

namespace DemuxSession.Text.Utf8

/-! ## The rows of the table -/

theorem ByteRange.contains_iff {range : ByteRange} {byte : UInt8} :
    range.contains byte = true ↔
      range.low.toNat ≤ byte.toNat ∧ byte.toNat ≤ range.high.toNat := by
  rw [contains, Bool.and_eq_true, decide_eq_true_eq, decide_eq_true_eq, UInt8.le_iff_toNat_le,
    UInt8.le_iff_toNat_le]

/-- The range of the second byte of three. -/
def secondOfThree (first : UInt8) : ByteRange :=
  if first = 0xE0 then ⟨0xA0, 0xBF⟩ else if first = 0xED then ⟨0x80, 0x9F⟩ else .continuation

/-- The range of the second byte of four. -/
def secondOfFour (first : UInt8) : ByteRange :=
  if first = 0xF0 then ⟨0x90, 0xBF⟩ else if first = 0xF4 then ⟨0x80, 0x8F⟩ else .continuation

/-- What a first byte announces, by the number of bytes of its sequence. -/
inductive Announces (byte : UInt8) : Announcement → Prop
  | one (hhigh : byte.toNat < 0x80) : Announces byte ⟨byte.toNat, []⟩
  | two (hlow : 0xC2 ≤ byte.toNat) (hhigh : byte.toNat < 0xE0) :
    Announces byte ⟨byte.toNat - 0xC0, [.continuation]⟩
  | three (hlow : 0xE0 ≤ byte.toNat) (hhigh : byte.toNat < 0xF0) :
    Announces byte ⟨byte.toNat - 0xE0, [secondOfThree byte, .continuation]⟩
  | four (hlow : 0xF0 ≤ byte.toNat) (hhigh : byte.toNat < 0xF5) :
    Announces byte ⟨byte.toNat - 0xF0, [secondOfFour byte, .continuation, .continuation]⟩

variable {byte : UInt8} {announced : Announcement}

theorem announcement?_of_announces (hannounces : Announces byte announced) :
    announcement? byte = some announced := by
  unfold announcement?
  simp only [UInt8.lt_iff_toNat_lt, UInt8.reduceToNat]
  cases hannounces with
  | one hhigh => rw [if_pos hhigh]
  | two hlow hhigh => rw [if_neg (by omega), if_neg (by omega), if_pos hhigh]
  | three hlow hhigh =>
    rw [if_neg (by omega), if_neg (by omega), if_neg (by omega), if_pos hhigh]
    rfl
  | four hlow hhigh =>
    rw [if_neg (by omega), if_neg (by omega), if_neg (by omega), if_neg (by omega), if_pos hhigh]
    rfl

theorem announces_of_announcement? (hannounced : announcement? byte = some announced) :
    Announces byte announced := by
  have hrow : ∀ other, Announces byte other → Announces byte announced := by
    intro other hother
    rw [announcement?_of_announces hother] at hannounced
    exact Option.some.inj hannounced ▸ hother
  by_cases hone : byte.toNat < 0x80
  · exact hrow _ (.one hone)
  by_cases htwo : 0xC2 ≤ byte.toNat ∧ byte.toNat < 0xE0
  · exact hrow _ (.two htwo.1 htwo.2)
  by_cases hthree : 0xE0 ≤ byte.toNat ∧ byte.toNat < 0xF0
  · exact hrow _ (.three hthree.1 hthree.2)
  by_cases hfour : 0xF0 ≤ byte.toNat ∧ byte.toNat < 0xF5
  · exact hrow _ (.four hfour.1 hfour.2)
  -- No row is left, and the table has no announcement.
  unfold announcement? at hannounced
  simp only [UInt8.lt_iff_toNat_lt, UInt8.reduceToNat] at hannounced
  rw [if_neg hone] at hannounced
  by_cases hlow : byte.toNat < 0xC2
  · rw [if_pos hlow] at hannounced
    cases hannounced
  · rw [if_neg hlow, if_neg (by omega), if_neg (by omega), if_neg (by omega)] at hannounced
    cases hannounced

/-! ## The ranges -/

theorem contains_continuation :
    ByteRange.continuation.contains byte = true ↔ 0x80 ≤ byte.toNat ∧ byte.toNat ≤ 0xBF :=
  ByteRange.contains_iff

theorem contains_secondOfThree {first : UInt8} :
    (secondOfThree first).contains byte = true ↔
      0x80 ≤ byte.toNat ∧ byte.toNat ≤ 0xBF ∧ (first.toNat = 0xE0 → 0xA0 ≤ byte.toNat) ∧
        (first.toNat = 0xED → byte.toNat ≤ 0x9F) := by
  unfold secondOfThree
  simp only [← UInt8.toNat_inj, UInt8.reduceToNat]
  split_ifs <;> rw [ByteRange.contains_iff] <;>
    simp only [ByteRange.continuation, UInt8.reduceToNat] <;> omega

theorem contains_secondOfFour {first : UInt8} :
    (secondOfFour first).contains byte = true ↔
      0x80 ≤ byte.toNat ∧ byte.toNat ≤ 0xBF ∧ (first.toNat = 0xF0 → 0x90 ≤ byte.toNat) ∧
        (first.toNat = 0xF4 → byte.toNat ≤ 0x8F) := by
  unfold secondOfFour
  simp only [← UInt8.toNat_inj, UInt8.reduceToNat]
  split_ifs <;> rw [ByteRange.contains_iff] <;>
    simp only [ByteRange.continuation, UInt8.reduceToNat] <;> omega

/-- The range is not empty, and every byte in it is one that begins no sequence. -/
structure ByteRange.Continues (range : ByteRange) : Prop where
  nonempty : range.contains range.low = true
  low_le : 0x80 ≤ range.low.toNat
  high_le : range.high.toNat ≤ 0xBF

theorem continues_continuation : ByteRange.continuation.Continues := ⟨rfl, by decide, by decide⟩

theorem continues_secondOfThree (first : UInt8) : (secondOfThree first).Continues := by
  unfold secondOfThree
  split_ifs
  · exact ⟨rfl, by decide, by decide⟩
  · exact ⟨rfl, by decide, by decide⟩
  · exact continues_continuation

theorem continues_secondOfFour (first : UInt8) : (secondOfFour first).Continues := by
  unfold secondOfFour
  split_ifs
  · exact ⟨rfl, by decide, by decide⟩
  · exact ⟨rfl, by decide, by decide⟩
  · exact continues_continuation

theorem Announces.continues (hannounces : Announces byte announced) :
    ∀ range ∈ announced.following, range.Continues := by
  cases hannounces with
  | one hhigh => exact nofun
  | two hlow hhigh => simpa using continues_continuation
  | three hlow hhigh => simpa using ⟨continues_secondOfThree byte, continues_continuation⟩
  | four hlow hhigh => simpa using ⟨continues_secondOfFour byte, continues_continuation⟩

/-- A byte in a range begins no sequence. -/
theorem announcement?_of_contains {range : ByteRange} (hcontinues : range.Continues)
    (hcontains : range.contains byte = true) : announcement? byte = none := by
  have hlow := hcontinues.low_le
  have hhigh := hcontinues.high_le
  rw [ByteRange.contains_iff] at hcontains
  cases hannounced : announcement? byte with
  | none => rfl
  | some announced =>
    exfalso
    cases announces_of_announcement? hannounced <;> omega

/-! ## Characters and sequences -/

/-- The bytes lie in the ranges, one in each. -/
def Fits (ranges : List ByteRange) (bytes : Bytes) : Prop :=
  List.Forall₂ (fun range byte => range.contains byte = true) ranges bytes

theorem Fits.exists_of_append {ranges : List ByteRange} {part rest : Bytes}
    (hfits : Fits ranges (part ++ rest)) :
    ∃ fitted later, ranges = fitted ++ later ∧ Fits fitted part ∧ Fits later rest :=
  ⟨_, _, (List.take_append_drop part.length ranges).symm,
    List.forall₂_take_append _ _ _ hfits, List.forall₂_drop_append _ _ _ hfits⟩

theorem Fits.exists_of_concat {ranges : List ByteRange} {part : Bytes}
    (hfits : Fits ranges (part ++ [byte])) :
    ∃ fitted range, ranges = fitted ++ [range] ∧ Fits fitted part ∧
      range.contains byte = true := by
  obtain ⟨fitted, last, rfl, hfitted, hlast⟩ := hfits.exists_of_append
  obtain ⟨range, _, hcontains, ⟨⟩, rfl⟩ := List.forall₂_cons_right_iff.mp hlast
  exact ⟨fitted, range, rfl, hfitted, hcontains⟩

/-- The bits with six more of each byte. -/
def gather (bits : Nat) (bytes : Bytes) : Nat :=
  bytes.foldl (fun bits byte => bits * 64 + (byte.toNat - 0x80)) bits

theorem toNat_ofNat {value : Nat} (hvalid : value.isValidChar) :
    (Char.ofNat value).toNat = value := by
  rw [Char.ofNat, dif_pos hvalid]
  rfl

/-- The bytes of a character fit what the first of them announces. -/
theorem exists_announces (character : Char) :
    ∃ byte rest announced, String.utf8EncodeChar character = byte :: rest ∧
      Announces byte announced ∧ Fits announced.following rest ∧
      gather announced.bits rest = character.toNat := by
  have hvalue : character.val.toNat = character.toNat := rfl
  have hvalid : character.toNat < 0xD800 ∨
      0xDFFF < character.toNat ∧ character.toNat < 0x110000 := character.valid
  unfold String.utf8EncodeChar
  simp only [hvalue]
  generalize character.toNat = value at hvalid
  split_ifs with hone htwo hthree
  · refine ⟨_, _, _, rfl, .one ?_, .nil, ?_⟩ <;>
      simp only [gather, List.foldl_nil, UInt8.toNat_ofNat'] <;> omega
  · refine ⟨_, _, _, rfl, .two ?_ ?_, .cons ?_ .nil, ?_⟩ <;>
      simp only [contains_continuation, gather, List.foldl_nil, List.foldl_cons,
        UInt8.toNat_ofNat'] <;> omega
  · refine ⟨_, _, _, rfl, .three ?_ ?_, .cons ?_ (.cons ?_ .nil), ?_⟩ <;>
      simp only [contains_secondOfThree, contains_continuation, gather, List.foldl_nil,
        List.foldl_cons, UInt8.toNat_ofNat'] <;> omega
  · refine ⟨_, _, _, rfl, .four ?_ ?_, .cons ?_ (.cons ?_ (.cons ?_ .nil)), ?_⟩ <;>
      simp only [contains_secondOfFour, contains_continuation, gather, List.foldl_nil,
        List.foldl_cons, UInt8.toNat_ofNat'] <;> omega

theorem ofNat_eq_byte {value : Nat} (hvalue : value = byte.toNat) : UInt8.ofNat value = byte := by
  rw [hvalue, UInt8.ofNat_toNat]

theorem utf8EncodeChar_ofNat {value : Nat} (hvalid : value.isValidChar) :
    String.utf8EncodeChar (Char.ofNat value) =
      if value ≤ 0x7F then [.ofNat value]
      else if value ≤ 0x7FF then [.ofNat (value / 64 % 32 + 0xC0), .ofNat (value % 64 + 0x80)]
      else if value ≤ 0xFFFF then
        [.ofNat (value / 4096 % 16 + 0xE0), .ofNat (value / 64 % 64 + 0x80),
          .ofNat (value % 64 + 0x80)]
      else
        [.ofNat (value / 262144 % 8 + 0xF0), .ofNat (value / 4096 % 64 + 0x80),
          .ofNat (value / 64 % 64 + 0x80), .ofNat (value % 64 + 0x80)] := by
  have hvalue : (Char.ofNat value).val.toNat = value := toNat_ofNat hvalid
  simp only [String.utf8EncodeChar, hvalue]

theorem utf8EncodeChar_gather {rest : Bytes} (hannounces : Announces byte announced)
    (hfits : Fits announced.following rest) :
    String.utf8EncodeChar (Char.ofNat (gather announced.bits rest)) = byte :: rest := by
  cases hannounces with
  | one hhigh =>
    obtain ⟨⟩ := hfits
    simp only [gather, List.foldl_nil]
    rw [utf8EncodeChar_ofNat (.inl (by omega)), if_pos (by omega), UInt8.ofNat_toNat]
  | two hlow hhigh =>
    obtain _ | ⟨hsecond, ⟨⟩⟩ := hfits
    rw [contains_continuation] at hsecond
    simp only [gather, List.foldl_nil, List.foldl_cons]
    rw [utf8EncodeChar_ofNat (.inl (by omega)), if_neg (by omega), if_pos (by omega)]
    simp only [List.cons.injEq, and_true]
    refine ⟨ofNat_eq_byte ?_, ofNat_eq_byte ?_⟩ <;> omega
  | three hlow hhigh =>
    obtain _ | ⟨hsecond, _ | ⟨hthird, ⟨⟩⟩⟩ := hfits
    rw [contains_secondOfThree] at hsecond
    rw [contains_continuation] at hthird
    simp only [gather, List.foldl_nil, List.foldl_cons]
    -- The narrow ranges keep the number above the row before and out of the surrogates.
    rw [utf8EncodeChar_ofNat (by unfold Nat.isValidChar; omega), if_neg (by omega),
      if_neg (by omega), if_pos (by omega)]
    simp only [List.cons.injEq, and_true]
    refine ⟨ofNat_eq_byte ?_, ofNat_eq_byte ?_, ofNat_eq_byte ?_⟩ <;> omega
  | four hlow hhigh =>
    obtain _ | ⟨hsecond, _ | ⟨hthird, _ | ⟨hfourth, ⟨⟩⟩⟩⟩ := hfits
    rw [contains_secondOfFour] at hsecond
    rw [contains_continuation] at hthird hfourth
    simp only [gather, List.foldl_nil, List.foldl_cons]
    rw [utf8EncodeChar_ofNat (by unfold Nat.isValidChar; omega), if_neg (by omega),
      if_neg (by omega), if_neg (by omega)]
    simp only [List.cons.injEq, and_true]
    refine ⟨ofNat_eq_byte ?_, ofNat_eq_byte ?_, ofNat_eq_byte ?_, ofNat_eq_byte ?_⟩ <;> omega

/-- **The sequences that fit the table are the bytes of the characters.** -/
theorem utf8EncodeChar_eq_cons_iff {character : Char} {rest : Bytes} :
    String.utf8EncodeChar character = byte :: rest ↔
      ∃ announced, announcement? byte = some announced ∧ Fits announced.following rest ∧
        Char.ofNat (gather announced.bits rest) = character := by
  constructor
  · intro hencode
    obtain ⟨byte', rest', announced, hencode', hannounces, hfits, hbits⟩ :=
      exists_announces character
    rw [hencode] at hencode'
    obtain ⟨rfl, rfl⟩ := List.cons.inj hencode'
    exact ⟨announced, announcement?_of_announces hannounces, hfits,
      by rw [hbits, Char.ofNat_toNat]⟩
  · rintro ⟨announced, hannounced, hfits, rfl⟩
    exact utf8EncodeChar_gather (announces_of_announcement? hannounced) hfits

end DemuxSession.Text.Utf8
