import DemuxSession.Text.Latin1
import DemuxSession.Text.Utf8
import Mathlib.Algebra.Group.Nat.Defs
import Mathlib.Data.Char
import Mathlib.Data.List.Lex

/-!
# Texts sort as their bytes do

A byte string and its ISO-8859-1 text are two spellings of one thing: each text without
a character above U+00FF is the text of one byte string, and the smaller byte string has
the smaller text.  It does not matter whether texts are compared by their code points or
by their UTF-8 bytes, although UTF-8 spends one byte to four on a character.

The reason for the latter is that UTF-8 bytes decide early: of two characters, the bytes
of the smaller one have a smaller byte at some place and agree before it (`Decides`), so
that what follows the characters does not matter.

* `Utf8.encode_lt_encode_iff` compares any two texts by their UTF-8 bytes,
* `Latin1.encode?_eq_some_iff` and `Latin1.encode?_eq_none_iff` say which byte string a
  text has, and which text has none,
* `Latin1.order_isomorphism` puts the two together.
-/

namespace DemuxSession.Text

/-- A function that keeps the order of a total order reflects it as well. -/
theorem lt_iff_lt_of_keeps {Item Image : Type} [LT Item] [LT Image]
    [Std.Trichotomous (α := Item) (· < ·)] [Std.Asymm (α := Image) (· < ·)]
    {image : Item → Image} (hkeeps : ∀ first second, first < second → image first < image second)
    (first second : Item) : image first < image second ↔ first < second := by
  constructor
  · intro himage
    rcases Std.Trichotomous.rel_or_eq_or_rel_swap (r := (· < ·)) (a := first) (b := second) with
      hlt | rfl | hgt
    · exact hlt
    · exact absurd himage (Std.Asymm.asymm _ _ himage)
    · exact absurd himage (Std.Asymm.asymm _ _ (hkeeps _ _ hgt))
  · exact hkeeps first second

/-! ## Bytes that decide -/

/-- At some place the first has the smaller byte, and before it the two agree. -/
inductive Decides : Bytes → Bytes → Prop
  | here {byte byte' : UInt8} {rest rest' : Bytes} (hlt : byte < byte') :
      Decides (byte :: rest) (byte' :: rest')
  | later {byte : UInt8} {rest rest' : Bytes} (hrest : Decides rest rest') :
      Decides (byte :: rest) (byte :: rest')

/-- Once it is decided, what follows does not matter. -/
theorem Decides.append_lt {bytes bytes' : Bytes} (hdecides : Decides bytes bytes')
    (rest rest' : Bytes) : bytes ++ rest < bytes' ++ rest' := by
  induction hdecides with
  | here hlt => exact List.cons_lt_cons_iff.mpr (.inl hlt)
  | later _ ih => exact List.cons_lt_cons_iff.mpr (.inr ⟨rfl, ih⟩)

theorem ofNat_lt_ofNat {low high : Nat} (hlt : low < high) (hbyte : high < 256) :
    UInt8.ofNat low < UInt8.ofNat high := by
  rw [UInt8.lt_iff_toNat_lt, UInt8.toNat_ofNat', UInt8.toNat_ofNat']
  omega

namespace Utf8

/-! ## UTF-8 -/

/-- The last groups of six bits of a number, each in a byte of its own. -/
def groups (value : Nat) : Nat → Bytes
  | 0 => []
  | count + 1 => .ofNat (value / 64 ^ count % 64 + 0x80) :: groups value count

/-- The number of bytes that follow the first byte of a character. -/
def following (value : Nat) : Nat :=
  if value ≤ 0x7F then 0 else if value ≤ 0x7FF then 1 else if value ≤ 0xFFFF then 2 else 3

/-- The first byte of a character: the bits that are in none of the groups, and a mark
that tells the number of groups. -/
def lead (value : Nat) : Nat :=
  value / 64 ^ following value +
    if value ≤ 0x7F then 0 else if value ≤ 0x7FF then 0xC0 else if value ≤ 0xFFFF then 0xE0
      else 0xF0

theorem toNat_lt (character : Char) : character.toNat < 0x110000 := by
  rcases character.valid with hlow | ⟨-, hhigh⟩
  · exact hlow.trans (by decide)
  · exact hhigh

theorem utf8EncodeChar_eq (character : Char) :
    String.utf8EncodeChar character =
      .ofNat (lead character.toNat) :: groups character.toNat (following character.toNat) := by
  have hvalue : character.val.toNat = character.toNat := rfl
  have hlt := toNat_lt character
  unfold String.utf8EncodeChar lead following
  simp only [hvalue]
  generalize character.toNat = value at hlt
  split_ifs
  · simp [groups]
  · have hbits : value / 64 < 0x20 := by omega
    simp [groups, Nat.mod_eq_of_lt hbits]
  · have hbits : value / 4096 < 0x10 := by omega
    simp [groups, Nat.mod_eq_of_lt hbits]
  · have hbits : value / 262144 < 0x08 := by omega
    simp [groups, Nat.mod_eq_of_lt hbits]

/-- The first group that differs decides. -/
theorem decides_groups {low high count : Nat} (hlt : low % 64 ^ count < high % 64 ^ count) :
    Decides (groups low count) (groups high count) := by
  induction count with
  | zero => simp [Nat.mod_one] at hlt
  | succ count ih =>
    rw [Nat.mod_pow_succ, Nat.mod_pow_succ] at hlt
    have hgroup : high / 64 ^ count % 64 < 64 := Nat.mod_lt _ (by decide)
    rcases Nat.lt_trichotomy (low / 64 ^ count % 64) (high / 64 ^ count % 64) with
      hless | heq | hgreater
    · exact .here (ofNat_lt_ofNat (by omega) (by omega))
    · rw [heq] at hlt
      rw [groups, groups, heq]
      exact .later (ih (by omega))
    · -- A greater group outweighs all that follow, so that it cannot stand first.
      have hrest : high % 64 ^ count < 64 ^ count := Nat.mod_lt _ (Nat.pow_pos (by decide))
      have hweight := Nat.mul_le_mul_left (64 ^ count) (Nat.succ_le_of_lt hgreater)
      rw [Nat.mul_succ] at hweight
      omega

/-- A greater character has a greater first byte, or it has the same and is as long. -/
theorem lead_lt_or_following_eq {low high : Nat} (hlt : low < high) (hvalid : high < 0x110000) :
    lead high < 256 ∧ (lead low < lead high ∨
      following low = following high ∧ lead low = lead high ∧
        low / 64 ^ following high = high / 64 ^ following high) := by
  unfold lead following
  split_ifs <;> omega

theorem decides_utf8EncodeChar {character other : Char} (hlt : character < other) :
    Decides (String.utf8EncodeChar character) (String.utf8EncodeChar other) := by
  have hvalue : character.toNat < other.toNat := hlt
  obtain ⟨hbyte, hlead⟩ := lead_lt_or_following_eq hvalue (toNat_lt other)
  rw [utf8EncodeChar_eq, utf8EncodeChar_eq]
  rcases hlead with hlead | ⟨hfollowing, hlead, hbits⟩
  · exact .here (ofNat_lt_ofNat hlead hbyte)
  · -- The bits of the first byte are the same, so the groups differ.
    rw [hlead, hfollowing]
    refine .later (decides_groups ?_)
    have hcharacter := Nat.div_add_mod character.toNat (64 ^ following other.toNat)
    have hother := Nat.div_add_mod other.toNat (64 ^ following other.toNat)
    rw [hbits] at hcharacter
    omega

theorem flatMap_utf8EncodeChar_lt {characters others : List Char} (hlt : characters < others) :
    characters.flatMap String.utf8EncodeChar < others.flatMap String.utf8EncodeChar := by
  induction characters generalizing others with
  | nil =>
    cases others with
    | nil => exact absurd hlt (List.not_lt_nil _)
    | cons other others =>
      rw [List.flatMap_cons, utf8EncodeChar_eq]
      exact List.nil_lt_cons _ _
  | cons character rest ih =>
    cases others with
    | nil => exact absurd hlt (List.not_lt_nil _)
    | cons other others =>
      rw [List.flatMap_cons, List.flatMap_cons]
      rcases List.cons_lt_cons_iff.mp hlt with hcharacter | ⟨rfl, hrest⟩
      · exact (decides_utf8EncodeChar hcharacter).append_lt _ _
      · exact List.append_left_lt (ih hrest)

theorem encode_lt_encode_iff (text other : String) : encode text < encode other ↔ text < other :=
  lt_iff_lt_of_keeps (fun _ _ => flatMap_utf8EncodeChar_lt) text.toList other.toList

theorem length_encode (text : String) : (encode text).length = text.utf8ByteSize := by
  rw [← String.size_toByteArray, ← String.utf8Encode_toList]
  exact List.size_toByteArray.symm

end Utf8

namespace Latin1

/-! ## The texts that have bytes -/

theorem encodeChar?_eq_some_iff {character : Char} {byte : UInt8} :
    encodeChar? character = some byte ↔ Char.ofUInt8 byte = character := by
  constructor
  · intro hbyte
    rw [encodeChar?, Option.ite_none_right_eq_some] at hbyte
    obtain ⟨hlt, hbyte⟩ := hbyte
    obtain rfl := Option.some.inj hbyte
    apply Char.ext
    apply UInt32.toNat_inj.mp
    exact Nat.mod_eq_of_lt hlt
  · rintro rfl
    exact encodeChar?_ofUInt8 byte

theorem encodeChar?_eq_none_iff {character : Char} :
    encodeChar? character = none ↔ 0xFF < character.toNat := by
  rw [encodeChar?, ite_eq_right_iff]
  simp only [reduceCtorEq, imp_false]
  omega

theorem map_ofUInt8_of_mapM {characters : List Char} {bytes : Bytes}
    (hbytes : characters.mapM encodeChar? = some bytes) :
    bytes.map Char.ofUInt8 = characters := by
  induction characters generalizing bytes with
  | nil =>
    obtain rfl : [] = bytes := Option.some.inj hbytes
    rfl
  | cons character rest ih =>
    simp only [List.mapM_cons, Option.bind_eq_bind, Option.bind_eq_some_iff] at hbytes
    obtain ⟨byte, hbyte, later, hrest, hcons⟩ := hbytes
    obtain rfl : byte :: later = bytes := Option.some.inj hcons
    rw [List.map_cons, encodeChar?_eq_some_iff.mp hbyte, ih hrest]

theorem encode?_eq_some_iff {text : String} {bytes : Bytes} :
    encode? text = some bytes ↔ decode bytes = text := by
  constructor
  · intro hbytes
    rw [decode, map_ofUInt8_of_mapM hbytes, String.ofList_toList]
  · rintro rfl
    exact encode?_decode bytes

theorem encode?_eq_none_iff {text : String} :
    encode? text = none ↔ ∃ character ∈ text.toList, 0xFF < character.toNat := by
  unfold encode?
  induction text.toList with
  | nil => simp
  | cons character rest ih =>
    rw [List.exists_mem_cons_iff, ← ih, ← encodeChar?_eq_none_iff, List.mapM_cons]
    cases encodeChar? character with
    | none => simp
    | some byte => cases rest.mapM encodeChar? <;> simp

/-! ## Order and length -/

theorem decode_lt_decode_iff (bytes bytes' : Bytes) :
    decode bytes < decode bytes' ↔ bytes < bytes' := by
  refine lt_iff_lt_of_keeps (fun bytes bytes' hlt => ?_) bytes bytes'
  have hbyte : ∀ byte byte' : UInt8, byte < byte' → Char.ofUInt8 byte < Char.ofUInt8 byte' :=
    fun _ _ => UInt8.lt_iff_toNat_lt.mp
  show (decode bytes).toList < (decode bytes').toList
  rw [decode, decode, String.toList_ofList, String.toList_ofList]
  exact List.map_lt hbyte hlt

theorem length_utf8EncodeChar_ofUInt8 (byte : UInt8) :
    (String.utf8EncodeChar (Char.ofUInt8 byte)).length = if 0x80 ≤ byte then 2 else 1 := by
  have hvalue : (Char.ofUInt8 byte).val.toNat = byte.toNat := rfl
  have hascii : 0x80 ≤ byte ↔ 0x80 ≤ byte.toNat := UInt8.le_iff_toNat_le
  have hlt := byte.toNat_lt
  unfold String.utf8EncodeChar
  simp only [hvalue, hascii]
  by_cases hbyte : byte.toNat ≤ 0x7F
  · rw [if_pos hbyte, if_neg (by omega)]
    rfl
  · rw [if_neg hbyte, if_pos (by omega), if_pos (by omega)]
    rfl

theorem length_encode_decode (bytes : Bytes) :
    (Utf8.encode (decode bytes)).length = bytes.length + bytes.countP (0x80 ≤ ·) := by
  unfold Utf8.encode decode
  rw [String.toList_ofList]
  induction bytes with
  | nil => rfl
  | cons byte rest ih =>
    rw [List.map_cons, List.flatMap_cons, List.length_append, length_utf8EncodeChar_ofUInt8, ih,
      List.length_cons, List.countP_cons]
    simp only [decide_eq_true_eq]
    split_ifs <;> omega

/-! ## The main statement -/

/-- **Byte strings and their texts are isomorphic, order included.**

* A text is the text of a byte string exactly if it encodes to it, and encodes to none
  exactly if it has a character above U+00FF somewhere.
* The text of a byte string has a character for each byte, and takes one byte more in
  UTF-8 for each that is no ASCII.
* Byte strings are in the order of their texts, which is the same by code points and by
  UTF-8 bytes. -/
theorem order_isomorphism :
    (∀ (bytes : Bytes) (text : String), encode? text = some bytes ↔ decode bytes = text) ∧
    (∀ text : String, encode? text = none ↔ ∃ character ∈ text.toList, 0xFF < character.toNat) ∧
    (∀ bytes : Bytes, (decode bytes).length = bytes.length ∧
      (decode bytes).utf8ByteSize = bytes.length + bytes.countP (0x80 ≤ ·) ∧
      (Utf8.encode (decode bytes)).length = (decode bytes).utf8ByteSize) ∧
    (∀ bytes bytes' : Bytes, (bytes < bytes' ↔ decode bytes < decode bytes') ∧
      (bytes < bytes' ↔ Utf8.encode (decode bytes) < Utf8.encode (decode bytes'))) := by
  refine ⟨fun bytes text => encode?_eq_some_iff, fun text => encode?_eq_none_iff,
    fun bytes => ⟨?_, ?_, Utf8.length_encode _⟩, fun bytes bytes' => ⟨?_, ?_⟩⟩
  · rw [decode, String.length_ofList, List.length_map]
  · rw [← Utf8.length_encode, length_encode_decode]
  · exact (decode_lt_decode_iff bytes bytes').symm
  · rw [Utf8.encode_lt_encode_iff]
    exact (decode_lt_decode_iff bytes bytes').symm

end Latin1

end DemuxSession.Text
