import DemuxSession.Metadata
import Mathlib.Data.Finset.Card
import Mathlib.Data.Set.List

/-!
# Decoding loses nothing

Decoded metadata is a map of texts, and the pairs it was decoded from are a list of
byte strings in which a key may stand any number of times.  The map keeps of such a
list what a dictionary of bytes would keep: the value of the last pair with each key
(`RawMetadata.BindsLast`).

The reason is that no two byte strings have the same text.  So a pair with another
key never overwrites an entry, and every entry can be turned into bytes again:

* `getElem?_decodeInto` says what the map has under the text of a key, and
  `getElem?_decode_eq_some_iff` that it has nothing else,
* `exists_pairs_of_perm` lists the entries as pairs of bytes, in any order,
* `decode_lossless` puts them together.
-/

namespace DemuxSession

open Text

variable {State Call : Type}

theorem Text.Latin1.decode_injective : Function.Injective Latin1.decode := by
  intro first second htext
  have hbytes := Latin1.encode?_decode first
  rw [htext, Latin1.encode?_decode] at hbytes
  exact (Option.some.inj hbytes).symm

namespace RawMetadata

/-! ## The last pair with a key -/

/-- The last pair with the key has the value. -/
def BindsLast (raw : RawMetadata) (key value : Bytes) : Prop :=
  ∃ earlier later, raw = earlier ++ (key, value) :: later ∧ ∀ pair ∈ later, pair.1 ≠ key

/-- The value of the last pair with a key. -/
def lastValue? (raw : RawMetadata) (key : Bytes) : Option Bytes :=
  (raw.filter fun pair => pair.1 = key).getLast?.map Prod.snd

theorem lastValue?_cons (pair : Bytes × Bytes) (rest : RawMetadata) (key : Bytes) :
    lastValue? (pair :: rest) key =
      (lastValue? rest key).or (if pair.1 = key then some pair.2 else none) := by
  unfold lastValue?
  by_cases hkey : pair.1 = key
  · rw [List.filter_cons_of_pos (by simpa using hkey), List.getLast?_cons, if_pos hkey]
    cases (rest.filter fun pair => pair.1 = key).getLast? <;> rfl
  · rw [List.filter_cons_of_neg (by simpa using hkey), if_neg hkey, Option.or_none]

theorem lastValue?_eq_none_iff {raw : RawMetadata} {key : Bytes} :
    raw.lastValue? key = none ↔ ∀ pair ∈ raw, pair.1 ≠ key := by
  simp [lastValue?]

theorem lastValue?_eq_some_iff {raw : RawMetadata} {key value : Bytes} :
    raw.lastValue? key = some value ↔ raw.BindsLast key value := by
  constructor
  · intro hlast
    induction raw with
    | nil => cases hlast
    | cons pair rest ih =>
      rw [lastValue?_cons] at hlast
      cases hrest : lastValue? rest key with
      | some found =>
        rw [hrest, Option.some_or] at hlast
        obtain ⟨earlier, later, hsplit, hlater⟩ := ih (hrest.trans hlast)
        exact ⟨pair :: earlier, later, by rw [hsplit, List.cons_append], hlater⟩
      | none =>
        rw [hrest, Option.none_or] at hlast
        obtain ⟨rfl, hvalue⟩ : pair.1 = key ∧ pair.2 = value := by simpa using hlast
        exact ⟨[], rest, by rw [← hvalue, List.nil_append], lastValue?_eq_none_iff.mp hrest⟩
  · rintro ⟨earlier, later, rfl, hlater⟩
    have hnone := lastValue?_eq_none_iff.mpr hlater
    induction earlier with
    | nil => rw [List.nil_append, lastValue?_cons, hnone, if_pos rfl, Option.none_or]
    | cons pair earlier ih => rw [List.cons_append, lastValue?_cons, ih, Option.some_or]

theorem lastValue?_eq_some_iff_mem {raw : RawMetadata} (hnodup : (raw.map Prod.fst).Nodup)
    {key value : Bytes} : raw.lastValue? key = some value ↔ (key, value) ∈ raw := by
  rw [lastValue?_eq_some_iff]
  constructor
  · rintro ⟨earlier, later, rfl, -⟩
    exact List.mem_append_right _ List.mem_cons_self
  · intro hmem
    obtain ⟨earlier, later, rfl⟩ := List.append_of_mem hmem
    refine ⟨earlier, later, rfl, fun pair hpair heq => ?_⟩
    rw [List.map_append, List.map_cons] at hnodup
    have hlater := (List.nodup_cons.mp hnodup.of_append_right).1
    exact hlater (List.mem_map.mpr ⟨pair, hpair, heq⟩)

/-! ## What a decoded map has -/

/-- Under the text of a key stands the last value of the key, or what the map had
there before. -/
theorem getElem?_decodeInto (raw : RawMetadata) (map : MetadataMap) (state : State)
    (key : Bytes) :
    (decodeInto map raw state : Outcome State Call MetadataMap).value[Latin1.decode key]? =
      ((raw.lastValue? key).map Latin1.decode).or map[Latin1.decode key]? := by
  induction raw generalizing map with
  | nil => rfl
  | cons pair rest ih =>
    have hrest := ih (map.insert (Latin1.decode pair.1) (Latin1.decode pair.2))
    rw [lastValue?_cons]
    refine hrest.trans ?_
    rw [Std.ExtTreeMap.getElem?_insert]
    cases lastValue? rest key with
    | some value => rfl
    | none =>
      by_cases hkey : pair.1 = key
      · simp [hkey]
      · have htext : Latin1.decode pair.1 ≠ Latin1.decode key :=
          fun heq => hkey (Latin1.decode_injective heq)
        simp [hkey, htext]

theorem getElem?_decodeInto_of_ne (raw : RawMetadata) (map : MetadataMap) (state : State)
    {text : String} (hne : ∀ key, Latin1.decode key ≠ text) :
    (decodeInto map raw state : Outcome State Call MetadataMap).value[text]? = map[text]? := by
  induction raw generalizing map with
  | nil => rfl
  | cons pair rest ih =>
    refine (ih (map.insert (Latin1.decode pair.1) (Latin1.decode pair.2))).trans ?_
    rw [Std.ExtTreeMap.getElem?_insert, if_neg (by simpa using hne pair.1)]

/-- The entries of a decoded map are the texts of the last pairs. -/
theorem getElem?_decode_eq_some_iff {raw : RawMetadata} {state : State} {text shown : String} :
    (decode (some raw) state : Outcome State Call MetadataMap).value[text]? = some shown ↔
      ∃ key value, Latin1.decode key = text ∧ Latin1.decode value = shown ∧
        raw.lastValue? key = some value := by
  have hempty : ∀ other : String, (∅ : MetadataMap)[other]? = none := fun _ => rfl
  constructor
  · intro hentry
    by_cases hkey : ∃ key, Latin1.decode key = text
    · obtain ⟨key, rfl⟩ := hkey
      have hvalue := (@getElem?_decodeInto _ Call raw ∅ state key).symm.trans hentry
      rw [hempty, Option.or_none, Option.map_eq_some_iff] at hvalue
      obtain ⟨value, hlast, hshown⟩ := hvalue
      exact ⟨key, value, rfl, hshown, hlast⟩
    · have hne : ∀ key, Latin1.decode key ≠ text := fun key heq => hkey ⟨key, heq⟩
      have hnone := (@getElem?_decodeInto_of_ne _ Call raw ∅ state _ hne).symm.trans hentry
      rw [hempty] at hnone
      cases hnone
  · rintro ⟨key, value, rfl, rfl, hlast⟩
    refine (getElem?_decodeInto raw ∅ state key).trans ?_
    rw [hlast]
    rfl

/-! ## Entries in bytes -/

/-- The texts of a pair. -/
def decodePair (pair : Bytes × Bytes) : String × String :=
  (Latin1.decode pair.1, Latin1.decode pair.2)

/-- An entry in bytes, if both of its texts have bytes. -/
def encodePair? (entry : String × String) : Option (Bytes × Bytes) := do
  return (← Latin1.encode? entry.1, ← Latin1.encode? entry.2)

/-- Entries in bytes, if all of their texts have bytes. -/
def encodeEntries? (entries : List (String × String)) : Option RawMetadata :=
  entries.mapM encodePair?

theorem decodePair_injective : Function.Injective decodePair := by
  intro first second heq
  obtain ⟨hkey, hvalue⟩ := Prod.mk.inj heq
  exact Prod.ext (Latin1.decode_injective hkey) (Latin1.decode_injective hvalue)

theorem map_fst_map_decodePair (pairs : RawMetadata) :
    (pairs.map decodePair).map Prod.fst = (pairs.map Prod.fst).map Latin1.decode := by
  rw [List.map_map, List.map_map]
  rfl

theorem encodeEntries?_map_decodePair (pairs : RawMetadata) :
    encodeEntries? (pairs.map decodePair) = some pairs := by
  induction pairs with
  | nil => rfl
  | cons pair rest ih =>
    have hpair : encodePair? (decodePair pair) = some pair := by
      simp [encodePair?, decodePair, Latin1.encode?_decode]
    unfold encodeEntries? at ih ⊢
    simp [hpair, ih]

/-- The entries of a decoded map are, in any order, the texts of pairs of bytes: of
those pairs that are the last ones with their keys. -/
theorem exists_pairs_of_perm {raw : RawMetadata} {state : State}
    {entries : List (String × String)}
    (hperm : entries.Perm
      (decode (some raw) state : Outcome State Call MetadataMap).value.toList) :
    ∃ pairs : RawMetadata, entries = pairs.map decodePair ∧ (pairs.map Prod.fst).Nodup ∧
      ∀ key value, (key, value) ∈ pairs ↔ raw.lastValue? key = some value := by
  have hentry : ∀ entry ∈ entries, ∃ key value, decodePair (key, value) = entry ∧
      raw.lastValue? key = some value := by
    rintro ⟨text, shown⟩ hmem
    rw [hperm.mem_iff, Std.ExtTreeMap.mem_toList_iff_getElem?_eq_some,
      getElem?_decode_eq_some_iff] at hmem
    obtain ⟨key, value, rfl, rfl, hlast⟩ := hmem
    exact ⟨key, value, rfl, hlast⟩
  obtain ⟨pairs, rfl⟩ : entries ∈ Set.range (List.map decodePair) := by
    rw [Set.range_list_map]
    intro entry hmem
    obtain ⟨key, value, hdecode, -⟩ := hentry entry hmem
    exact ⟨(key, value), hdecode⟩
  refine ⟨pairs, rfl, ?_, fun key value => ?_⟩
  · -- The keys of the map do not repeat, so neither do the bytes they are the texts of.
    have hkeys : ((pairs.map decodePair).map Prod.fst).Nodup := by
      rw [(hperm.map Prod.fst).nodup_iff, Std.ExtTreeMap.map_fst_toList_eq_keys]
      exact Std.ExtTreeMap.nodup_keys
    rw [map_fst_map_decodePair] at hkeys
    exact hkeys.of_map
  · have hmem : (key, value) ∈ pairs ↔ decodePair (key, value) ∈ pairs.map decodePair :=
      (List.mem_map_of_injective decodePair_injective).symm
    constructor
    · intro hpair
      obtain ⟨key', value', hdecode, hlast⟩ := hentry _ (hmem.mp hpair)
      obtain ⟨rfl, rfl⟩ := Prod.mk.inj (decodePair_injective hdecode)
      exact hlast
    · intro hlast
      rw [hmem, hperm.mem_iff, decodePair, Std.ExtTreeMap.mem_toList_iff_getElem?_eq_some]
      exact getElem?_decode_eq_some_iff.mpr ⟨key, value, rfl, rfl, hlast⟩

theorem value_decode_congr {raw raw' : RawMetadata} (state : State)
    (hlast : ∀ key value, raw'.lastValue? key = some value ↔ raw.lastValue? key = some value) :
    (decode (some raw') state : Outcome State Call MetadataMap).value =
      (decode (some raw) state : Outcome State Call MetadataMap).value := by
  refine Std.ExtTreeMap.ext_getElem? fun text => Option.ext fun shown => ?_
  simp only [getElem?_decode_eq_some_iff, hlast]

/-! ## The log -/

theorem log_decode_eq (raw : RawMetadata) (state : State) :
    (decode (some raw) state : Outcome State Call MetadataMap).log =
      raw.map fun pair => .pair (Latin1.decode pair.1) (Latin1.decode pair.2) := by
  have hinto : ∀ map : MetadataMap,
      (decodeInto map raw state : Outcome State Call MetadataMap).log =
        raw.map fun pair => .pair (Latin1.decode pair.1) (Latin1.decode pair.2) := by
    induction raw with
    | nil => exact fun _ => rfl
    | cons pair rest ih => exact fun map => congrArg (_ :: ·) (ih _)
  exact hinto ∅

/-! ## The main statement -/

/-- **Decoding loses nothing but what is overwritten.**  Of any list of pairs:

* the entries of the decoded map can be turned into bytes, and are then, without a
  repetition, the pairs of the dictionary in which the last pair with a key decides;
* a key has an entry exactly if it stands in the list, and no two keys share one, so
  that there are as many entries as different keys;
* the entries turned into bytes, in any order, decode to the same map;
* no list at all decodes as the empty one does;
* every pair is logged once, in the order of the list. -/
theorem decode_lossless (raw : RawMetadata) (state : State) :
    let outcome : Outcome State Call MetadataMap := decode (some raw) state
    (∃ pairs, encodeEntries? outcome.value.toList = some pairs ∧
      (pairs.map Prod.fst).Nodup ∧
      ∀ key value, (key, value) ∈ pairs ↔ raw.BindsLast key value) ∧
    (∀ key : Bytes, Latin1.decode key ∈ outcome.value ↔ key ∈ raw.map Prod.fst) ∧
    (∀ key key' : Bytes, Latin1.decode key = Latin1.decode key' → key = key') ∧
    outcome.value.size = (raw.map Prod.fst).toFinset.card ∧
    (∀ entries, entries.Perm outcome.value.toList →
      ∃ pairs, encodeEntries? entries = some pairs ∧
        (decode (some pairs) state : Outcome State Call MetadataMap).value = outcome.value) ∧
    (decode none state : Outcome State Call MetadataMap) = decode (some []) state ∧
    (outcome.log.map fun line => (line.level, line.text)) =
      raw.map (fun pair =>
        (.trace, "metadata " ++ Latin1.decode pair.1 ++ ": " ++ Latin1.decode pair.2)) ∧
    outcome.state = state ∧ outcome.calls = [] := by
  intro outcome
  obtain ⟨pairs, hpairs, hnodup, hmem⟩ :=
    exists_pairs_of_perm (List.Perm.refl outcome.value.toList)
  -- The dictionary has the keys of the list.
  have hkeys : ∀ key, key ∈ pairs.map Prod.fst ↔ key ∈ raw.map Prod.fst := by
    intro key
    have hsome : key ∈ pairs.map Prod.fst ↔ ∃ value, raw.lastValue? key = some value := by
      simp [← hmem]
    rw [hsome, ← Option.isSome_iff_exists, ← Option.ne_none_iff_isSome, Ne,
      lastValue?_eq_none_iff, List.mem_map]
    push Not
    rfl
  refine ⟨⟨pairs, ?_, hnodup, fun key value => ?_⟩, fun key => ?_,
    fun key key' htext => Latin1.decode_injective htext, ?_, fun entries hperm => ?_, rfl, ?_,
    state_decode _ _, calls_decode _ _⟩
  · rw [hpairs, encodeEntries?_map_decodePair]
  · rw [hmem, lastValue?_eq_some_iff]
  · rw [← hkeys, ← Std.ExtTreeMap.mem_keys, ← Std.ExtTreeMap.map_fst_toList_eq_keys, hpairs,
      map_fst_map_decodePair]
    exact List.mem_map_of_injective Latin1.decode_injective
  · calc outcome.value.size
        = outcome.value.toList.length := Std.ExtTreeMap.length_toList.symm
      _ = (pairs.map Prod.fst).length := by rw [hpairs, List.length_map, List.length_map]
      _ = (pairs.map Prod.fst).toFinset.card := (List.toFinset_card_of_nodup hnodup).symm
      _ = (raw.map Prod.fst).toFinset.card := by
        congr 1
        ext key
        rw [List.mem_toFinset, List.mem_toFinset, hkeys]
  · obtain ⟨listed, hlisted, hnodup', hmem'⟩ := exists_pairs_of_perm hperm
    refine ⟨listed, by rw [hlisted, encodeEntries?_map_decodePair], ?_⟩
    refine value_decode_congr state fun key value => ?_
    rw [lastValue?_eq_some_iff_mem hnodup', hmem']
  · rw [log_decode_eq, List.map_map]
    rfl

/-- A key above the letters stands twice.  Its first value is overwritten, and the
entries listed backwards decode to the same map. -/
theorem decode_lossless_overwritten :
    let raw : RawMetadata := [([0xE9], [0x31]), ([0x61], []), ([0xE9], [0x32])]
    let map := (decode (some raw) () : Outcome Unit Empty MetadataMap).value
    map.toList.reverse.Perm map.toList ∧ map.size = 2 ∧
      ∃ pairs, encodeEntries? map.toList.reverse = some pairs ∧
        (decode (some pairs) () : Outcome Unit Empty MetadataMap).value = map := by
  intro raw map
  have hperm : map.toList.reverse.Perm map.toList := List.reverse_perm map.toList
  obtain ⟨-, -, -, hsize, hlisted, -⟩ := @decode_lossless Unit Empty raw ()
  exact ⟨hperm, hsize.trans (by decide), hlisted _ hperm⟩

end RawMetadata

end DemuxSession
