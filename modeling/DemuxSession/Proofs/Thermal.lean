import DemuxSession.Proofs.Marshalling
import DemuxSession.Proofs.Run
import DemuxSession.Script
import Mathlib.Logic.Relation

/-!
# Reading the thermal entries

The thermal entries are looked up in the decoded map, where keys are texts.  What they show
can be told from the pairs the map was decoded from, where keys are bytes: an entry shows
the last pair that has the reserved key byte for byte, because no other key decodes to the
same text.

* `RawMetadata.getElem?_decode_bytes` looks a key up in the pairs instead of the map,
* `ThermalMetadata.Edit.filter_eq`: a change of the pairs that leaves the reserved ones
  alone (`ThermalMetadata.Edit`) keeps the pairs with each reserved key, in their order,
* `ThermalMetadata.ofPairs_eq_of_edits`: so the entries stay the same through any number of
  such changes.

`ThermalMetadata.reads_reserved_keys` puts these together, for a list of pairs and for the
list a backend returns when an open handle is asked.
-/

namespace DemuxSession

open Text

variable {State Call Command Report : Type}

/-! ## Looking a key up in the pairs -/

namespace RawMetadata

/-- What the map decoded from the pairs has under the text of a key. -/
def shown? (raw : RawMetadata) (key : Bytes) : Option String :=
  (raw.lastValue? key).map Latin1.decode

/-- The entry shows the last pair with the key, and is missing if no pair has the key. -/
structure Shows (raw : RawMetadata) (key : Bytes) (text? : Option String) : Prop where
  shown : ∀ text, text? = some text ↔
    ∃ value, raw.BindsLast key value ∧ Latin1.decode value = text
  missing : text? = none ↔ ∀ pair ∈ raw, pair.1 ≠ key

theorem shown?_eq_none_iff {raw : RawMetadata} {key : Bytes} :
    raw.shown? key = none ↔ ∀ pair ∈ raw, pair.1 ≠ key := by
  rw [shown?, Option.map_eq_none_iff, lastValue?_eq_none_iff]

theorem isSome_shown?_iff {raw : RawMetadata} {key : Bytes} :
    (raw.shown? key).isSome ↔ ∃ pair ∈ raw, pair.1 = key := by
  rw [← Option.ne_none_iff_isSome, Ne, shown?_eq_none_iff]
  push Not
  rfl

theorem shows_shown? (raw : RawMetadata) (key : Bytes) : raw.Shows key (raw.shown? key) where
  shown text := by
    rw [shown?, Option.map_eq_some_iff]
    simp only [lastValue?_eq_some_iff]
  missing := shown?_eq_none_iff

theorem shown?_congr {raw raw' : RawMetadata} {key : Bytes}
    (hfilter : raw'.filter (fun pair => pair.1 = key) = raw.filter fun pair => pair.1 = key) :
    raw'.shown? key = raw.shown? key := by
  rw [shown?, shown?, lastValue?, lastValue?, hfilter]

theorem getElem?_decode_bytes (raw? : Option RawMetadata) (state : State) (key : Bytes) :
    (decode raw? state : Outcome State Call MetadataMap).value[Latin1.decode key]? =
      (raw?.getD []).shown? key := by
  cases raw? with
  | none => rfl
  | some raw =>
    calc (decode (some raw) state : Outcome State Call MetadataMap).value[Latin1.decode key]?
        = ((raw.lastValue? key).map Latin1.decode).or (∅ : MetadataMap)[Latin1.decode key]? :=
          getElem?_decodeInto raw ∅ state key
      _ = raw.shown? key := Option.or_none

end RawMetadata

namespace ThermalMetadata

/-! ## The reserved keys -/

/-- The key of the version, in bytes. -/
def metaversionBytes : Bytes := Utf8.encode metaversionKey

/-- The key of the alignment, in bytes. -/
def alignmentBytes : Bytes := Utf8.encode alignmentKey

/-- The keys of the thermal entries. -/
def reservedKeys : List Bytes := [metaversionBytes, alignmentBytes]

/-! The reserved keys are ASCII, so their bytes are also their ISO-8859-1 bytes. -/

theorem decode_metaversionBytes : Latin1.decode metaversionBytes = metaversionKey := by decide

theorem decode_alignmentBytes : Latin1.decode alignmentBytes = alignmentKey := by decide

/-- The thermal entries as they are read off the pairs. -/
def ofPairs (raw : RawMetadata) : ThermalMetadata :=
  ⟨raw.shown? metaversionBytes, raw.shown? alignmentBytes⟩

/-- The entries are the ones of the pairs. -/
structure IsReadOff (raw : RawMetadata) (thermal : ThermalMetadata) : Prop where
  metaversion : raw.Shows metaversionBytes thermal.metaversion?
  alignment : raw.Shows alignmentBytes thermal.alignment?
  /-- Any pair with a reserved key makes the recording a thermal one. -/
  isThermal : thermal.isThermal = true ↔ ∃ pair ∈ raw, pair.1 ∈ reservedKeys

theorem ofMap_decode (raw? : Option RawMetadata) (state : State) :
    ofMap (RawMetadata.decode raw? state : Outcome State Call MetadataMap).value =
      ofPairs (raw?.getD []) := by
  rw [ofMap, ← decode_metaversionBytes, ← decode_alignmentBytes,
    RawMetadata.getElem?_decode_bytes, RawMetadata.getElem?_decode_bytes]
  rfl

theorem isThermal_ofPairs_iff (raw : RawMetadata) :
    (ofPairs raw).isThermal = true ↔ ∃ pair ∈ raw, pair.1 ∈ reservedKeys := by
  have hreserved : ∀ pair : Bytes × Bytes,
      pair.1 ∈ reservedKeys ↔ pair.1 = metaversionBytes ∨ pair.1 = alignmentBytes := by
    intro pair
    simp [reservedKeys]
  rw [isThermal, Bool.or_eq_true, ofPairs, RawMetadata.isSome_shown?_iff,
    RawMetadata.isSome_shown?_iff]
  simp only [hreserved, and_or_left, exists_or]

theorem isReadOff_ofPairs (raw : RawMetadata) : IsReadOff raw (ofPairs raw) where
  metaversion := raw.shows_shown? metaversionBytes
  alignment := raw.shows_shown? alignmentBytes
  isThermal := isThermal_ofPairs_iff raw

/-! ## Changes that are not noticed -/

/-- A change of the pairs that leaves those with a reserved key as they are. -/
inductive Edit : RawMetadata → RawMetadata → Prop
  /-- A pair with another key is added anywhere. -/
  | add (earlier later : RawMetadata) {pair : Bytes × Bytes} (hother : pair.1 ∉ reservedKeys) :
    Edit (earlier ++ later) (earlier ++ pair :: later)
  /-- A pair with another key is removed. -/
  | remove (earlier later : RawMetadata) {pair : Bytes × Bytes} (hother : pair.1 ∉ reservedKeys) :
    Edit (earlier ++ pair :: later) (earlier ++ later)
  /-- The pairs are put into another order, in which those with the same reserved key follow
  one another as they did. -/
  | reorder {raw raw' : RawMetadata} (hperm : raw.Perm raw')
    (horder : ∀ key ∈ reservedKeys,
      raw'.filter (fun pair => pair.1 = key) = raw.filter fun pair => pair.1 = key) :
    Edit raw raw'

variable {raw raw' : RawMetadata} {key : Bytes}

theorem filter_insert_of_other (earlier later : RawMetadata) {pair : Bytes × Bytes}
    (hother : pair.1 ∉ reservedKeys) (hkey : key ∈ reservedKeys) :
    (earlier ++ pair :: later).filter (fun pair => pair.1 = key) =
      (earlier ++ later).filter fun pair => pair.1 = key := by
  have hne : pair.1 ≠ key := fun heq => hother (heq ▸ hkey)
  rw [List.filter_append, List.filter_append, List.filter_cons_of_neg (by simpa using hne)]

theorem Edit.filter_eq (hedit : Edit raw raw') (hkey : key ∈ reservedKeys) :
    raw'.filter (fun pair => pair.1 = key) = raw.filter fun pair => pair.1 = key := by
  cases hedit with
  | add earlier later hother => exact filter_insert_of_other earlier later hother hkey
  | remove earlier later hother => exact (filter_insert_of_other earlier later hother hkey).symm
  | reorder _ horder => exact horder key hkey

theorem ofPairs_eq_of_edits (hedits : Relation.ReflTransGen Edit raw raw') :
    ofPairs raw' = ofPairs raw := by
  have hentry : ∀ key ∈ reservedKeys, raw'.shown? key = raw.shown? key := by
    intro key hkey
    induction hedits with
    | refl => rfl
    | tail _ hedit ih => exact (RawMetadata.shown?_congr (hedit.filter_eq hkey)).trans ih
  rw [ofPairs, ofPairs, hentry metaversionBytes (by simp [reservedKeys]),
    hentry alignmentBytes (by simp [reservedKeys])]

/-! ## Asking an open handle -/

theorem value_step_thermal {service : Service State Call Command Report} {client : Client State}
    {number : Int} {token : Token} (hheld : client.handles[number]? = some (.opened token)) :
    (Client.step service (.useHandle number .thermal) client).value =
      .thermal (ofPairs ((service.backend.fetchMetadata token client.backend).value.getD [])) := by
  rw [Client.step_useHandle_of_held .thermal hheld]
  exact congrArg Answer.thermal (ofMap_decode _ _)

/-! ## The main statement -/

/-- **The thermal entries are the last pairs with the reserved keys.**  Of any list of
pairs:

* an entry of the decoded map shows the last pair whose key has the bytes of the reserved
  key, and is missing exactly if there is no such pair.  The recording is a thermal one
  exactly if there is a pair with one of the two keys, whatever its value;
* nothing changes when pairs with other keys are added, removed or moved, or when the pairs
  are put into an order that keeps the one among pairs with the same reserved key, any
  number of times.

The same is true of what an open handle answers and the pairs the backend returned for it,
no pairs being as good as an empty list. -/
theorem reads_reserved_keys (raw : RawMetadata) (state : State) :
    let thermal (pairs : RawMetadata) :=
      ofMap (RawMetadata.decode (some pairs) state : Outcome State Call MetadataMap).value
    IsReadOff raw (thermal raw) ∧
    (∀ raw', Relation.ReflTransGen Edit raw raw' → thermal raw' = thermal raw) ∧
    ∀ (service : Service State Call Command Report) (client : Client State) (number : Int)
      (token : Token), client.handles[number]? = some (.opened token) →
      let returned := (service.backend.fetchMetadata token client.backend).value.getD []
      ∃ answered : ThermalMetadata,
        (Client.step service (.useHandle number .thermal) client).value = .thermal answered ∧
        IsReadOff returned answered ∧
        (Relation.ReflTransGen Edit raw returned → answered = thermal raw) := by
  intro thermal
  have hthermal : ∀ pairs, thermal pairs = ofPairs pairs := fun pairs => ofMap_decode _ _
  refine ⟨?_, fun raw' hedits => ?_, ?_⟩
  · rw [hthermal]
    exact isReadOff_ofPairs raw
  · rw [hthermal, hthermal]
    exact ofPairs_eq_of_edits hedits
  · intro service client number token hheld returned
    refine ⟨ofPairs returned, value_step_thermal hheld, isReadOff_ofPairs returned, ?_⟩
    intro hedits
    rw [hthermal]
    exact ofPairs_eq_of_edits hedits

/-- A backend returns the version twice, the second time empty, and the alignment before
both instead of between them.  At the ends stand keys that are a zero byte too long and a
letter short.  The empty version counts. -/
theorem reads_reserved_keys_near_misses :
    let raw : RawMetadata :=
      [(metaversionBytes, [0x31]), (alignmentBytes, [0x30]), (metaversionBytes, [])]
    let returned : RawMetadata :=
      [(metaversionBytes ++ [0], [0x32]), (alignmentBytes, [0x30]), (metaversionBytes, [0x31]),
        (metaversionBytes, []), (alignmentBytes.dropLast, [0x33])]
    let token : Token := ⟨7, by decide⟩
    let client : Client Script := ⟨⟨[], [], [some returned], []⟩,
      (∅ : Std.ExtTreeMap Int Handle).insert 2 (.opened token), []⟩
    client.handles[(2 : Int)]? = some (.opened token) ∧
      Relation.ReflTransGen Edit raw returned ∧
      ∃ answered : ThermalMetadata,
        (Client.step (Script.backend true).alone (.useHandle 2 .thermal) client).value =
          .thermal answered ∧
        answered.isThermal = true ∧ answered.metaversion? = some "" ∧
        answered.alignment? = some "0" := by
  intro raw returned token client
  let moved : RawMetadata :=
    [(alignmentBytes, [0x30]), (metaversionBytes, [0x31]), (metaversionBytes, [])]
  have hheld : client.handles[(2 : Int)]? = some (.opened token) :=
    Std.ExtTreeMap.getElem?_insert_self
  have hmoved : Edit raw moved := .reorder (by decide) (by decide)
  have hbefore : Edit moved ((metaversionBytes ++ [0], [0x32]) :: moved) :=
    .add [] moved (by decide)
  have hafter : Edit ((metaversionBytes ++ [0], [0x32]) :: moved) returned :=
    .add ((metaversionBytes ++ [0], [0x32]) :: moved) [] (by decide)
  have hedits : Relation.ReflTransGen Edit raw returned :=
    ((Relation.ReflTransGen.single hmoved).tail hbefore).tail hafter
  obtain ⟨hraw, -, hclient⟩ :=
    @reads_reserved_keys Script Exchange Empty Empty raw client.backend
  obtain ⟨answered, hanswered, -, hsame⟩ :=
    hclient (Script.backend true).alone client 2 token hheld
  refine ⟨hheld, hedits, answered, hanswered, ?_⟩
  rw [hsame hedits]
  refine ⟨hraw.isThermal.mpr ⟨_, List.mem_cons_self, by decide⟩, ?_, ?_⟩
  · refine (hraw.metaversion.shown "").mpr ⟨[], ?_, by decide⟩
    exact ⟨[(metaversionBytes, [0x31]), (alignmentBytes, [0x30])], [], rfl, nofun⟩
  · refine (hraw.alignment.shown "0").mpr ⟨[0x30], ?_, by decide⟩
    exact ⟨[(metaversionBytes, [0x31])], [(metaversionBytes, [])], rfl, by decide⟩

end ThermalMetadata

end DemuxSession
