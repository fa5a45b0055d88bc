import DemuxSession.Proofs.LibraryReads
import DemuxSession.Proofs.Marshalling
import DemuxSession.Proofs.Run
import DemuxSession.Proofs.Wording
import Mathlib.Data.List.FinRange

/-!
# From two arrays of strings to a map

The demuxer library answers a question for strings with a status, a count and two
arrays, and may leave the last three unwritten.  What it promises is that the arrays
are as long as it counted (`StringsReply.Filled`).

* `keptPairs_eq` reads the arrays index by index: with the promise, every index below
  the count is one of both arrays, so each read stays inside.
* `StringsReply.raw?_eq_none_iff` says when there is no metadata, and
  `StringsReply.raw?_upToCount` that entries from the count on make no difference.
* `zero_notMem_of_mem_keptPairs`: what is kept was cut at its first zero byte, so the
  map has no text with a zero character.
* `log_metadata` is the log of asking an open handle: the strings are logged when they
  are read, all of them, and again when they are entered into the map.

`strings_become_map` puts these together.
-/

namespace DemuxSession

open Text

theorem Text.Latin1.nul_notMem_decode {bytes : Bytes} (hzero : 0 ∉ bytes) :
    '\x00' ∉ (Latin1.decode bytes).toList := by
  intro hmem
  rw [Latin1.decode, String.toList_ofList, List.mem_map] at hmem
  obtain ⟨byte, hbyte, hnul⟩ := hmem
  have hcode := Latin1.encodeChar?_ofUInt8 byte
  rw [hnul] at hcode
  obtain rfl : 0 = byte := Option.some.inj hcode
  exact hzero hbyte

namespace Library

/-! ## Index by index -/

section Arrays

variable {count : Nat} {keys values : List (Option Bytes)}

/-- The pair at an index, if both arrays have a string there. -/
def pairAt (hkeys : count ≤ keys.length) (hvalues : count ≤ values.length)
    (index : Fin count) : Option (Bytes × Bytes) := do
  let key ← keys.get (index.castLE hkeys)
  let value ← values.get (index.castLE hvalues)
  return (key.untilZero, value.untilZero)

theorem keptPair?_eq_pairAt (hkeys : count ≤ keys.length) (hvalues : count ≤ values.length)
    (index : Fin count) :
    keptPair? (keys.get (index.castLE hkeys), values.get (index.castLE hvalues)) =
      pairAt hkeys hvalues index := by
  unfold pairAt
  cases keys.get (index.castLE hkeys) with
  | none => rfl
  | some key => cases values.get (index.castLE hvalues) <;> rfl

theorem pairAt_eq_none_iff {hkeys : count ≤ keys.length} {hvalues : count ≤ values.length}
    {index : Fin count} :
    pairAt hkeys hvalues index = none ↔
      keys.get (index.castLE hkeys) = none ∨ values.get (index.castLE hvalues) = none := by
  unfold pairAt
  cases keys.get (index.castLE hkeys) with
  | none => simp
  | some key => cases values.get (index.castLE hvalues) <;> simp

theorem take_zip_eq_map_finRange (hkeys : count ≤ keys.length) (hvalues : count ≤ values.length) :
    (keys.zip values).take count = (List.finRange count).map fun index =>
      (keys.get (index.castLE hkeys), values.get (index.castLE hvalues)) := by
  apply List.ext_getElem
  · simp only [List.length_take, List.length_zip, List.length_map, List.length_finRange]
    omega
  · intro index _ _
    simp

/-- The pairs that are kept are those at the indices below the count, in order. -/
theorem keptPairs_eq (hkeys : count ≤ keys.length) (hvalues : count ≤ values.length) :
    keptPairs count keys values = (List.finRange count).filterMap (pairAt hkeys hvalues) := by
  rw [keptPairs, take_zip_eq_map_finRange hkeys hvalues, List.filterMap_map]
  exact List.filterMap_congr fun index _ => keptPair?_eq_pairAt hkeys hvalues index

theorem keptPairs_take (count : Nat) (keys values : List (Option Bytes)) :
    keptPairs count (keys.take count) (values.take count) = keptPairs count keys values := by
  have htake : (keys.take count).zip (values.take count) = (keys.zip values).take count :=
    List.take_zipWith.symm
  rw [keptPairs, keptPairs, htake, List.take_take, Nat.min_self]

theorem zero_notMem_of_mem_keptPairs {pair : Bytes × Bytes}
    (hpair : pair ∈ keptPairs count keys values) : 0 ∉ pair.1 ∧ 0 ∉ pair.2 := by
  obtain ⟨entries, -, hkept⟩ := List.mem_filterMap.mp hpair
  match entries with
  | (some key, some value) =>
    obtain rfl := Option.some.inj hkept
    exact ⟨key.zero_notMem_untilZero, value.zero_notMem_untilZero⟩
  | (none, _) => cases hkept
  | (some _, none) => cases hkept

end Arrays

/-! ## Replies -/

namespace StringsReply

/-- What the library promises: if it succeeds and writes both arrays, each of them has an
entry for every pair that it counted. -/
def Filled (reply : StringsReply) : Prop :=
  reply.status = 0 → ∀ keys values, reply.keys? = some keys → reply.values? = some values →
    reply.count.toNat ≤ keys.length ∧ reply.count.toNat ≤ values.length

/-- The reply without the entries from the count on. -/
def upToCount (reply : StringsReply) : StringsReply :=
  { reply with
    keys? := reply.keys?.map (List.take reply.count.toNat)
    values? := reply.values?.map (List.take reply.count.toNat) }

theorem count_eq_zero_iff (reply : StringsReply) :
    reply.count = 0 ↔ reply.count? = none ∨ reply.count? = some 0 := by
  unfold count
  cases reply.count? <;> simp

theorem raw?_eq_none_iff (reply : StringsReply) :
    reply.raw? = none ↔
      reply.status ≠ 0 ∨ reply.count = 0 ∨ reply.keys? = none ∨ reply.values? = none := by
  unfold raw?
  cases reply.keys? with
  | none => simp
  | some keys =>
    cases reply.values? with
    | none => simp
    | some values => simp [imp_iff_not_or]

theorem exists_written {reply : StringsReply} {raw : RawMetadata}
    (hraw : reply.raw? = some raw) :
    ∃ keys values, reply.status = 0 ∧ reply.keys? = some keys ∧ reply.values? = some values ∧
      raw = keptPairs reply.count.toNat keys values := by
  have hsome : ¬ (reply.status ≠ 0 ∨ reply.count = 0 ∨ reply.keys? = none ∨
      reply.values? = none) := by
    rw [← raw?_eq_none_iff, hraw]
    exact Option.some_ne_none raw
  push Not at hsome
  obtain ⟨hstatus, hcount, hkeys, hvalues⟩ := hsome
  obtain ⟨keys, hkeys⟩ := Option.ne_none_iff_exists'.mp hkeys
  obtain ⟨values, hvalues⟩ := Option.ne_none_iff_exists'.mp hvalues
  refine ⟨keys, values, hstatus, hkeys, hvalues, ?_⟩
  rw [raw?, if_neg (by simp [hstatus, hcount]), hkeys, hvalues] at hraw
  exact (Option.some.inj hraw).symm

/-! Entries from the count on make no difference. -/

theorem count_upToCount (reply : StringsReply) : reply.upToCount.count = reply.count := rfl

theorem raw?_upToCount (reply : StringsReply) : reply.upToCount.raw? = reply.raw? := by
  unfold raw?
  rw [count_upToCount]
  unfold upToCount
  cases reply.keys? with
  | none => rfl
  | some keys =>
    cases reply.values? with
    | none => rfl
    | some values => simp only [Option.map_some, keptPairs_take]

theorem lines_upToCount (reply : StringsReply) : reply.upToCount.lines = reply.lines := by
  rw [lines, lines, raw?_upToCount]
  rfl

end StringsReply

/-! ## Asking an open handle -/

/-- No metadata are decoded as empty ones. -/
theorem decode_getD {State Call : Type} (raw? : Option RawMetadata) :
    (RawMetadata.decode raw? : Action State Call MetadataMap) =
      RawMetadata.decode (some (raw?.getD [])) := by
  cases raw? <;> rfl

theorem getElem?_toldMap_iff {replies : Replies} {text shown : String} :
    replies.toldMap[text]? = some shown ↔
      ∃ key value, Latin1.decode key = text ∧ Latin1.decode value = shown ∧
        (replies.nextStrings.raw?.getD []).BindsLast key value := by
  rw [Replies.toldMap, decode_getD, RawMetadata.getElem?_decode_eq_some_iff]
  simp only [RawMetadata.lastValue?_eq_some_iff]

/-- The map has no text with a zero character, because no string has a zero byte. -/
theorem nul_notMem_of_getElem?_toldMap {replies : Replies} {text shown : String}
    (hentry : replies.toldMap[text]? = some shown) :
    '\x00' ∉ text.toList ∧ '\x00' ∉ shown.toList := by
  obtain ⟨key, value, rfl, rfl, earlier, later, hraw, -⟩ := getElem?_toldMap_iff.mp hentry
  have hpair : (key, value) ∈ replies.nextStrings.raw?.getD [] := by
    rw [hraw]
    exact List.mem_append_right _ List.mem_cons_self
  cases hreply : replies.nextStrings.raw? with
  | none =>
    rw [hreply] at hpair
    cases hpair
  | some raw =>
    rw [hreply, Option.getD_some] at hpair
    obtain ⟨keys, values, -, -, -, rfl⟩ := StringsReply.exists_written hreply
    obtain ⟨hkey, hvalue⟩ := zero_notMem_of_mem_keptPairs hpair
    exact ⟨Latin1.nul_notMem_decode hkey, Latin1.nul_notMem_decode hvalue⟩

/-- The line that shows a pair as it enters a map. -/
def entryLine (pair : Bytes × Bytes) : LogLine :=
  .pair (Latin1.decode pair.1) (Latin1.decode pair.2)

theorem log_metadata (token : Token) (replies : Replies) :
    ((Handle.opened token).metadata backend replies).log =
      .stringsCounted token replies.nextStrings.count ::
        (replies.nextStrings.lines ++ (replies.nextStrings.raw?.getD []).map entryLine) := by
  simp only [Handle.metadata, backend, Action.bind_apply, fetchMetadata_apply,
    decode_getD replies.nextStrings.raw?, RawMetadata.log_decode_eq, List.cons_append]
  rfl

theorem step_metadata_of_opened {client : Client Replies} {number : Int} {token : Token}
    (hheld : client.handles[number]? = some (.opened token)) :
    Client.step backend.alone (.useHandle number .metadata) client =
      ⟨.metadata client.backend.toldMap,
        { client with
          backend := { client.backend with strings := client.backend.strings.tail } },
        .stringsCounted token client.backend.nextStrings.count ::
          (client.backend.nextStrings.lines ++
            (client.backend.nextStrings.raw?.getD []).map entryLine),
        [.readStrings token]⟩ := by
  obtain ⟨hvalue, hstate, hcalls⟩ := metadata_spec token client.backend
  have hlog := log_metadata token client.backend
  rw [Client.step_useHandle_of_held .metadata hheld]
  simp [Client.useHandle, Client.onBackend, Backend.alone, hvalue, hstate, hlog, hcalls]

theorem StringsReply.map_entry_lines (reply : StringsReply) :
    (reply.lines ++ (reply.raw?.getD []).map entryLine).map LogLine.entry =
      if reply.status ≠ 0 then
        [⟨.warn, "mp4_demux_get_metadata_strings returned " ++ toString reply.status.toInt⟩]
      else
        (reply.raw?.getD []).map (fun pair => ⟨.trace,
          "  " ++ Latin1.decode pair.1 ++ ": " ++ Latin1.decode pair.2⟩) ++
        (reply.raw?.getD []).map (fun pair => ⟨.trace,
          "metadata " ++ Latin1.decode pair.1 ++ ": " ++ Latin1.decode pair.2⟩) := by
  unfold lines
  split_ifs with hstatus
  · have hnone : reply.raw? = none := reply.raw?_eq_none_iff.mpr (.inl hstatus)
    rw [hnone]
    rfl
  · rw [List.map_append, List.map_map, List.map_map]
    rfl

/-! ## The main statement -/

/-- **The strings of a reply become a map.**  Of every reply that keeps the promise about
its arrays:

* there is no metadata exactly if the library failed, counted nothing, or left the count
  or an array unwritten;
* else the metadata are the pairs at the indices below the count, in order, where both
  strings are there, each up to its first zero byte.  Every such index is one of both
  arrays, and if no pair is whole, the metadata are empty;
* a reply that differs only in entries from the count on is read and logged alike;
* reading takes one call and one reply.

An open handle that is asked for its metadata answers with the map in which the last pair
with a key decides.  It holds no zero character.  The log tells the count, and then either
the failure or every pair twice: as it was read, and as it entered the map. -/
theorem strings_become_map (token : Token) (replies : Replies)
    (hfilled : replies.nextStrings.Filled) :
    let reply := replies.nextStrings
    let fetched := fetchMetadata token replies
    (fetched.value = none ↔ reply.status ≠ 0 ∨ (reply.count? = none ∨ reply.count? = some 0) ∨
      reply.keys? = none ∨ reply.values? = none) ∧
    (∀ raw, fetched.value = some raw →
      ∃ keys values, reply.keys? = some keys ∧ reply.values? = some values ∧
      ∃ (hkeys : reply.count.toNat ≤ keys.length) (hvalues : reply.count.toNat ≤ values.length),
        raw = (List.finRange reply.count.toNat).filterMap (pairAt hkeys hvalues) ∧
        ((∀ index : Fin reply.count.toNat, keys.get (index.castLE hkeys) = none ∨
          values.get (index.castLE hvalues) = none) → raw = [])) ∧
    (∀ other : Replies, other.nextStrings.upToCount = reply.upToCount →
      (fetchMetadata token other).value = fetched.value ∧
        (fetchMetadata token other).log = fetched.log) ∧
    (fetched.state = { replies with strings := replies.strings.tail } ∧
      fetched.calls = [.readStrings token]) ∧
    ∀ (client : Client Replies) (number : Int), client.backend = replies →
      client.handles[number]? = some (.opened token) →
      let outcome := Client.step backend.alone (.useHandle number .metadata) client
      let kept := fetched.value.getD []
      (∃ map, outcome.value = .metadata map ∧
        (∀ text shown : String, map[text]? = some shown ↔ ∃ key value, Latin1.decode key = text ∧
          Latin1.decode value = shown ∧ kept.BindsLast key value) ∧
        ∀ text shown : String, map[text]? = some shown →
          '\x00' ∉ text.toList ∧ '\x00' ∉ shown.toList) ∧
      outcome.log.map LogLine.entry =
        ⟨.debug, "session " ++ token.display ++ " reports " ++
          toString (reply.count?.getD 0).toNat ++ " metadata strings"⟩ ::
        (if reply.status ≠ 0 then
          [⟨.warn, "mp4_demux_get_metadata_strings returned " ++ toString reply.status.toInt⟩]
        else
          kept.map (fun pair => ⟨.trace,
            "  " ++ Latin1.decode pair.1 ++ ": " ++ Latin1.decode pair.2⟩) ++
          kept.map (fun pair => ⟨.trace,
            "metadata " ++ Latin1.decode pair.1 ++ ": " ++ Latin1.decode pair.2⟩)) ∧
      outcome.state = { client with backend := fetched.state } ∧
      outcome.calls = [.readStrings token] := by
  intro reply fetched
  have hfetched : fetched = _ := fetchMetadata_apply token replies
  refine ⟨?_, ?_, ?_, ⟨by rw [hfetched], by rw [hfetched]⟩, ?_⟩
  · rw [hfetched, ← reply.count_eq_zero_iff]
    exact reply.raw?_eq_none_iff
  · intro raw hraw
    rw [hfetched] at hraw
    obtain ⟨keys, values, hstatus, hkeys, hvalues, rfl⟩ := StringsReply.exists_written hraw
    obtain ⟨hkeysLength, hvaluesLength⟩ := hfilled hstatus keys values hkeys hvalues
    refine ⟨keys, values, hkeys, hvalues, hkeysLength, hvaluesLength,
      keptPairs_eq hkeysLength hvaluesLength, fun hskipped => ?_⟩
    rw [keptPairs_eq hkeysLength hvaluesLength]
    exact List.filterMap_eq_nil_iff.mpr fun index _ => pairAt_eq_none_iff.mpr (hskipped index)
  · intro other hagree
    rw [hfetched, fetchMetadata_apply, ← StringsReply.count_upToCount other.nextStrings,
      ← StringsReply.raw?_upToCount other.nextStrings,
      ← StringsReply.lines_upToCount other.nextStrings, hagree, StringsReply.count_upToCount,
      StringsReply.raw?_upToCount, StringsReply.lines_upToCount]
    exact ⟨rfl, rfl⟩
  · intro client number hbackend hheld outcome kept
    obtain rfl := hbackend
    have houtcome : outcome = _ := step_metadata_of_opened hheld
    have hkept : kept = reply.raw?.getD [] := congrArg (·.value.getD []) hfetched
    rw [houtcome, hkept]
    refine ⟨⟨client.backend.toldMap, rfl, fun text shown => getElem?_toldMap_iff,
      fun text shown hentry => nul_notMem_of_getElem?_toldMap hentry⟩, ?_, ?_, rfl⟩
    · rw [List.map_cons, reply.map_entry_lines]
      rfl
    · rw [hfetched]

/-- Two keys become one when they are cut, the entry between them is not whole, and the
last ones are past the count. -/
theorem strings_become_map_cut :
    let token : Token := ⟨1, by decide⟩
    let reply : StringsReply :=
      ⟨0, some 3, some [some [0x61, 0, 0x62], none, some [0x61], some [0x7A]],
        some [some [0x31], some [0x32], some [], none]⟩
    let client : Client Replies := ⟨⟨[], [], [reply], []⟩, (∅ : Std.ExtTreeMap Int Handle).insert 4
      (.opened token), []⟩
    reply.Filled ∧ client.handles[(4 : Int)]? = some (.opened token) ∧
      (fetchMetadata token client.backend).value = some [([0x61], [0x31]), ([0x61], [])] ∧
      ∃ map, (Client.step backend.alone (.useHandle 4 .metadata) client).value = .metadata map ∧
        map["a"]? = some "" := by
  intro token reply client
  have hfilled : reply.Filled := by
    intro _ keys values hkeys hvalues
    obtain rfl := Option.some.inj hkeys
    obtain rfl := Option.some.inj hvalues
    decide
  have hheld : client.handles[(4 : Int)]? = some (.opened token) :=
    Std.ExtTreeMap.getElem?_insert_self
  have hvalue : (fetchMetadata token client.backend).value =
    some [([0x61], [0x31]), ([0x61], [])] := by decide
  obtain ⟨-, -, -, -, hclient⟩ := strings_become_map token client.backend hfilled
  obtain ⟨⟨map, hmap, hentries, -⟩, -⟩ := hclient client 4 rfl hheld
  refine ⟨hfilled, hheld, hvalue, map, hmap, (hentries "a" "").mpr ?_⟩
  rw [hvalue]
  exact ⟨[0x61], [], by decide, by decide, [([0x61], [0x31])], [], rfl, nofun⟩

end Library

end DemuxSession
