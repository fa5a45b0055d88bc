import DemuxSession.Action
import DemuxSession.Text.Latin1
import Std.Data.ExtTreeMap

/-!
# Metadata

A demuxer reports metadata as a list of byte strings in pairs.  Decoded, it is a
map from keys to values in the order of the keys, where the last pair with a key
decides its value.  Two keys of the map are reserved for thermal recordings.
-/

namespace DemuxSession

/-- Metadata as a demuxer reports it: keys and values, in order. -/
abbrev RawMetadata := List (Bytes × Bytes)

/-- Decoded metadata, ordered by the code points of the keys. -/
abbrev MetadataMap := Std.ExtTreeMap String String

namespace RawMetadata

variable {State Call : Type}

/-- Enters the decoded pairs into a map one after the other, and logs each. -/
def decodeInto (map : MetadataMap) : RawMetadata → Action State Call MetadataMap
  | [] => pure map
  | (key, value) :: rest => do
    let key := Text.Latin1.decode key
    let value := Text.Latin1.decode value
    Action.log (.pair key value)
    decodeInto (map.insert key value) rest

/-- The map of the pairs a demuxer reported; empty if it reported none. -/
def decode (raw? : Option RawMetadata) : Action State Call MetadataMap :=
  match raw? with
  | some raw => decodeInto ∅ raw
  | none => pure ∅

/-- Decoding logs, and does nothing else. -/
theorem decodeInto_keeps (raw : RawMetadata) (map : MetadataMap) (state : State) :
    (decodeInto map raw state : Outcome State Call MetadataMap).state = state ∧
      (decodeInto map raw state : Outcome State Call MetadataMap).calls = [] := by
  induction raw generalizing map with
  | nil => exact ⟨rfl, rfl⟩
  | cons pair rest ih =>
    obtain ⟨hstate, hcalls⟩ := ih (map.insert (Text.Latin1.decode pair.1)
      (Text.Latin1.decode pair.2))
    exact ⟨by simpa [decodeInto] using hstate, by simpa [decodeInto] using hcalls⟩

/-- Decoding logs nothing but pairs. -/
theorem log_decodeInto (raw : RawMetadata) (map : MetadataMap) (state : State) :
    ∀ line ∈ (decodeInto map raw state : Outcome State Call MetadataMap).log,
      ∃ key value, line = .pair key value := by
  induction raw generalizing map with
  | nil => intro line hline; cases hline
  | cons pair rest ih =>
    intro line hline
    rcases List.mem_cons.mp hline with rfl | hrest
    · exact ⟨_, _, rfl⟩
    · exact ih _ line hrest

theorem log_decode (raw? : Option RawMetadata) (state : State) :
    ∀ line ∈ (decode raw? state : Outcome State Call MetadataMap).log,
      ∃ key value, line = .pair key value := by
  cases raw? with
  | none => intro line hline; cases hline
  | some raw => exact log_decodeInto raw ∅ state

@[simp] theorem state_decode (raw? : Option RawMetadata) (state : State) :
    (decode raw? state : Outcome State Call MetadataMap).state = state := by
  cases raw? with
  | none => rfl
  | some raw => exact (decodeInto_keeps raw ∅ state).1

@[simp] theorem calls_decode (raw? : Option RawMetadata) (state : State) :
    (decode raw? state : Outcome State Call MetadataMap).calls = [] := by
  cases raw? with
  | none => rfl
  | some raw => exact (decodeInto_keeps raw ∅ state).2

end RawMetadata

/-! ## Thermal recordings -/

/-- The two reserved entries of a thermal recording, looked up but not
interpreted. -/
structure ThermalMetadata where
  metaversion? : Option String
  alignment? : Option String
  deriving DecidableEq

namespace ThermalMetadata

/-- The key of the version of the thermal metadata. -/
def metaversionKey : String := "com.parrot.thermal.metaversion"

/-- The key of the alignment between the thermal and the visible picture. -/
def alignmentKey : String := "com.parrot.thermal.alignment"

def ofMap (map : MetadataMap) : ThermalMetadata where
  metaversion? := map[metaversionKey]?
  alignment? := map[alignmentKey]?

/-- Whether the recording has at least one of the reserved entries. -/
def isThermal (thermal : ThermalMetadata) : Bool :=
  thermal.metaversion?.isSome || thermal.alignment?.isSome

end ThermalMetadata

end DemuxSession
