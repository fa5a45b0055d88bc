/-!
# Byte strings

Paths, metadata entries and cover pictures are byte strings.  Besides the type,
this module holds the three operations the rest of the library needs on them:
splitting at a separator, cutting at the first zero byte, and filling up to a
given length with zeros.
-/

namespace DemuxSession

/-- A string of bytes, in no particular encoding. -/
abbrev Bytes := List UInt8

namespace Bytes

/-- The pieces between the occurrences of `separator`.  There is always one
piece more than there are separators, so adjacent separators leave an empty
piece between them. -/
def split (separator : UInt8) : Bytes → List Bytes
  | [] => [[]]
  | byte :: rest =>
    if byte = separator then [] :: split separator rest
    else
      match split separator rest with
      | [] => [[byte]]
      | piece :: pieces => (byte :: piece) :: pieces

/-- The bytes before the first zero byte: what remains visible of a byte string
handed over as a zero-terminated one. -/
def untilZero (bytes : Bytes) : Bytes :=
  bytes.takeWhile (· ≠ 0)

/-- Exactly `length` bytes: the first ones of `bytes`, then zeros. -/
def padded (length : Nat) (bytes : Bytes) : Bytes :=
  bytes.take length ++ List.replicate (length - bytes.length) 0

@[simp] theorem length_padded (length : Nat) (bytes : Bytes) :
    (padded length bytes).length = length := by
  simp only [padded, List.length_append, List.length_take, List.length_replicate]
  omega

theorem split_ne_nil (separator : UInt8) (bytes : Bytes) : split separator bytes ≠ [] := by
  cases bytes with
  | nil => simp [split]
  | cons byte rest =>
    rw [split]
    split
    · simp
    · split <;> simp

theorem zero_notMem_untilZero (bytes : Bytes) : 0 ∉ untilZero bytes := by
  induction bytes with
  | nil => simp [untilZero]
  | cons byte rest ih =>
    by_cases hzero : byte = 0
    · simp [untilZero, hzero]
    · simpa [untilZero, hzero, Ne.symm hzero] using ih

end Bytes

end DemuxSession
