import DemuxSession.FilePath

/-!
# Spellings of one path

A path is rooted or it is not, and between its slashes stand its components: every piece
but the empty ones and the dots, where a dot that opens the path is kept.  Spellings agree
if they are alike in both respects.

The parts of a path tell both, since no component is a slash, so agreeing spellings are
those with the same parts (`parts_eq_iff`).
-/

namespace DemuxSession

/-! ## Pieces -/

namespace Bytes

variable {separator : UInt8}

theorem separator_notMem_of_mem_split (bytes : Bytes) :
    ∀ piece ∈ split separator bytes, separator ∉ piece := by
  induction bytes with
  | nil => simp [split]
  | cons byte rest ih =>
    rw [split]
    by_cases hbyte : byte = separator
    · rw [if_pos hbyte]
      intro piece hpiece
      rcases List.mem_cons.mp hpiece with rfl | hrest
      · exact List.not_mem_nil
      · exact ih piece hrest
    · rw [if_neg hbyte]
      obtain ⟨first, pieces, hsplit⟩ := List.exists_cons_of_ne_nil (split_ne_nil separator rest)
      rw [hsplit] at ih ⊢
      intro piece hpiece
      rcases List.mem_cons.mp hpiece with rfl | hlater
      · have hfirst : separator ∉ first := ih first List.mem_cons_self
        exact List.not_mem_cons_of_ne_of_not_mem (Ne.symm hbyte) hfirst
      · exact ih piece (List.mem_cons_of_mem _ hlater)

theorem exists_split_eq_nil_cons {bytes : Bytes} (hhead : bytes.head? = some separator) :
    ∃ pieces, split separator bytes = [] :: pieces := by
  cases bytes with
  | nil => cases hhead
  | cons byte rest =>
    obtain rfl : byte = separator := Option.some.inj hhead
    exact ⟨split byte rest, by simp [split]⟩

end Bytes

namespace FilePath

/-- The components of a path: its first piece unless that is empty, and of the later
pieces those that are neither empty nor a dot. -/
def components (path : FilePath) : List Bytes :=
  let pieces := path.bytes.split slash
  (pieces.take 1).filter (· ≠ []) ++
    (pieces.drop 1).filter fun piece => piece ≠ [] ∧ piece ≠ dot

/-- Two spellings of one path. -/
structure Agrees (path other : FilePath) : Prop where
  isRooted_eq : path.isRooted = other.isRooted
  components_eq : path.components = other.components

theorem slash_notMem_components (path : FilePath) : ∀ piece ∈ path.components, slash ∉ piece := by
  intro piece hpiece
  refine Bytes.separator_notMem_of_mem_split path.bytes piece ?_
  rcases List.mem_append.mp hpiece with hfirst | hlater
  · exact List.mem_of_mem_take (List.mem_filter.mp hfirst).1
  · exact List.mem_of_mem_drop (List.mem_filter.mp hlater).1

theorem parts_eq (path : FilePath) :
    path.parts = if path.isRooted then [slash] :: path.components else path.components := by
  unfold parts names components
  obtain ⟨first, pieces, hsplit⟩ :=
    List.exists_cons_of_ne_nil (Bytes.split_ne_nil slash path.bytes)
  by_cases hrooted : path.isRooted
  · have hhead : path.bytes.head? = some slash := by simpa [isRooted] using hrooted
    obtain ⟨later, hlater⟩ := Bytes.exists_split_eq_nil_cons hhead
    simp [hrooted, hlater]
  · by_cases hdot : first = dot
    · have hne : dot ≠ [] := by decide
      simp [hrooted, hsplit, hdot, hne]
    · by_cases hempty : first = []
      · simp [hrooted, hsplit, hempty, dot]
      · simp [hrooted, hsplit, hdot, hempty]

/-- A path has the parts of another just if the two are spellings of one path. -/
theorem parts_eq_iff (path other : FilePath) : path.parts = other.parts ↔ path.Agrees other := by
  have hroot : ∀ path : FilePath, [slash] ∉ path.components :=
    fun path hmem => slash_notMem_components path _ hmem List.mem_cons_self
  rw [parts_eq, parts_eq]
  constructor
  · intro hparts
    cases hrooted : path.isRooted with
    | true =>
      cases hother : other.isRooted with
      | true =>
        rw [hrooted, hother] at hparts
        exact ⟨hrooted.trans hother.symm, (List.cons.inj hparts).2⟩
      | false =>
        rw [hrooted, hother, if_pos rfl, if_neg Bool.false_ne_true] at hparts
        exact absurd (hparts ▸ List.mem_cons_self) (hroot other)
    | false =>
      cases hother : other.isRooted with
      | true =>
        rw [hrooted, hother, if_pos rfl, if_neg Bool.false_ne_true] at hparts
        exact absurd (hparts ▸ List.mem_cons_self) (hroot path)
      | false =>
        rw [hrooted, hother] at hparts
        exact ⟨hrooted.trans hother.symm, hparts⟩
  · rintro ⟨hrooted, hcomponents⟩
    rw [hrooted, hcomponents]

end FilePath

end DemuxSession
