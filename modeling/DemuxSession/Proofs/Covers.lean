import DemuxSession.Proofs.LibraryReads
import DemuxSession.Proofs.Wording

/-!
# Covers in two calls

A cover is read in two calls that share the variables for its size and its format.
Either reply may leave either variable unwritten, and may write it although it reports
a failure.  The size may shrink or grow between the calls, and the bytes that the
second reply writes may be fewer than it says.

* `Replies.Announces` is what it takes for the second call to be made.
* `Replies.toldCover?_eq_some_iff` says which cover is read.  Its format is what the
  variable holds in the end (`Replies.kind_of_toldCover?`).  Its data are as many bytes as
  both sizes allow, so that they fit the buffer whatever the second reply says
  (`Replies.data_of_toldCover?`).
* `map_entry_log_fetchCover` is the log.

`cover_of_replies` puts them together.
-/

namespace DemuxSession

theorem Bytes.getElem?_padded {length index : Nat} (bytes : Bytes) (hindex : index < length) :
    (bytes.padded length)[index]? = some (bytes.getD index 0) := by
  rw [Bytes.padded, List.getElem?_append, List.getElem?_replicate, List.getElem?_take,
    List.getD_eq_getElem?_getD, List.length_take, if_pos hindex]
  by_cases hinside : index < bytes.length
  · rw [if_pos (by omega), List.getElem?_eq_getElem hinside, Option.getD_some]
  · rw [if_neg (by omega), if_pos (by omega), List.getElem?_eq_none (by omega), Option.getD_none]

namespace CoverKind

theorem ofCode?_eq_some_iff {code : Int32} {kind : CoverKind} :
    ofCode? code = some kind ↔ kind.code = code := by
  constructor
  · intro hkind
    unfold ofCode? at hkind
    split_ifs at hkind with hjpeg hpng hbmp <;> obtain rfl := Option.some.inj hkind
    · exact hjpeg.symm
    · exact hpng.symm
    · exact hbmp.symm
  · rintro rfl
    exact ofCode?_code kind

theorem exists_code_eq_iff {code : Int32} :
    (∃ kind : CoverKind, kind.code = code) ↔ code = 0 ∨ code = 1 ∨ code = 2 := by
  constructor
  · rintro ⟨kind, rfl⟩
    cases kind <;> decide
  · rintro (rfl | rfl | rfl)
    exacts [⟨.jpeg, rfl⟩, ⟨.png, rfl⟩, ⟨.bmp, rfl⟩]

theorem ofCode?_eq_none_iff {code : Int32} :
    ofCode? code = none ↔ ¬ (code = 0 ∨ code = 1 ∨ code = 2) := by
  rw [← exists_code_eq_iff, Option.eq_none_iff_forall_ne_some]
  simp only [Ne, ofCode?_eq_some_iff, not_exists]

end CoverKind

namespace Library

/-! ## What the variables hold -/

namespace Replies

variable (replies : Replies)

/-- The variables after the first call. -/
def afterFirst : CoverVariables := CoverVariables.initial.after replies.nextCover

/-- The variables after the second call. -/
def afterSecond : CoverVariables := replies.afterFirst.after replies.afterCover.nextCover

/-- The first reply announces a cover. -/
def Announces : Prop := replies.nextCover.status = 0 ∧ replies.afterFirst.size ≠ 0

variable {replies}

theorem announced?_of_announces (hannounces : replies.Announces) :
    replies.nextCover.announced? = some replies.afterFirst := by
  obtain ⟨hstatus, hsize⟩ := hannounces
  exact if_neg (not_or.mpr ⟨not_not.mpr hstatus, hsize⟩)

theorem announced?_of_not_announces (hsilent : ¬ replies.Announces) :
    replies.nextCover.announced? = none := by
  have hfails : replies.nextCover.status ≠ 0 ∨ replies.afterFirst.size = 0 := by
    rwa [Announces, not_and_or, not_not] at hsilent
  exact if_pos hfails

theorem toldCover?_eq_some_iff {cover : Cover} :
    replies.toldCover? = some cover ↔
      replies.Announces ∧ replies.afterCover.nextCover.status = 0 ∧
        cover.kind.code = replies.afterSecond.code ∧
        cover.data = replies.afterCover.nextCover.data.padded
          (min replies.afterFirst.size.toNat replies.afterSecond.size.toNat) := by
  unfold toldCover?
  by_cases hannounces : replies.Announces
  · rw [announced?_of_announces hannounces, Option.bind_some, CoverReply.cover?]
    simp only [Option.ite_none_left_eq_some, Option.map_eq_some_iff, not_not,
      CoverKind.ofCode?_eq_some_iff]
    constructor
    · rintro ⟨hstatus, kind, hkind, rfl⟩
      exact ⟨hannounces, hstatus, hkind, rfl⟩
    · obtain ⟨kind, data⟩ := cover
      rintro ⟨-, hstatus, hkind, rfl⟩
      exact ⟨hstatus, kind, hkind, rfl⟩
  · rw [announced?_of_not_announces hannounces, Option.bind_none]
    simp [hannounces]

theorem isSome_toldCover?_iff :
    replies.toldCover?.isSome ↔
      replies.Announces ∧ replies.afterCover.nextCover.status = 0 ∧
        (replies.afterSecond.code = 0 ∨ replies.afterSecond.code = 1 ∨
          replies.afterSecond.code = 2) := by
  rw [Option.isSome_iff_exists, ← CoverKind.exists_code_eq_iff]
  constructor
  · rintro ⟨cover, hcover⟩
    obtain ⟨hannounces, hstatus, hkind, -⟩ := toldCover?_eq_some_iff.mp hcover
    exact ⟨hannounces, hstatus, cover.kind, hkind⟩
  · rintro ⟨hannounces, hstatus, kind, hkind⟩
    exact ⟨⟨kind, _⟩, toldCover?_eq_some_iff.mpr ⟨hannounces, hstatus, hkind, rfl⟩⟩

/-- A cover has the format that the variable holds in the end, so one that only the first
reply wrote stays, and JPEG if neither wrote one. -/
theorem kind_of_toldCover? {cover : Cover} (hcover : replies.toldCover? = some cover) :
    cover.kind.code = replies.afterSecond.code ∧
      (replies.afterCover.nextCover.code? = none → cover.kind.code = replies.afterFirst.code) ∧
      (replies.nextCover.code? = none → replies.afterCover.nextCover.code? = none →
        cover.kind = .jpeg) := by
  obtain ⟨-, -, hkind, -⟩ := toldCover?_eq_some_iff.mp hcover
  have hearlier : replies.afterCover.nextCover.code? = none →
      cover.kind.code = replies.afterFirst.code := by
    intro hcode
    rw [hkind]
    exact congrArg (·.getD replies.afterFirst.code) hcode
  refine ⟨hkind, hearlier, fun hfirst hsecond => ?_⟩
  have hzero : replies.afterFirst.code = 0 := congrArg (·.getD 0) hfirst
  have hjpeg := CoverKind.ofCode?_eq_some_iff.mpr ((hearlier hsecond).trans hzero)
  exact (Option.some.inj hjpeg).symm

/-- The data of a cover are as many bytes as both sizes allow, those of the second reply. -/
theorem data_of_toldCover? {cover : Cover} (hcover : replies.toldCover? = some cover) :
    cover.data.length = min replies.afterFirst.size.toNat replies.afterSecond.size.toNat ∧
      ∀ index < cover.data.length,
        cover.data[index]? = some (replies.afterCover.nextCover.data.getD index 0) := by
  obtain ⟨-, -, -, hdata⟩ := toldCover?_eq_some_iff.mp hcover
  rw [hdata, Bytes.length_padded]
  exact ⟨rfl, fun index hindex => Bytes.getElem?_padded _ hindex⟩

end Replies

/-! ## The two calls -/

/-- The entry that a failure leaves in the log. -/
def coverFailure (status : Int32) : LogEntry :=
  ⟨.warn, "mp4_demux_get_metadata_cover returned " ++ toString status.toInt⟩

theorem fetchCover_of_announces (token : Token) {replies : Replies}
    (hannounces : replies.Announces) :
    fetchCover token replies =
      ⟨replies.toldCover?, replies.afterCover.afterCover,
        replies.afterCover.nextCover.copyLines replies.afterFirst,
        [.readCover token .absent, .readCover token (.room replies.afterFirst.size)]⟩ := by
  have hannounced := Replies.announced?_of_announces hannounces
  have hquery : replies.nextCover.queryLines = [] := if_neg (not_not.mpr hannounces.1)
  rw [fetchCover_of_announced token hannounced, Replies.toldCover?, hannounced, hquery]
  rfl

theorem fetchCover_of_not_announces (token : Token) {replies : Replies}
    (hsilent : ¬ replies.Announces) :
    fetchCover token replies =
      ⟨none, replies.afterCover, replies.nextCover.queryLines, [.readCover token .absent]⟩ :=
  fetchCover_of_not_announced token (Replies.announced?_of_not_announces hsilent)

theorem map_entry_copyLines (reply : CoverReply) (announced : CoverVariables) :
    (reply.copyLines announced).map LogLine.entry =
      if reply.status ≠ 0 then [coverFailure reply.status]
      else if (announced.after reply).code = 0 ∨ (announced.after reply).code = 1 ∨
          (announced.after reply).code = 2 then []
      else
        [⟨.warn, "unknown cover type " ++ toString (announced.after reply).code.toInt⟩] := by
  simp only [CoverReply.copyLines, CoverKind.ofCode?_eq_none_iff, ite_not]
  split_ifs <;> rfl

theorem map_entry_log_fetchCover (token : Token) (replies : Replies) :
    (fetchCover token replies).log.map LogLine.entry =
      if replies.nextCover.status ≠ 0 then [coverFailure replies.nextCover.status]
      else if replies.afterFirst.size = 0 then []
      else if replies.afterCover.nextCover.status ≠ 0 then
        [coverFailure replies.afterCover.nextCover.status]
      else if replies.afterSecond.code = 0 ∨ replies.afterSecond.code = 1 ∨
          replies.afterSecond.code = 2 then []
      else [⟨.warn, "unknown cover type " ++ toString replies.afterSecond.code.toInt⟩] := by
  by_cases hstatus : replies.nextCover.status = 0
  · by_cases hsize : replies.afterFirst.size = 0
    · have hsilent : ¬ replies.Announces := fun hannounces => hannounces.2 hsize
      rw [fetchCover_of_not_announces token hsilent, CoverReply.queryLines,
        if_neg (not_not.mpr hstatus), if_neg (not_not.mpr hstatus), if_pos hsize]
      rfl
    · rw [fetchCover_of_announces token ⟨hstatus, hsize⟩, map_entry_copyLines,
        if_neg (not_not.mpr hstatus), if_neg hsize]
      rfl
  · have hsilent : ¬ replies.Announces := fun hannounces => hstatus hannounces.1
    rw [fetchCover_of_not_announces token hsilent, CoverReply.queryLines, if_pos hstatus,
      if_pos hstatus]
    rfl

/-! ## The main statement -/

/-- **A cover in two calls.**  Whatever the two replies are, with the variables for size and
format at zero in the beginning and each reply writing them or not:

* the first call hands over the null pointer for a buffer, of size zero; the second is made
  exactly if the first succeeded and left a size other than zero, and hands over a buffer of
  that size;
* there is a cover exactly if both calls were made and succeeded and the number left by the
  second is the one of a format;
* the cover has that format, also where the second reply did not write it, and a format that
  neither wrote is JPEG.  Its data are the bytes of the second reply, with zeros where these
  end, up to the smaller of the two sizes: never more than there was room for, and none at
  all if the size has become zero;
* the log has the failure of the call that failed or the number without a format, and
  otherwise nothing;
* each call uses up one reply and no other. -/
theorem cover_of_replies (token : Token) (replies : Replies) :
    let first := replies.nextCover
    let second := replies.afterCover.nextCover
    let size := first.size?.getD 0
    let code := first.code?.getD 0
    let size' := second.size?.getD size
    let code' := second.code?.getD code
    let asksAgain : Bool := first.status = 0 ∧ size ≠ 0
    let known : Bool := code' = 0 ∨ code' = 1 ∨ code' = 2
    let fetched := fetchCover token replies
    (∃ buffers : List Buffer, fetched.calls = buffers.map (Call.readCover token) ∧
      buffers.map (fun buffer => (buffer.isAbsent, buffer.size)) =
        (true, 0) :: if asksAgain then [(false, size)] else []) ∧
    (fetched.value.isSome ↔ asksAgain ∧ second.status = 0 ∧ known) ∧
    (∀ cover, fetched.value = some cover →
      cover.kind.code = code' ∧ cover.data.length = min size.toNat size'.toNat ∧
      (∀ index < cover.data.length, cover.data[index]? = some (second.data.getD index 0)) ∧
      cover.data.length ≤ size.toNat ∧ (size' = 0 → cover.data = []) ∧
      (second.code? = none → cover.kind.code = code) ∧
      (first.code? = none → second.code? = none → cover.kind = .jpeg)) ∧
    fetched.log.map LogLine.entry =
      (if first.status ≠ 0 then
        [⟨.warn, "mp4_demux_get_metadata_cover returned " ++ toString first.status.toInt⟩]
      else if size = 0 then []
      else if second.status ≠ 0 then
        [⟨.warn, "mp4_demux_get_metadata_cover returned " ++ toString second.status.toInt⟩]
      else if known then []
      else [⟨.warn, "unknown cover type " ++ toString code'.toInt⟩]) ∧
    fetched.state =
      { replies with covers := replies.covers.drop (if asksAgain then 2 else 1) } := by
  intro first second size code size' code' asksAgain known fetched
  have hasks : asksAgain = true ↔ replies.Announces := decide_eq_true_iff
  have hknown : known = true ↔ code' = 0 ∨ code' = 1 ∨ code' = 2 := decide_eq_true_iff
  have hvalue : fetched.value = replies.toldCover? := value_fetchCover token replies
  refine ⟨?_, ?_, ?_, ?_, ?_⟩
  · by_cases hannounces : replies.Announces
    · rw [if_pos (hasks.mpr hannounces)]
      refine ⟨[.absent, .room size], ?_, rfl⟩
      exact congrArg Outcome.calls (fetchCover_of_announces token hannounces)
    · rw [if_neg (hasks.not.mpr hannounces)]
      refine ⟨[.absent], ?_, rfl⟩
      exact congrArg Outcome.calls (fetchCover_of_not_announces token hannounces)
  · rw [hvalue, hasks, hknown]
    exact Replies.isSome_toldCover?_iff
  · intro cover hcover
    rw [hvalue] at hcover
    obtain ⟨hkind, hearlier, hjpeg⟩ := Replies.kind_of_toldCover? hcover
    obtain ⟨hlength, hbytes⟩ := Replies.data_of_toldCover? hcover
    refine ⟨hkind, hlength, hbytes, ?_, fun hsize => ?_, hearlier, hjpeg⟩
    · calc cover.data.length
          = min size.toNat size'.toNat := hlength
        _ ≤ size.toNat := Nat.min_le_left _ _
    · apply List.eq_nil_of_length_eq_zero
      calc cover.data.length
          = min size.toNat size'.toNat := hlength
        _ = 0 := by rw [hsize, UInt32.toNat_zero, Nat.min_zero]
  · simp only [hknown]
    exact map_entry_log_fetchCover token replies
  · by_cases hannounces : replies.Announces
    · rw [if_pos (hasks.mpr hannounces), ← List.tail_drop, List.drop_one]
      exact congrArg Outcome.state (fetchCover_of_announces token hannounces)
    · rw [if_neg (hasks.not.mpr hannounces), List.drop_one]
      exact congrArg Outcome.state (fetchCover_of_not_announces token hannounces)

/-- The second reply writes a larger size, no format and too few bytes. -/
example :
    (fetchCover ⟨1, by decide⟩
      ⟨[], [], [], [⟨0, some 3, some 1, []⟩, ⟨0, some 9, none, [7]⟩]⟩).value =
      some ⟨.png, [7, 0, 0]⟩ := by decide

end Library

end DemuxSession
