import VideoCapture.Proofs.Recording.RoundTrip

/-!
# What closing a recording comes to

Closing a recording on a sound disk has one of three outcomes. The media data are too large for a box and the file
stays as it was while it was written; or the parameter sets make no decoder configuration and the file gets the size
of the media data but no movie box; or the file is finished. Which one it is, what is answered and which bytes are left
depend on the track and on the access units alone (`Recording.outcome`): not on the way the bytes took to the disk, nor
on who closes the recording, nor on when that happens.
-/

namespace VideoCapture
open Recording

namespace Recording

/-- What finalizing a recording of some access units answers, and the bytes that it leaves. -/
def outcome (base : Nat) (track : Track) (units : List AccessUnit) : Except CaptureError RecordingSummary × Bytes :=
  let mdatSize := Box.headerSize + (mediaData units).length
  if Track.maxField < mdatSize then (.error (.tooLarge mdatSize), opening.flatten ++ mediaData units)
  else match track.sets.decoderConfiguration track.codec with
    | .error error => (.error error, sized units)
    | .ok configuration =>
      let movie := moviePayload base track configuration units
      (.ok (Streaming.summaryOf movie units), finished movie units)

variable {base : Nat} {track : Track} {units : List AccessUnit}

/-- Media data that are too large make an error, and leave the file as the muxer had written it. -/
lemma outcome_of_large (large : Track.maxField < Box.headerSize + (mediaData units).length) :
    outcome base track units =
      (.error (.tooLarge (Box.headerSize + (mediaData units).length)), opening.flatten ++ mediaData units) := by
  simp only [outcome]
  rw [if_pos large]

/-- A track without a decoder configuration makes an error, and leaves the media data with their size. -/
lemma outcome_of_refused (small : Box.headerSize + (mediaData units).length ≤ Track.maxField) {error : CaptureError}
    (refused : track.sets.decoderConfiguration track.codec = .error error) :
    outcome base track units = (.error error, sized units) := by
  simp only [outcome, refused]
  rw [if_neg (Nat.not_lt.mpr small)]

/-- A track with a decoder configuration makes a film that is finished. -/
lemma outcome_of_configured (small : Box.headerSize + (mediaData units).length ≤ Track.maxField)
    {configuration : Bytes} (configured : track.sets.decoderConfiguration track.codec = .ok configuration) :
    outcome base track units = (.ok (Streaming.summaryOf (moviePayload base track configuration units) units),
      finished (moviePayload base track configuration units) units) := by
  simp only [outcome, configured]
  rw [if_neg (Nat.not_lt.mpr small)]

end Recording

variable {origin : Disk} {id base : Nat} {track : Track} {received : Bytes} {units : List AccessUnit}

namespace Streaming

variable {tuning : WriteTuning} {s : Streaming} {disk : Disk}

/-- Without a decoder configuration there is no movie box, but the size of the media data is patched first. -/
lemma Records.complete_refused (records : s.Records origin id base tuning track disk received units)
    {error : CaptureError} (refused : track.sets.decoderConfiguration track.codec = .error error)
    (small : Box.headerSize + (mediaData units).length ≤ Track.maxField) {out : DiskFile}
    (lays : out.Lays origin id base (opening.flatten ++ mediaData units)) :
    ∃ after, s.complete out = (.error error, after) ∧ after.Lays origin id base (sized units) := by
  obtain ⟨base_eq, track_eq, -, -, stop_eq, -, -⟩ := records
  have start_eq : s.mdatStart = mdatOffset base := by rw [mdatStart, base_eq]
  have size_eq : s.stop - s.mdatStart = Box.headerSize + (mediaData units).length := by
    rw [stop_eq, start_eq, mediaOffset, Nat.add_assoc, Nat.add_sub_cancel_left]
  have no_movie : Movie.moov s.track s.samples = .error error := by
    rw [Movie.moov, track_eq, refused]
    rfl
  obtain ⟨after, patched, lays'⟩ := lays.patch_size
  refine ⟨after, ?_, lays'⟩
  unfold Streaming.complete
  rw [size_eq, start_eq, no_movie]
  dsimp only
  rw [if_neg (Nat.not_lt.mpr small), patched]

/-- Completing a recording that is too large leaves its file alone. -/
lemma Records.complete_large (records : s.Records origin id base tuning track disk received units)
    (large : Track.maxField < Box.headerSize + (mediaData units).length) (out : DiskFile) :
    s.complete out = (.error (.tooLarge (Box.headerSize + (mediaData units).length)), out) := by
  have size_eq : s.stop - s.mdatStart = Box.headerSize + (mediaData units).length := by
    rw [records.stop_eq, mdatStart, records.base_eq, mediaOffset, Nat.add_assoc, Nat.add_sub_cancel_left]
  unfold Streaming.complete
  rw [size_eq]
  dsimp only
  rw [if_pos large]

/-- Completing a recording that is flushed has the outcome of its track and units. -/
lemma Records.complete_outcome (records : s.Records origin id base tuning track disk received units)
    {out : DiskFile} (lays : out.Lays origin id base (opening.flatten ++ mediaData units)) :
    ∃ after, s.complete out = ((outcome base track units).1, after) ∧
      after.Lays origin id base (outcome base track units).2 := by
  rcases Nat.lt_or_ge Track.maxField (Box.headerSize + (mediaData units).length) with large | small
  · rw [outcome_of_large large]
    exact ⟨out, records.complete_large large out, lays⟩
  cases configured : track.sets.decoderConfiguration track.codec with
  | error error =>
    rw [outcome_of_refused small configured]
    exact records.complete_refused configured small lays
  | ok configuration =>
    rw [outcome_of_configured small configured]
    have built := @moov_recorded base _ _ units configured
    -- the movie box is named, so that nothing evaluates it
    generalize moviePayload base track configuration units = movie at built ⊢
    exact (records.complete built lays).1 small

/-- Finalizing a recording has the outcome of its track and units. -/
lemma Records.finalize_outcome (records : s.Records origin id base tuning track disk received units) (now : Nat) :
    ∃ after, s.finalize disk now = ((outcome base track units).1, after) ∧
      Disk.Shows origin id base (outcome base track units).2 after := by
  obtain ⟨buffer, out, flushed, carries, -⟩ := records.carries.flush_succeeds (reliable origin id base) now
  obtain ⟨synced, run, lays⟩ := carries.reaches.lays.sync
  obtain ⟨after, completed, lays'⟩ := records.complete_outcome lays
  refine ⟨after.disk, ?_, lays'.shown⟩
  rw [finalize_of_flushed rfl flushed run, completed]

end Streaming

namespace Muxer

variable {muxer : Muxer} {disk : Disk}

/-- Where nothing is streamed, there is nothing to finalize. -/
lemma finalize_idle (idle : muxer.streaming? = none) (disk : Disk) (now : Nat) :
    muxer.finalize disk now = (.error .notStreaming, muxer, disk) := by
  unfold finalize
  cases phase : muxer.phase with
  | streaming s => simp [streaming?, phase] at idle
  | uninitialized => rfl
  | finalized => rfl

/-- Whenever and however a recording is finalized, the answer and the bytes in the file are the same. -/
lemma Records.finalize_outcome (records : muxer.Records origin id base track disk received units) (now : Nat) :
    ∃ after, muxer.finalize disk now =
        ((outcome base track units).1, { muxer with phase := .finalized }, after) ∧
      Disk.Shows origin id base (outcome base track units).2 after := by
  obtain ⟨s, phase, recording⟩ := records
  obtain ⟨after, run, shown⟩ := recording.finalize_outcome now
  refine ⟨after, ?_, shown⟩
  rw [finalize_of_streaming rfl phase, run]

end Muxer

end VideoCapture
