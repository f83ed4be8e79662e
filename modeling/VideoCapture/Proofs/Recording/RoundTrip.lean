import VideoCapture.Proofs.Recording.Finalize

/-!
# Recordings are read back

A recording from its start to its end: whatever was in the file before, wherever in the file the recording
began, and however the muxer was called, a reader finds in the finished file the access units of the
accepted calls.
-/

namespace VideoCapture
open Recording FileContent Demux

/-- A summary says about a finished recording what a reader sees in it. -/
structure RecordingSummary.Describes (summary : RecordingSummary) (film : Film) : Prop where
  frames : summary.frames = film.units.length
  keyframes : summary.keyframes = film.units.countP AccessUnit.isKeyframe
  /-- The size of the media data box, header included. -/
  mdatSize : ∃ media, film.boxes.lookup (.ofChars 'm' 'd' 'a' 't') = some media ∧
    summary.mdatSize = Box.headerSize + media.length
  inPlace : summary.inPlace = decide (film.layout[1]? = some (.ofChars 'm' 'o' 'o' 'v'))

namespace Muxer

variable {origin : Disk} {id base : Nat} {track : Track} {muxer : Muxer} {disk : Disk} {received : Bytes}
  {units : List AccessUnit} {configuration : Bytes}

/-- Finalizing a muxer that streams finalizes its recording. -/
lemma finalize_of_streaming {s : Streaming} {finalize : Disk → Nat → Except CaptureError RecordingSummary × Disk}
    (named : s.finalize = finalize) (phase : muxer.phase = .streaming s) (now : Nat) :
    muxer.finalize disk now =
      ((finalize disk now).1, { muxer with phase := .finalized }, (finalize disk now).2) := by
  rw [Muxer.finalize, phase]
  dsimp only
  rw [named]

/-- Finalizing a muxer succeeds exactly if the media data fit into a box, and then leaves the finished
recording. -/
lemma Records.finalize (records : muxer.Records origin id base track disk received units)
    (configured : track.sets.decoderConfiguration track.codec = .ok configuration) (now : Nat) :
    ∃ result finalized after, muxer.finalize disk now = (result, finalized, after) ∧
      finalized.phase = .finalized ∧
      (Box.headerSize + (mediaData units).length ≤ Track.maxField →
        result = .ok (Streaming.summaryOf (moviePayload base track configuration units) units) ∧
        Disk.Shows origin id base (finished (moviePayload base track configuration units) units) after) ∧
      (Track.maxField < Box.headerSize + (mediaData units).length →
        result = .error (.tooLarge (Box.headerSize + (mediaData units).length))) := by
  obtain ⟨s, phase, recording⟩ := records
  obtain ⟨result, after, run, small, large⟩ := recording.finalize (moov_recorded configured) now
  refine ⟨result, { muxer with phase := .finalized }, after, ?_, rfl, small, large⟩
  rw [finalize_of_streaming rfl phase, run]

end Muxer

/-- A summary describes the recording that it was made for. -/
lemma summaryOf_describes (movie : Bytes) (units : List AccessUnit) (read : Demux.Movie) :
    (Streaming.summaryOf movie units).Describes { boxes := finishedBoxes movie units, movie := read, units } where
  frames := rfl
  keyframes := rfl
  mdatSize := ⟨_, lookup_mdat movie units, rfl⟩
  inPlace := by
    rw [Streaming.summaryOf, Film.layout, finishedBoxes]
    cases fitsRoom (moovBox movie).length <;> rfl

/-- A muxer is started on a sound disk, at any position that a file can have (63 bits), called any number of
times, and finalized. That succeeds exactly if the size of the media data fits into 32 bits. A reader then finds in the
file what was recorded, and the rest of the file is as it was. -/
theorem recording_round_trip {muxer started : Muxer} {origin disk : Disk} {now stop id base : Nat}
    {track : Track} {configuration : Bytes} (sound : origin.IsSound) (present : id < origin.contents.length)
    (position : base < 0x8000000000000000)
    (start : muxer.start origin now ⟨some id, base⟩ track = (.ok (), started, disk))
    (configured : track.sets.decoderConfiguration track.codec = .ok configuration)
    (calls : List (Nat × SampleCall))
    (moov_small : (Movie.moovWith track configuration
      (Sample.indexFrom (mediaOffset base) (accepted calls))).length < 0x100000000) :
    ∃ recorded streamed result finalized after,
      started.run disk calls = (calls.map fun call => call.2.answer, recorded, streamed) ∧
      recorded.finalize streamed stop = (result, finalized, after) ∧
      finalized.phase = .finalized ∧
      ((∃ summary, result = .ok summary) ↔
        Box.headerSize + (mediaData (accepted calls)).length ≤ Track.maxField) ∧
      ∀ summary, result = .ok summary → ∃ region film,
        after.content id = overwrite (origin.content id) base region ∧
        Disk.SameBut id origin after ∧
        film? (after.content id) base region.length = some film ∧
        film.layout ∈ layouts ∧
        film.movie.codec = track.codec ∧
        film.movie.configuration = configuration ∧
        film.units = accepted calls ∧
        summary.Describes film := by
  obtain ⟨records, -, valid⟩ := Muxer.start_records sound present start
  obtain ⟨recorded, streamed, received, run, records, -, -⟩ := records.run calls
  rw [List.nil_append] at records
  obtain ⟨result, finalized, after, finalize, phase, small, large⟩ := records.finalize configured stop
  rcases Nat.lt_or_ge Track.maxField (Box.headerSize + (mediaData (accepted calls)).length) with
    exceeds | fits
  · have failed := large exceeds
    refine ⟨recorded, streamed, result, finalized, after, run, finalize, phase, ?_, ?_⟩
    · constructor
      · rintro ⟨summary, succeeded⟩
        cases failed.symm.trans succeeded
      · intro fits
        exact absurd exceeds (Nat.not_lt.mpr fits)
    · intro summary succeeded
      cases failed.symm.trans succeeded
  · obtain ⟨succeeded, shown⟩ := small fits
    refine ⟨recorded, streamed, result, finalized, after, run, finalize, phase, ?_, ?_⟩
    · exact ⟨fun _ => fits, fun _ => ⟨_, succeeded⟩⟩
    · intro summary same
      cases same.symm.trans succeeded
      have moov : (moovBox (moviePayload base track configuration (accepted calls))).length < 0x100000000 := by
        rw [moovBox, moviePayload, ← Movie.moovWith_eq]
        exact moov_small
      -- the movie box is named, so that nothing evaluates it
      generalize movie_eq : moviePayload base track configuration (accepted calls) = movie at moov shown
      have read : film? (overwrite (origin.content id) base (finished movie (accepted calls))) base
          (finished movie (accepted calls)).length = some {
            boxes := finishedBoxes movie (accepted calls)
            movie := movieOf base track configuration (accepted calls)
            units := accepted calls } := by
        subst movie_eq
        exact film?_finished valid position moov fits
      rw [← shown.content] at read
      refine ⟨finished movie (accepted calls), _, shown.content, shown.same, read, ?_, rfl, rfl, rfl, ?_⟩
      · exact finishedBoxes_layout _ _
      · exact summaryOf_describes _ _ _

/-- A recording of two samples over the end of a file. -/
theorem recording_round_trip_two_samples :
    let track : Track := ⟨.h264, .ofH264 [0x67, 0x42, 0x00, 0x1E] [0x68, 0x01], 16, 16, 30⟩
    let origin : Disk := { contents := [⟨.ofBytes [1, 2, 3, 4, 5], []⟩] }
    let start := ({ tuning := {} } : Muxer).start origin 0 ⟨some 0, 3⟩ track
    let calls := [(1, .frame [0x65] true), (2, .frame [] false), (3, .accessUnit ⟨[[], [0x41]], false⟩)]
    start.1 = .ok () ∧
      ∃ answers recorded streamed summary finalized after region film,
        start.2.1.run start.2.2 calls = (answers, recorded, streamed) ∧
        recorded.finalize streamed 4 = (.ok summary, finalized, after) ∧
        after.content 0 = overwrite [1, 2, 3, 4, 5] 3 region ∧
        film? (after.content 0) 3 region.length = some film ∧
        film.units = [⟨[[0x65]], true⟩, ⟨[[0x41]], false⟩] := by
  intro track origin start calls
  have sound : origin.IsSound := fun _ _ => rfl
  obtain ⟨recorded, streamed, result, finalized, after, run, finalize, -, succeeds, read⟩ :=
    @recording_round_trip { tuning := {} } start.2.1 origin start.2.2 0 4 0 3 track _ sound (by decide)
      (by decide) rfl rfl calls (by decide +kernel)
  obtain ⟨summary, succeeded⟩ := succeeds.mpr (by decide)
  obtain ⟨region, film, laid, -, found, -, -, -, units, -⟩ := read summary succeeded
  rw [succeeded] at finalize
  exact ⟨rfl, _, recorded, streamed, summary, finalized, after, region, film, run, finalize, laid, found, units⟩

end VideoCapture
