import VideoCapture.Proofs.ParameterSets.Configuration
import VideoCapture.Proofs.Recording.Session
import VideoCapture.Proofs.Recording.Tuning

/-!
# Which recordings can be completed

A track is accepted if its picture fits and no parameter set is missing. To complete a recording takes more: an SPS
that reaches as far as the decoder configuration record reads it. In between lie tracks with which nothing goes wrong
until the recording is finalized and there can be no movie box (`completed_iff_reads`).
-/

namespace VideoCapture
open Recording Demux

/-- A track that is accepted has a movie box exactly if its SPS can be read, whatever the samples are. -/
lemma Movie.moov_iff_reads {track : Track} {sps : Bytes} (valid : track.validate = .ok ())
    (found : track.sets.get? .sps = some sps) (samples : List Sample) :
    (∃ moov, Movie.moov track samples = .ok moov) ↔ track.codec.reads sps = true := by
  obtain ⟨-, -, -, complete⟩ := Track.of_validate valid
  constructor
  · rintro ⟨moov, built⟩
    obtain ⟨configuration, configured, -⟩ := ParameterSets.of_bind_ok built
    cases long : track.codec.reads sps with
    | true => rfl
    | false => cases configured.symm.trans (ParameterSets.decoderConfiguration_of_short complete found long)
  · intro long
    obtain ⟨configuration, configured⟩ := ParameterSets.decoderConfiguration_of_reads complete found long
    exact ⟨_, Movie.moov_of_configured configured samples⟩

namespace Recording

/-- The boxes of a recording that has its size but no movie box. -/
def sizedBoxes (units : List AccessUnit) : List (FourCC × Bytes) :=
  [(.ofChars 'f' 't' 'y' 'p', Movie.ftyp.drop Box.headerSize),
    (.ofChars 'f' 'r' 'e' 'e', Bytes.zeros (moovRoom - Box.headerSize)), (.ofChars 'm' 'd' 'a' 't', mediaData units)]

/-- A file whose media data were sized, but which has no movie, is read as its boxes. -/
lemma boxes?_sized {units : List AccessUnit} (small : Box.headerSize + (mediaData units).length ≤ Track.maxField) :
    boxes? (sized units) = some (sizedBoxes units) := by
  have laid : sized units = concat (sizedBoxes units) := by
    simp only [sized, sizedBoxes, @free_eq moovRoom (by decide), concat_cons, concat_nil, List.append_assoc,
      List.append_nil]
    rfl
  rw [laid]
  refine boxes?_concat_of_each ?_
  have ftyp : (Movie.ftyp.drop Box.headerSize).length = 24 := rfl
  rw [Box.headerSize, Track.maxField] at small
  intro box inside
  simp only [sizedBoxes, List.mem_cons, List.not_mem_nil, or_false] at inside
  rcases inside with rfl | rfl | rfl
  · dsimp only
    omega
  · dsimp only
    rw [Bytes.length_zeros, moovRoom]
    omega
  · dsimp only
    omega

/-- Wherever it was put, the movie box is in the file. -/
lemma moovBox_in_finished (movie : Bytes) (units : List AccessUnit) : moovBox movie <:+: finished movie units := by
  have inside : ((FourCC.ofChars 'm' 'o' 'o' 'v', movie) : FourCC × Bytes) ∈ finishedBoxes movie units := by
    rw [finishedBoxes]
    split <;> simp
  obtain ⟨before, after, parted⟩ := List.append_of_mem inside
  have laid : concat (before ++ (.ofChars 'm' 'o' 'o' 'v', movie) :: after) =
      concat before ++ (moovBox movie ++ concat after) := List.flatMap_append
  refine ⟨concat before, concat after, ?_⟩
  rw [finished, parted, laid, List.append_assoc]

end Recording

/-- With a track that is accepted, a movie box can be built, and a recording that fits into its box be completed,
exactly if the SPS can be read. Otherwise the recording starts and runs as usual, but finalizing it fails and leaves
a file without a movie box. The recorder takes the MP4 file in either case, never the raw stream. -/
theorem completed_iff_reads {track : Track} (valid : track.validate = .ok ()) :
    ∃ sps, track.sets.get? .sps = some sps ∧
      (∀ samples, (∃ moov, Movie.moov track samples = .ok moov) ↔ track.codec.reads sps = true) ∧
      (∀ {origin : Disk} {id : Nat}, origin.IsSound → id < origin.contents.length →
        ∀ tuning base start stop calls, Box.headerSize + (mediaData (accepted calls)).length ≤ Track.maxField →
          let seen := Muxer.transcript tuning origin id base track start stop calls
          seen.started = .ok () ∧
          ∃ region, seen.content = FileContent.overwrite (origin.content id) base region ∧
            (track.codec.reads sps = true → (∃ summary, seen.closed = .ok summary) ∧
              ∃ moov, Movie.moov track (Sample.indexFrom (mediaOffset base) (accepted calls)) = .ok moov ∧
                moov <:+: region) ∧
            (track.codec.reads sps = false → seen.closed = .error (.spsTooShort sps.length) ∧
              (boxes? region).map (·.map Prod.fst) =
                some [.ofChars 'f' 't' 'y' 'p', .ofChars 'f' 'r' 'e' 'e', .ofChars 'm' 'd' 'a' 't'])) ∧
      ∀ (config : RecordingConfig) (host : Host) (id : Nat) (created : Disk), host.disk.IsSound →
        host.disk.IsWellFormed → host.disk.create config.path = (.ok ⟨some id, 0⟩, created) →
        (Recorder.start config host track).1.isMp4 = true := by
  obtain ⟨-, -, -, complete⟩ := Track.of_validate valid
  obtain ⟨sps, found⟩ := ParameterSets.sps_of_complete complete
  refine ⟨sps, found, Movie.moov_iff_reads valid found, ?_, ?_⟩
  · intro origin id sound present tuning base start stop calls small seen
    have seen_eq : seen = _ := Muxer.transcript_of_valid sound present valid tuning start stop calls
    refine ⟨congrArg Muxer.Transcript.started seen_eq, _, congrArg Muxer.Transcript.content seen_eq, ?_, ?_⟩
    · intro long
      obtain ⟨configuration, configured⟩ := ParameterSets.decoderConfiguration_of_reads complete found long
      have closed := congrArg Muxer.Transcript.closed seen_eq
      have built : Movie.moov track (Sample.indexFrom (mediaOffset base) (accepted calls)) =
          .ok (moovBox (moviePayload base track configuration (accepted calls))) := by
        rw [Movie.moov, configured, moovBox, moviePayload, ← Movie.moovWith_eq]
        rfl
      rw [outcome_of_configured small configured] at closed ⊢
      -- the movie box is named, so that nothing evaluates it
      generalize moviePayload base track configuration (accepted calls) = movie at built closed ⊢
      exact ⟨⟨_, closed⟩, moovBox movie, built, moovBox_in_finished movie _⟩
    · intro short
      have closed := congrArg Muxer.Transcript.closed seen_eq
      rw [outcome_of_refused small (ParameterSets.decoderConfiguration_of_short complete found short)] at closed ⊢
      refine ⟨closed, ?_⟩
      rw [boxes?_sized small]
      rfl
  · intro config host id created sound formed creation
    obtain ⟨directory, name, made⟩ := Disk.created_of_sound sound formed creation
    obtain ⟨muxer, disk, run, -⟩ :=
      Muxer.create_records creation made.sound made.present valid host.now config.tuning
    rw [Recorder.start, valid]
    dsimp only
    rw [run]
    rfl

/-- A track with an SPS of three bytes is accepted, and its recordings end with an error. -/
theorem completed_iff_reads_three_bytes :
    let track : Track := ⟨.h264, .ofH264 [0x67, 0x42, 0xC0] [0x68, 0xEE], 640, 480, 30⟩
    let origin : Disk := { contents := [.empty] }
    let seen := Muxer.transcript {} origin 0 0 track 0 2 [(1, .frame [0x65] true)]
    track.validate = .ok () ∧ (∀ samples, ¬ ∃ moov, Movie.moov track samples = .ok moov) ∧
      seen.started = .ok () ∧ seen.closed = .error (.spsTooShort 3) := by
  intro track origin seen
  obtain ⟨sps, found, built, closes, -⟩ := @completed_iff_reads track rfl
  cases found
  have sound : origin.IsSound := fun _ _ => rfl
  have present : 0 < origin.contents.length := by decide
  have no_movie : ∀ samples, ¬ ∃ moov, Movie.moov track samples = .ok moov := by
    intro samples movie
    cases (built samples).mp movie
  obtain ⟨started, region, -, -, fails⟩ := closes sound present {} 0 0 2 [(1, .frame [0x65] true)] (by decide)
  exact ⟨rfl, no_movie, started, (fails rfl).1⟩

open RecordingSession in
/-- A session has complete parameter sets when its first keyframe arrives, but an SPS that is too short. It records
into the MP4 file up to its end, which fails. The file is left without a movie box, and there is no raw stream. -/
theorem session_without_movie {codec : Codec} {repeatSets : Bool} {shape : PictureShape} {config : RecordingConfig}
    {host : Host} (valid : shape.IsValid) (other : Path.extension? config.path ≠ some codec.rawExtension)
    (sound : host.disk.IsSound) (formed : host.disk.IsWellFormed) (fresh : host.registry.IsFresh)
    {before : List (Nat × Bytes)} {key : Nat × Bytes} {rest : List (Nat × Bytes)} (keyless : Keyless codec before)
    (is_key : (AccessUnit.ofBuffer codec key.2).isKeyframe = true) {sets : ParameterSets}
    (sets_eq : (splitAll { codec, repeatSets } (before ++ [key])).sets = sets) (complete : sets.missing? codec = none)
    {sps : Bytes} (found : sets.get? .sps = some sps) (short : codec.reads sps = false) {id : Nat} {created : Disk}
    (creation : host.disk.create config.path = (.ok ⟨some id, 0⟩, created))
    (small : Box.headerSize + (mediaData (recordable codec (key :: rest))).length ≤ Track.maxField) (stop : Nat) :
    let session := (start codec repeatSets config host).run shape (before ++ key :: rest)
    let raw := Path.withExtension config.path codec.rawExtension
    session.recorder.isMp4 = true ∧
      ∃ final bytes, session.finish stop = (.error (.spsTooShort sps.length), final) ∧
        (final.disk.read config.path).1 = .ok bytes ∧
        boxes? bytes = some (sizedBoxes (recordable codec (key :: rest))) ∧
        (final.disk.read raw).1 = (host.disk.read raw).1 := by
  intro session raw
  have no_slash : '/' ∉ codec.rawExtension.toList := by cases codec <;> decide
  have no_dot : '.' ∉ codec.rawExtension.toList := by cases codec <;> decide
  obtain ⟨directory, name, made⟩ := Disk.created_of_sound sound formed creation
  obtain ⟨-, number, recorder, films⟩ :=
    start_run_films valid fresh keyless is_key sets_eq complete made.sound made.present creation rest
  have refused := ParameterSets.decoderConfiguration_of_short complete found short
  obtain ⟨final, finish, shown⟩ := (films.later stop).finish_outcome
  rw [outcome_of_refused small refused] at finish shown
  refine ⟨by rw [recorder]; rfl, final, _, (finish_eq recorder).trans finish, made.read shown, boxes?_sized small, ?_⟩
  exact made.read_withExtension sound shown no_slash no_dot other

/-- Two buffers with an SPS of three bytes. Their track is accepted and their recording starts as an MP4 file, which
ends with an error and without a movie box, and there is no raw stream. -/
theorem short_sps_lost :
    let shape : PictureShape := ⟨640, 480, 30⟩
    let sps : Bytes := [0x67, 0x42, 0xC0]
    let pps : Bytes := [0x68, 0xEE, 0x3C, 0x80]
    let buffers := [(1, NalUnit.annexB [sps, pps, [0x65, 0x88, 0x84, 0x21]]), (2, NalUnit.annexB [[0x41, 0x9A, 0x02]])]
    let session := (RecordingSession.start .h264 false { path := "a.mp4" } {}).run shape buffers
    Track.validate ⟨.h264, .ofH264 sps pps, 640, 480, 30⟩ = .ok () ∧
      (¬ ∃ moov, Movie.moov ⟨.h264, .ofH264 sps pps, 640, 480, 30⟩ [] = .ok moov) ∧
      session.recorder.isMp4 = true ∧
      ∃ final bytes, session.finish 3 = (.error (.spsTooShort 3), final) ∧
        (final.disk.read "a.mp4").1 = .ok bytes ∧
        (boxes? bytes).map (fun found => found.lookup (.ofChars 'm' 'o' 'o' 'v')) = some none ∧
        (final.disk.read "a.h264").1 = .error .notFound := by
  intro shape sps pps buffers session
  have valid : shape.IsValid := ⟨by decide, by decide, by decide⟩
  have other : Path.extension? "a.mp4" ≠ some Codec.h264.rawExtension := by decide
  have sound : ({} : Host).disk.IsSound := fun _ _ => rfl
  have fresh : ({} : Host).registry.IsFresh := fun _ inside => by cases inside
  have none_before : RecordingSession.Keyless .h264 [] := fun _ inside => by cases inside
  have raw_path : Path.withExtension "a.mp4" Codec.h264.rawExtension = "a.h264" := by decide +kernel
  have no_raw : (({} : Host).disk.read "a.h264").1 = .error .notFound := rfl
  have not_built : ¬ ∃ moov, Movie.moov ⟨.h264, .ofH264 sps pps, 640, 480, 30⟩ [] = .ok moov := by
    rintro ⟨moov, built⟩
    cases built
  obtain ⟨created, creation⟩ : ∃ created, ({} : Disk).create "a.mp4" = (.ok ⟨some 0, 0⟩, created) := ⟨_, rfl⟩
  let key : Nat × Bytes := (1, NalUnit.annexB [sps, pps, [0x65, 0x88, 0x84, 0x21]])
  have sets : (RecordingSession.splitAll { codec := .h264, repeatSets := false } ([] ++ [key])).sets =
      .ofH264 sps pps := by decide +kernel
  obtain ⟨recorder, final, bytes, finish, read, boxes, raw⟩ :=
    @session_without_movie .h264 false shape { path := "a.mp4" } {} valid other sound (Disk.isWellFormed_empty _) fresh
      [] key [(2, NalUnit.annexB [[0x41, 0x9A, 0x02]])] none_before (by decide +kernel) _ sets rfl sps rfl rfl 0 created
      creation (by decide +kernel) 3
  rw [raw_path, no_raw] at raw
  refine ⟨rfl, not_built, recorder, final, bytes, finish, read, ?_, raw⟩
  rw [boxes]
  rfl

end VideoCapture
