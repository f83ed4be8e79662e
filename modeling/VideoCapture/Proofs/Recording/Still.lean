import VideoCapture.Mp4.Still
import VideoCapture.Proofs.Mp4.Nesting
import VideoCapture.Proofs.ParameterSets.Configuration
import VideoCapture.Proofs.Recording.Faults
import VideoCapture.Proofs.Recording.Recoverable

/-!
# Stills are read back

The movie box of a still says where the sample lies, and stands in front of it. As long as 32 bits can tell the position,
the box has the same length with every position (`Movie.length_moovWith_single`), so the sample lies where the box says,
and a reader finds in the file one access unit and nothing else (`still_read_back`). The sample has the very bytes by
which a recording becomes longer when the access unit is added to it (`Recording.appends`).
-/

namespace VideoCapture
open Recording Demux

/-- The table of a single chunk has four more bytes when its offset needs them. -/
lemma SampleTable.length_chunkOffsets_single (offset count : Nat) :
    (chunkOffsets [⟨offset, count⟩]).length = 20 + if Track.maxField < offset then 4 else 0 := by
  rw [chunkOffsets, needsWideOffsets, List.any_cons, List.any_nil, Bool.or_false]
  by_cases wide : Track.maxField < offset
  · rw [decide_eq_true wide, if_pos rfl, if_pos wide]
    rfl
  · rw [decide_eq_false wide, if_neg Bool.false_ne_true, if_neg wide]
    rfl

/-- The movie box of a single sample becomes longer only if 32 bits cannot tell the position of the sample. -/
lemma Movie.length_moovWith_single (track : Track) (configuration : Bytes) (offset size : Nat) (isKeyframe : Bool) :
    (moovWith track configuration [⟨offset, size, isKeyframe⟩]).length =
      (moovWith track configuration [⟨0, size, isKeyframe⟩]).length + if Track.maxField < offset then 4 else 0 := by
  -- of the tables, only the one with the position of the chunk is another
  have chunk : ∀ position, Chunk.group [⟨position, size, isKeyframe⟩] = [⟨position, 1⟩] := fun _ => rfl
  have runs : SampleTable.stsc [⟨offset, 1⟩] = SampleTable.stsc [⟨0, 1⟩] := rfl
  have sizes : SampleTable.stsz [⟨offset, size, isKeyframe⟩] = SampleTable.stsz [⟨0, size, isKeyframe⟩] := rfl
  have sync : SampleTable.stss [⟨offset, size, isKeyframe⟩] = SampleTable.stss [⟨0, size, isKeyframe⟩] := rfl
  simp only [moovWith, trak, mdia, minf, stbl, Box.length_build, List.length_append, chunk, runs, sizes, sync,
    SampleTable.length_chunkOffsets_single, List.length_singleton, Nat.not_lt_zero, if_false]
  omega

namespace Still

variable (track : Track) (configuration : Bytes) (unit : AccessUnit)

/-- The only sample of a still, at a given position. -/
def sample (offset : Nat) : Sample :=
  ⟨offset, unit.toSample.length, true⟩

/-- The position of the sample, by the length of a movie box that does not know it yet. -/
def offset : Nat :=
  Movie.ftyp.length + (Movie.moovWith track configuration [sample unit 0]).length + Box.headerSize

/-- The payload of the movie box. -/
def moviePayload : Bytes :=
  concat (Movie.moovBoxes track configuration [sample unit (offset track configuration unit)])

/-- What stands in front of the sample. -/
def front : Bytes :=
  Movie.ftyp ++ moovBox (moviePayload track configuration unit) ++
    Box.mdatHeader (Box.headerSize + unit.toSample.length)

/-- The boxes of a still. -/
def boxes : List (FourCC × Bytes) :=
  [(.ofChars 'f' 't' 'y' 'p', Movie.ftyp.drop Box.headerSize),
    (.ofChars 'm' 'o' 'o' 'v', moviePayload track configuration unit), (.ofChars 'm' 'd' 'a' 't', unit.toSample)]

/-- What a reader makes of the movie box. -/
def movie : Demux.Movie where
  codec := track.codec
  width := track.width
  height := track.height
  configuration
  timescale := track.timescale
  durations := [Track.sampleTicks]
  samples := [sample unit (front track configuration unit).length]

/-- The boxes of a still are what stands in front of its sample, and the sample. -/
lemma concat_boxes : concat (boxes track configuration unit) = front track configuration unit ++ unit.toSample := by
  simp only [boxes, concat_cons, concat_nil, List.append_nil, front, List.append_assoc]
  rfl

variable {track configuration unit}

/-- A still of a valid track is what stands in front of its sample, and the sample. -/
lemma file_eq (valid : track.validate = .ok ())
    (configured : track.sets.decoderConfiguration track.codec = .ok configuration) :
    Still.file track unit = .ok (front track configuration unit ++ unit.toSample) := by
  rw [Still.file, valid]
  dsimp only [bind, Except.bind]
  rw [Movie.moov_of_configured configured]
  dsimp only
  rw [Movie.moov_of_configured configured, front, moovBox, moviePayload, ← Movie.moovWith_eq]
  rfl

/-- The sample lies where the movie box says. -/
lemma length_front (small : (front track configuration unit).length < 0x100000000) :
    (front track configuration unit).length = offset track configuration unit := by
  have moov : (moovBox (moviePayload track configuration unit)).length =
      (Movie.moovWith track configuration [sample unit 0]).length +
        if Track.maxField < offset track configuration unit then 4 else 0 := by
    rw [moovBox, moviePayload, ← Movie.moovWith_eq]
    exact Movie.length_moovWith_single ..
  have parted : (front track configuration unit).length =
      Movie.ftyp.length + (moovBox (moviePayload track configuration unit)).length + Box.headerSize := by
    rw [front, List.length_append, List.length_append, Box.length_mdatHeader]
  have narrow : ¬ Track.maxField < offset track configuration unit := by
    -- with a wider field the front would only be longer
    rw [parted, moov] at small
    rw [offset, Track.maxField] at small ⊢
    omega
  rw [parted, moov, if_neg narrow, offset, Nat.add_zero]

/-- What stands in front of the sample of a still has room for its movie box. -/
lemma length_moviePayload_le :
    (moviePayload track configuration unit).length + 8 ≤ (front track configuration unit).length := by
  rw [front, moovBox, List.length_append, List.length_append, Box.length_build, Box.headerSize]
  omega

/-- A still that a size field can tell is tiled by its boxes, down to those inside the movie box. -/
lemma tiled (small : (front track configuration unit ++ unit.toSample).length < 0x100000000) :
    Tiled (front track configuration unit ++ unit.toSample) := by
  have moov := @length_moviePayload_le track configuration unit
  have total := small
  rw [List.length_append] at total
  rw [← concat_boxes] at small ⊢
  refine tiled_concat small ?_
  simp only [boxes, List.forall_mem_cons]
  refine ⟨fills_of_leaf rfl _, ?_, fills_of_leaf rfl _, List.forall_mem_nil _⟩
  exact fills_of_boxes rfl (Movie.tiled_moov (by rw [← moviePayload]; omega))

/-- The movie box reads as the track with one sample, which lies behind the front. -/
lemma movie?_moviePayload (valid : track.validate = .ok ())
    (small : (front track configuration unit).length + unit.toSample.length < 0x100000000) :
    movie? (moviePayload track configuration unit) = some (movie track configuration unit) := by
  obtain ⟨⟨-, width⟩, ⟨-, height⟩, -, -⟩ := Track.of_validate valid
  have place := @length_front track configuration unit (by omega)
  have moov := @length_moviePayload_le track configuration unit
  rw [movie, place]
  apply Movie.movie?_moovWith
  · rw [Movie.moovWith_eq, ← moviePayload, Box.length_build, Box.headerSize]
    omega
  · exact width
  · exact height
  · intro other among
    cases List.mem_singleton.mp among
    dsimp only [sample]
    omega
  · intro other among
    cases List.mem_singleton.mp among
    rw [← place]
    dsimp only [sample]
    omega

/-- The sample is read like that of a recording of one access unit, which refreshes the decoder. -/
lemma mapM_sample (small : unit.toSample.length < 0x100000000) (before : Bytes) :
    [sample unit before.length].mapM (unit? (before ++ unit.toSample)) = some [⟨unit.nals, true⟩] := by
  have single : mediaData [⟨unit.nals, true⟩] = unit.toSample := List.append_nil _
  have size : AccessUnit.sampleSize ⟨unit.nals, true⟩ = unit.toSample.length :=
    (AccessUnit.length_toSample ⟨unit.nals, true⟩).symm
  have held := @mapM_unit? before [] [⟨unit.nals, true⟩] (by rwa [single])
  rwa [single, List.append_nil, Sample.indexFrom, Sample.indexFrom, size, Nat.mod_eq_of_lt small] at held

/-- A reader finds one access unit in a still. -/
lemma film?_eq (valid : track.validate = .ok ())
    (small : (front track configuration unit ++ unit.toSample).length < 0x100000000) :
    film? (front track configuration unit ++ unit.toSample) 0
        (front track configuration unit ++ unit.toSample).length =
      some {
        boxes := boxes track configuration unit
        movie := movie track configuration unit
        units := [⟨unit.nals, true⟩] } := by
  have total := small
  rw [List.length_append] at total
  have whole : boxes? (front track configuration unit ++ unit.toSample) = some (boxes track configuration unit) := by
    rw [← concat_boxes] at small ⊢
    exact boxes?_concat small
  have movie_box : (boxes track configuration unit).lookup (.ofChars 'm' 'o' 'o' 'v') =
      some (moviePayload track configuration unit) := rfl
  have samples : (movie track configuration unit).samples =
      [sample unit (front track configuration unit).length] := rfl
  simp only [film?, List.drop_zero, List.take_length, whole, movie_box, movie?_moviePayload valid total, samples,
    @mapM_sample unit (by omega), Option.bind_eq_bind, Option.bind_some, Option.pure_def]

end Still

/-- What a recording in progress has been given, on the disk and in memory. -/
def Streaming.soFar (s : Streaming) (id : Nat) (disk : Disk) : Bytes :=
  s.onDisk id disk ++ s.buffer.pending

/-- A recording that survives holds its opening and its stream, on the disk and in memory. -/
lemma Muxer.Survives.soFar {origin disk : Disk} {id base : Nat} {track : Track} {muxer : Muxer} {stream : Bytes}
    {units : List AccessUnit} (survives : muxer.Survives origin id base track disk stream units) :
    ∃ s, muxer.phase = .streaming s ∧ s.soFar id disk = opening.flatten ++ stream := by
  obtain ⟨s, received, phase, indexes, carries⟩ := survives
  -- on the mended disk the files are the same
  have onDisk : s.onDisk id disk.mended = opening.flatten ++ received :=
    Streaming.onDisk_of_received indexes.base_eq carries.reaches
  have same : s.onDisk id disk = s.onDisk id disk.mended := rfl
  exact ⟨s, phase, by rw [Streaming.soFar, same, onDisk, List.append_assoc, carries.whole]⟩

/-- What a call leaves in the stream is some first part of its sample, and all of it unless the file fails. -/
lemma Leaves.part {unit? : Option AccessUnit} {answer : Except CaptureError Unit} {part : Bytes}
    {entered : List AccessUnit} (leaves : Leaves unit? answer part entered) :
    part <+: unit?.elim [] AccessUnit.toSample ∧
      ((∀ error, answer ≠ .error (.file error)) → part = unit?.elim [] AccessUnit.toSample) := by
  cases leaves with
  | nothing => exact ⟨List.prefix_refl _, fun _ => rfl⟩
  | taken => exact ⟨List.prefix_refl _, fun _ => rfl⟩
  | late => exact ⟨List.prefix_refl _, fun _ => rfl⟩
  | torn inside => exact ⟨inside, fun unfailing => absurd rfl (unfailing _)⟩

namespace Recording

/-- Adding the access unit makes every recording longer by these bytes, wherever it was started and however its muxer was
called. A file that fails can leave a first part of them, and on a sound disk no file fails. -/
def Appends (unit : AccessUnit) (bytes : Bytes) : Prop :=
  ∀ (muxer started recorded added : Muxer) (origin disk midway after : Disk) (track : Track) (now time id base : Nat)
    (calls : List (Nat × SampleCall)) (answers : List (Except CaptureError Unit)) (answer : Except CaptureError Unit),
    id < origin.contents.length →
    muxer.start origin now ⟨some id, base⟩ track = (.ok (), started, disk) →
    started.run disk calls = (answers, recorded, midway) →
    recorded.addAccessUnit midway time unit = (answer, added, after) →
    ∃ s s' part, recorded.phase = .streaming s ∧ added.phase = .streaming s' ∧
      s'.soFar id after = s.soFar id midway ++ part ∧ part <+: bytes ∧
      ((∀ error, answer ≠ .error (.file error)) → part = bytes) ∧
      (origin.IsSound → answer = if bytes = [] then .error .emptyFrame else .ok ())

/-- The sample of some NAL units has all that are not empty, in their order. -/
lemma elim_ofNals? (nals : List Bytes) (isKeyframe : Bool) :
    (AccessUnit.ofNals? nals isKeyframe).elim [] AccessUnit.toSample =
      lengthPrefixed (nals.filter fun nal => !nal.isEmpty) := by
  unfold AccessUnit.ofNals?
  dsimp only
  split
  · rename_i no_nal
    rw [List.isEmpty_iff.mp no_nal]
    rfl
  · rfl

/-- Only from no NAL units nothing comes. -/
lemma lengthPrefixed_eq_nil_iff (nals : List Bytes) : lengthPrefixed nals = [] ↔ nals = [] := by
  cases nals with
  | nil => exact ⟨fun _ => rfl, fun _ => rfl⟩
  | cons nal rest => exact ⟨nofun, nofun⟩

/-- An access unit is refused just when all of its NAL units are empty. -/
lemma answer_accessUnit (unit : AccessUnit) : (SampleCall.accessUnit unit).answer =
    if lengthPrefixed (unit.nals.filter fun nal => !nal.isEmpty) = [] then .error .emptyFrame else .ok () := by
  simp only [SampleCall.answer, SampleCall.unit?, AccessUnit.ofNals?, lengthPrefixed_eq_nil_iff, List.isEmpty_iff]
  split <;> rfl

/-- A recording becomes longer by the NAL units that are not empty. -/
lemma appends (unit : AccessUnit) : Appends unit (lengthPrefixed (unit.nals.filter fun nal => !nal.isEmpty)) := by
  intro muxer started recorded added origin disk midway after track now time id base calls answers answer present start
    run add
  obtain ⟨survives, -⟩ := Muxer.start_survives present start
  obtain ⟨stream, units, -, survives₁⟩ := survives.run run
  have applied : (SampleCall.accessUnit unit).apply recorded midway time = (answer, added, after) := add
  obtain ⟨part, entered, leaves, survives₂⟩ := survives₁.apply applied
  obtain ⟨s, phase, before⟩ := survives₁.soFar
  obtain ⟨s', phase', behind⟩ := survives₂.soFar
  obtain ⟨inside, unfailing⟩ := leaves.part
  rw [SampleCall.unit?, elim_ofNals?] at inside unfailing
  refine ⟨s, s', part, phase, phase', ?_, inside, unfailing, ?_⟩
  · rw [behind, before]
    simp only [List.append_assoc]
  · intro sound
    obtain ⟨records, -, -⟩ := Muxer.start_records sound present start
    obtain ⟨_, _, _, again, records₁, -, -⟩ := records.run calls
    cases again.symm.trans run
    obtain ⟨_, _, _, answered, -⟩ := records₁.apply time (.accessUnit unit)
    cases answered.symm.trans applied
    exact answer_accessUnit unit

end Recording

/-- Every access unit, even without NAL units, makes a still of a valid track whose SPS can be read. As long as 32 bits
can tell its size, the file is tiled by three boxes. The movie box has one sample, which refreshes the decoder and is
exactly the media data, and these are the NAL units of the access unit behind their lengths. Without empty NAL units
they are the bytes by which every recording becomes longer when the access unit is added to it. -/
theorem still_read_back {track : Track} {sps : Bytes} (valid : track.validate = .ok ())
    (found : track.sets.get? .sps = some sps) (usable : track.codec.reads sps = true) (unit : AccessUnit) :
    (∃ file, Still.file track unit = .ok file ∧
      (file.length < 0x100000000 → Tiled file ∧
        ∃ front film configuration,
          film? file 0 file.length = some film ∧
          concat film.boxes = file ∧
          film.layout = [.ofChars 'f' 't' 'y' 'p', .ofChars 'm' 'o' 'o' 'v', .ofChars 'm' 'd' 'a' 't'] ∧
          film.boxes.lookup (.ofChars 'm' 'd' 'a' 't') = some unit.toSample ∧
          file = front ++ unit.toSample ∧
          track.sets.decoderConfiguration track.codec = .ok configuration ∧
          film.movie = {
            codec := track.codec
            width := track.width
            height := track.height
            configuration
            timescale := track.timescale
            durations := [1000]
            samples := [⟨front.length, unit.toSample.length, true⟩] } ∧
          nals? unit.toSample = some unit.nals ∧
          film.units = [⟨unit.nals, true⟩])) ∧
    ([] ∉ unit.nals → Appends unit unit.toSample) := by
  obtain ⟨-, -, -, complete⟩ := Track.of_validate valid
  obtain ⟨configuration, configured⟩ := ParameterSets.decoderConfiguration_of_reads complete found usable
  constructor
  · refine ⟨_, Still.file_eq valid configured, fun small => ⟨Still.tiled small, ?_⟩⟩
    have short : ∀ nal ∈ unit.nals, nal.length < 0x100000000 := by
      intro nal inside
      have part := length_nal_le inside
      rw [List.length_append, AccessUnit.length_toSample] at small
      omega
    exact ⟨Still.front track configuration unit, _, configuration, Still.film?_eq valid small,
      Still.concat_boxes track configuration unit, rfl, rfl, rfl, configured, rfl, nals?_lengthPrefixed short, rfl⟩
  · intro no_empty
    have appends := appends unit
    rwa [AccessUnit.filter_of_no_empty no_empty] at appends

/-- An empty NAL unit is in the still as well, and two others lengthen a recording that began inside of a file. -/
theorem still_read_back_empty_nal :
    let track : Track := ⟨.h264, .ofH264 [0x67, 0x42, 0x00, 0x1E] [0x68, 0x01], 16, 16, 30⟩
    let unit : AccessUnit := ⟨[[], [0x65, 0x88]], false⟩
    let other : AccessUnit := ⟨[[0x65, 0x88], [0x41]], false⟩
    let origin : Disk := { contents := [⟨.ofBytes [1, 2, 3, 4, 5], []⟩] }
    let start := ({ tuning := {} } : Muxer).start origin 0 ⟨some 0, 3⟩ track
    let before := start.2.1.run start.2.2 [(1, .frame [0x67] true)]
    let add := before.2.1.addAccessUnit before.2.2 2 other
    track.validate = .ok () ∧ track.sets.get? .sps = some [0x67, 0x42, 0x00, 0x1E] ∧
      track.codec.reads [0x67, 0x42, 0x00, 0x1E] = true ∧
      (∃ file film, Still.file track unit = .ok file ∧ file.length < 0x100000000 ∧
        film? file 0 file.length = some film ∧ film.units = [⟨[[], [0x65, 0x88]], true⟩]) ∧
      [] ∉ other.nals ∧ start.1 = .ok () ∧ add.1 = .ok () ∧
      ∃ s s', before.2.1.phase = .streaming s ∧ add.2.1.phase = .streaming s' ∧
        s'.soFar 0 add.2.2 = s.soFar 0 before.2.2 ++ [0, 0, 0, 2, 0x65, 0x88, 0, 0, 0, 1, 0x41] := by
  intro track unit other origin start before add
  have valid : track.validate = .ok () := rfl
  have found : track.sets.get? .sps = some [0x67, 0x42, 0x00, 0x1E] := rfl
  have usable : track.codec.reads [0x67, 0x42, 0x00, 0x1E] = true := rfl
  have sound : origin.IsSound := fun _ _ => rfl
  have no_empty : [] ∉ other.nals := by decide
  obtain ⟨⟨file, built, read⟩, -⟩ := still_read_back valid found usable unit
  have small : file.length < 0x100000000 := by
    cases built
    decide +kernel
  obtain ⟨-, _, film, _, found_film, -, -, -, -, -, -, -, units⟩ := read small
  obtain ⟨-, appends⟩ := still_read_back valid found usable other
  obtain ⟨s, s', part, phase, phase', longer, -, unfailing, answered⟩ :=
    appends no_empty { tuning := {} } start.2.1 before.2.1 add.2.1 origin start.2.2 before.2.2 add.2.2 track 0 2 0 3 _ _ _
      (by decide) rfl rfl rfl
  have accepted : add.1 = .ok () := answered sound
  have whole : part = other.toSample := by
    apply unfailing
    intro error failed
    cases accepted.symm.trans failed
  subst whole
  exact ⟨valid, found, usable, ⟨file, film, built, small, found_film, units⟩, no_empty, rfl, accepted, s, s', phase,
    phase', longer⟩

end VideoCapture
