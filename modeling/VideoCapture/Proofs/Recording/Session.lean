import VideoCapture.Proofs.Disk.WellFormed
import VideoCapture.Proofs.ParameterSets.Record
import VideoCapture.Proofs.Recording.Outcome
import VideoCapture.Proofs.Recording.RawStream
import VideoCapture.Proofs.Recording.Registry
import VideoCapture.Proofs.Splitter
import VideoCapture.Recording.Recorder

/-!
# Recorded sessions

Capture buffers that go through one splitter into one recorder, from the first of them to the end of the
recording (`session_recorded`). What becomes of them is decided when the first keyframe arrives: the access
units from there on are an MP4 file if the parameter sets are complete by then, and otherwise the buffers
from there on are a raw stream.
-/

namespace VideoCapture
open Recording Demux

/-- A picture that a track can have, and a frame rate. -/
structure PictureShape.IsValid (shape : PictureShape) : Prop where
  width : 0 < shape.width ∧ shape.width < 0x10000
  height : 0 < shape.height ∧ shape.height < 0x10000
  fps : 0 < shape.fps

/-- A track with a valid picture is refused exactly if a parameter set is missing. -/
lemma Track.validate_of_shape {shape : PictureShape} (valid : shape.IsValid) (codec : Codec) (sets : ParameterSets) :
    Track.validate ⟨codec, sets, shape.width, shape.height, shape.fps⟩ =
      ((sets.missing? codec).map fun kind => Except.error (.missingParameterSet kind)).getD (.ok ()) := by
  obtain ⟨⟨some_width, width⟩, ⟨some_height, height⟩, some_fps⟩ := valid
  unfold validate
  dsimp only
  rw [if_neg (by omega), if_neg (by omega), if_neg (by omega)]
  cases sets.missing? codec <;> rfl

/-- A splitter and the recorder that it feeds, on their host. -/
structure RecordingSession where
  splitter : Splitter
  recorder : Recorder
  host : Host

namespace RecordingSession

/-- Takes a capture buffer, at the time that stands in front of it. -/
def take (shape : PictureShape) (session : RecordingSession) (buffer : Nat × Bytes) : RecordingSession :=
  let (frame, splitter) := session.splitter.split buffer.2
  let (recorder, host) := session.recorder.recordFrame { session.host with now := buffer.1 }
    splitter.codec splitter.sets shape frame buffer.2
  { splitter, recorder, host }

/-- Takes capture buffers one after the other. -/
def run (shape : PictureShape) (session : RecordingSession) (buffers : List (Nat × Bytes)) : RecordingSession :=
  buffers.foldl (take shape) session

/-- Ends the recording. -/
def finish (session : RecordingSession) (now : Nat) : Except CaptureError Unit × Host :=
  session.recorder.finish { session.host with now }

section

variable {codec : Codec} {shape : PictureShape} {session : RecordingSession} {config : RecordingConfig}

/-- The splitter behind capture buffers. -/
def splitAll (splitter : Splitter) (buffers : List (Nat × Bytes)) : Splitter :=
  buffers.foldl (fun splitter buffer => (splitter.split buffer.2).2) splitter

/-- The splitter of a session takes each buffer, whatever its recorder does. -/
lemma take_splitter (shape : PictureShape) (session : RecordingSession) (buffer : Nat × Bytes) :
    (session.take shape buffer).splitter = (session.splitter.split buffer.2).2 := rfl

/-- The splitter of a session has taken all buffers. -/
lemma run_splitter (shape : PictureShape) (session : RecordingSession) (buffers : List (Nat × Bytes)) :
    (session.run shape buffers).splitter = splitAll session.splitter buffers := by
  induction buffers generalizing session with
  | nil => rfl
  | cons buffer rest ih => exact ih (session.take shape buffer)

/-- Buffers can be taken in two runs. -/
lemma run_append (shape : PictureShape) (session : RecordingSession) (one two : List (Nat × Bytes)) :
    session.run shape (one ++ two) = (session.run shape one).run shape two :=
  List.foldl_append

/-- Taking buffers changes no codec. -/
@[simp] lemma splitAll_codec (splitter : Splitter) (buffers : List (Nat × Bytes)) :
    (splitAll splitter buffers).codec = splitter.codec := by
  induction buffers generalizing splitter with
  | nil => rfl
  | cons buffer rest ih => exact (ih _).trans (splitter.split_codec buffer.2)

/-- Nothing was recorded so far, and nothing has changed on the host but the time. -/
structure Waits (session : RecordingSession) (config : RecordingConfig) (host : Host) : Prop where
  recorder : session.recorder = .pending config
  disk : session.host.disk = host.disk
  registry : session.host.registry = host.registry

/-- A session waits on when a buffer has no keyframe. -/
lemma Waits.take {host : Host} (waits : session.Waits config host) (shape : PictureShape) (buffer : Nat × Bytes)
    (no_key : (AccessUnit.ofBuffer session.splitter.codec buffer.2).isKeyframe = false) :
    (session.take shape buffer).Waits config host := by
  obtain ⟨pending, disk, registry⟩ := waits
  have same : (session.take shape buffer).recorder = session.recorder ∧
      (session.take shape buffer).host = { session.host with now := buffer.1 } := by
    unfold RecordingSession.take
    rw [pending]
    dsimp only [Recorder.recordFrame]
    rw [Splitter.split_accessUnit, no_key]
    exact ⟨rfl, rfl⟩
  refine ⟨same.1.trans pending, ?_, ?_⟩
  · rw [same.2]
    exact disk
  · rw [same.2]
    exact registry

/-- Buffers without keyframes are not recorded. -/
lemma Waits.run {host : Host} (waits : session.Waits config host) (shape : PictureShape)
    {buffers : List (Nat × Bytes)} (no_key : ∀ buffer ∈ buffers,
      (AccessUnit.ofBuffer session.splitter.codec buffer.2).isKeyframe = false) :
    (session.run shape buffers).Waits config host := by
  induction buffers generalizing session with
  | nil => exact waits
  | cons buffer rest ih =>
    have next := waits.take shape buffer (no_key buffer List.mem_cons_self)
    refine ih next ?_
    intro other inside
    rw [take_splitter, Splitter.split_codec]
    exact no_key other (List.mem_cons_of_mem _ inside)

end

/-- A host on which the muxer with number `number` is held once and streams a recording of the given access
units. -/
def Films (origin : Disk) (id : Nat) (track : Track) (number : Nat) (host : Host) (units : List AccessUnit) : Prop :=
  ∃ muxer received, host.registry.find? number = some ⟨number, muxer, 1⟩ ∧
    muxer.Records origin id 0 track host.disk received units

section

variable {origin : Disk} {id number : Nat} {track : Track} {host : Host} {units : List AccessUnit}

/-- A recording with a valid track starts as an MP4 file without samples. -/
lemma start_films {config : RecordingConfig} (fresh : host.registry.IsFresh) (valid : track.validate = .ok ())
    (created : host.disk.create config.path = (.ok ⟨some id, 0⟩, origin)) (sound : origin.IsSound)
    (present : id < origin.contents.length) :
    ∃ host', Recorder.start config host track = (.mp4 host.registry.nextId, host') ∧
      Films origin id track host.registry.nextId host' [] := by
  obtain ⟨muxer, disk, run, records, -⟩ := Muxer.create_records created sound present valid host.now config.tuning
  refine ⟨{ host with disk, registry := (host.registry.register muxer).2 }, ?_, muxer, [], ?_, records⟩
  · unfold Recorder.start
    rw [valid]
    dsimp only
    rw [run]
    rfl
  · exact Registry.find?_register fresh muxer

/-- An access unit that is not empty is added to the recording. -/
lemma Films.record (films : Films origin id track number host units) {unit : AccessUnit}
    (recorded : AccessUnit.ofNals? unit.nals unit.isKeyframe = if unit.isEmpty then none else some unit) :
    ∃ host', Recorder.recordMp4 number host unit = (.mp4 number, host') ∧
      Films origin id track number host' (units ++ [unit].filter fun unit => !unit.isEmpty) := by
  unfold Recorder.recordMp4
  split
  · rename_i empty
    refine ⟨host, rfl, ?_⟩
    rw [List.filter_cons_of_neg (by simp [empty]), List.filter_nil, List.append_nil]
    exact films
  · rename_i not_empty
    obtain ⟨muxer, received, found, records⟩ := films
    rw [if_neg not_empty] at recorded
    obtain ⟨muxer', disk', received', run, records', -, -⟩ := records.apply host.now (.accessUnit unit)
    -- nothing is dropped on the way, as the access unit has no empty NAL units
    have brought : (SampleCall.accessUnit unit).unit? = some unit := recorded
    rw [brought] at records'
    rw [SampleCall.answer, brought] at run
    have added : muxer.addAccessUnit host.disk host.now unit = (.ok (), muxer', disk') := run
    refine ⟨{ host with disk := disk', registry := host.registry.setMuxer number muxer' }, ?_, muxer', received',
      Registry.find?_setMuxer found muxer', ?_⟩
    · rw [Host.withMuxer, Registry.muxer?_of_find? found]
      dsimp only
      rw [added]
    · rw [List.filter_cons_of_pos (by simpa using not_empty), List.filter_nil]
      exact records'

/-- A later time changes nothing. -/
lemma Films.later (films : Films origin id track number host units) (now : Nat) :
    Films origin id track number { host with now } units :=
  films

/-- The muxer is finalized, and nobody holds it any more. -/
lemma Films.finish_outcome (films : Films origin id track number host units) :
    ∃ host', (Recorder.mp4 number).finish host = ((outcome 0 track units).1.map fun _ => (), host') ∧
      Disk.Shows origin id 0 (outcome 0 track units).2 host'.disk := by
  obtain ⟨muxer, received, found, records⟩ := films
  obtain ⟨disk, run, shown⟩ := records.finalize_outcome host.now
  have streaming : muxer.isStreaming = true := by
    obtain ⟨s, phase, -⟩ := records
    rw [Muxer.isStreaming, Muxer.streaming?, phase, Option.isSome_some]
  generalize outcome 0 track units = came at run shown ⊢
  obtain ⟨result, bytes⟩ := came
  generalize finalized_eq : ({ muxer with phase := .finalized } : Muxer) = finalized at run
  have finalize : host.withMuxer number (fun muxer disk now => muxer.finalize disk now) =
      (result, { host with disk, registry := host.registry.setMuxer number finalized }) := by
    rw [Host.withMuxer, Registry.muxer?_of_find? found]
    dsimp only
    rw [run]
  -- a muxer that is finalized has nothing left to do when it is dropped
  have released : ({ host with disk, registry := host.registry.setMuxer number finalized } : Host).release number =
      { host with disk, registry := (host.registry.setMuxer number finalized).remove number } := by
    have dropped : finalized.drop disk host.now = disk := by rw [← finalized_eq, Muxer.drop, Muxer.finalize]
    rw [Host.release]
    dsimp only
    rw [Registry.release_last (Registry.find?_setMuxer found finalized) (Nat.le_refl 1)]
    dsimp only
    rw [dropped]
  refine ⟨{ host with disk, registry := (host.registry.setMuxer number finalized).remove number }, ?_, shown⟩
  rw [Recorder.finish, Registry.muxer?_of_find? found]
  dsimp only
  rw [streaming, if_pos rfl, finalize, ← released]
  cases result <;> rfl

/-- With a decoder configuration, the file that is left is finished. -/
lemma Films.finish (films : Films origin id track number host units) {configuration : Bytes}
    (configured : track.sets.decoderConfiguration track.codec = .ok configuration)
    (small : Box.headerSize + (mediaData units).length ≤ Track.maxField) :
    ∃ host', (Recorder.mp4 number).finish host = (.ok (), host') ∧
      Disk.Shows origin id 0 (finished (moviePayload 0 track configuration units) units) host'.disk := by
  obtain ⟨host', run, shown⟩ := films.finish_outcome
  have came := @outcome_of_configured 0 track units small configuration configured
  -- the movie box is named, so that nothing evaluates it
  generalize moviePayload 0 track configuration units = movie at came ⊢
  rw [came] at run shown
  exact ⟨host', run, shown⟩

/-- The access units of capture buffers that are not empty. -/
def recordable (codec : Codec) (buffers : List (Nat × Bytes)) : List AccessUnit :=
  (buffers.map fun buffer => AccessUnit.ofBuffer codec buffer.2).filter fun unit => !unit.isEmpty

/-- The recordable units of some buffers are that of the first one, unless it is empty, and those of the others. -/
lemma recordable_cons (codec : Codec) (buffer : Nat × Bytes) (rest : List (Nat × Bytes)) :
    recordable codec (buffer :: rest) =
      ([AccessUnit.ofBuffer codec buffer.2].filter fun unit => !unit.isEmpty) ++ recordable codec rest := by
  rw [recordable, List.map_cons, ← List.singleton_append, List.filter_append, ← recordable]

/-- A buffer that comes after the start of the MP4 file adds its access unit to it. -/
lemma Films.take {session : RecordingSession} (shape : PictureShape) (recorder : session.recorder = .mp4 number)
    (films : Films origin id track number session.host units) (buffer : Nat × Bytes) :
    (session.take shape buffer).recorder = .mp4 number ∧
      Films origin id track number (session.take shape buffer).host
        (units ++ [AccessUnit.ofBuffer session.splitter.codec buffer.2].filter fun unit => !unit.isEmpty) := by
  obtain ⟨host', run, films'⟩ := (films.later buffer.1).record
    (AccessUnit.ofNals?_ofBuffer session.splitter.codec buffer.2
      (AccessUnit.ofBuffer session.splitter.codec buffer.2).isKeyframe)
  have taken : session.take shape buffer =
      { splitter := (session.splitter.split buffer.2).2, recorder := .mp4 number, host := host' } := by
    unfold RecordingSession.take
    rw [recorder]
    dsimp only [Recorder.recordFrame, Recorder.append]
    rw [Splitter.split_accessUnit, run]
  rw [taken]
  exact ⟨rfl, films'⟩

/-- A session that films goes on filming all recordable units of what it takes. -/
lemma Films.run {session : RecordingSession} (shape : PictureShape) (recorder : session.recorder = .mp4 number)
    (films : Films origin id track number session.host units) (buffers : List (Nat × Bytes)) :
    (session.run shape buffers).recorder = .mp4 number ∧
      Films origin id track number (session.run shape buffers).host
        (units ++ recordable session.splitter.codec buffers) := by
  induction buffers generalizing session units with
  | nil => exact ⟨recorder, (List.append_nil units).symm ▸ films⟩
  | cons buffer rest ih =>
    obtain ⟨recorder', films'⟩ := films.take shape recorder buffer
    have next := ih recorder' films'
    rw [take_splitter, Splitter.split_codec, List.append_assoc, ← recordable_cons] at next
    exact next

end

/-- A recorder whose raw stream has taken the given bytes. -/
def Streams (origin : Disk) (id : Nat) (recorder : Recorder) (disk : Disk) (content : Bytes) : Prop :=
  ∃ stream, recorder = .raw stream ∧ stream.Carries origin id disk content

section

variable {origin : Disk} {id : Nat} {host : Host} {content : Bytes}

/-- A recording with a track that is refused starts as an empty raw stream. -/
lemma start_streams {config : RecordingConfig} {track : Track} {error : CaptureError}
    (refused : track.validate = .error error) (sound : origin.IsSound) (present : id < origin.contents.length)
    (created : host.disk.create (Path.withExtension config.path track.codec.rawExtension) =
      (.ok ⟨some id, 0⟩, origin)) :
    ∃ recorder host', Recorder.start config host track = (recorder, host') ∧
      Streams origin id recorder host'.disk [] := by
  refine ⟨.raw { file := ⟨some id, 0⟩ }, { host with disk := origin }, ?_, _, rfl,
    RawStream.carries_nil sound present⟩
  rw [Recorder.start, refused]
  dsimp only
  rw [Recorder.openRaw, created]

/-- A buffer is appended to the stream as it is. -/
lemma Streams.append {recorder : Recorder} (streams : Streams origin id recorder host.disk content)
    (frame : SplitFrame) (buffer : Bytes) :
    ∃ recorder' host', recorder.append host frame buffer = (recorder', host') ∧
      Streams origin id recorder' host'.disk (content ++ buffer) := by
  obtain ⟨stream, rfl, carries⟩ := streams
  obtain ⟨stream', disk', run, carries'⟩ := carries.write buffer
  refine ⟨.raw stream', { host with disk := disk' }, ?_, stream', rfl, carries'⟩
  rw [Recorder.append, Recorder.recordRaw, run]

/-- A session that streams puts each buffer behind those before it. -/
lemma Streams.take {session : RecordingSession} (shape : PictureShape)
    (streams : Streams origin id session.recorder session.host.disk content) (buffer : Nat × Bytes) :
    Streams origin id (session.take shape buffer).recorder (session.take shape buffer).host.disk
      (content ++ buffer.2) := by
  have later : Streams origin id session.recorder { session.host with now := buffer.1 }.disk content := streams
  obtain ⟨recorder', host', run, streams'⟩ := later.append (session.splitter.split buffer.2).1 buffer.2
  obtain ⟨stream, recorder, -⟩ := streams
  have taken : session.take shape buffer =
      { splitter := (session.splitter.split buffer.2).2, recorder := recorder', host := host' } := by
    unfold RecordingSession.take
    rw [recorder] at run ⊢
    dsimp only [Recorder.recordFrame]
    rw [run]
  rw [taken]
  exact streams'

/-- A session that streams puts all buffers behind one another. -/
lemma Streams.run {session : RecordingSession} (shape : PictureShape)
    (streams : Streams origin id session.recorder session.host.disk content) (buffers : List (Nat × Bytes)) :
    Streams origin id (session.run shape buffers).recorder (session.run shape buffers).host.disk
      (content ++ buffers.flatMap Prod.snd) := by
  induction buffers generalizing session content with
  | nil =>
    rw [List.flatMap_nil, List.append_nil]
    exact streams
  | cons buffer rest ih =>
    rw [List.flatMap_cons, ← List.append_assoc]
    exact ih (streams.take shape buffer)

/-- In the end everything is in the file. -/
lemma Streams.finish {recorder : Recorder} (streams : Streams origin id recorder host.disk content) :
    ∃ host', recorder.finish host = (.ok (), host') ∧ Disk.Shows origin id 0 content host'.disk := by
  obtain ⟨stream, rfl, carries⟩ := streams
  obtain ⟨stream', disk', run, shown⟩ := carries.flush_shows
  refine ⟨{ host with disk := disk' }, ?_, shown⟩
  rw [Recorder.finish, run]

end

section

variable {codec : Codec} {shape : PictureShape} {session : RecordingSession} {config : RecordingConfig} {host : Host}

/-- The first keyframe starts the recording, and is the first to be recorded. -/
lemma Waits.take_key (waits : session.Waits config host) {buffer : Nat × Bytes}
    (key : (AccessUnit.ofBuffer session.splitter.codec buffer.2).isKeyframe = true) {recorder recorder' : Recorder}
    {started after : Host}
    (start : Recorder.start config { session.host with now := buffer.1 } ⟨session.splitter.codec,
      (session.splitter.split buffer.2).2.sets, shape.width, shape.height, shape.fps⟩ = (recorder, started))
    (append : recorder.append started (session.splitter.split buffer.2).1 buffer.2 = (recorder', after)) :
    session.take shape buffer =
      { splitter := (session.splitter.split buffer.2).2, recorder := recorder', host := after } := by
  unfold RecordingSession.take
  rw [waits.recorder]
  dsimp only [Recorder.recordFrame]
  rw [Splitter.split_accessUnit, key, if_pos rfl, Splitter.split_codec, start]
  dsimp only
  rw [append]

/-- With a valid track, the buffers from the first keyframe on are an MP4 file. -/
lemma Waits.films (waits : session.Waits config host) (fresh : host.registry.IsFresh) {key : Nat × Bytes}
    (is_key : (AccessUnit.ofBuffer session.splitter.codec key.2).isKeyframe = true) {track : Track}
    (track_eq : track = ⟨session.splitter.codec, (session.splitter.split key.2).2.sets, shape.width, shape.height,
      shape.fps⟩)
    (valid : track.validate = .ok ()) {id : Nat} {origin : Disk} (sound : origin.IsSound)
    (present : id < origin.contents.length)
    (created : host.disk.create config.path = (.ok ⟨some id, 0⟩, origin)) (rest : List (Nat × Bytes)) :
    ∃ number, (session.run shape (key :: rest)).recorder = .mp4 number ∧
      Films origin id track number (session.run shape (key :: rest)).host
        (recordable session.splitter.codec (key :: rest)) := by
  subst track_eq
  rw [← waits.registry] at fresh
  rw [← waits.disk] at created
  obtain ⟨started, start, films⟩ := @start_films origin id _ { session.host with now := key.1 } config fresh valid
    created sound present
  obtain ⟨after, append, films'⟩ := films.record (AccessUnit.ofNals?_ofBuffer session.splitter.codec key.2
    (AccessUnit.ofBuffer session.splitter.codec key.2).isKeyframe)
  rw [← Splitter.split_accessUnit] at append
  have taken := waits.take_key is_key start append
  refine ⟨session.host.registry.nextId, ?_⟩
  have behind := @Films.run origin id _ _ _ (session.take shape key) shape (by rw [taken]) (by rw [taken]; exact films') rest
  rw [take_splitter, Splitter.split_codec, List.nil_append, ← recordable_cons] at behind
  exact behind

/-- With a track that is refused, the buffers from the first keyframe on are a raw stream. -/
lemma Waits.streams (waits : session.Waits config host) {key : Nat × Bytes}
    (is_key : (AccessUnit.ofBuffer session.splitter.codec key.2).isKeyframe = true) {error : CaptureError}
    (refused : Track.validate ⟨session.splitter.codec, (session.splitter.split key.2).2.sets, shape.width,
      shape.height, shape.fps⟩ = .error error) {id : Nat} {origin : Disk} (sound : origin.IsSound)
    (present : id < origin.contents.length)
    (created : host.disk.create (Path.withExtension config.path session.splitter.codec.rawExtension) =
      (.ok ⟨some id, 0⟩, origin)) (rest : List (Nat × Bytes)) :
    Streams origin id (session.run shape (key :: rest)).recorder (session.run shape (key :: rest)).host.disk
      ((key :: rest).flatMap Prod.snd) := by
  rw [← waits.disk] at created
  obtain ⟨recorder, started, start, streams⟩ := @start_streams origin id { session.host with now := key.1 } config _ _
    refused sound present created
  obtain ⟨recorder', after, append, streams'⟩ := streams.append (session.splitter.split key.2).1 key.2
  have taken := waits.take_key is_key start append
  have behind := @Streams.run origin id _ (session.take shape key) shape (by rw [taken]; exact streams') rest
  rw [List.nil_append, ← List.flatMap_cons] at behind
  exact behind

end

/-- A session that has taken no buffer yet. -/
def start (codec : Codec) (repeatSets : Bool) (config : RecordingConfig) (host : Host) : RecordingSession where
  splitter := { codec, repeatSets }
  recorder := .pending config
  host

/-- A new session waits. -/
lemma start_waits (codec : Codec) (repeatSets : Bool) (config : RecordingConfig) (host : Host) :
    (start codec repeatSets config host).Waits config host :=
  ⟨rfl, rfl, rfl⟩

/-- None of the buffers has a keyframe. -/
def Keyless (codec : Codec) (buffers : List (Nat × Bytes)) : Prop :=
  ∀ buffer ∈ buffers, (AccessUnit.ofBuffer codec buffer.2).isKeyframe = false

/-- Finishing a session is finishing its recorder. -/
lemma finish_eq {session : RecordingSession} {now : Nat} {recorder : Recorder} (same : session.recorder = recorder) :
    session.finish now = recorder.finish { session.host with now } := by
  rw [finish, same]

/-- With complete parameter sets at the first keyframe, a session films the access units from there on. -/
lemma start_run_films {codec : Codec} {repeatSets : Bool} {shape : PictureShape} {config : RecordingConfig} {host : Host}
    (valid : shape.IsValid) (fresh : host.registry.IsFresh) {before : List (Nat × Bytes)} {key : Nat × Bytes}
    (keyless : Keyless codec before) (is_key : (AccessUnit.ofBuffer codec key.2).isKeyframe = true)
    {sets : ParameterSets} (sets_eq : (splitAll { codec, repeatSets } (before ++ [key])).sets = sets)
    (complete : sets.missing? codec = none) {id : Nat} {created : Disk} (sound : created.IsSound)
    (present : id < created.contents.length)
    (creation : host.disk.create config.path = (.ok ⟨some id, 0⟩, created)) (rest : List (Nat × Bytes)) :
    let track : Track := ⟨codec, sets, shape.width, shape.height, shape.fps⟩
    let session := (start codec repeatSets config host).run shape (before ++ key :: rest)
    track.validate = .ok () ∧ ∃ number, session.recorder = .mp4 number ∧
      Films created id track number session.host (recordable codec (key :: rest)) := by
  intro track session
  have waits := (start_waits codec repeatSets config host).run shape keyless
  have codec_eq : ((start codec repeatSets config host).run shape before).splitter.codec = codec := by
    rw [run_splitter, splitAll_codec]
    rfl
  have sets_eq' : (((start codec repeatSets config host).run shape before).splitter.split key.2).2.sets = sets := by
    rw [run_splitter, ← sets_eq]
    simp only [splitAll, List.foldl_append, List.foldl_cons, List.foldl_nil, start]
  have session_eq : session = ((start codec repeatSets config host).run shape before).run shape (key :: rest) :=
    run_append _ _ _ _
  have track_valid : track.validate = .ok () := by
    rw [Track.validate_of_shape valid, complete]
    rfl
  generalize (start codec repeatSets config host).run shape before = pending at *
  subst codec_eq
  obtain ⟨number, recorder, films⟩ := waits.films fresh is_key (by rw [sets_eq']) track_valid sound present creation rest
  rw [← session_eq] at recorder films
  exact ⟨track_valid, number, recorder, films⟩

end RecordingSession

open RecordingSession

end VideoCapture
