import Mathlib.Data.List.Induction
import VideoCapture.Proofs.Recording.Session

/-!
# The phases of a session

A session that is alone on its host waits for a keyframe, or streams the access units from the first keyframe on into
the one muxer that is registered, or writes no MP4 file any more (`RecordingSession.Phase`). Every buffer keeps it in
one of these phases.
-/

namespace VideoCapture
open Recording

/-- The position of a file that was just created is its beginning. -/
lemma Disk.position_of_create {before after : Disk} {path : String} {file : FileHandle}
    (created : before.create path = (.ok file, after)) : file.position = 0 := by
  unfold Disk.create at created
  split at created
  · cases created
  split at created
  · cases created
  · cases created
  split at created
  · cases created
  split at created <;> cases created <;> rfl

/-- A disk without devices that are always full has room wherever a file can be opened. -/
lemma Disk.create_ne_full {disk : Disk} (roomy : ∀ place, disk.lookup? place ≠ some .full) (path : String) :
    (disk.create path).1 ≠ .ok ⟨none, 0⟩ := by
  intro opened
  unfold Disk.create at opened
  split at opened
  · cases opened
  rename_i tick
  obtain rfl : disk.ticked = _ := congrArg Prod.snd tick
  split at opened
  · cases opened
  · cases opened
  split at opened
  · cases opened
  split at opened
  · cases opened
  · cases opened
  · cases opened
  · rename_i looked
    exact roomy _ (Disk.of_look looked).2
  · cases opened

/-- A device that is always full takes no recording. -/
lemma Muxer.create_full {before origin : Disk} {path : String} {track : Track} {position : Nat}
    (created : before.create path = (.ok ⟨none, position⟩, origin)) (sound : origin.IsSound)
    (valid : track.validate = .ok ()) (now : Nat) (tuning : WriteTuning) :
    Muxer.create before now path tuning track = (.error (.file .storageFull), origin.ticked) := by
  have refused : (⟨⟨none, position⟩, origin⟩ : DiskFile).writeAll opening =
      (.error .storageFull, ⟨⟨none, position⟩, origin.ticked⟩) := by
    have some_bytes : Movie.ftyp.isEmpty = false := by decide
    have write : origin.write ⟨none, position⟩ Movie.ftyp = (.error .storageFull, ⟨none, position⟩, origin.ticked) := by
      rw [Disk.write, some_bytes, Disk.tick_of_sound sound]
      rfl
    have first : Writer.write (⟨⟨none, position⟩, origin⟩ : DiskFile) Movie.ftyp =
        (.error .storageFull, ⟨⟨none, position⟩, origin.ticked⟩) :=
      congrArg (fun out => (out.1, (⟨out.2.1, out.2.2⟩ : DiskFile))) write
    rw [opening, DiskFile.writeAll, first]
  unfold Muxer.create Muxer.start
  rw [created]
  dsimp only
  rw [valid]
  dsimp only
  rw [refused]

namespace Registry

/-- A registry with one muxer, which is held once and got the last number that was given. -/
def only (number : Nat) (muxer : Muxer) : Registry :=
  ⟨number + 1, [⟨number, muxer, 1⟩]⟩

variable {number : Nat} {muxer : Muxer}

/-- The only muxer of a registry is found under its number. -/
@[simp] lemma find?_only : (only number muxer).find? number = some ⟨number, muxer, 1⟩ := by
  simp [only, find?]

/-- The only muxer of a registry has its number. -/
@[simp] lemma muxer?_only : (only number muxer).muxer? number = some muxer :=
  muxer?_of_find? find?_only

/-- Changing the only muxer of a registry leaves it the only one. -/
@[simp] lemma setMuxer_only (other : Muxer) : (only number muxer).setMuxer number other = only number other := by
  simp [only, setMuxer, modify]

/-- Nothing is left of a registry whose only muxer is removed. -/
@[simp] lemma remove_only : (only number muxer).remove number = ⟨number + 1, []⟩ := by
  simp [only, remove]

/-- A muxer that is registered in an empty registry is the only one. -/
lemma register_only {registry : Registry} (empty : registry.entries = []) (muxer : Muxer) :
    (registry.register muxer).2 = only registry.nextId muxer := by
  rw [register, empty]
  rfl

end Registry

/-- Whatever a muxer does, it stays the one that is registered. -/
lemma Host.withMuxer_only {α : Type} {host : Host} {number : Nat} {muxer : Muxer}
    (registry : host.registry = .only number muxer)
    (act : Muxer → Disk → Nat → Except CaptureError α × Muxer × Disk) :
    ∃ other, (host.withMuxer number act).2.registry = .only number other := by
  rw [Host.withMuxer, registry, Registry.muxer?_only]
  exact ⟨_, Registry.setMuxer_only _⟩

namespace Recorder

/-- No MP4 file is written, nor will be. -/
def IsOff (recorder : Recorder) : Prop :=
  recorder.isRaw = true ∨ recorder.isDisabled = true

/-- A recorder that is off stays off when it appends to its file. -/
lemma IsOff.append {recorder : Recorder} (off : recorder.IsOff) (host : Host) (frame : SplitFrame) (buffer : Bytes) :
    (recorder.append host frame buffer).1.IsOff := by
  cases recorder with
  | pending config => rcases off with off | off <;> cases off
  | mp4 number => rcases off with off | off <;> cases off
  | disabled => exact off
  | raw stream =>
    show (recordRaw stream host buffer).1.IsOff
    unfold recordRaw
    split
    · exact .inl rfl
    · exact .inr rfl

/-- A recorder that opens a raw stream is off, whether or not it succeeds. -/
lemma openRaw_off (host : Host) (path : String) : (openRaw host path).1.IsOff := by
  unfold openRaw
  split
  · exact .inl rfl
  · exact .inr rfl

end Recorder

namespace RecordingSession

/-- The track of a recording that starts with the last of some capture buffers. -/
def trackBehind (codec : Codec) (repeatSets : Bool) (shape : PictureShape) (buffers : List (Nat × Bytes)) : Track :=
  ⟨codec, (splitAll { codec, repeatSets } buffers).sets, shape.width, shape.height, shape.fps⟩

/-- What a session that is alone on its host has come to with the buffers that it took. -/
inductive Phase (codec : Codec) (repeatSets : Bool) (shape : PictureShape) (config : RecordingConfig) (host : Host)
    (taken : List (Nat × Bytes)) (session : RecordingSession) : Prop where
  | waits (keyless : Keyless codec taken) (waits : session.Waits config host)
  | films {origin : Disk} {id : Nat} {before rest : List (Nat × Bytes)} {key : Nat × Bytes} {muxer : Muxer}
      {received : Bytes}
      (parted : taken = before ++ key :: rest)
      (keyless : Keyless codec before)
      (is_key : (AccessUnit.ofBuffer codec key.2).isKeyframe = true)
      (recorder : session.recorder = .mp4 host.registry.nextId)
      (created : host.disk.create config.path = (.ok ⟨some id, 0⟩, origin))
      (registry : session.host.registry = .only host.registry.nextId muxer)
      (records : muxer.Records origin id 0 (trackBehind codec repeatSets shape (before ++ [key])) session.host.disk
        received (recordable codec (key :: rest)))
  | off (off : session.recorder.IsOff)

section

variable {codec : Codec} {repeatSets : Bool} {shape : PictureShape} {config : RecordingConfig} {host : Host}
  {taken : List (Nat × Bytes)}

/-- The one muxer that is registered takes the access unit of a buffer. -/
lemma record_only {origin : Disk} {id number : Nat} {track : Track} {units : List AccessUnit} {muxer : Muxer}
    {received : Bytes} (registry : host.registry = .only number muxer)
    (records : muxer.Records origin id 0 track host.disk received units) (codec : Codec) (buffer : Bytes) :
    ∃ after muxer' received',
      Recorder.recordMp4 number host (AccessUnit.ofBuffer codec buffer) = (.mp4 number, after) ∧
      after.registry = .only number muxer' ∧
      muxer'.Records origin id 0 track after.disk received'
        (units ++ [AccessUnit.ofBuffer codec buffer].filter fun unit => !unit.isEmpty) := by
  have films : Films origin id track number host units := by
    refine ⟨muxer, received, ?_, records⟩
    rw [registry, Registry.find?_only]
  obtain ⟨after, run, muxer', received', found, records'⟩ :=
    films.record (AccessUnit.ofNals?_ofBuffer codec buffer (AccessUnit.ofBuffer codec buffer).isKeyframe)
  refine ⟨after, muxer', received', run, ?_, records'⟩
  -- a call that leaves the recorder with its muxer changes at most this one entry
  have kept : ∃ other, after.registry = .only number other := by
    unfold Recorder.recordMp4 at run
    split at run
    · cases run
      exact ⟨muxer, registry⟩
    · obtain ⟨other, registry'⟩ := Host.withMuxer_only registry fun muxer disk now =>
        muxer.addAccessUnit disk now (AccessUnit.ofBuffer codec buffer)
      split at run
      · rename_i added
        cases run
        rw [added] at registry'
        exact ⟨other, registry'⟩
      · split at run <;> cases run
  obtain ⟨other, registry'⟩ := kept
  rw [registry', Registry.find?_only] at found
  cases found
  exact registry'

/-- A recorder that is alone on its host starts as a raw stream, if the track is refused, or is switched off, or has
the one muxer that is registered. -/
lemma start_cases (sound : host.disk.IsSound) (formed : host.disk.IsWellFormed) (alone : host.registry.entries = [])
    (track : Track) :
    Recorder.start config host track =
        Recorder.openRaw host (Path.withExtension config.path track.codec.rawExtension) ∨
      (Recorder.start config host track).1 = .disabled ∨
      ∃ origin id started muxer, Recorder.start config host track = (.mp4 host.registry.nextId, started) ∧
        host.disk.create config.path = (.ok ⟨some id, 0⟩, origin) ∧
        started.registry = .only host.registry.nextId muxer ∧
        muxer.Records origin id 0 track started.disk [] [] := by
  cases valid : track.validate with
  | error error =>
    left
    rw [Recorder.start, valid]
  | ok =>
  right
  rcases created : host.disk.create config.path with ⟨error | ⟨id?, position⟩, origin⟩
  · left
    rw [Recorder.start, valid]
    dsimp only
    rw [Muxer.create, created]
  obtain rfl : position = 0 := Disk.position_of_create created
  cases id? with
  | none =>
    left
    have still_sound : origin.IsSound := by
      have after := sound.create config.path
      rwa [created] at after
    rw [Recorder.start, valid]
    dsimp only
    rw [Muxer.create_full created still_sound valid]
  | some id =>
    right
    obtain ⟨directory, name, made⟩ := Disk.created_of_sound sound formed created
    obtain ⟨muxer, disk, run, records, -⟩ :=
      Muxer.create_records created made.sound made.present valid host.now config.tuning
    refine ⟨origin, id, { host with disk, registry := (host.registry.register muxer).2 }, muxer, ?_, rfl,
      Registry.register_only alone muxer, records⟩
    rw [Recorder.start, valid]
    dsimp only
    rw [run]
    rfl

/-- An MP4 file is started alone on its host, or none is started at all. -/
lemma start_phase (sound : host.disk.IsSound) (formed : host.disk.IsWellFormed) (alone : host.registry.entries = [])
    (track : Track) :
    (Recorder.start config host track).1.IsOff ∨
      ∃ origin id started muxer, Recorder.start config host track = (.mp4 host.registry.nextId, started) ∧
        host.disk.create config.path = (.ok ⟨some id, 0⟩, origin) ∧
        started.registry = .only host.registry.nextId muxer ∧
        muxer.Records origin id 0 track started.disk [] [] := by
  rcases start_cases sound formed alone track with raw | off | films
  · left
    rw [raw]
    exact Recorder.openRaw_off _ _
  · left
    rw [off]
    exact .inr rfl
  · exact .inr films

/-- An MP4 recording goes on with the next buffer. -/
lemma take_mp4 {session : RecordingSession} {number : Nat} (recorder : session.recorder = .mp4 number)
    (buffer : Nat × Bytes) :
    session.take shape buffer =
      { splitter := (session.splitter.split buffer.2).2
        recorder := (Recorder.recordMp4 number { session.host with now := buffer.1 }
          (session.splitter.split buffer.2).1.accessUnit).1
        host := (Recorder.recordMp4 number { session.host with now := buffer.1 }
          (session.splitter.split buffer.2).1.accessUnit).2 } := by
  unfold RecordingSession.take
  rw [recorder]
  rfl

/-- A session whose recorder is off stays so. -/
lemma take_off {session : RecordingSession} (off : session.recorder.IsOff) (buffer : Nat × Bytes) :
    (session.take shape buffer).recorder.IsOff := by
  have same : (session.take shape buffer).recorder =
      (session.recorder.append { session.host with now := buffer.1 } (session.splitter.split buffer.2).1 buffer.2).1 := by
    unfold RecordingSession.take
    cases recorder : session.recorder with
    | pending config =>
      rw [recorder] at off
      rcases off with off | off <;> cases off
    | _ => rfl
  rw [same]
  exact off.append _ _ _

/-- One more buffer is one more access unit, unless there is nothing in it to record. -/
lemma recordable_append (codec : Codec) (buffers : List (Nat × Bytes)) (buffer : Nat × Bytes) :
    recordable codec (buffers ++ [buffer]) =
      recordable codec buffers ++ [AccessUnit.ofBuffer codec buffer.2].filter fun unit => !unit.isEmpty := by
  rw [recordable, List.map_append, List.filter_append]
  rfl

/-- A buffer without a keyframe adds none to those before it. -/
lemma Keyless.append (keyless : Keyless codec taken) {buffer : Nat × Bytes}
    (no_key : (AccessUnit.ofBuffer codec buffer.2).isKeyframe = false) : Keyless codec (taken ++ [buffer]) := by
  intro other inside
  rcases List.mem_append.mp inside with inside | inside
  · exact keyless other inside
  · cases List.mem_singleton.mp inside
    exact no_key

/-- A session comes from each phase into the phase that the next buffer calls for. -/
lemma Phase.take (sound : host.disk.IsSound) (formed : host.disk.IsWellFormed) (alone : host.registry.entries = [])
    {session : RecordingSession} (phase : session.Phase codec repeatSets shape config host taken)
    (splitter : session.splitter = splitAll { codec, repeatSets } taken) (buffer : Nat × Bytes) :
    (session.take shape buffer).Phase codec repeatSets shape config host (taken ++ [buffer]) := by
  have codec_eq : session.splitter.codec = codec := by rw [splitter, splitAll_codec]
  cases phase with
  | off off => exact .off (take_off off buffer)
  | @films origin id before rest key muxer received parted keyless is_key recorder created registry records =>
    have later : ({ session.host with now := buffer.1 } : Host).registry = .only host.registry.nextId muxer := registry
    obtain ⟨after, muxer', received', run, registry', records'⟩ := record_only later records codec buffer.2
    rw [take_mp4 recorder, Splitter.split_accessUnit, codec_eq, run]
    rw [← recordable_append, List.cons_append] at records'
    refine .films ?_ keyless is_key rfl created registry' records'
    rw [parted, List.append_assoc, List.cons_append]
  | waits keyless waits =>
    cases key : (AccessUnit.ofBuffer codec buffer.2).isKeyframe with
    | false => exact .waits (keyless.append key) (waits.take shape buffer (by rw [codec_eq]; exact key))
    | true =>
      -- the recording starts on a host that differs from the one before the session by its clock only
      have same : ({ session.host with now := buffer.1 } : Host) = { host with now := buffer.1 } := by
        show Host.mk session.host.disk session.host.registry buffer.1 = _
        rw [waits.disk, waits.registry]
      have track_eq : (⟨session.splitter.codec, (session.splitter.split buffer.2).2.sets, shape.width, shape.height,
          shape.fps⟩ : Track) = trackBehind codec repeatSets shape (taken ++ [buffer]) := by
        rw [trackBehind, splitAll, List.foldl_append, codec_eq, splitter]
        rfl
      have is_key : (AccessUnit.ofBuffer session.splitter.codec buffer.2).isKeyframe = true := by rw [codec_eq, key]
      have started := @start_phase config { host with now := buffer.1 } sound formed alone
        (trackBehind codec repeatSets shape (taken ++ [buffer]))
      rw [← same, ← track_eq] at started
      rcases started with off | ⟨origin, id, started, muxer, start, created, registry, records⟩
      · rw [waits.take_key is_key rfl rfl]
        exact .off (off.append _ _ _)
      · obtain ⟨after, muxer', received, run, registry', records'⟩ :=
          record_only registry records session.splitter.codec buffer.2
        rw [← Splitter.split_accessUnit] at run
        rw [waits.take_key is_key start run]
        rw [same] at registry' created
        rw [track_eq, codec_eq] at records'
        exact .films rfl keyless key (by rw [same]) created registry' records'

/-- The phase of a session from its start on. -/
lemma phase_run (repeatSets : Bool) (sound : host.disk.IsSound) (formed : host.disk.IsWellFormed)
    (alone : host.registry.entries = []) (buffers : List (Nat × Bytes)) :
    ((start codec repeatSets config host).run shape buffers).Phase codec repeatSets shape config host buffers := by
  induction buffers using List.reverseRecOn with
  | nil => exact .waits (List.forall_mem_nil _) (start_waits codec repeatSets config host)
  | append_singleton taken buffer ih =>
    rw [run_append]
    exact ih.take sound formed alone (run_splitter shape _ taken) buffer

end

end RecordingSession

end VideoCapture
