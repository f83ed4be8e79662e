import VideoCapture.Proofs.Delivery.Playback
import VideoCapture.Proofs.Recording.Footprint
import VideoCapture.Proofs.Splitter

/-!
# The program leaves its input alone

What a run of the program writes to is known from its arguments (`Arguments.outputs`): the path of the recording, the
path that takes its place when the stream is recorded raw, the path of the saved still, and that of its draft. A session
goes past every place to which none of them leads (`Capture.Passes`), whatever it reads and whatever fails. So the input
stays as it was, if it is kept apart from all of them (`input_untouched`). That the recording has another path is not
enough: a raw recording can take the place of the input (`input_overwritten`).
-/

namespace VideoCapture
open Disk

/-- The encoding of the stills of a camera that delivers a format. -/
def PixelFormat.stillFormat : PixelFormat → StillFormat
  | video _ => .mp4
  | mjpeg => .jpeg

namespace StillStore

/-- The paths that are written to when a still is saved: that of the draft, and that of the still. -/
def outputs (directory : String) (format : StillFormat) : List String :=
  [savePath directory format ++ ".tmp", savePath directory format]

variable {origin disk : Disk} {place : Place} {format : StillFormat} {store : StillStore}

/-- All stills have one format, and what is saved does not go to a place. -/
structure Avoids (origin : Disk) (place : Place) (format : StillFormat) (store : StillStore) : Prop where
  latest : ∀ still, store.latest = some still → still.format = format
  paths : ∀ directory, store.config.directory = some directory →
    ∀ path ∈ outputs directory format, origin.place? path ≠ some place

/-- A store that avoids a place still does so when it gets a still of its format. -/
lemma Avoids.put (avoids : store.Avoids origin place format) (data : Bytes) :
    (store.put format data).Avoids origin place format := by
  refine ⟨?_, avoids.paths⟩
  rintro still ⟨⟩
  rfl

/-- A store that avoids a place still does so when it has observed a frame. -/
lemma Avoids.observe (avoids : store.Avoids origin place .mp4) (splitter : Splitter) (frame : SplitFrame) :
    (store.observe splitter frame).Avoids origin place .mp4 := by
  unfold StillStore.observe
  split
  · unfold putKeyframe
    cases Still.file ⟨splitter.codec, splitter.sets, store.config.width, store.config.height, store.config.fps⟩
        frame.accessUnit with
    | error error => exact avoids
    | ok file => exact avoids.put file
  · exact avoids

/-- Saving a still goes past a place to which neither of the two paths leads. -/
lemma Avoids.saveIfDue (avoids : store.Avoids origin place format) (formed : disk.IsWellFormed)
    (past : Bypasses place origin disk) (now : Nat) :
    (store.saveIfDue disk now).2.1.Avoids origin place format ∧
      Bypasses place disk (store.saveIfDue disk now).2.2 := by
  unfold StillStore.saveIfDue
  split
  · rename_i directory still configured due
    obtain ⟨latest, -⟩ := Option.filter_eq_some_iff.mp due
    have elsewhere := avoids.paths directory configured
    simp only [← past.place?, ← avoids.latest still latest] at elsewhere
    have replaced : Bypasses place disk (replaceFile disk (savePath directory still.format) still.data).2 :=
      replaceFile_bypasses formed (elsewhere _ (List.mem_cons_self ..))
        (elsewhere _ (List.mem_cons_of_mem _ (List.mem_singleton_self _)))
    dsimp only
    split
    all_goals
      rename_i came
      rw [came] at replaced
    · exact ⟨avoids, replaced⟩
    · exact ⟨⟨avoids.latest, avoids.paths⟩, replaced⟩
  · exact ⟨avoids, .refl place disk⟩

end StillStore

namespace Capture

variable {δ : Type} {origin : Disk} {place : Place} {format : PixelFormat} {capture : Capture δ}

/-- A session with a camera that delivers a format goes past a place, and so did its host since its disk was
`origin`. -/
structure Passes (origin : Disk) (place : Place) (format : PixelFormat) (capture : Capture δ) : Prop where
  recorder : capture.recorder.Passes origin place format capture.host
  stills : ∀ store, capture.feed.stills = some store → store.Avoids origin place format.stillFormat
  codec : capture.splitter.map Splitter.codec = format.codec?

/-- A session goes past a place when it saves a still that does not go there. -/
lemma Passes.saveStill (passes : capture.Passes origin place format) :
    capture.saveStill.Passes origin place format := by
  unfold Capture.saveStill
  cases stills : capture.feed.stills with
  | none => exact passes
  | some store =>
    have host := passes.recorder.host
    obtain ⟨avoids, past⟩ := (passes.stills store stills).saveIfDue host.formed host.disk capture.host.now
    refine ⟨⟨host.onDisk past, passes.recorder.avoids⟩, ?_, passes.codec⟩
    rintro _ ⟨⟩
    exact avoids

/-- A session goes past a place when its device has a fault. -/
lemma Passes.fault (passes : capture.Passes origin place format) (error : DeviceFault) :
    (capture.fault error).2.Passes origin place format := by
  unfold Capture.fault
  split
  · exact passes
  · exact ⟨passes.recorder, passes.stills, passes.codec⟩

/-- A session goes past a place when it processes an image. -/
lemma Passes.processImage (passes : capture.Passes origin place format) (images : capture.splitter = none)
    (image : Bytes) : (capture.processImage image).Passes origin place format := by
  obtain ⟨recorder, stills, codec⟩ := passes
  obtain rfl : format = .mjpeg := by
    rw [images] at codec
    cases format <;> cases codec
    rfl
  refine ⟨recorder.recordImage image, ?_, codec⟩
  intro store kept
  obtain ⟨old, there, rfl⟩ := Option.map_eq_some_iff.mp kept
  exact (stills old there).put image

/-- A session goes past a place when it processes a buffer of a video stream. -/
lemma Passes.processStream (passes : capture.Passes origin place format) {splitter : Splitter}
    (stream : capture.splitter = some splitter) (buffer : Bytes) :
    (capture.processStream splitter buffer).Passes origin place format := by
  obtain ⟨recorder, stills, codec⟩ := passes
  obtain rfl : format = .video (splitter.split buffer).2.codec := by
    rw [Splitter.split_codec]
    rw [stream] at codec
    cases format <;> cases codec
    rfl
  refine ⟨recorder.recordFrame _ _ _ buffer, ?_, rfl⟩
  intro store kept
  obtain ⟨old, there, rfl⟩ := Option.map_eq_some_iff.mp kept
  exact (stills old there).observe _ _

/-- A session goes past a place when it processes what it has read. -/
lemma Passes.process (passes : capture.Passes origin place format) (buffer : Bytes) :
    (capture.process buffer).Passes origin place format := by
  have counted : ({ capture with stats := { capture.stats with
      frames := capture.stats.frames + 1
      bytes := capture.stats.bytes + buffer.length } } : Capture δ).Passes origin place format :=
    ⟨passes.recorder, passes.stills, passes.codec⟩
  unfold Capture.process
  dsimp only
  split
  · rename_i splitter stream
    exact (counted.processStream stream buffer).saveStill
  · rename_i images
    exact (counted.processImage images buffer).saveStill

variable [Device δ]

/-- A session goes past a place when it reads its device. -/
lemma Passes.readOnce (passes : capture.Passes origin place format) :
    capture.readOnce.2.Passes origin place format := by
  unfold Capture.readOnce
  rcases Device.read capture.device capture.room with ⟨answer, device⟩
  have read : ({ capture with device } : Capture δ).Passes origin place format :=
    ⟨passes.recorder, passes.stills, passes.codec⟩
  dsimp only
  split
  · exact read.fault _
  · split
    · exact read
    · exact ⟨read.recorder, read.stills, read.codec⟩
  · exact read.process _

/-- One poll goes past the place. -/
lemma Passes.poll (passes : capture.Passes origin place format) (timeout : Nat) :
    (capture.poll timeout).2.Passes origin place format := by
  unfold Capture.poll
  split
  · exact passes
  · rcases Device.wait capture.device capture.host.now timeout with ⟨answer, now, device⟩
    have host := passes.recorder.host
    have waited : ({ capture with device, host := { capture.host with now } } : Capture δ).Passes origin place format :=
      ⟨⟨⟨host.formed, host.disk, host.muxers⟩, passes.recorder.avoids⟩, passes.stills, passes.codec⟩
    dsimp only
    split
    · exact waited.fault _
    · exact waited.readOnce
    · exact waited

end Capture

namespace Playback

variable {origin : Disk} {place : Place} {format : PixelFormat} {playback : Playback}

/-- When memory is refused to a step, a file was created for a recording of a video stream, and that was all. -/
lemma refusal_passes {before after : Capture Replay} {fault : MemoryFault} {host : Host}
    (passes : before.Passes origin place format) (next : after.Passes origin place format)
    (refused : refusal? before after = some (fault, host)) :
    ({ before with host } : Capture Replay).Passes origin place format := by
  unfold refusal? at refused
  split at refused
  · rename_i config muxer pending registered
    split at refused
    · rename_i s fault' streaming request
      cases refused
      obtain ⟨recorder, stills, codec⟩ := passes
      -- the recording came to be a movie, so its path is one of those of a video stream
      have video : format ≠ .mjpeg := by
        have avoids := next.recorder.avoids
        cases recording : after.recorder with
        | mp4 id =>
          rw [recording] at avoids
          exact avoids
        | pending _ | raw _ | disabled =>
          rw [recording] at registered
          cases registered
      have elsewhere : origin.place? config.path ≠ some place := by
        have avoids := recorder.avoids
        rw [pending] at avoids
        cases format with
        | video codec => exact avoids _ (List.mem_cons_self ..)
        | mjpeg => exact absurd rfl video
      rw [← recorder.host.disk.place?] at elsewhere
      have begun := Muxer.create_bypasses recorder.host.formed elsewhere before.host.now config.tuning s.track
      exact ⟨⟨recorder.host.onDisk begun.1, recorder.avoids⟩, stills, codec⟩
    · cases refused
  · cases refused

/-- One step of the program goes past a place that its session goes past. -/
lemma step_passes (passes : playback.capture.Passes origin place format) :
    playback.step.2.capture.Passes origin place format := by
  have polled := passes.poll pollTimeout
  have delivered : ∀ next : Playback, next.capture.Passes origin place format →
      next.deliver.capture.Passes origin place format :=
    fun next passes => ⟨passes.recorder, passes.stills, passes.codec⟩
  unfold Playback.step
  dsimp only
  split
  · rename_i came
    rw [came] at polled
    exact polled
  · rename_i came
    rw [came] at polled
    split
    · rename_i refused
      exact refusal_passes passes polled refused
    split
    · refine delivered _ ?_
      rwa [(announce_same _ _).1]
    split
    · refine delivered _ ?_
      rwa [(announce_same _ _).1]
    · exact delivered _ polled

/-- A run of the program goes past a place that its session goes past. -/
lemma run_passes (passes : playback.capture.Passes origin place format) (polls : Nat) :
    (playback.run polls).2.capture.Passes origin place format := by
  induction polls generalizing playback with
  | zero => exact passes
  | succ polls ih =>
    have stepped := step_passes passes
    unfold Playback.run
    split
    · rename_i came
      rw [came] at stepped
      exact ih stepped
    · exact stepped

/-- However a run ends, the host has gone past the place. -/
lemma result_passes (passes : playback.capture.Passes origin place format) (outlook : Outlook) :
    (result (outlook, playback)).2.Passes origin place := by
  have finished : Recorder.disabled.Passes origin place format
      (playback.capture.recorder.finish playback.capture.host).2 := ⟨passes.recorder.finish, trivial⟩
  have retired : playback.close.2.Passes origin place := finished.drop
  cases outlook with
  | refused fault => exact passes.recorder.host
  | running => exact retired
  | finished => exact retired

end Playback

/-- The paths that a run of the program may write to. -/
def Arguments.outputs (args : Arguments) : List String :=
  (args.record.elim [] fun path => Recorder.outputs path args.format) ++
    args.stillDirectory.elim [] fun directory => StillStore.outputs directory args.format.stillFormat

namespace Program

variable {origin : Disk} {place : Place} {args : Arguments} {host : Host}

/-- A session that the program starts goes past every place to which no output leads. -/
lemma start_passes {replay : Replay} (passes : host.Passes origin place)
    (elsewhere : ∀ path ∈ args.outputs, origin.place? path ≠ some place) (agreed : replay.format = args.videoFormat) :
    (Capture.start replay args.captureConfig host).Passes origin place args.format := by
  refine ⟨⟨passes, ?_⟩, ?_, ?_⟩
  · show (Recorder.ofConfig? args.captureConfig.recording).Avoids origin place args.format
    cases record : args.record with
    | none =>
      rw [Arguments.captureConfig, record]
      trivial
    | some path =>
      rw [Arguments.captureConfig, record]
      intro output among
      refine elsewhere output (List.mem_append_left _ ?_)
      rwa [record]
  · intro store kept
    obtain ⟨config, configured, rfl⟩ := Option.map_eq_some_iff.mp kept
    obtain ⟨directory, given, rfl⟩ := Option.map_eq_some_iff.mp configured
    refine ⟨nofun, ?_⟩
    rintro _ ⟨⟩ output among
    refine elsewhere output (List.mem_append_right _ ?_)
    rwa [given]
  · show (replay.format.pixelFormat.codec?.map _).map Splitter.codec = args.format.codec?
    rw [agreed]
    show (args.format.codec?.map _).map Splitter.codec = args.format.codec?
    cases args.format <;> rfl

/-- To open the input is to read it, and what is read is replayed in the agreed format. -/
lemma open?_cases (args : Arguments) (host : Host) :
    (open? args host).2 = { host with disk := host.disk.ticked } ∧
      ∀ playback, (open? args host).1 = .ok playback → ∃ replay : Replay, replay.format = args.videoFormat ∧
        playback.capture = Capture.start replay args.captureConfig { host with disk := host.disk.ticked } := by
  have ticked := read_disk host.disk args.input
  unfold open? Replay.openFile
  rcases came : host.disk.read args.input with ⟨error | data, disk⟩
  all_goals
    rw [came] at ticked
    subst ticked
  · exact ⟨rfl, fun playback impossible => by cases impossible⟩
  · dsimp only
    rcases opened : Replay.ofBytes data args.videoFormat ⟨args.looping, args.paced⟩ host.now with error | replay
    · exact ⟨rfl, fun playback impossible => by cases impossible⟩
    · dsimp only
      cases Memory.request (args.queueDepth * FrameQueue.unitSize) with
      | error fault => exact ⟨rfl, fun playback impossible => by cases impossible⟩
      | ok _ =>
        refine ⟨rfl, ?_⟩
        rintro _ ⟨⟩
        obtain ⟨-, -, format, -⟩ := Replay.of_ofBytes opened
        refine ⟨replay, format, ?_⟩
        unfold Playback.start
        dsimp only
        split
        · rfl
        · exact (Playback.announce_same _ _).1

end Program

/-- A run of the program leaves its input as it was, in the foreground and with a worker, whatever the stream is,
however it is recorded and whatever fails, if none of the paths that it may write to leads to the input. This holds for
whole runs, and for a stream that is replayed over and over it holds after any number of polls. -/
theorem input_untouched {args : Arguments} {host : Host} (formed : host.disk.IsWellFormed)
    (idle : host.registry.entries = []) (apart : ∀ path ∈ args.outputs, host.disk.Apart path args.input) :
    (∀ texts, Arguments.parse texts = .run args →
      (Program.run texts host).2.disk.standing? args.input = host.disk.standing? args.input) ∧
    ∀ playback polls, (Program.open? args host).1 = .ok playback →
      let (outlook, playback) := playback.run polls
      playback.capture.host.disk.standing? args.input = host.disk.standing? args.input ∧
        (Playback.result (outlook, playback)).2.disk.standing? args.input = host.disk.standing? args.input := by
  let place := host.disk.spot args.input
  have begins : ({ host with disk := host.disk.ticked } : Host).Passes host.disk place := by
    refine ⟨formed.ticked, bypasses_ticked place host.disk, ?_⟩
    intro entry inside
    rw [idle] at inside
    cases inside
  have untouched : ∀ later : Host, later.Passes host.disk place →
      later.disk.standing? args.input = host.disk.standing? args.input :=
    fun later passes => passes.disk.standing?
  obtain ⟨disk, opened⟩ := Program.open?_cases args host
  have passes : ∀ playback, (Program.open? args host).1 = .ok playback → ∀ polls,
      (playback.run polls).2.capture.Passes host.disk place args.format := by
    intro playback came polls
    obtain ⟨replay, format, starts⟩ := opened playback came
    refine Playback.run_passes ?_ polls
    rw [starts]
    exact Program.start_passes begins (fun path among => (apart path among).ne_spot) format
  refine ⟨?_, ?_⟩
  · intro texts parsed
    unfold Program.run
    rw [parsed]
    dsimp only
    rcases came : Program.open? args host with ⟨result | playback, after⟩
    · rw [came] at disk
      subst disk
      exact untouched _ begins
    · have run := passes playback (by rw [came]) (Playback.enoughPolls playback.capture.device)
      exact untouched _ (Playback.result_passes run _)
  · intro playback polls came
    have run := passes playback came polls
    exact ⟨untouched _ run.recorder.host, untouched _ (Playback.result_passes run _)⟩

/-- A stream with a keyframe and no parameter sets is recorded raw, beside the path of the recording. -/
theorem input_untouched_raw_recording :
    let stream : Bytes := NalUnit.annexB [[0x41, 0x9A, 2], [0x65, 0x88, 0x84, 0x21], [0x41, 0x9A, 3]]
    let disk := [Operation.create "in.h264", .write ⟨some 0, 0⟩ stream].foldl perform {}
    let texts := ["in.h264", "--cooperative", "--no-pacing", "--record", "out.mp4"]
    let args : Arguments := { input := "in.h264", cooperative := true, paced := false, record := some "out.mp4" }
    disk.IsWellFormed ∧ Arguments.parse texts = .run args ∧
      (∀ path ∈ args.outputs, disk.Apart path args.input) ∧
      (Program.run texts { disk }).2.disk.standing? "in.h264" = some (.file stream) ∧
      (Program.run texts { disk }).2.disk.standing? "out.h264" =
        some (.file (NalUnit.annexB [[0x65, 0x88, 0x84, 0x21], [0x41, 0x9A, 3]])) := by
  intro stream disk texts args
  have formed : disk.IsWellFormed := isWellFormed_performAll _ _
  have parsed : Arguments.parse texts = .run args := by decide +kernel
  have apart : ∀ path ∈ args.outputs, disk.Apart path args.input := by decide +kernel
  have there : disk.standing? "in.h264" = some (.file stream) := by decide +kernel
  obtain ⟨untouched, -⟩ := @input_untouched args { disk } formed rfl apart
  exact ⟨formed, parsed, apart, (untouched texts parsed).trans there, by decide +kernel⟩

/-- Neither the path of the recording nor that of the still is the one of the input, and yet the input is gone. Once it
had the path of the raw stream that was recorded instead, and once that of the draft of the still. -/
theorem input_overwritten :
    let stream : Bytes := NalUnit.annexB [[0x41, 0x9A, 2], [0x65, 0x88, 0x84, 0x21], [0x41, 0x9A, 3]]
    let disk := [Operation.create "in.h264", .write ⟨some 0, 0⟩ stream].foldl perform {}
    let args : Arguments := { input := "in.h264", cooperative := true, paced := false, record := some "in.mp4" }
    let run := Program.run ["in.h264", "--cooperative", "--no-pacing", "--record", "in.mp4"] { disk }
    let keyframe : Bytes := NalUnit.annexB [[0x67, 0x42, 0xC0, 0x1E], [0x68, 0xEE, 0x3C], [0x65, 0x88, 0x84, 0x21]]
    let draft := "d/snapshot.mp4.tmp"
    let disk' := [Operation.makeDirectory "d", .create draft, .write ⟨some 0, 0⟩ keyframe].foldl perform {}
    let args' : Arguments := { input := draft, cooperative := true, paced := false, stillDirectory := some "d" }
    let run' := Program.run [draft, "--cooperative", "--no-pacing", "--snapshot-dir", "d"] { disk := disk' }
    (Arguments.parse ["in.h264", "--cooperative", "--no-pacing", "--record", "in.mp4"] = .run args ∧
      disk.Apart "in.mp4" args.input ∧ disk.standing? args.input = some (.file stream) ∧
      run.2.disk.standing? args.input = some (.file (NalUnit.annexB [[0x65, 0x88, 0x84, 0x21], [0x41, 0x9A, 3]]))) ∧
    Arguments.parse [draft, "--cooperative", "--no-pacing", "--snapshot-dir", "d"] = .run args' ∧
      disk'.Apart (StillStore.savePath "d" .mp4) args'.input ∧ disk'.standing? args'.input = some (.file keyframe) ∧
      run'.2.disk.standing? args'.input = none := by
  decide +kernel

end VideoCapture
