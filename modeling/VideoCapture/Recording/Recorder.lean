import VideoCapture.Host
import VideoCapture.Splitter
import VideoCapture.Recording.RawStream

/-!
# The recorder

Records one capture session. Nothing is recorded before the first keyframe. If the track is playable by
then, the recording is an MP4 file; if it is not, it is the raw stream, under the extension of its codec;
and if the file cannot be opened, there is no recording. Images are always recorded raw.

```text
pending ──► mp4 ──► disabled
   │                   ▲
   ├─────► raw ────────┤
   └───────────────────┘
```

Trouble with a recording never stops the session. It ends the recording.
-/

namespace VideoCapture

/-- Where and how to record. A raw recording takes the same path with another extension. -/
structure RecordingConfig where
  path : String
  tuning : WriteTuning := {}
  deriving DecidableEq, Repr

/-- The picture size and the frame rate of a capture session. -/
structure PictureShape where
  width : Nat
  height : Nat
  fps : Nat
  deriving DecidableEq, Repr

/-- The state of a recording. -/
inductive Recorder where
  /-- Nothing was recorded yet. -/
  | pending (config : RecordingConfig)
  /-- The registered muxer with this number writes an MP4 file. -/
  | mp4 (id : Nat)
  | raw (stream : RawStream)
  | disabled
  deriving DecidableEq, Repr

namespace Recorder

/-- The recorder of a session that records as configured, or not at all. -/
def ofConfig? : Option RecordingConfig → Recorder
  | some config => pending config
  | none => disabled

/-- The number of the muxer that is written to. -/
def muxerId? : Recorder → Option Nat
  | mp4 id => some id
  | _ => none

/-- Whether an MP4 file is being written. -/
def isMp4 : Recorder → Bool
  | mp4 _ => true
  | _ => false

/-- Whether a raw stream is being written. -/
def isRaw : Recorder → Bool
  | raw _ => true
  | _ => false

/-- Whether nothing is recorded any more. -/
def isDisabled : Recorder → Bool
  | disabled => true
  | _ => false

/-- Opens a raw stream. -/
def openRaw (host : Host) (path : String) : Recorder × Host :=
  match host.disk.create path with
  | (.ok file, disk) => (raw { file }, { host with disk })
  | (.error _, disk) => (disabled, { host with disk })

/-- Starts to record a video stream. -/
def start (config : RecordingConfig) (host : Host) (track : Track) : Recorder × Host :=
  match track.validate with
  | .error _ => openRaw host (Path.withExtension config.path track.codec.rawExtension)
  | .ok () =>
    match Muxer.create host.disk host.now config.path config.tuning track with
    | (.error _, disk) => (disabled, { host with disk })
    | (.ok muxer, disk) =>
      let (id, host) := { host with disk }.register muxer
      (mp4 id, host)

/-- Completes the MP4 file or the raw stream. Nothing is recorded afterwards, even if that failed. -/
def finish (recorder : Recorder) (host : Host) : Except CaptureError Unit × Host :=
  match recorder with
  | mp4 id =>
    match host.registry.muxer? id with
    | none => (.ok (), host)
    | some muxer =>
      if muxer.isStreaming then
        match host.withMuxer id fun muxer disk now => muxer.finalize disk now with
        | (.ok _, host) => (.ok (), host.release id)
        | (.error error, host) => (.error error, host.release id)
      else (.ok (), host.release id)
  | raw stream =>
    match stream.flush host.disk with
    | (.ok (), _, disk) => (.ok (), { host with disk })
    | (.error error, stream, disk) => (.error (.file error), { host with disk := stream.drop disk })
  | pending _ | disabled => (.ok (), host)

/-- Gives the recorder up, which completes what can be completed. -/
def drop (recorder : Recorder) (host : Host) : Host :=
  match recorder with
  | mp4 id => host.release id
  | raw stream => { host with disk := stream.drop host.disk }
  | pending _ | disabled => host

/-- Ends the recording after a failure. -/
def fail (recorder : Recorder) (host : Host) : Recorder × Host :=
  (disabled, (recorder.finish host).2)

/-- Appends an access unit to the MP4 file of a muxer. When somebody else has completed the file in the
meantime, the recording simply ends. -/
def recordMp4 (id : Nat) (host : Host) (unit : AccessUnit) : Recorder × Host :=
  if unit.isEmpty then (mp4 id, host)
  else match host.withMuxer id fun muxer disk now => muxer.addAccessUnit disk now unit with
    | (.ok (), host) => (mp4 id, host)
    | (.error error, host) =>
      if error = .notStreaming ∧ (host.registry.muxer? id).any Muxer.isFinalized then
        (disabled, host.release id)
      else (mp4 id).fail host

/-- Appends a capture buffer to a raw stream. -/
def recordRaw (stream : RawStream) (host : Host) (buffer : Bytes) : Recorder × Host :=
  match stream.write host.disk buffer with
  | (.ok (), stream, disk) => (raw stream, { host with disk })
  | (.error _, stream, disk) => (raw stream).fail { host with disk }

/-- Records a split capture buffer in the present state. -/
def append (recorder : Recorder) (host : Host) (frame : SplitFrame) (buffer : Bytes) :
    Recorder × Host :=
  match recorder with
  | mp4 id => recordMp4 id host frame.accessUnit
  | raw stream => recordRaw stream host buffer
  | pending _ | disabled => (recorder, host)

/-- Records a split capture buffer. The first keyframe starts the recording. -/
def recordFrame (recorder : Recorder) (host : Host) (codec : Codec) (sets : ParameterSets)
    (shape : PictureShape) (frame : SplitFrame) (buffer : Bytes) : Recorder × Host :=
  match recorder with
  | pending config =>
    if frame.accessUnit.isKeyframe then
      let (recorder, host) := start config host ⟨codec, sets, shape.width, shape.height, shape.fps⟩
      recorder.append host frame buffer
    else (recorder, host)
  | _ => recorder.append host frame buffer

/-- The file extension of recorded images. -/
def imageExtension : String := "mjpeg"

/-- Records an image. The first image starts the recording. -/
def recordImage (recorder : Recorder) (host : Host) (image : Bytes) : Recorder × Host :=
  match recorder with
  | pending config =>
    match openRaw host (Path.withExtension config.path imageExtension) with
    | (raw stream, host) => recordRaw stream host image
    | opened => opened
  | raw stream => recordRaw stream host image
  | mp4 _ | disabled => (recorder, host)

end Recorder

end VideoCapture
