import VideoCapture.Delivery.Queue
import VideoCapture.Device
import VideoCapture.Recording.Recorder
import VideoCapture.StillStore

/-!
# Capture sessions

One session reads a device. Each buffer it gets is split, published, recorded and posted for delivery,
and then the latest still is saved if that is due. No trouble on the way stops the session: a failed read
is counted, and a failed recording ends the recording only.
-/

namespace VideoCapture

/-- What the delivery side sees of a session: the published source, the latest still, and the queue. -/
structure Feed where
  source : VideoSource
  stills : Option StillStore
  queue : FrameQueue
  deriving DecidableEq, Repr

/-- Counters of a session. -/
structure CaptureStats where
  /-- Buffers that were read and processed. -/
  frames : Nat := 0
  keyframes : Nat := 0
  bytes : Nat := 0
  /-- Units posted for delivery. -/
  unitsPosted : Nat := 0
  /-- Failed reads and waits that were not transient. -/
  readErrors : Nat := 0
  /-- Reads that gave nothing. -/
  emptyReads : Nat := 0
  deriving DecidableEq, Repr

/-- What came of one step of a session. -/
inductive CaptureStep where
  /-- A buffer of this many bytes was processed. -/
  | frame (length : Nat)
  /-- The device had nothing in time. -/
  | idle
  /-- It was not the moment. -/
  | retry
  /-- The device said it had something and gave nothing. -/
  | empty
  | failed
  /-- The device will never give anything again. -/
  | finished
  deriving DecidableEq, Repr

/-- The settings of a session. -/
structure CaptureConfig where
  repeatSets : Bool := false
  recording : Option RecordingConfig := none
  stills : Option StillConfig := none
  queueDepth : Nat := FrameQueue.defaultCapacity
  deriving DecidableEq, Repr

/-- A session on a device of type `δ`. -/
structure Capture (δ : Type) where
  device : δ
  /-- The splitter, if the device delivers a video stream and not images. -/
  splitter : Option Splitter
  recorder : Recorder
  feed : Feed
  host : Host
  /-- When the session started. -/
  started : Nat
  stats : CaptureStats := {}

namespace Capture

variable {δ : Type} [Device δ]

/-- A new session on a device. Stills take the picture size and the frame rate of the device. -/
def start (device : δ) (config : CaptureConfig) (host : Host) : Capture δ :=
  let format := Device.format device
  { device
    splitter := format.pixelFormat.codec?.map fun codec => { codec, repeatSets := config.repeatSets }
    recorder := .ofConfig? config.recording
    feed := {
      source := { format }
      stills := config.stills.map fun stills =>
        { config := { stills with
            width := format.width
            height := format.height
            fps := format.fps } }
      queue := .ofCapacity config.queueDepth }
    host
    started := host.now }

/-- The largest number of bytes that the session reads at once. -/
def room (capture : Capture δ) : Nat :=
  max (Device.bufferSize capture.device) 1

/-- The session with units posted for delivery. -/
def post (capture : Capture δ) (units : List Bytes) : Capture δ :=
  let timestamp := capture.host.now - capture.started
  { capture with
    feed := { capture.feed with
      queue := units.foldl (fun queue data => queue.push ⟨data, timestamp⟩) capture.feed.queue }
    stats := { capture.stats with unitsPosted := capture.stats.unitsPosted + units.length } }

/-- What is published after a splitter has split a buffer: new format parameters when some parameter set
changed, and the keyframe when there was one. -/
def publish (source : VideoSource) (splitter : Splitter) (frame : SplitFrame) : VideoSource :=
  { source with
    parameters := if frame.setsChanged then splitter.formatParameters? else source.parameters
    lastKeyframe :=
      if frame.accessUnit.isKeyframe then splitter.lastKeyframe.or source.lastKeyframe
      else source.lastKeyframe }

/-- Processes a buffer of a video stream. -/
def processStream (capture : Capture δ) (splitter : Splitter) (buffer : Bytes) : Capture δ :=
  let (frame, splitter) := splitter.split buffer
  let format := capture.feed.source.format
  let (recorder, host) := capture.recorder.recordFrame capture.host splitter.codec splitter.sets
    ⟨format.width, format.height, format.fps⟩ frame buffer
  let keyframes := if frame.accessUnit.isKeyframe then 1 else 0
  post { capture with
    splitter := some splitter
    recorder
    host
    feed := { capture.feed with
      source := publish capture.feed.source splitter frame
      stills := capture.feed.stills.map fun stills => stills.observe splitter frame }
    stats := { capture.stats with keyframes := capture.stats.keyframes + keyframes } } frame.units

/-- Processes an image. Every image is a keyframe. -/
def processImage (capture : Capture δ) (image : Bytes) : Capture δ :=
  let (recorder, host) := capture.recorder.recordImage capture.host image
  post { capture with
    recorder
    host
    feed := { capture.feed with
      stills := capture.feed.stills.map fun stills => stills.put .jpeg image }
    stats := { capture.stats with keyframes := capture.stats.keyframes + 1 } } [image]

/-- Saves the latest still if that is due. -/
def saveStill (capture : Capture δ) : Capture δ :=
  match capture.feed.stills with
  | none => capture
  | some stills =>
    let (_, stills, disk) := stills.saveIfDue capture.host.disk capture.host.now
    { capture with
      feed := { capture.feed with stills := some stills }
      host := { capture.host with disk } }

/-- Processes a buffer. -/
def process (capture : Capture δ) (buffer : Bytes) : Capture δ :=
  let counted := { capture with
    stats := { capture.stats with
      frames := capture.stats.frames + 1
      bytes := capture.stats.bytes + buffer.length } }
  let processed := match counted.splitter with
    | some splitter => counted.processStream splitter buffer
    | none => counted.processImage buffer
  processed.saveStill

/-- What a fault of the device comes to. Only one that is not transient is counted. -/
def fault (capture : Capture δ) (error : DeviceFault) : CaptureStep × Capture δ :=
  if error.isTransient then (.retry, capture)
  else (.failed, { capture with
    stats := { capture.stats with readErrors := capture.stats.readErrors + 1 } })

/-- Reads the device once and processes what it gives. -/
def readOnce (capture : Capture δ) : CaptureStep × Capture δ :=
  let (answer, device) := Device.read capture.device capture.room
  let capture := { capture with device }
  match answer with
  | .error error => capture.fault error
  | .ok [] =>
    if Device.isFinished device then (.finished, capture)
    else (.empty, { capture with
      stats := { capture.stats with emptyReads := capture.stats.emptyReads + 1 } })
  | .ok buffer => (.frame buffer.length, capture.process buffer)

/-- Waits for the device for at most `timeout`, and reads it if it has something. -/
def poll (capture : Capture δ) (timeout : Nat) : CaptureStep × Capture δ :=
  if Device.isFinished capture.device then (.finished, capture)
  else
    let (answer, now, device) := Device.wait capture.device capture.host.now timeout
    let capture := { capture with device, host := { capture.host with now } }
    match answer with
    | .error error => capture.fault error
    | .ok true => capture.readOnce
    | .ok false => (if Device.isFinished device then .finished else .idle, capture)

/-- Closes the recording and gives the final counters. -/
def finish (capture : Capture δ) : CaptureStats × Capture δ :=
  (capture.stats, { capture with
    recorder := .disabled
    host := (capture.recorder.finish capture.host).2 })

/-- Gives the session up, and leaves what the delivery side sees and the host. -/
def drop (capture : Capture δ) : Feed × Host :=
  (capture.feed, capture.recorder.drop capture.host)

end Capture

end VideoCapture
