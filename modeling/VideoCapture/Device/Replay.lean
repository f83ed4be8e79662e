import VideoCapture.Device
import VideoCapture.Device.Frames
import VideoCapture.Disk

/-!
# Replayed files

A device that delivers the frames of a recorded file, one for each read, once or over and over, and as
fast as they are read or at the frame rate of the camera.
-/

namespace VideoCapture

/-- How a file is replayed. -/
structure ReplayOptions where
  /-- Whether the first frame follows the last one. -/
  looping : Bool := false
  /-- Whether each frame is held back until its time has come. -/
  paced : Bool := true
  deriving DecidableEq, Repr

/-- A recorded file that is replayed. -/
structure Replay where
  frames : Array Bytes
  /-- The length of the longest frame. -/
  bufferSize : Nat
  format : VideoFormat
  options : ReplayOptions
  /-- The number of frames read since the start or the last restart. -/
  next : Nat := 0
  /-- When the next frame is due. -/
  nextDue : Nat
  deriving DecidableEq, Repr

namespace Replay

/-- The number of nanoseconds in a second. -/
def second : Nat := 1000000000

/-- The time between two frames. -/
def frameInterval (replay : Replay) : Nat :=
  second / replay.format.fps

/-- The frames of a recorded stream. -/
def framesOf (format : PixelFormat) (data : Bytes) : List Bytes :=
  let spans := match format with
    | .video codec => Frames.accessUnits codec data
    | .mjpeg => Frames.images data
  Span.slices spans data

/-- The length of the longest one of some frames. -/
def longest (frames : List Bytes) : Nat :=
  (frames.map List.length).foldl max 0

/-- Replays a recorded stream from the time `now` on. -/
def ofBytes (data : Bytes) (format : VideoFormat) (options : ReplayOptions) (now : Nat) :
    Except CaptureError Replay :=
  let frames := framesOf format.pixelFormat data
  if frames.isEmpty then .error (.device (.noFrames format.pixelFormat.name data.length))
  else if format.fps = 0 then .error (.device .noFrameRate)
  else .ok { frames := frames.toArray, bufferSize := longest frames, format, options, nextDue := now }

/-- Replays the file at a path. -/
def openFile (disk : Disk) (path : String) (format : VideoFormat) (options : ReplayOptions)
    (now : Nat) : Except CaptureError Replay × Disk :=
  match disk.read path with
  | (.error error, disk) => (.error (.file error), disk)
  | (.ok data, disk) => (ofBytes data format options now, disk)

/-- The number of frames in the file. -/
def frameCount (replay : Replay) : Nat :=
  replay.frames.size

/-- Whether all frames were read and none follows. -/
def isFinished (replay : Replay) : Bool :=
  !replay.options.looping && replay.frames.size ≤ replay.next

/-- Reads the next frame into a buffer with room for `room` bytes. A frame for which there is no room
stays the next one. -/
def read (replay : Replay) (room : Nat) : Except DeviceFault Bytes × Replay :=
  if replay.isFinished then (.ok [], replay)
  else
    let replay := if replay.frames.size ≤ replay.next then { replay with next := 0 } else replay
    match replay.frames[replay.next]? with
    | none => (.ok [], replay)
    | some frame =>
      if room < frame.length then (.error (.noRoom room frame.length), replay)
      else (.ok frame, { replay with
        next := replay.next + 1
        nextDue := replay.nextDue + replay.frameInterval })

/-- Waits until the next frame is due. A replay that fell behind by more than a frame does not catch
up. -/
def wait (replay : Replay) (now timeout : Nat) : Bool × Nat × Replay :=
  if replay.isFinished then (false, now, replay)
  else if !replay.options.paced then (true, now, replay)
  else if replay.nextDue ≤ now then
    if replay.frameInterval < now - replay.nextDue then (true, now, { replay with nextDue := now })
    else (true, now, replay)
  else
    let later := now + min (replay.nextDue - now) timeout
    (decide (replay.nextDue ≤ later), later, replay)

instance : Device Replay where
  format := format
  bufferSize := bufferSize
  isFinished := isFinished
  wait replay now timeout :=
    let (ready, later, replay) := replay.wait now timeout
    (.ok ready, later, replay)
  read := read

end Replay

end VideoCapture
