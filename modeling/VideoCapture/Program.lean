import VideoCapture.Capture.Worker
import VideoCapture.Delivery.SessionDescription
import VideoCapture.Device.Replay
import VideoCapture.Program.Arguments
import VideoCapture.Program.Memory

/-!
# The program

Replays a recorded stream through a capture session, records it and keeps stills, as the command line asks
for. The session description is printed as soon as the codec's parameters are known, and in the end a line
with what was captured and delivered.

The session runs in the foreground, where the description can be printed after each step, or in a worker,
on which the program looks from time to time until the worker has finished.

Memory for the queue and for the write buffer of a recording is taken at once. A run that asks for more
than it can have ends where it asks.
-/

namespace VideoCapture

/-- How the program ends. -/
inductive ProgramEnd where
  | exit (code : Nat)
  /-- It is killed, and has no exit code. -/
  | killed
  deriving DecidableEq, Repr

/-- What a run of the program leaves behind, its files apart. -/
structure ProgramResult where
  ending : ProgramEnd
  stdout : String := ""
  stderr : String := ""
  deriving DecidableEq, Repr

namespace ProgramResult

/-- The exit code of a run that failed. -/
def failureCode : Nat := 1

/-- The exit code of a run with arguments that were not understood. -/
def usageCode : Nat := 2

/-- The exit code of a run that broke off. -/
def abortCode : Nat := 101

/-- The result of a run to which memory is refused. A worker that asks for too large a piece fails alone,
and the program reports that. -/
def refused (fault : MemoryFault) (byWorker : Bool) (printed : String) : ProgramResult where
  ending := match fault with
    | .oversized => .exit (if byWorker then failureCode else abortCode)
    | .exhausted _ => .killed
  stdout := printed
  stderr := fault.message ++ "\n"

end ProgramResult

namespace Arguments

/-- The agreed format of the replayed stream. -/
def videoFormat (args : Arguments) : VideoFormat :=
  ⟨args.width, args.height, args.fps, args.format⟩

/-- The settings of the capture session. -/
def captureConfig (args : Arguments) : CaptureConfig where
  repeatSets := args.repeatSets
  recording := args.record.map fun path =>
    { path
      tuning := {
        bufferLimit := args.writeBuffer * 1024 % 0x10000000000000000
        flushInterval := args.flushInterval * 1000000 } }
  stills := args.stillDirectory.map fun directory =>
    { directory := some directory, interval := args.stillInterval }
  queueDepth := args.queueDepth

end Arguments

/-- A run of the program while the stream is being replayed. -/
structure Playback where
  capture : Capture Replay
  session : SessionConfig
  cooperative : Bool
  /-- When the program looks at the worker again. -/
  nextLook : Nat
  /-- Whether the session description was printed. -/
  announced : Bool := false
  /-- The number of units that the delivery side has taken. -/
  delivered : Nat := 0
  printed : String := ""

/-- How a run goes on after a step. -/
inductive Outlook where
  | running
  /-- The stream is at its end. -/
  | finished
  /-- Memory for what comes next is refused. -/
  | refused (fault : MemoryFault)
  deriving DecidableEq, Repr

namespace Playback

/-- The longest wait for the device, and the time between two looks at the worker. -/
def pollTimeout : Nat := 100000000

/-- Whether everything is known that the description of a source needs. -/
def isReady (source : VideoSource) : Bool :=
  source.format.pixelFormat = .mjpeg || source.parameters.isSome

/-- Prints the session description of a source, once and as soon as it is ready. -/
def announce (playback : Playback) (source : VideoSource) : Playback :=
  if !playback.announced && isReady source then
    { playback with
      announced := true
      printed := playback.printed ++ SessionDescription.text source playback.session ++ "\n" }
  else playback

/-- Lets the delivery side take everything that is queued. -/
def deliver (playback : Playback) : Playback :=
  let (taken, queue) := playback.capture.feed.queue.drain
  { playback with
    delivered := playback.delivered + taken.length
    capture := { playback.capture with feed := { playback.capture.feed with queue } } }

/-- A run that begins now. -/
def start (capture : Capture Replay) (args : Arguments) : Playback :=
  let playback : Playback := {
    capture
    session := { payloadType := args.payloadType }
    cooperative := args.cooperative
    nextLook := capture.host.now + pollTimeout }
  if args.cooperative then playback else playback.announce capture.feed.source

/-- Why a step that began a recording got no memory for its write buffer, and the host as it is then: the
file was created and begun, and that was all. -/
def refusal? (before after : Capture Replay) : Option (MemoryFault × Host) :=
  match before.recorder, after.recorder.muxerId?.bind after.host.registry.muxer? with
  | .pending config, some muxer =>
    match muxer.streaming?, Memory.request config.tuning.bufferLimit with
    | some s, .error fault =>
      let now := before.host.now
      let disk := (Muxer.create before.host.disk now config.path config.tuning s.track).2
      some (fault, { before.host with disk })
    | _, _ => none
  | _, _ => none

/-- One poll of the session. A worker goes on while the program sleeps, so a look that falls into the time
of a wait sees what was there before it. -/
def step (playback : Playback) : Outlook × Playback :=
  let source := playback.capture.feed.source
  match playback.capture.poll pollTimeout with
  | (.finished, capture) => (.finished, { playback with capture })
  | (_, capture) =>
    match refusal? playback.capture capture with
    | some (fault, host) => (.refused fault, { playback with capture := { playback.capture with host } })
    | none =>
      let next := { playback with capture }
      if playback.cooperative then (.running, (next.announce capture.feed.source).deliver)
      else if playback.nextLook < capture.host.now then
        let look := playback.nextLook + pollTimeout
        (.running, ({ next with nextLook := look }.announce source).deliver)
      else (.running, next.deliver)

/-- At most `polls` polls, up to the end of the run. -/
def run : (polls : Nat) → Playback → Outlook × Playback
  | 0, playback => (.running, playback)
  | polls + 1, playback =>
    match playback.step with
    | (.running, playback) => run polls playback
    | ended => ended

/-- A number of polls that is enough to replay a stream once: each frame takes one, and more while it is
waited for. -/
def enoughPolls (replay : Replay) : Nat :=
  (replay.frameCount + 1) * (replay.frameInterval / pollTimeout + 3)

/-- The line with the counters of a run. -/
def report (stats : CaptureStats) (delivered dropped : Nat) : String :=
  s!"{stats.frames} frames ({stats.keyframes} keyframes, {stats.bytes} bytes), " ++
    s!"{delivered} units delivered, {dropped} dropped, {stats.readErrors} read errors\n"

/-- The end of a run whose stream is at its end: the recording is closed, and the counters are printed. -/
def close (playback : Playback) : ProgramResult × Host :=
  let playback := playback.deliver
  let (stats, feed, host) := playback.capture.retire
  ({ ending := .exit 0
     stdout := playback.printed ++ report stats playback.delivered feed.queue.dropped }, host)

/-- The end of a run. -/
def result : Outlook × Playback → ProgramResult × Host
  | (.refused fault, playback) =>
    (.refused fault (!playback.cooperative) playback.printed, playback.capture.host)
  | (_, playback) => playback.close

end Playback

namespace Program

/-- What is printed for help. -/
def usage : String :=
  "Replay a camera stream: split NAL units, record MP4, keep snapshots\n\n" ++
  "Usage: [OPTIONS] <INPUT>\n"

/-- Opens the stream that the arguments ask for, or tells why that fails. -/
def open? (args : Arguments) (host : Host) : Except ProgramResult Playback × Host :=
  match Replay.openFile host.disk args.input args.videoFormat ⟨args.looping, args.paced⟩ host.now with
  | (.error error, disk) =>
    (.error {
        ending := .exit ProgramResult.failureCode
        stderr := s!"Failed to open {args.input}: {error.message}\n" },
      { host with disk })
  | (.ok replay, disk) =>
    let host := { host with disk }
    match Memory.request (args.queueDepth * FrameQueue.unitSize) with
    | .error fault => (.error (.refused fault false ""), host)
    | .ok () => (.ok (Playback.start (Capture.start replay args.captureConfig host) args), host)

/-- Runs the program on a host, up to the end of the stream. -/
def run (texts : List String) (host : Host) : ProgramResult × Host :=
  match Arguments.parse texts with
  | .help => ({ ending := .exit 0, stdout := usage }, host)
  | .invalid => ({ ending := .exit ProgramResult.usageCode, stderr := usage }, host)
  | .run args =>
    match open? args host with
    | (.error result, host) => (result, host)
    | (.ok playback, _) => Playback.result (playback.run (Playback.enoughPolls playback.capture.device))

end Program

end VideoCapture
