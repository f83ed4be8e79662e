import VideoCapture.Proofs.Capture.Published

/-!
# What a session depends on

All that a session delivers, publishes and counts follows from the buffers it reads. The rest of it, which is the
device, the recording, the saving of stills and the host with its disk, never finds a way back: the part that shows
(`Capture.Core`) takes one buffer after the other, and nothing else that can happen to the session touches it
(`core_performAll`). Hence two sessions that read the same buffers show the same, whatever else sets them apart
(`session_isolated`).
-/

namespace VideoCapture

namespace StillStore

variable (store : StillStore)

/-- The store as if no still was ever saved or to be saved. -/
def unsaved : StillStore where
  config := { width := store.config.width, height := store.config.height, fps := store.config.fps }
  latest := store.latest
  count := store.count

/-- An observed frame leaves the same still whether stills are saved or not. -/
lemma unsaved_observe (splitter : Splitter) (frame : SplitFrame) :
    (store.observe splitter frame).unsaved = store.unsaved.observe splitter frame := by
  -- the file of the still is the same for both stores
  have same : (store.unsaved.putKeyframe splitter.codec splitter.sets frame.accessUnit).toOption =
      (store.putKeyframe splitter.codec splitter.sets frame.accessUnit).toOption.map unsaved := by
    unfold putKeyframe
    show (Except.toOption (Still.file ⟨_, _, store.config.width, store.config.height, store.config.fps⟩ _ >>= _)) = _
    cases Still.file ⟨splitter.codec, splitter.sets, store.config.width, store.config.height, store.config.fps⟩
      frame.accessUnit with
    | error error => rfl
    | ok file => rfl
  unfold observe
  split
  · rw [same]
    cases (store.putKeyframe splitter.codec splitter.sets frame.accessUnit).toOption <;> rfl
  · rfl

/-- Saving a still changes nothing about a store but what it remembers of saving. -/
lemma unsaved_saveIfDue (disk : Disk) (now : Nat) : (store.saveIfDue disk now).2.1.unsaved = store.unsaved := by
  unfold saveIfDue
  split
  · dsimp only
    split <;> rfl
  · rfl

end StillStore

namespace Capture

/-- The part of a session that shows: what is delivered, published and counted of its buffers. -/
structure Core where
  splitter : Option Splitter
  source : VideoSource
  stills : Option StillStore
  frames : Nat
  keyframes : Nat
  bytes : Nat
  unitsPosted : Nat

namespace Core

/-- The units that a buffer brings. -/
def units (core : Core) (buffer : Bytes) : List Bytes :=
  match core.splitter with
  | some splitter => (splitter.split buffer).1.units
  | none => [buffer]

/-- The core after a buffer. -/
def take (core : Core) (buffer : Bytes) : Core :=
  match core.splitter with
  | some splitter =>
    let (frame, splitter) := splitter.split buffer
    { splitter := some splitter
      source := publish core.source splitter frame
      stills := core.stills.map fun stills => stills.observe splitter frame
      frames := core.frames + 1
      keyframes := core.keyframes + if frame.accessUnit.isKeyframe then 1 else 0
      bytes := core.bytes + buffer.length
      unitsPosted := core.unitsPosted + frame.units.length }
  | none =>
    { core with
      stills := core.stills.map fun stills => stills.put .jpeg buffer
      frames := core.frames + 1
      keyframes := core.keyframes + 1
      bytes := core.bytes + buffer.length
      unitsPosted := core.unitsPosted + 1 }

/-- The units of a buffer are counted. -/
lemma unitsPosted_take (core : Core) (buffer : Bytes) :
    (core.take buffer).unitsPosted = core.unitsPosted + (core.units buffer).length := by
  unfold take units
  cases core.splitter <;> rfl

end Core

variable {δ ε : Type}

/-- The core of a session. -/
def core (capture : Capture δ) : Core where
  splitter := capture.splitter
  source := capture.feed.source
  stills := capture.feed.stills.map StillStore.unsaved
  frames := capture.stats.frames
  keyframes := capture.stats.keyframes
  bytes := capture.stats.bytes
  unitsPosted := capture.stats.unitsPosted

/-- Saving the latest still changes nothing about the stills but what they remember of saving. -/
lemma saveStill_stills (capture : Capture δ) :
    capture.saveStill.feed.stills.map StillStore.unsaved = capture.feed.stills.map StillStore.unsaved := by
  unfold saveStill
  cases stored : capture.feed.stills with
  | none => exact congrArg (Option.map _) stored
  | some stills => exact congrArg some (stills.unsaved_saveIfDue capture.host.disk capture.host.now)

/-- Saving the latest still leaves the core alone. -/
lemma core_saveStill (capture : Capture δ) : capture.saveStill.core = capture.core := by
  obtain ⟨-, splitter, -, stats⟩ := saveStill_same capture
  rw [core, core, splitter, stats, saveStill_source, saveStill_stills]

/-- What a buffer does to the core depends on the core alone. -/
lemma core_process (capture : Capture δ) (buffer : Bytes) :
    (capture.process buffer).core = capture.core.take buffer := by
  obtain ⟨device, splitter, recorder, ⟨source, stills, queue⟩, host, started, stats⟩ := capture
  rw [process, core_saveStill]
  cases splitter with
  | none =>
    have stored : (stills.map fun stills => stills.put .jpeg buffer).map StillStore.unsaved =
        (stills.map StillStore.unsaved).map fun stills => stills.put .jpeg buffer := by
      cases stills <;> rfl
    exact congrArg (fun stills => Core.mk none source stills (stats.frames + 1) (stats.keyframes + 1)
      (stats.bytes + buffer.length) (stats.unitsPosted + 1)) stored
  | some splitter =>
    have stored : (stills.map fun stills => stills.observe (splitter.split buffer).2 (splitter.split buffer).1).map
          StillStore.unsaved =
        (stills.map StillStore.unsaved).map fun stills =>
          stills.observe (splitter.split buffer).2 (splitter.split buffer).1 := by
      cases stills with
      | none => rfl
      | some store => exact congrArg some (store.unsaved_observe _ _)
    exact congrArg (fun stills => Core.mk (some (splitter.split buffer).2)
      (publish source (splitter.split buffer).2 (splitter.split buffer).1) stills (stats.frames + 1)
      (stats.keyframes + if (splitter.split buffer).1.accessUnit.isKeyframe then 1 else 0)
      (stats.bytes + buffer.length) (stats.unitsPosted + (splitter.split buffer).1.units.length)) stored

/-- What becomes of an image, whatever the recorder and the stills do with it. -/
lemma process_image {capture : Capture δ} (images : capture.splitter = none) (image : Bytes) :
    let next := capture.process image
    next.device = capture.device ∧
      (∃ timestamp, next.feed.queue = capture.feed.queue.push ⟨image, timestamp⟩) ∧
      next.stats = { capture.stats with
        frames := capture.stats.frames + 1
        bytes := capture.stats.bytes + image.length
        keyframes := capture.stats.keyframes + 1
        unitsPosted := capture.stats.unitsPosted + 1 } := by
  intro next
  let counted : Capture δ := { capture with
    stats := { capture.stats with
      frames := capture.stats.frames + 1
      bytes := capture.stats.bytes + image.length } }
  have processed : next = (counted.processImage image).saveStill := by
    simp only [next, process, images, counted]
  obtain ⟨device, -, queue, stats⟩ := saveStill_same (counted.processImage image)
  rw [← processed] at device queue stats
  exact ⟨device, ⟨_, queue⟩, stats⟩

/-- A buffer brings its units to the queue. -/
lemma queue_process (capture : Capture δ) (buffer : Bytes) :
    ∃ posted : List QueuedFrame, posted.map QueuedFrame.data = capture.core.units buffer ∧
      (capture.process buffer).feed.queue = posted.foldl FrameQueue.push capture.feed.queue := by
  cases stream : capture.splitter with
  | none =>
    obtain ⟨-, ⟨timestamp, queue⟩, -⟩ := process_image stream buffer
    refine ⟨[⟨buffer, timestamp⟩], ?_, queue⟩
    rw [Core.units, core, stream]
    rfl
  | some splitter =>
    obtain ⟨-, -, ⟨timestamp, queue⟩, -⟩ := process_stream capture stream buffer
    refine ⟨_, ?_, queue⟩
    rw [Core.units, core, stream, List.map_map]
    exact List.map_id _

/-- A buffer is no trouble, and does not concern the device any more. -/
lemma troubles_process (capture : Capture δ) (buffer : Bytes) :
    (capture.process buffer).device = capture.device ∧
      (capture.process buffer).stats.readErrors = capture.stats.readErrors ∧
      (capture.process buffer).stats.emptyReads = capture.stats.emptyReads := by
  cases stream : capture.splitter with
  | none =>
    obtain ⟨device, -, stats⟩ := process_image stream buffer
    exact ⟨device, by rw [stats], by rw [stats]⟩
  | some splitter =>
    obtain ⟨device, -, -, stats⟩ := process_stream capture stream buffer
    exact ⟨device, by rw [stats], by rw [stats]⟩

variable [Device δ] [Device ε]

/-- What a device gives to a session in one call. -/
inductive Reading where
  /-- It was not read. -/
  | unread
  | fault (error : DeviceFault)
  /-- It was read, and gave a buffer, which may be empty. -/
  | data (buffer : Bytes)
  deriving DecidableEq, Repr

namespace Reading

/-- The answer of a device that was read. -/
def ofAnswer : Except DeviceFault Bytes → Reading
  | .error error => fault error
  | .ok buffer => data buffer

/-- The buffer that was read, if there was a byte in it. -/
def buffer? : Reading → Option Bytes
  | data (byte :: rest) => some (byte :: rest)
  | data [] | fault _ | unread => none

/-- Whether it is an error for which trying again is not all there is to do. -/
def isError : Reading → Bool
  | fault error => !error.isTransient
  | data _ | unread => false

/-- Whether no byte was read. -/
def isEmpty : Reading → Bool
  | data buffer => buffer.isEmpty
  | fault _ | unread => false

end Reading

/-- What the device gives when a session is called. -/
def reading (capture : Capture δ) : CaptureCall → Reading
  | .poll timeout =>
    if Device.isFinished capture.device then .unread
    else match Device.wait capture.device capture.host.now timeout with
      | (.error error, _, _) => .fault error
      | (.ok false, _, _) => .unread
      | (.ok true, _, device) => .ofAnswer (Device.read device { capture with device }.room).1
  | .read => .ofAnswer (Device.read capture.device capture.room).1
  | .finish | .elsewhere _ => .unread

/-- All that a call can come to. -/
inductive Meets (capture : Capture δ) : Reading → Capture δ → Prop where
  | unread {device recorder host} : Meets capture .unread { capture with device, recorder, host }
  | retried {error device host} : error.isTransient = true →
    Meets capture (.fault error) { capture with device, host }
  | failed {error device host} : error.isTransient = false →
    Meets capture (.fault error) { capture with
      device, host, stats := { capture.stats with readErrors := capture.stats.readErrors + 1 } }
  | finished {device host} : Device.isFinished device = true →
    Meets capture (.data []) { capture with device, host }
  | empty {device host} : Device.isFinished device = false →
    Meets capture (.data []) { capture with
      device, host, stats := { capture.stats with emptyReads := capture.stats.emptyReads + 1 } }
  | processed {byte rest device host} :
    Meets capture (.data (byte :: rest)) (process { capture with device, host } (byte :: rest))

/-- A fault of the device is one of the cases, depending on whether it is transient. -/
lemma fault_meets (capture : Capture δ) (device : δ) (host : Host) (error : DeviceFault) :
    capture.Meets (.fault error) (fault { capture with device, host } error).2 := by
  unfold fault
  cases transient : error.isTransient with
  | true => exact .retried transient
  | false => exact .failed transient

/-- A read is one of the cases, depending on what the device answers. -/
lemma readOnce_meets (capture : Capture δ) (device : δ) (host : Host) :
    capture.Meets (.ofAnswer (Device.read device (room { capture with device, host })).1)
      (readOnce { capture with device, host }).2 := by
  unfold readOnce
  dsimp only
  rcases Device.read device (room { capture with device, host }) with ⟨error | buffer, after⟩
  · exact fault_meets capture after host error
  cases buffer with
  | nil =>
    dsimp only
    cases finished : Device.isFinished after with
    | true => exact .finished finished
    | false => exact .empty finished
  | cons byte rest => exact .processed

/-- Every call is one of the cases. -/
lemma meets (capture : Capture δ) (call : CaptureCall) :
    capture.Meets (capture.reading call) (capture.perform call) := by
  cases call with
  | finish => exact .unread
  | elsewhere host => exact .unread
  | read => exact readOnce_meets capture capture.device capture.host
  | poll timeout =>
    show capture.Meets (capture.reading (.poll timeout)) (capture.poll timeout).2
    unfold reading Capture.poll
    cases finished : Device.isFinished capture.device with
    | true => exact .unread
    | false =>
      dsimp only
      rw [if_neg Bool.false_ne_true, if_neg Bool.false_ne_true]
      rcases Device.wait capture.device capture.host.now timeout with ⟨error | answer, now, device⟩
      · exact fault_meets capture device { capture.host with now } error
      cases answer with
      | true => exact readOnce_meets capture device { capture.host with now }
      | false => exact .unread

namespace Meets

variable {capture next : Capture δ} {reading : Reading}

/-- A call takes the core on by the buffer that is read, if there is one. -/
lemma core (meets : capture.Meets reading next) :
    next.core = reading.buffer?.elim capture.core capture.core.take := by
  cases meets with
  | unread => rfl
  | retried _ => rfl
  | failed _ => rfl
  | finished _ => rfl
  | empty _ => rfl
  | processed => exact core_process _ _

/-- A call posts the units of the buffer that is read, if there is one. -/
lemma queue (meets : capture.Meets reading next) :
    ∃ posted : List QueuedFrame, posted.map QueuedFrame.data = reading.buffer?.elim [] capture.core.units ∧
      next.feed.queue = posted.foldl FrameQueue.push capture.feed.queue := by
  cases meets with
  | unread => exact ⟨[], rfl, rfl⟩
  | retried _ => exact ⟨[], rfl, rfl⟩
  | failed _ => exact ⟨[], rfl, rfl⟩
  | finished _ => exact ⟨[], rfl, rfl⟩
  | empty _ => exact ⟨[], rfl, rfl⟩
  | @processed byte rest device host => exact queue_process { capture with device, host } (byte :: rest)

/-- A call counts an error if it meets one. -/
lemma readErrors (meets : capture.Meets reading next) :
    next.stats.readErrors = capture.stats.readErrors + reading.isError.toNat := by
  cases meets with
  | unread => rfl
  | retried transient => rw [Reading.isError, transient]; rfl
  | failed lasting => rw [Reading.isError, lasting]; rfl
  | finished _ => rfl
  | empty _ => rfl
  | processed => exact (troubles_process _ _).2.1

/-- A call counts an empty read if it meets one on a device that goes on. -/
lemma emptyReads (meets : capture.Meets reading next) (unfinished : Device.isFinished next.device = false) :
    next.stats.emptyReads = capture.stats.emptyReads + reading.isEmpty.toNat := by
  cases meets with
  | unread => rfl
  | retried _ => rfl
  | failed _ => rfl
  | finished finished => cases finished.symm.trans unfinished
  | empty _ => rfl
  | processed => exact (troubles_process _ _).2.2

end Meets

/-- What the device gives to a session, call by call. -/
def readings (capture : Capture δ) : List CaptureCall → List Reading
  | [] => []
  | call :: rest => capture.reading call :: (capture.perform call).readings rest

/-- The buffers that a session reads. -/
def buffers (capture : Capture δ) (calls : List CaptureCall) : List Bytes :=
  (capture.readings calls).filterMap Reading.buffer?

/-- The buffers of calls are the one of the first call, if it reads one, and those of the others. -/
lemma buffers_cons (capture : Capture δ) (call : CaptureCall) (rest : List CaptureCall) :
    capture.buffers (call :: rest) = (capture.reading call).buffer?.toList ++ (capture.perform call).buffers rest := by
  rw [buffers, readings, List.filterMap_cons]
  cases (capture.reading call).buffer? <;> rfl

end Capture

end VideoCapture
