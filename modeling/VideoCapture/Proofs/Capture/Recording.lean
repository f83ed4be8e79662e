import VideoCapture.Proofs.Capture.Isolation
import VideoCapture.Proofs.Recording.Session

/-!
# What a session records

A session that keeps no stills records as its splitter and its recorder do by themselves. It starts like a
`RecordingSession` (`Capture.start_mirrors`), every buffer keeps the two alike (`Capture.Mirrors.process`), and nothing
else that the session does touches the recording. So what is left at the end is what a `RecordingSession` leaves that
takes the buffers which were read (`capture_recorded`).
-/

namespace VideoCapture

/-- The session is called for what is its own business: it is polled, or it reads its device. -/
def CaptureCall.IsOwn : CaptureCall → Prop
  | poll _ | read => True
  | finish | elsewhere _ => False

namespace Capture

variable {δ : Type} {capture : Capture δ} {shape : PictureShape} {session : RecordingSession}

/-- A session without stills has come to the same recording as a `RecordingSession` on pictures of a shape. -/
structure Mirrors (capture : Capture δ) (shape : PictureShape) (session : RecordingSession) : Prop where
  splitter : capture.splitter = some session.splitter
  recorder : capture.recorder = session.recorder
  disk : capture.host.disk = session.host.disk
  registry : capture.host.registry = session.host.registry
  no_stills : capture.feed.stills = none
  shape_eq : ⟨capture.feed.source.format.width, capture.feed.source.format.height,
    capture.feed.source.format.fps⟩ = shape

/-- The hosts of the two differ by their clocks at most. -/
lemma Mirrors.host (mirrors : capture.Mirrors shape session) :
    { session.host with now := capture.host.now } = capture.host := by
  show Host.mk session.host.disk session.host.registry capture.host.now = capture.host
  rw [← mirrors.disk, ← mirrors.registry]

/-- The device and the clock are no matter of the recording. -/
lemma Mirrors.later (mirrors : capture.Mirrors shape session) (device : δ) (now : Nat) :
    Mirrors { capture with device, host := { capture.host with now } } shape session :=
  ⟨mirrors.splitter, mirrors.recorder, mirrors.disk, mirrors.registry, mirrors.no_stills, mirrors.shape_eq⟩

/-- A session that keeps no stills has none to save. -/
lemma saveStill_of_none (no_stills : capture.feed.stills = none) : capture.saveStill = capture := by
  rw [saveStill, no_stills]

/-- A fault of the device is counted at most. -/
lemma Mirrors.fault (mirrors : capture.Mirrors shape session) (error : DeviceFault) :
    (capture.fault error).2.Mirrors shape session := by
  obtain ⟨splitter, recorder, disk, registry, no_stills, shape_eq⟩ := mirrors
  unfold Capture.fault
  split <;> exact ⟨splitter, recorder, disk, registry, no_stills, shape_eq⟩

/-- A buffer is split and recorded, at the time at which it is processed. -/
lemma Mirrors.process (mirrors : capture.Mirrors shape session) (buffer : Bytes) :
    (capture.process buffer).Mirrors shape (session.take shape (capture.host.now, buffer)) := by
  have host := mirrors.host
  obtain ⟨stream, recorder, -, -, no_stills, shape_eq⟩ := mirrors
  have still_none : (capture.feed.stills.map fun stills =>
      stills.observe (session.splitter.split buffer).2 (session.splitter.split buffer).1) = none := by
    rw [no_stills, Option.map_none]
  rw [Capture.process, stream]
  dsimp only
  rw [saveStill_of_none still_none, RecordingSession.take, host, ← recorder, ← shape_eq]
  exact ⟨rfl, rfl, rfl, rfl, still_none, rfl⟩

variable [Device δ]

/-- A read records what it gives. -/
lemma Mirrors.readOnce (mirrors : capture.Mirrors shape session) :
    ∃ stamped : List (Nat × Bytes),
      stamped.map Prod.snd = (Reading.ofAnswer (Device.read capture.device capture.room).1).buffer?.toList ∧
      capture.readOnce.2.Mirrors shape (session.run shape stamped) := by
  unfold Capture.readOnce
  rcases Device.read capture.device capture.room with ⟨error | buffer, device⟩
  · exact ⟨[], rfl, (mirrors.later device capture.host.now).fault error⟩
  cases buffer with
  | nil =>
    refine ⟨[], rfl, ?_⟩
    have same := mirrors.later device capture.host.now
    dsimp only
    split
    · exact same
    · exact ⟨same.splitter, same.recorder, same.disk, same.registry, same.no_stills, same.shape_eq⟩
  | cons byte rest =>
    exact ⟨[(capture.host.now, byte :: rest)], rfl, (mirrors.later device capture.host.now).process (byte :: rest)⟩

/-- Whatever the session is called for of its own, it records what the device gives. -/
lemma Mirrors.perform (mirrors : capture.Mirrors shape session) {call : CaptureCall} (own : call.IsOwn) :
    ∃ stamped : List (Nat × Bytes), stamped.map Prod.snd = (capture.reading call).buffer?.toList ∧
      (capture.perform call).Mirrors shape (session.run shape stamped) := by
  cases call with
  | finish => exact own.elim
  | elsewhere host => exact own.elim
  | read => exact mirrors.readOnce
  | poll timeout =>
    unfold reading Capture.perform poll
    dsimp only
    split
    · exact ⟨[], rfl, mirrors⟩
    rcases Device.wait capture.device capture.host.now timeout with ⟨error | answer, now, device⟩
    · exact ⟨[], rfl, (mirrors.later device now).fault error⟩
    cases answer with
    | true => exact (mirrors.later device now).readOnce
    | false => exact ⟨[], rfl, mirrors.later device now⟩

/-- Through all of its own calls, the session records the buffers that it reads. -/
lemma Mirrors.performAll (mirrors : capture.Mirrors shape session) {calls : List CaptureCall}
    (own : ∀ call ∈ calls, call.IsOwn) :
    ∃ stamped : List (Nat × Bytes), stamped.map Prod.snd = capture.buffers calls ∧
      (capture.performAll calls).Mirrors shape (session.run shape stamped) := by
  induction calls generalizing capture session with
  | nil => exact ⟨[], rfl, mirrors⟩
  | cons call rest ih =>
    obtain ⟨own, own'⟩ := List.forall_mem_cons.mp own
    obtain ⟨first, read, next⟩ := mirrors.perform own
    obtain ⟨later, read', last⟩ := ih next own'
    refine ⟨first ++ later, ?_, ?_⟩
    · rw [List.map_append, read, read', buffers_cons]
    · rw [RecordingSession.run_append]
      exact last

/-- A session that records a video stream and keeps no stills starts like a `RecordingSession`. -/
lemma start_mirrors {device : δ} {config : CaptureConfig} {recording : RecordingConfig} {codec : Codec}
    (video : (Device.format device).pixelFormat = .video codec) (records : config.recording = some recording)
    (no_stills : config.stills = none) (host : Host) :
    (start device config host).Mirrors
      ⟨(Device.format device).width, (Device.format device).height, (Device.format device).fps⟩
      (RecordingSession.start codec config.repeatSets recording host) := by
  refine ⟨?_, ?_, rfl, rfl, ?_, rfl⟩
  · rw [start, video]
    rfl
  · rw [start, records]
    rfl
  · rw [start, no_stills]
    rfl

end Capture

/-- A session on any device that records a video stream and keeps no stills, and is polled and read in any way. Its
splitter and its recorder are those of a `RecordingSession` that takes the buffers which the device gives, in their
order and at the times at which they are processed, and the end of the recording leaves the same host. -/
theorem capture_recorded {δ : Type} [Device δ] {device : δ} {config : CaptureConfig} {recording : RecordingConfig}
    {codec : Codec} (video : (Device.format device).pixelFormat = .video codec)
    (records : config.recording = some recording) (no_stills : config.stills = none) (host : Host)
    {calls : List CaptureCall} (own : ∀ call ∈ calls, call.IsOwn) :
    let format := Device.format device
    let started := Capture.start device config host
    let reached := started.performAll calls
    ∃ stamped : List (Nat × Bytes), stamped.map Prod.snd = started.buffers calls ∧
      let session := (RecordingSession.start codec config.repeatSets recording host).run
        ⟨format.width, format.height, format.fps⟩ stamped
      reached.splitter = some session.splitter ∧ reached.recorder = session.recorder ∧
        reached.finish.2.host = (session.finish reached.host.now).2 := by
  intro format started reached
  obtain ⟨stamped, read, mirrors⟩ := (Capture.start_mirrors video records no_stills host).performAll own
  refine ⟨stamped, read, mirrors.splitter, mirrors.recorder, ?_⟩
  rw [RecordingSession.finish, mirrors.host, ← mirrors.recorder]
  rfl

end VideoCapture
