import Mathlib.Data.List.TakeDrop
import VideoCapture.Device.Replay
import VideoCapture.Proofs.Device.Frames
import VideoCapture.Proofs.Device.Images

/-!
# Reading a replay

Whatever reads and waits a replay has seen, the frames that it gave are the first ones of its file in order, once or over
and over (`Replay.Reached`), and it awaits the reading of a certain frame (`Replay.Awaits`) until there is room for it. As
no frame is empty, an empty answer means that the replay is over (`reads_in_order`).
-/

namespace VideoCapture.Replay

/-- What is asked of a replay. -/
inductive Call where
  | wait (now timeout : Nat)
  | read (room : Nat)

/-- How much room there is for what is read. -/
def Call.room? : Call → Option Nat
  | .wait _ _ => none
  | .read room => some room

/-- Makes calls one after the other, and gives the answers to those that read. -/
def perform (replay : Replay) : List Call → List (Except DeviceFault Bytes) × Replay
  | [] => ([], replay)
  | .wait now timeout :: calls => (replay.wait now timeout).2.2.perform calls
  | .read room :: calls =>
    let (answer, replay) := replay.read room
    let (answers, replay) := replay.perform calls
    (answer :: answers, replay)

/-- The frame that an answer brings, if it brings one. -/
def frame? : Except DeviceFault Bytes → Option Bytes
  | .ok [] => none
  | .ok frame => some frame
  | .error _ => none

/-- Frames that are taken in order from the first one on: once, or over and over. -/
def InOrder (looping : Bool) (frames taken : List Bytes) : Prop :=
  ∃ passes, (looping = false → passes = 1) ∧ taken <+: (List.replicate passes frames).flatten

/-- The largest of some lengths is not below any of them, nor below the one to begin with. -/
lemma le_foldl_max (lengths : List Nat) (least : Nat) :
    least ≤ lengths.foldl max least ∧ ∀ length ∈ lengths, length ≤ lengths.foldl max least := by
  induction lengths generalizing least with
  | nil => exact ⟨Nat.le_refl _, List.forall_mem_nil _⟩
  | cons first rest ih =>
    obtain ⟨above, all⟩ := ih (max least first)
    exact ⟨Nat.le_trans (Nat.le_max_left _ _) above,
      List.forall_mem_cons.mpr ⟨Nat.le_trans (Nat.le_max_right _ _) above, all⟩⟩

/-- No frame is longer than the longest. -/
lemma le_longest {frames : List Bytes} {frame : Bytes} (inside : frame ∈ frames) : frame.length ≤ longest frames :=
  (le_foldl_max (frames.map List.length) 0).2 _ (List.mem_map_of_mem inside)

/-- A replay begins with the first of the frames of its file. -/
lemma of_ofBytes {data : Bytes} {format : VideoFormat} {options : ReplayOptions} {now : Nat} {replay : Replay}
    (opened : ofBytes data format options now = .ok replay) :
    replay.frames.toList = framesOf format.pixelFormat data ∧
      replay.bufferSize = longest (framesOf format.pixelFormat data) ∧ replay.format = format ∧
      replay.options = options ∧ replay.next = 0 ∧ framesOf format.pixelFormat data ≠ [] := by
  unfold ofBytes at opened
  dsimp only at opened
  split at opened
  · cases opened
  · rename_i some_frame
    split at opened
    · cases opened
    · cases opened
      exact ⟨List.toList_toArray, rfl, rfl, rfl, rfl, by simpa using some_frame⟩

/-- No frame is empty, neither an access unit nor an image. -/
lemma framesOf_nonempty (format : PixelFormat) (data : Bytes) : [] ∉ framesOf format data := by
  intro empty
  unfold framesOf at empty
  dsimp only at empty
  rw [Span.slices_eq_map] at empty
  cases format with
  | video codec =>
    rcases Frames.accessUnits_tile codec data with ⟨_, _, _, _, _, tile⟩ | none_there
    · exact tile.nonempty _ empty rfl
    · dsimp only at empty
      rw [none_there] at empty
      cases empty
  | mjpeg =>
    obtain ⟨span, among, nothing⟩ := List.mem_map.mp empty
    obtain ⟨body, -, slice⟩ := Frames.images_slices data span among
    have long := Frames.length_image body
    rw [← slice, nothing] at long
    cases long

variable {replay : Replay} {frame : Bytes} {room : Nat}

/-- Where the frame stands that is read next, if any is. -/
def position (replay : Replay) : Nat :=
  if replay.frames.size ≤ replay.next then 0 else replay.next

/-- A frame is to be read next. -/
structure Awaits (replay : Replay) (frame : Bytes) : Prop where
  unfinished : replay.isFinished = false
  there : replay.frames[replay.position]? = some frame

/-- The frame at which a replay stands is awaited. -/
lemma awaits_of_next (there : replay.frames[replay.next]? = some frame) :
    replay.Awaits frame ∧ replay.position = replay.next := by
  obtain ⟨inside, -⟩ := Array.getElem?_eq_some_iff.mp there
  have unturned : replay.position = replay.next := if_neg (Nat.not_le.mpr inside)
  refine ⟨⟨?_, unturned ▸ there⟩, unturned⟩
  rw [isFinished, decide_eq_false (Nat.not_le.mpr inside), Bool.and_false]

/-- A replay that is finished gives nothing and stays as it is. -/
lemma read_finished (finished : replay.isFinished = true) (room : Nat) : replay.read room = (.ok [], replay) := by
  rw [read, finished]
  rfl

/-- The frame that is awaited is read if there is room for it, and else it is refused. -/
lemma Awaits.read (awaits : replay.Awaits frame) (room : Nat) :
    replay.read room =
      if room < frame.length then (.error (.noRoom room frame.length), { replay with next := replay.position })
      else (.ok frame, { replay with
        next := replay.position + 1
        nextDue := replay.nextDue + replay.frameInterval }) := by
  have turned : (if replay.frames.size ≤ replay.next then { replay with next := 0 } else replay) =
      { replay with next := replay.position } := by
    unfold position
    split <;> rfl
  rw [Replay.read, awaits.unfinished, if_neg Bool.false_ne_true]
  dsimp only
  rw [turned]
  dsimp only
  rw [awaits.there]
  rfl

/-- A frame for which there is room is read. -/
lemma read_frame (there : replay.frames[replay.next]? = some frame) (fits : frame.length ≤ room) :
    replay.read room = (.ok frame, { replay with
      next := replay.next + 1
      nextDue := replay.nextDue + replay.frameInterval }) := by
  obtain ⟨awaits, unturned⟩ := awaits_of_next there
  rw [awaits.read, if_neg (Nat.not_lt.mpr fits), unturned]

/-- Without pacing there is nothing to wait for. -/
lemma wait_unpaced {replay : Replay} (unfinished : replay.isFinished = false) (unpaced : replay.options.paced = false)
    (now timeout : Nat) : replay.wait now timeout = (true, now, replay) := by
  rw [wait, unfinished, unpaced]
  rfl

/-- Waiting concerns nothing but the time at which the next frame is due. -/
lemma wait_same (replay : Replay) (now timeout : Nat) :
    ∃ due, (replay.wait now timeout).2.2 = { replay with nextDue := due } := by
  unfold wait
  split
  · exact ⟨replay.nextDue, rfl⟩
  split
  · exact ⟨replay.nextDue, rfl⟩
  split
  · split
    · exact ⟨now, rfl⟩
    · exact ⟨replay.nextDue, rfl⟩
  · exact ⟨replay.nextDue, rfl⟩

/-- Waiting does not change which frame is to be read next. -/
lemma Awaits.wait (awaits : replay.Awaits frame) (now timeout : Nat) :
    (replay.wait now timeout).2.2.Awaits frame := by
  obtain ⟨due, same⟩ := replay.wait_same now timeout
  rw [same]
  exact ⟨awaits.unfinished, awaits.there⟩

/-- A frame that is refused is awaited as before. -/
lemma Awaits.refused (awaits : replay.Awaits frame) (short : room < frame.length) :
    (replay.read room).1 = .error (.noRoom room frame.length) ∧ (replay.read room).2.Awaits frame := by
  rw [awaits.read, if_pos short]
  exact ⟨rfl, (awaits_of_next awaits.there).1⟩

/-- However often a frame is refused, and whatever waits there are in between, it stays the next one. -/
lemma Awaits.perform (awaits : replay.Awaits frame) {calls : List Call}
    (short : ∀ room ∈ calls.filterMap Call.room?, room < frame.length) :
    (replay.perform calls).1 =
        (calls.filterMap Call.room?).map (fun room => .error (.noRoom room frame.length)) ∧
      (replay.perform calls).2.Awaits frame := by
  induction calls generalizing replay with
  | nil => exact ⟨rfl, awaits⟩
  | cons call calls ih =>
    cases call with
    | wait now timeout => exact ih (awaits.wait now timeout) short
    | read room =>
      obtain ⟨here, later⟩ := List.forall_mem_cons.mp short
      obtain ⟨refused, still⟩ := awaits.refused here
      obtain ⟨answers, last⟩ := ih still later
      refine ⟨?_, last⟩
      show (replay.read room).1 :: ((replay.read room).2.perform calls).1 = _
      rw [refused, answers]
      rfl

variable {frames taken : List Bytes} {looping : Bool}

/-- Some frames were taken from a replay, in order from the first one on. -/
structure Reached (frames : List Bytes) (looping : Bool) (taken : List Bytes) (replay : Replay) : Prop where
  frames_eq : replay.frames.toList = frames
  looping_eq : replay.options.looping = looping
  bufferSize_eq : replay.bufferSize = longest frames
  taken_eq : ∃ passes, (looping = false → passes = 0) ∧
    taken = (List.replicate passes frames).flatten ++ frames.take replay.next

namespace Reached

/-- A replay that was opened stands at its first frame. -/
lemma opened {data : Bytes} {format : VideoFormat} {options : ReplayOptions} {now : Nat}
    (opened : ofBytes data format options now = .ok replay) :
    Reached (framesOf format.pixelFormat data) options.looping [] replay := by
  obtain ⟨frames, bufferSize, -, options_eq, unread, -⟩ := of_ofBytes opened
  refine ⟨frames, congrArg _ options_eq, bufferSize, 0, fun _ => rfl, ?_⟩
  rw [unread]
  rfl

/-- A replay has as many frames as its data. -/
lemma size_eq (reached : Reached frames looping taken replay) : replay.frames.size = frames.length := by
  rw [← reached.frames_eq, Array.length_toList]

/-- Where a replay does not loop, all of its frames were taken if it is over, and only then. -/
lemma isFinished_iff (reached : Reached frames looping taken replay) :
    replay.isFinished = true ↔ looping = false ∧ taken = frames := by
  obtain ⟨passes, once, rfl⟩ := reached.taken_eq
  rw [isFinished, reached.looping_eq, reached.size_eq, Bool.and_eq_true, Bool.not_eq_true', decide_eq_true_iff]
  refine and_congr_right fun ends => ?_
  rw [once ends, List.replicate_zero, List.flatten_nil, List.nil_append, List.take_eq_self_iff]

/-- A replay that is not over stands at one of its frames, once it has turned back to the first one if need be. -/
lemma turned (reached : Reached frames looping taken replay) (some_frame : frames ≠ [])
    (unfinished : replay.isFinished = false) :
    replay.position < frames.length ∧ ∃ passes, (looping = false → passes = 0) ∧
      taken = (List.replicate passes frames).flatten ++ frames.take replay.position := by
  obtain ⟨passes, once, rfl⟩ := reached.taken_eq
  rw [isFinished, reached.looping_eq, reached.size_eq] at unfinished
  rw [position, reached.size_eq]
  split
  · rename_i through
    -- behind the last frame only a replay that loops goes on, and one more pass is complete
    rw [decide_eq_true through, Bool.and_true, Bool.not_eq_false'] at unfinished
    refine ⟨List.length_pos_iff.mpr some_frame, passes + 1, fun ends => ?_, ?_⟩
    · rw [unfinished] at ends
      cases ends
    · rw [List.take_of_length_le through, List.replicate_succ', List.flatten_append, List.flatten_singleton,
        List.take_zero, List.append_nil]
  · rename_i within
    exact ⟨Nat.not_le.mp within, passes, once, rfl⟩

/-- A replay that is not finished has a frame to be read next. -/
lemma awaits (reached : Reached frames looping taken replay) (some_frame : frames ≠ [])
    (unfinished : replay.isFinished = false) : ∃ frame, replay.Awaits frame := by
  obtain ⟨inside, -⟩ := reached.turned some_frame unfinished
  rw [← reached.size_eq] at inside
  exact ⟨_, unfinished, Array.getElem?_eq_getElem inside⟩

/-- The frame that is awaited is one of the frames, and it comes next. -/
lemma awaited (reached : Reached frames looping taken replay) (awaits : replay.Awaits frame) :
    frame ∈ frames ∧ Reached frames looping taken { replay with next := replay.position } ∧
      ∀ due, Reached frames looping (taken ++ [frame])
        { replay with next := replay.position + 1, nextDue := due } := by
  have there := awaits.there
  rw [← Array.getElem?_toList, reached.frames_eq] at there
  have among := List.mem_of_getElem? there
  obtain ⟨-, passes, once, taken_eq⟩ := reached.turned (List.ne_nil_of_mem among) awaits.unfinished
  refine ⟨among, ⟨reached.frames_eq, reached.looping_eq, reached.bufferSize_eq, passes, once, taken_eq⟩, fun due => ?_⟩
  refine ⟨reached.frames_eq, reached.looping_eq, reached.bufferSize_eq, passes, once, ?_⟩
  rw [taken_eq, List.take_add_one, there, List.append_assoc]
  rfl

/-- Waiting takes no frame. -/
lemma wait (reached : Reached frames looping taken replay) (now timeout : Nat) :
    Reached frames looping taken (replay.wait now timeout).2.2 := by
  obtain ⟨due, same⟩ := replay.wait_same now timeout
  rw [same]
  exact ⟨reached.frames_eq, reached.looping_eq, reached.bufferSize_eq, reached.taken_eq⟩

/-- A read takes the frame that it answers, and none if it fails or the replay is over. -/
lemma read (reached : Reached frames looping taken replay) (some_frame : frames ≠ []) (nonempty : [] ∉ frames)
    (room : Nat) :
    Reached frames looping (taken ++ (frame? (replay.read room).1).toList) (replay.read room).2 := by
  cases finished : replay.isFinished with
  | true =>
    rw [read_finished finished, frame?, Option.toList_none, List.append_nil]
    exact reached
  | false =>
    obtain ⟨frame, awaits⟩ := reached.awaits some_frame finished
    obtain ⟨among, refused, next⟩ := reached.awaited awaits
    rw [awaits.read]
    split
    · rw [frame?, Option.toList_none, List.append_nil]
      exact refused
    · cases frame with
      | nil => exact absurd among nonempty
      | cons b rest => exact next _

/-- Calls take the frames that they give, behind those that were taken before. -/
lemma perform (reached : Reached frames looping taken replay) (some_frame : frames ≠ []) (nonempty : [] ∉ frames)
    (calls : List Call) :
    Reached frames looping (taken ++ (replay.perform calls).1.filterMap frame?) (replay.perform calls).2 := by
  induction calls generalizing replay taken with
  | nil =>
    rw [Replay.perform, List.filterMap_nil, List.append_nil]
    exact reached
  | cons call calls ih =>
    cases call with
    | wait now timeout => exact ih (reached.wait now timeout)
    | read room =>
      have later := ih (reached.read some_frame nonempty room)
      have joined : (replay.perform (.read room :: calls)).1.filterMap frame? =
          (frame? (replay.read room).1).toList ++ ((replay.read room).2.perform calls).1.filterMap frame? := by
        show ((replay.read room).1 :: _).filterMap frame? = _
        rw [List.filterMap_cons]
        cases frame? (replay.read room).1 <;> rfl
      rw [joined, ← List.append_assoc]
      exact later

/-- The frames that were taken came in their order. -/
lemma inOrder (reached : Reached frames looping taken replay) : InOrder looping frames taken := by
  obtain ⟨passes, once, rfl⟩ := reached.taken_eq
  refine ⟨passes + 1, fun ends => by rw [once ends], ?_⟩
  rw [List.replicate_succ', List.flatten_append, List.flatten_singleton]
  exact (List.prefix_append_right_inj _).mpr (List.take_prefix _ _)

/-- A read gives nothing when the replay is over, and only then. -/
lemma read_eq_nil_iff (reached : Reached frames looping taken replay) (some_frame : frames ≠ []) (nonempty : [] ∉ frames)
    (room : Nat) : (replay.read room).1 = .ok [] ↔ replay.isFinished = true := by
  constructor
  · intro nothing
    by_contra goes_on
    obtain ⟨frame, awaits⟩ := reached.awaits some_frame (Bool.eq_false_iff.mpr goes_on)
    rw [awaits.read] at nothing
    split at nothing
    · cases nothing
    · cases nothing
      exact nonempty (reached.awaited awaits).1
  · intro finished
    rw [read_finished finished]

/-- There is room for any frame in a buffer of the size that the replay asks for. -/
lemma read_wide (reached : Reached frames looping taken replay) (some_frame : frames ≠ [])
    (wide : replay.bufferSize ≤ room) : ∃ bytes, (replay.read room).1 = .ok bytes := by
  cases finished : replay.isFinished with
  | true => exact ⟨[], by rw [read_finished finished]⟩
  | false =>
    obtain ⟨frame, awaits⟩ := reached.awaits some_frame finished
    have fits : frame.length ≤ room := by
      apply Nat.le_trans _ wide
      rw [reached.bufferSize_eq]
      exact le_longest (reached.awaited awaits).1
    refine ⟨frame, ?_⟩
    rw [awaits.read, if_neg (Nat.not_lt.mpr fits)]

end Reached

/-- Whatever reads and waits there were, the frames that were read are the frames of the file in order, once or over and
over. A replay is over if it does not loop and all frames were read, and this is when a read gives nothing. Until then
there is a next frame. Reads without enough room for it fail, and the first one with enough room gives it. -/
theorem reads_in_order {data : Bytes} {format : VideoFormat} {options : ReplayOptions} {now : Nat} {replay : Replay}
    (opened : ofBytes data format options now = .ok replay) (calls : List Call) :
    let frames := framesOf format.pixelFormat data
    let run := replay.perform calls
    let taken := run.1.filterMap frame?
    [] ∉ frames ∧ InOrder options.looping frames taken ∧
      (run.2.isFinished = true ↔ options.looping = false ∧ taken = frames) ∧
      (∀ room, (run.2.read room).1 = .ok [] ↔ run.2.isFinished = true) ∧
      (∀ room, run.2.bufferSize ≤ room → ∃ bytes, (run.2.read room).1 = .ok bytes) ∧
      (run.2.isFinished = false → ∃ frame, InOrder options.looping frames (taken ++ [frame]) ∧
        ∀ more, (∀ room ∈ more.filterMap Call.room?, room < frame.length) →
          let later := run.2.perform more
          later.1 = (more.filterMap Call.room?).map (fun room => .error (.noRoom room frame.length)) ∧
            ∀ room, frame.length ≤ room → (later.2.read room).1 = .ok frame) := by
  intro frames run taken
  have nonempty : [] ∉ frames := framesOf_nonempty format.pixelFormat data
  obtain ⟨-, -, -, -, -, some_frame⟩ := of_ofBytes opened
  have reached : Reached frames options.looping taken run.2 := (Reached.opened opened).perform some_frame nonempty calls
  refine ⟨nonempty, reached.inOrder, reached.isFinished_iff, reached.read_eq_nil_iff some_frame nonempty,
    fun room wide => reached.read_wide some_frame wide, fun unfinished => ?_⟩
  obtain ⟨frame, awaits⟩ := reached.awaits some_frame unfinished
  refine ⟨frame, ((reached.awaited awaits).2.2 0).inOrder, fun more short => ?_⟩
  obtain ⟨answers, still⟩ := awaits.perform short
  refine ⟨answers, fun room fits => ?_⟩
  rw [still.read, if_neg (Nat.not_lt.mpr fits)]

/-- Two images that are read over and over, and a read that has too little room in between. -/
theorem reads_in_order_two_images :
    let one : Bytes := [0xFF, 0xD8, 1, 2, 0xFF, 0xD9]
    let two : Bytes := [0xFF, 0xD8, 3, 0xFF, 0xD9]
    let data : Bytes := 0x11 :: one ++ two ++ [0xFF, 0xD8, 4]
    let calls : List Call := [.read 6, .read 4, .wait 0 5, .read 5, .read 9]
    ∃ replay, ofBytes data ⟨16, 16, 30, .mjpeg⟩ ⟨true, false⟩ 0 = .ok replay ∧
      (replay.perform calls).1 = [.ok one, .error (.noRoom 4 5), .ok two, .ok one] ∧
      InOrder true [one, two] [one, two, one] ∧ (replay.perform calls).2.isFinished = false := by
  intro one two data calls
  have frames : framesOf .mjpeg data = [one, two] := by decide
  let replay : Replay := ⟨#[one, two], 6, ⟨16, 16, 30, .mjpeg⟩, ⟨true, false⟩, 0, 0⟩
  have opened : ofBytes data ⟨16, 16, 30, .mjpeg⟩ ⟨true, false⟩ 0 = .ok replay := by
    rw [ofBytes, frames]
    rfl
  obtain ⟨-, ordered, finished, -⟩ := reads_in_order opened calls
  have answers : (replay.perform calls).1 = [.ok one, .error (.noRoom 4 5), .ok two, .ok one] := by decide
  rw [answers] at ordered
  rw [frames] at ordered finished
  refine ⟨replay, opened, answers, ordered, ?_⟩
  rw [Bool.eq_false_iff, Ne, finished]
  exact fun ends => Bool.noConfusion ends.1

end VideoCapture.Replay
