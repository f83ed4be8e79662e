import VideoCapture.Bytes
import VideoCapture.Delivery.Fifo

/-!
# The delivery queue

What the capture side posts and the delivery side takes, first in, first out. The queue holds a limited
number of units. When it is full, the oldest unit makes room for the new one.
-/

namespace VideoCapture

/-- A unit on its way to delivery. -/
structure QueuedFrame where
  data : Bytes
  /-- When it was captured, in nanoseconds since the start of the session. -/
  timestamp : Nat
  deriving DecidableEq, Repr

/-- The queue between capture and delivery. -/
structure FrameQueue where
  /-- The largest number of units. -/
  capacity : Nat
  /-- The units that wait. -/
  line : Fifo QueuedFrame := .empty
  /-- The number of units that had to make room. -/
  dropped : Nat := 0
  /-- The number of units posted, dropped ones included. -/
  posted : Nat := 0
  deriving DecidableEq, Repr

namespace FrameQueue

/-- The capacity of a queue for which none was given. -/
def defaultCapacity : Nat := 256

/-- The number of bytes that a queue takes for each unit it has room for. The data of a unit lies
elsewhere. -/
def unitSize : Nat := 48

/-- An empty queue. It has room for at least one unit. -/
def ofCapacity (capacity : Nat) : FrameQueue :=
  { capacity := max capacity 1 }

/-- The units in the queue, oldest first. -/
def frames (queue : FrameQueue) : List QueuedFrame :=
  queue.line.toList

/-- The number of units in the queue. -/
def size (queue : FrameQueue) : Nat :=
  queue.line.size

/-- Puts a unit at the end, and tells whether the oldest one made room for it. -/
def enqueue (queue : FrameQueue) (frame : QueuedFrame) : Bool × FrameQueue :=
  if queue.capacity ≤ queue.size then
    match queue.line.pop? with
    | some (_, others) => (true, { queue with line := others.push frame })
    | none => (false, { queue with line := queue.line.push frame })
  else (false, { queue with line := queue.line.push frame })

/-- Counts a posted unit. -/
def count (queue : FrameQueue) (evicted : Bool) : FrameQueue :=
  { queue with
    posted := queue.posted + 1
    dropped := if evicted then queue.dropped + 1 else queue.dropped }

/-- Posts a unit. -/
def push (queue : FrameQueue) (frame : QueuedFrame) : FrameQueue :=
  let (evicted, queue) := queue.enqueue frame
  queue.count evicted

/-- Takes the oldest unit. -/
def pop (queue : FrameQueue) : Option QueuedFrame × FrameQueue :=
  match queue.line.pop? with
  | none => (none, queue)
  | some (frame, others) => (some frame, { queue with line := others })

/-- Takes all units. -/
def drain (queue : FrameQueue) : List QueuedFrame × FrameQueue :=
  (queue.frames, { queue with line := .empty })

/-- The size of a queue is the number of its frames. -/
@[simp] theorem length_frames (queue : FrameQueue) : queue.frames.length = queue.size :=
  queue.line.length_toList

/-- A new unit stands behind the others, of which the oldest has left if the queue was full. -/
theorem frames_push (queue : FrameQueue) (frame : QueuedFrame) :
    (queue.push frame).frames =
      (if queue.capacity ≤ queue.size then queue.frames.drop 1 else queue.frames) ++ [frame] := by
  have counted : (queue.push frame).frames = (queue.enqueue frame).2.frames := rfl
  rw [counted, enqueue]
  split
  · cases taken : queue.line.pop? with
    | none => simp [frames, (Fifo.pop?_eq_none_iff _).mp taken]
    | some next => simp [frames, Fifo.toList_pop? taken]
  · simp [frames]

/-- Posting never makes the queue longer than it may be. -/
theorem size_push_le (queue : FrameQueue) (frame : QueuedFrame) (room : 0 < queue.capacity)
    (fits : queue.size ≤ queue.capacity) : (queue.push frame).size ≤ queue.capacity := by
  rw [← length_frames, frames_push]
  split <;> simp only [List.length_append, List.length_drop, length_frames, List.length_cons,
    List.length_nil] <;> omega

/-- What was taken and what is left make up what was there. -/
theorem frames_pop (queue : FrameQueue) : queue.pop.1.toList ++ queue.pop.2.frames = queue.frames := by
  unfold pop
  split
  · simp
  · rename_i taken
    simp [frames, Fifo.toList_pop? taken]

end FrameQueue

end VideoCapture
