import VideoCapture.Proofs.Delivery.Accounting

/-!
# What goes into a queue

Whatever is called of a delivery queue, units leave it in the order in which they were pushed, and each of them was
either returned or evicted. A call moves units from the front of the queue and puts units at its end, and nothing else
(`FrameQueue.Moves`). So what has left and what still waits are together all that was pushed, and the counters say how
many there are of each (`QueueHistory.Conserves`).
-/

namespace VideoCapture

/-- A call of a queue. -/
inductive QueueCall where
  | push (frame : QueuedFrame)
  | post (data : Bytes) (timestamp : Nat)
  | pop
  /-- Taking a unit, with time to wait for one, when none arrives in that time. -/
  | waitPop (timeout : Nat)
  | drain
  deriving DecidableEq, Repr

/-- The units that a call puts into the queue. -/
def QueueCall.pushed : QueueCall → List QueuedFrame
  | push frame => [frame]
  | post data timestamp => [⟨data, timestamp⟩]
  | pop | waitPop _ | drain => []

namespace FrameQueue

/-- The units that a call returns, and the queue after it. -/
def perform (queue : FrameQueue) : QueueCall → List QueuedFrame × FrameQueue
  | .push frame => ([], queue.push frame)
  | .post data timestamp => ([], queue.push ⟨data, timestamp⟩)
  | .pop | .waitPop _ => (queue.pop.1.toList, queue.pop.2)
  | .drain => queue.drain

/-- The units that leave the queue in a call without being returned: those at the front that are neither among the
returned ones nor in the queue afterwards. -/
def evicted (queue : FrameQueue) (call : QueueCall) : List QueuedFrame :=
  let (returned, next) := queue.perform call
  (queue.frames ++ call.pushed).take (queue.size + call.pushed.length - (returned.length + next.size))

/-- The units that leave the queue in a call, with what becomes of them. -/
def departing (queue : FrameQueue) (call : QueueCall) : List Departure :=
  (queue.evicted call).map (⟨·, .evicted⟩) ++ (queue.perform call).1.map (⟨·, .delivered⟩)

end FrameQueue

/-- A queue, and what has gone into it and come out of it so far. -/
structure QueueHistory where
  queue : FrameQueue
  pushed : List QueuedFrame := []
  returned : List QueuedFrame := []
  /-- All units that have left the queue, in the order in which they left. -/
  departures : List Departure := []
  deriving DecidableEq, Repr

namespace QueueHistory

/-- Makes a call, and notes what goes into the queue and what comes out of it. -/
def perform (h : QueueHistory) (call : QueueCall) : QueueHistory where
  queue := (h.queue.perform call).2
  pushed := h.pushed ++ call.pushed
  returned := h.returned ++ (h.queue.perform call).1
  departures := h.departures ++ h.queue.departing call

/-- Makes calls one after the other. -/
def performAll (h : QueueHistory) (calls : List QueueCall) : QueueHistory :=
  calls.foldl perform h

end QueueHistory

namespace FrameQueue

variable {queue : FrameQueue}

/-- The unit that has to leave when another one joins. -/
def leaving (queue : FrameQueue) : List QueuedFrame :=
  if queue.size = queue.capacity then queue.frames.take 1 else []

/-- What a call does to a queue that is not too long. -/
structure Moves (queue : FrameQueue) (call : QueueCall) : Prop where
  evicted : queue.evicted call = if call.pushed = [] then [] else queue.leaving
  moved : queue.evicted call ++ (queue.perform call).1 ++ (queue.perform call).2.frames = queue.frames ++ call.pushed
  capacity : (queue.perform call).2.capacity = queue.capacity
  fits : (queue.perform call).2.size ≤ queue.capacity
  posted : (queue.perform call).2.posted = queue.posted + call.pushed.length
  dropped : (queue.perform call).2.dropped = queue.dropped + (queue.evicted call).length

/-- A frame that is pushed waits behind the others, less the one that has to leave. -/
lemma leaving_append (fits : queue.size ≤ queue.capacity) (frame : QueuedFrame) :
    queue.leaving ++ (queue.push frame).frames = queue.frames ++ [frame] := by
  rw [frames_push, leaving]
  by_cases full : queue.size = queue.capacity
  · rw [if_pos full, if_pos (Nat.le_of_eq full.symm), ← List.append_assoc, List.take_append_drop]
  · rw [if_neg full, if_neg (by omega), List.nil_append]

/-- A push counts the frame that joins and the one that has to leave, and keeps the capacity. -/
lemma counters_push (room : 0 < queue.capacity) (fits : queue.size ≤ queue.capacity) (frame : QueuedFrame) :
    (queue.push frame).capacity = queue.capacity ∧ (queue.push frame).posted = queue.posted + 1 ∧
      (queue.push frame).dropped = queue.dropped + queue.leaving.length := by
  rw [push, enqueue, leaving]
  by_cases full : queue.size = queue.capacity
  · have someone : queue.frames.length ≠ 0 := by
      rw [length_frames]
      omega
    have oldest : (queue.frames.take 1).length = 1 := by
      rw [List.length_take]
      omega
    rw [if_pos (Nat.le_of_eq full.symm), if_pos full, oldest]
    cases taken : queue.line.pop? with
    | none => exact absurd (congrArg List.length ((Fifo.pop?_eq_none_iff _).mp taken)) someone
    | some next => exact ⟨rfl, rfl, rfl⟩
  · rw [if_neg (by omega), if_neg full]
    exact ⟨rfl, rfl, rfl⟩

/-- A call that pushes a unit moves the oldest one out if the queue is full. -/
lemma moves_of_push (room : 0 < queue.capacity) (fits : queue.size ≤ queue.capacity) {call : QueueCall}
    {frame : QueuedFrame} (pushed : call.pushed = [frame]) (performed : queue.perform call = ([], queue.push frame)) :
    queue.Moves call := by
  have parted := leaving_append fits frame
  obtain ⟨capacity, posted, dropped⟩ := counters_push room fits frame
  have evicted : queue.evicted call = queue.leaving := by
    have total := congrArg List.length parted
    rw [List.length_append, List.length_append, length_frames, length_frames] at total
    have count : queue.size + [frame].length - (([] : List QueuedFrame).length + (queue.push frame).size) =
        queue.leaving.length := by
      rw [← total, List.length_nil, Nat.zero_add, Nat.add_sub_cancel]
    rw [FrameQueue.evicted, performed, pushed]
    dsimp only
    rw [count, ← parted, List.take_left]
  refine ⟨?_, ?_, ?_, ?_, ?_, ?_⟩
  · rw [evicted, if_neg (by rw [pushed]; exact List.cons_ne_nil _ _)]
  · rw [evicted, performed, pushed, List.append_nil]
    exact parted
  · rw [performed]
    exact capacity
  · rw [performed]
    exact size_push_le queue frame room fits
  · rw [performed, pushed]
    exact posted
  · rw [performed, evicted]
    exact dropped

/-- A call that takes units returns all that leave. -/
lemma moves_of_take {call : QueueCall} (fits : queue.size ≤ queue.capacity) (pushed : call.pushed = [])
    (parted : (queue.perform call).1 ++ (queue.perform call).2.frames = queue.frames)
    (same : ∃ line, (queue.perform call).2 = { queue with line }) : queue.Moves call := by
  have total := congrArg List.length parted
  rw [List.length_append, length_frames, length_frames] at total
  have evicted : queue.evicted call = [] := by
    rw [FrameQueue.evicted, pushed]
    dsimp only
    rw [total, List.length_nil, Nat.add_zero, Nat.sub_self, List.take_zero]
  obtain ⟨line, same⟩ := same
  refine ⟨?_, ?_, ?_, ?_, ?_, ?_⟩
  · rw [evicted, if_pos pushed]
  · rw [evicted, pushed, List.nil_append, List.append_nil, parted]
  · rw [same]
  · omega
  · rw [same, pushed]
    rfl
  · rw [same, evicted]
    rfl

/-- Every call moves units through the queue as it should. -/
lemma moves (room : 0 < queue.capacity) (fits : queue.size ≤ queue.capacity) (call : QueueCall) :
    queue.Moves call := by
  have popped : ∃ line, queue.pop.2 = { queue with line } := by
    unfold pop
    split
    · exact ⟨queue.line, rfl⟩
    · exact ⟨_, rfl⟩
  cases call with
  | push frame => exact moves_of_push room fits rfl rfl
  | post data timestamp => exact moves_of_push room fits rfl rfl
  | pop => exact moves_of_take fits rfl queue.frames_pop popped
  | waitPop timeout => exact moves_of_take fits rfl queue.frames_pop popped
  | drain => exact moves_of_take fits rfl (List.append_nil _) ⟨.empty, rfl⟩

/-- What is taken from a queue is its first frame, if there is one. -/
lemma pop_eq_take (queue : FrameQueue) : queue.pop.1.toList = queue.frames.take 1 := by
  cases waiting : queue.frames with
  | nil =>
    rw [pop, (Fifo.pop?_eq_none_iff _).mpr waiting]
    rfl
  | cons unit rest =>
    obtain ⟨line, popped, -⟩ := pop_cons waiting
    rw [popped]
    rfl

end FrameQueue

namespace QueueHistory

variable {h : QueueHistory}

/-- What has left and what waits is what was pushed, and the counters are right. -/
structure Conserves (h : QueueHistory) : Prop where
  room : 0 < h.queue.capacity
  fits : h.queue.size ≤ h.queue.capacity
  in_order : h.departures.map Departure.unit ++ h.queue.frames = h.pushed
  returned : h.returned = (h.departures.filter fun departure => departure.fate ≠ .evicted).map Departure.unit
  posted : h.queue.posted = h.pushed.length
  dropped : h.queue.dropped = (h.departures.filter fun departure => departure.fate = .evicted).length

/-- A new queue has nothing in it and nothing behind it. -/
lemma conserves_new (capacity : Nat) : Conserves { queue := .ofCapacity capacity } where
  room := Nat.lt_of_lt_of_le Nat.zero_lt_one (Nat.le_max_right capacity 1)
  fits := Nat.zero_le _
  in_order := rfl
  returned := rfl
  posted := rfl
  dropped := rfl

/-- The units that leave in a call are evicted or delivered as the call has it. -/
lemma filter_departing (queue : FrameQueue) (call : QueueCall) :
    (queue.departing call).filter (fun departure => departure.fate = .evicted) =
        (queue.evicted call).map (⟨·, .evicted⟩) ∧
      (queue.departing call).filter (fun departure => departure.fate = .delivered) =
        (queue.perform call).1.map (⟨·, .delivered⟩) := by
  constructor
  · rw [FrameQueue.departing, List.filter_append, Departure.filter_of_fate, Departure.filter_of_other _ (by decide),
      List.append_nil]
  · rw [FrameQueue.departing, List.filter_append, Departure.filter_of_fate, Departure.filter_of_other _ (by decide),
      List.nil_append]

/-- A call conserves what was pushed. -/
lemma Conserves.perform (conserves : h.Conserves) (call : QueueCall) : (h.perform call).Conserves := by
  obtain ⟨room, fits, in_order, returned, posted, dropped⟩ := conserves
  have moves := FrameQueue.moves room fits call
  obtain ⟨evictions, deliveries⟩ := filter_departing h.queue call
  have departed : (h.perform call).departures = h.departures ++ h.queue.departing call := rfl
  refine ⟨?_, ?_, ?_, ?_, ?_, ?_⟩
  · exact Nat.lt_of_lt_of_eq room moves.capacity.symm
  · exact Nat.le_trans moves.fits (Nat.le_of_eq moves.capacity.symm)
  · calc (h.perform call).departures.map Departure.unit ++ (h.queue.perform call).2.frames
      _ = h.departures.map Departure.unit ++
          (h.queue.evicted call ++ (h.queue.perform call).1 ++ (h.queue.perform call).2.frames) := by
        rw [departed, FrameQueue.departing, List.map_append, List.map_append, Departure.map_unit, Departure.map_unit,
          List.append_assoc]
      _ = h.departures.map Departure.unit ++ h.queue.frames ++ call.pushed := by
        rw [moves.moved, List.append_assoc]
      _ = h.pushed ++ call.pushed := by rw [in_order]
  · rw [departed, Departure.filter_not_evicted, List.filter_append, List.map_append, deliveries, Departure.map_unit,
      ← Departure.filter_not_evicted, ← returned]
    rfl
  · exact moves.posted.trans ((congrArg (· + _) posted).trans List.length_append.symm)
  · rw [departed, List.filter_append, List.length_append, evictions, List.length_map, ← dropped]
    exact moves.dropped

/-- Calls one after the other conserve what was pushed. -/
lemma Conserves.performAll (conserves : h.Conserves) (calls : List QueueCall) : (h.performAll calls).Conserves := by
  induction calls generalizing h with
  | nil => exact conserves
  | cons call rest ih => exact ih (conserves.perform call)

/-- What calls push comes behind what was pushed before. -/
lemma pushed_performAll (h : QueueHistory) (calls : List QueueCall) :
    (h.performAll calls).pushed = h.pushed ++ calls.flatMap QueueCall.pushed := by
  induction calls generalizing h with
  | nil => exact (List.append_nil _).symm
  | cons call rest ih =>
    rw [List.flatMap_cons, ← List.append_assoc]
    exact ih (h.perform call)

/-- No call changes the capacity. -/
lemma capacity_performAll (conserves : h.Conserves) (calls : List QueueCall) :
    (h.performAll calls).queue.capacity = h.queue.capacity := by
  induction calls generalizing h with
  | nil => rfl
  | cons call rest ih =>
    exact (ih (conserves.perform call)).trans (FrameQueue.moves conserves.room conserves.fits call).capacity

/-- All departures are either deliveries or evictions. -/
lemma Conserves.balanced (conserves : h.Conserves) :
    h.queue.posted = h.queue.dropped + h.returned.length + h.queue.size := by
  obtain ⟨-, -, in_order, returned, posted, dropped⟩ := conserves
  have total := congrArg List.length in_order
  rw [List.length_append, List.length_map, FrameQueue.length_frames] at total
  rw [posted, dropped, returned, List.length_map, Departure.filter_not_evicted, Departure.length_fates, total]

end QueueHistory

/-- Whatever was called of a queue of whatever capacity, it holds the units that were pushed last, as many as it may at
most. All that were pushed before have left it in the order in which they were pushed: those that were not evicted have
been returned in that order. The counters add up. And whatever is called next, a unit leaves without being returned only
if another one is pushed while the queue is full, and then that is the oldest one. -/
theorem queue_conserved (capacity : Nat) (calls : List QueueCall) :
    let h := ({ queue := .ofCapacity capacity } : QueueHistory).performAll calls
    h.queue.capacity = max capacity 1 ∧
    h.queue.size ≤ h.queue.capacity ∧
    h.pushed = calls.flatMap QueueCall.pushed ∧
    h.queue.frames = h.pushed.drop (h.pushed.length - h.queue.size) ∧
    h.departures.map Departure.unit ++ h.queue.frames = h.pushed ∧
    h.returned = (h.departures.filter fun departure => departure.fate ≠ .evicted).map Departure.unit ∧
    h.queue.dropped = (h.departures.filter fun departure => departure.fate = .evicted).length ∧
    h.queue.posted = h.pushed.length ∧
    h.queue.posted = h.queue.dropped + h.returned.length + h.queue.size ∧
    ∀ call,
      let (returned, next) := h.queue.perform call
      h.queue.evicted call ++ returned ++ next.frames = h.queue.frames ++ call.pushed ∧
      h.queue.evicted call =
        (if call.pushed ≠ [] ∧ h.queue.size = h.queue.capacity then h.queue.frames.take 1 else []) ∧
      (∀ timeout, call = .pop ∨ call = .waitPop timeout → returned = h.queue.frames.take 1) ∧
      (call = .drain → returned = h.queue.frames) := by
  intro h
  have new := QueueHistory.conserves_new capacity
  have conserves : h.Conserves := new.performAll calls
  refine ⟨QueueHistory.capacity_performAll new calls, conserves.fits, QueueHistory.pushed_performAll _ calls, ?latest,
    conserves.in_order, conserves.returned, conserves.dropped, conserves.posted, conserves.balanced, ?next⟩
  case latest =>
    have total := congrArg List.length conserves.in_order
    rw [List.length_append, FrameQueue.length_frames] at total
    have before : h.pushed.length - h.queue.size = (h.departures.map Departure.unit).length := by omega
    rw [before, ← conserves.in_order, List.drop_left]
  case next =>
    intro call
    have moves := FrameQueue.moves conserves.room conserves.fits call
    refine ⟨moves.moved, ?_, ?_, ?_⟩
    · rw [moves.evicted, FrameQueue.leaving]
      by_cases nothing : call.pushed = [] <;> simp [nothing]
    · rintro timeout (rfl | rfl) <;> exact h.queue.pop_eq_take
    · rintro rfl
      rfl

/-- The second unit makes room for the third, which is taken, and waiting for another one is in vain. -/
example :
    let unit (byte : UInt8) : QueuedFrame := ⟨[byte], 0⟩
    let h := ({ queue := .ofCapacity 0 } : QueueHistory).performAll
      [.push (unit 1), .pop, .push (unit 2), .post [3] 0, .waitPop 5, .waitPop 5, .push (unit 4)]
    h.returned = [unit 1, unit 3] ∧ h.queue.dropped = 1 ∧ h.queue.posted = 4 ∧ h.queue.frames = [unit 4] := by
  decide

end VideoCapture
