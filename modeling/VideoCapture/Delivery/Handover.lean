import VideoCapture.Delivery.Queue

/-!
# The handover

Two sides share the delivery queue. The capture side posts one batch of units after the other, and when it has nothing
more to post it raises the stop flag. The delivery side takes units one by one; whenever it comes back empty-handed it
looks at the flag, and once the flag is up it takes what is left and ends.

The sides take turns in any order. A turn is what no other turn can come between: a new unit joins the queue in one and
is counted in another, and the delivery side finds the queue empty in one and looks at the flag in another.
-/

namespace VideoCapture

/-- The sides of a handover. -/
inductive Side where
  | capture
  | delivery
  deriving DecidableEq, Repr

/-- What became of a unit. -/
inductive Fate where
  | delivered
  /-- It had to make room for another one. -/
  | evicted
  deriving DecidableEq, Repr

/-- A unit that has left the queue. -/
structure Departure where
  unit : QueuedFrame
  fate : Fate
  deriving DecidableEq, Repr

/-- How far the capture side is. -/
inductive CaptureSide where
  /-- The rest of a batch is to be posted, and then other batches. -/
  | posting (rest : List QueuedFrame) (batches : List (List QueuedFrame))
  /-- A unit has joined the queue and is still to be counted. -/
  | counting (evicted : Bool) (rest : List QueuedFrame) (batches : List (List QueuedFrame))
  | stopped
  deriving DecidableEq, Repr

/-- How far the delivery side is. -/
inductive DeliverySide where
  | taking
  /-- It came back empty-handed, and is about to look at the flag. -/
  | checking
  /-- It has seen the flag. -/
  | draining
  | ended
  deriving DecidableEq, Repr

/-- A handover between the two sides. -/
structure Handover where
  queue : FrameQueue
  stop : Bool := false
  capture : CaptureSide
  delivery : DeliverySide := .taking
  /-- The number of units that the capture side has announced. -/
  unitsPosted : Nat := 0
  /-- The units that the delivery side has taken, in order. -/
  taken : List QueuedFrame := []
  /-- All units that have left the queue, in the order in which they left. -/
  departures : List Departure := []
  deriving DecidableEq, Repr

namespace Handover

/-- A handover of batches through a queue of some capacity. -/
def start (capacity : Nat) (batches : List (List QueuedFrame)) : Handover where
  queue := .ofCapacity capacity
  capture := .posting [] batches

/-- The number of units that the delivery side has taken. -/
def delivered (h : Handover) : Nat :=
  h.taken.length

/-- The handover after units have left the queue. -/
def depart (h : Handover) (units : List QueuedFrame) (fate : Fate) : Handover :=
  { h with departures := h.departures ++ units.map (⟨·, fate⟩) }

/-- The handover after the delivery side has taken units. -/
def take (h : Handover) (units : List QueuedFrame) (queue : FrameQueue) : Handover :=
  { h.depart units .delivered with queue, taken := h.taken ++ units }

/-- A turn of the capture side. -/
def captureTurn (h : Handover) : Handover :=
  match h.capture with
  | .posting [] [] => { h with stop := true, capture := .stopped }
  | .posting [] (batch :: batches) =>
    { h with capture := .posting batch batches, unitsPosted := h.unitsPosted + batch.length }
  | .posting (unit :: rest) batches =>
    let (evicted, queue) := h.queue.enqueue unit
    { h.depart (h.queue.frames.take evicted.toNat) .evicted with queue, capture := .counting evicted rest batches }
  | .counting evicted rest batches => { h with queue := h.queue.count evicted, capture := .posting rest batches }
  | .stopped => h

/-- A turn of the delivery side. -/
def deliveryTurn (h : Handover) : Handover :=
  match h.delivery with
  | .taking =>
    match h.queue.pop with
    | (some unit, queue) => h.take [unit] queue
    | (none, _) => { h with delivery := .checking }
  | .checking => { h with delivery := if h.stop then .draining else .taking }
  | .draining =>
    let (units, queue) := h.queue.drain
    { h.take units queue with delivery := .ended }
  | .ended => h

/-- A turn of one side. -/
def turn (h : Handover) : Side → Handover
  | .capture => h.captureTurn
  | .delivery => h.deliveryTurn

/-- Turns one after the other. -/
def run (h : Handover) (turns : List Side) : Handover :=
  turns.foldl turn h

/-- The units of a fate, in the order in which they left. -/
def departed (h : Handover) (fate : Fate) : List QueuedFrame :=
  (h.departures.filter fun departure => departure.fate = fate).map Departure.unit

/-- Whether both sides have come to their end. -/
def IsOver (h : Handover) : Prop :=
  h.capture = .stopped ∧ h.delivery = .ended

end Handover

end VideoCapture
