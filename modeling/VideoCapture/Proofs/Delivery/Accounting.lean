import Mathlib.Tactic.Lemma
import VideoCapture.Delivery.Handover

/-!
# No unit is lost on the way

Whatever turns the two sides of a handover take, units leave the queue in the order in which they were posted, each of
them delivered or evicted, and every counter keeps up with that (`Handover.Accounts`). A turn of either side keeps the
accounts, hence a run does. When both sides are at their end, the queue is empty and the accounts are settled
(`handover_settled`).
-/

namespace VideoCapture

/-- A line without items is the empty line. -/
lemma Fifo.eq_empty {α : Type} (line : Fifo α) (nobody : line.toList = []) : line = .empty := by
  obtain ⟨front, back, size, counted⟩ := line
  obtain ⟨rfl, last⟩ := List.append_eq_nil_iff.mp nobody
  cases List.reverse_eq_nil_iff.mp last
  cases counted
  rfl

namespace FrameQueue

variable (queue : FrameQueue) (frame : QueuedFrame)

/-- What left when a unit joined, and what is in the queue then, is what was there and the new unit. -/
lemma frames_enqueue :
    queue.frames.take (queue.enqueue frame).1.toNat ++ (queue.enqueue frame).2.frames = queue.frames ++ [frame] := by
  unfold enqueue
  split
  · split
    · rename_i oldest others taken
      have parted : queue.frames = oldest :: others.toList := Fifo.toList_pop? taken
      have joined : ({ queue with line := others.push frame } : FrameQueue).frames = others.toList ++ [frame] :=
        Fifo.toList_push others frame
      rw [parted, joined]
      rfl
    · exact Fifo.toList_push queue.line frame
  · exact Fifo.toList_push queue.line frame

/-- Only a unit that is there can make room. -/
lemma evictions_le : (queue.enqueue frame).1.toNat ≤ queue.frames.length := by
  unfold enqueue
  split
  · split
    · rename_i oldest others taken
      have parted : queue.frames = oldest :: others.toList := Fifo.toList_pop? taken
      rw [parted]
      exact Nat.le_add_left _ _
    · exact Nat.zero_le _
  · exact Nat.zero_le _

/-- Putting a frame into the queue does not count anything yet. -/
lemma dropped_enqueue : (queue.enqueue frame).2.dropped = queue.dropped := by
  unfold enqueue
  split
  · split <;> rfl
  · rfl

/-- An evicted frame is counted when its turn comes. -/
lemma dropped_count (evicted : Bool) : (queue.count evicted).dropped = queue.dropped + evicted.toNat := by
  cases evicted <;> rfl

/-- Taking a frame does not touch the counter of evicted ones. -/
lemma dropped_pop : queue.pop.2.dropped = queue.dropped := by
  unfold pop
  split <;> rfl

variable {queue}

/-- From a queue that is not empty, the first frame is taken. -/
lemma pop_cons {unit : QueuedFrame} {rest : List QueuedFrame} (waiting : queue.frames = unit :: rest) :
    ∃ line, queue.pop = (some unit, { queue with line }) ∧ line.toList = rest := by
  cases taken : queue.line.pop? with
  | none => cases waiting.symm.trans ((Fifo.pop?_eq_none_iff _).mp taken)
  | some next =>
    cases waiting.symm.trans (Fifo.toList_pop? taken)
    refine ⟨next.2, ?_, rfl⟩
    rw [pop, taken]

end FrameQueue

namespace Departure

variable (units : List QueuedFrame) (departures : List Departure)

/-- The units of departures are those that departed. -/
lemma map_unit (fate : Fate) : (units.map (⟨·, fate⟩ : QueuedFrame → Departure)).map unit = units := by
  rw [List.map_map]
  exact List.map_id units

/-- All units that departed with one fate have that fate. -/
lemma filter_of_fate (fate : Fate) :
    (units.map (⟨·, fate⟩ : QueuedFrame → Departure)).filter (fun departure => departure.fate = fate) =
      units.map (⟨·, fate⟩) := List.filter_eq_self.mpr (by simp)

/-- None of the units that departed with one fate has another. -/
lemma filter_of_other {fate other : Fate} (different : fate ≠ other) :
    (units.map (⟨·, fate⟩ : QueuedFrame → Departure)).filter (fun departure => departure.fate = other) = [] :=
  List.filter_eq_nil_iff.mpr (by simpa using fun _ _ => different)

/-- What was delivered is what was not evicted. -/
lemma filter_not_evicted : departures.filter (fun departure => departure.fate ≠ .evicted) =
    departures.filter fun departure => departure.fate = .delivered := by
  congr 1
  funext departure
  obtain ⟨unit, _ | _⟩ := departure <;> rfl

/-- Every unit that left the queue was either evicted or delivered. -/
lemma length_fates : (departures.filter fun departure => departure.fate = .evicted).length +
    (departures.filter fun departure => departure.fate = .delivered).length = departures.length := by
  rw [← filter_not_evicted, ← List.countP_eq_length_filter, ← List.countP_eq_length_filter,
    List.length_eq_countP_add_countP fun departure => departure.fate = .evicted]
  simp only [ne_eq, decide_not, decide_eq_true_eq]

end Departure

namespace CaptureSide

/-- The units that have not joined the queue yet. -/
def toCome : CaptureSide → List QueuedFrame
  | posting rest batches | counting _ rest batches => rest ++ batches.flatten
  | stopped => []

/-- The number of units that are not announced yet. -/
def unannounced : CaptureSide → Nat
  | posting _ batches | counting _ _ batches => batches.flatten.length
  | stopped => 0

/-- The number of evicted units that are not counted yet. -/
def owed : CaptureSide → Nat
  | counting evicted _ _ => evicted.toNat
  | posting _ _ | stopped => 0

end CaptureSide

namespace Handover

variable {h : Handover} {units : List QueuedFrame}

/-- The accounts of a handover of some units. -/
structure Accounts (units : List QueuedFrame) (h : Handover) : Prop where
  in_order : h.departures.map Departure.unit ++ (h.queue.frames ++ h.capture.toCome) = units
  taken : h.taken = h.departed .delivered
  dropped : h.queue.dropped + h.capture.owed = (h.departed .evicted).length
  announced : h.unitsPosted + h.capture.unannounced = units.length
  stopped : h.stop = true ↔ h.capture = .stopped
  seen : h.delivery = .draining ∨ h.delivery = .ended → h.stop = true
  emptied : h.delivery = .ended → h.queue.frames = []

/-- Units that depart with a fate come behind those of that fate that departed before. -/
lemma departed_depart (h : Handover) (gone : List QueuedFrame) (fate : Fate) :
    (h.depart gone fate).departed fate = h.departed fate ++ gone := by
  rw [departed, depart, List.filter_append, Departure.filter_of_fate, List.map_append, Departure.map_unit]
  rfl

/-- Units that depart with one fate do not concern those of another. -/
lemma departed_depart_of_ne (h : Handover) (gone : List QueuedFrame) {fate other : Fate} (different : fate ≠ other) :
    (h.depart gone fate).departed other = h.departed other := by
  rw [departed, depart, List.filter_append, Departure.filter_of_other gone different, List.append_nil]
  rfl

/-- Units that depart come behind all that departed before, whatever their fate. -/
lemma units_depart (h : Handover) (gone : List QueuedFrame) (fate : Fate) :
    (h.depart gone fate).departures.map Departure.unit = h.departures.map Departure.unit ++ gone := by
  rw [depart, List.map_append, Departure.map_unit]

/-- The accounts are right at the start, when all units are still to come. -/
lemma start_accounts (capacity : Nat) (batches : List (List QueuedFrame)) :
    (start capacity batches).Accounts batches.flatten where
  in_order := rfl
  taken := rfl
  dropped := rfl
  announced := Nat.zero_add _
  stopped := ⟨nofun, nofun⟩
  seen := by rintro (seen | seen) <;> cases seen
  emptied := nofun

/-- The delivery side takes the units at the front of the queue. -/
lemma Accounts.take (accounts : h.Accounts units) {taken : List QueuedFrame} {queue : FrameQueue}
    (parted : taken ++ queue.frames = h.queue.frames) (kept : queue.dropped = h.queue.dropped) :
    (h.take taken queue).Accounts units where
  in_order := by
    have in_order := accounts.in_order
    rw [← parted, List.append_assoc, ← List.append_assoc, ← units_depart h taken .delivered] at in_order
    exact in_order
  taken := by
    have all := departed_depart h taken .delivered
    rw [← accounts.taken] at all
    exact all.symm
  dropped := by
    have same := departed_depart_of_ne h taken (show Fate.delivered ≠ .evicted by decide)
    have dropped := accounts.dropped
    rw [← kept, ← same] at dropped
    exact dropped
  announced := accounts.announced
  stopped := accounts.stopped
  seen := accounts.seen
  emptied := by
    intro ended
    rw [accounts.emptied ended] at parted
    exact (List.append_eq_nil_iff.mp parted).2

/-- The delivery side goes on. -/
lemma Accounts.goOn (accounts : h.Accounts units) {delivery : DeliverySide}
    (seen : delivery = .draining ∨ delivery = .ended → h.stop = true)
    (emptied : delivery = .ended → h.queue.frames = []) : ({ h with delivery } : Handover).Accounts units :=
  ⟨accounts.in_order, accounts.taken, accounts.dropped, accounts.announced, accounts.stopped, seen, emptied⟩

/-- A turn of the delivery side keeps the accounts right. -/
lemma Accounts.deliveryTurn (accounts : h.Accounts units) : h.deliveryTurn.Accounts units := by
  unfold Handover.deliveryTurn
  cases at_work : h.delivery with
  | taking =>
    have parted := h.queue.frames_pop
    have kept := h.queue.dropped_pop
    rcases run : h.queue.pop with ⟨_ | unit, queue⟩
    all_goals rw [run] at parted kept
    · exact accounts.goOn (by simp) nofun
    · exact accounts.take parted kept
  | checking =>
    dsimp only
    split
    · rename_i flag
      exact accounts.goOn (fun _ => flag) nofun
    · exact accounts.goOn (by simp) nofun
  | draining =>
    have taken := @Accounts.take h units accounts h.queue.frames h.queue.drain.2 (List.append_nil _) rfl
    exact taken.goOn (fun _ => accounts.seen (.inl at_work)) fun _ => rfl
  | ended => exact accounts

/-- The flag is down while the capture side is at work. -/
lemma Accounts.unflagged (accounts : h.Accounts units) (working : h.capture ≠ .stopped) : h.stop ≠ true :=
  fun flag => working (accounts.stopped.mp flag)

/-- The capture side goes on. -/
lemma Accounts.workOn (accounts : h.Accounts units) (working : h.capture ≠ .stopped) {queue : FrameQueue}
    {capture : CaptureSide} {unitsPosted : Nat} (to_work : capture ≠ .stopped)
    (in_order : queue.frames ++ capture.toCome = h.queue.frames ++ h.capture.toCome)
    (dropped : queue.dropped + capture.owed = h.queue.dropped + h.capture.owed)
    (announced : unitsPosted + capture.unannounced = h.unitsPosted + h.capture.unannounced) :
    ({ h with queue, capture, unitsPosted } : Handover).Accounts units := by
  have unflagged := accounts.unflagged working
  refine ⟨?_, accounts.taken, dropped.trans accounts.dropped, announced.trans accounts.announced,
    ⟨fun flag => absurd flag unflagged, fun stopped => absurd stopped to_work⟩, accounts.seen,
    fun ended => absurd (accounts.seen (.inr ended)) unflagged⟩
  exact (congrArg _ in_order).trans accounts.in_order

/-- A unit joins the queue, and the oldest one may have left. -/
lemma Accounts.join (accounts : h.Accounts units) {unit : QueuedFrame} {rest : List QueuedFrame}
    {batches : List (List QueuedFrame)} (at_work : h.capture = .posting (unit :: rest) batches) {evicted : Bool}
    {queue : FrameQueue} (run : h.queue.enqueue unit = (evicted, queue)) :
    ({ h.depart (h.queue.frames.take evicted.toNat) .evicted with
        queue, capture := .counting evicted rest batches } : Handover).Accounts units := by
  have unflagged := accounts.unflagged (by rw [at_work]; nofun)
  obtain ⟨in_order, taken, dropped, announced, -, seen, -⟩ := accounts
  rw [at_work] at in_order dropped announced
  have joined := h.queue.frames_enqueue unit
  have few := h.queue.evictions_le unit
  have kept := h.queue.dropped_enqueue unit
  rw [run] at joined few kept
  refine ⟨?in_order, ?taken, ?dropped, announced, ⟨fun flag => absurd flag unflagged, nofun⟩, seen,
    fun ended => absurd (seen (.inr ended)) unflagged⟩
  case in_order =>
    calc (h.depart (h.queue.frames.take evicted.toNat) .evicted).departures.map Departure.unit ++
          (queue.frames ++ (rest ++ batches.flatten))
      _ = h.departures.map Departure.unit ++
          ((h.queue.frames.take evicted.toNat ++ queue.frames) ++ (rest ++ batches.flatten)) := by
        rw [units_depart, List.append_assoc, List.append_assoc]
      _ = h.departures.map Departure.unit ++ (h.queue.frames ++ (unit :: rest ++ batches.flatten)) := by
        rw [joined, List.append_assoc, List.cons_append, List.cons_append, List.nil_append]
      _ = units := in_order
  case taken =>
    have same := departed_depart_of_ne h (h.queue.frames.take evicted.toNat) (show Fate.evicted ≠ .delivered by decide)
    exact taken.trans same.symm
  case dropped =>
    have all := congrArg List.length (departed_depart h (h.queue.frames.take evicted.toNat) .evicted)
    rw [List.length_append, List.length_take, Nat.min_eq_left few, ← dropped] at all
    exact (congrArg (· + evicted.toNat) kept).trans all.symm

/-- A turn of the capture side keeps the accounts right. -/
lemma Accounts.captureTurn (accounts : h.Accounts units) : h.captureTurn.Accounts units := by
  unfold Handover.captureTurn
  split
  · rename_i at_work
    obtain ⟨in_order, taken, dropped, announced, -, -, emptied⟩ := accounts
    rw [at_work] at in_order dropped announced
    exact ⟨in_order, taken, dropped, announced, ⟨fun _ => rfl, fun _ => rfl⟩, fun _ => rfl, emptied⟩
  · rename_i batch batches at_work
    refine accounts.workOn (by rw [at_work]; nofun) nofun (by rw [at_work]; rfl) (by rw [at_work]; rfl) ?_
    rw [at_work, CaptureSide.unannounced, CaptureSide.unannounced, List.flatten_cons, List.length_append, Nat.add_assoc]
  · rename_i unit rest batches at_work
    rcases run : h.queue.enqueue unit with ⟨evicted, queue⟩
    exact accounts.join at_work run
  · rename_i evicted rest batches at_work
    refine accounts.workOn (by rw [at_work]; nofun) nofun (by rw [at_work]; rfl) ?_ (by rw [at_work]; rfl)
    rw [at_work]
    exact h.queue.dropped_count evicted
  · exact accounts

/-- A turn of either side keeps the accounts right. -/
lemma Accounts.turn (accounts : h.Accounts units) (side : Side) : (h.turn side).Accounts units := by
  cases side with
  | capture => exact accounts.captureTurn
  | delivery => exact accounts.deliveryTurn

/-- The accounts stay right through turns in any order. -/
lemma Accounts.run (accounts : h.Accounts units) (turns : List Side) : (h.run turns).Accounts units := by
  induction turns generalizing h with
  | nil => exact accounts
  | cons side rest ih => exact ih (accounts.turn side)

/-- Turns in two parts are made one part after the other. -/
lemma run_append (h : Handover) (turns more : List Side) : h.run (turns ++ more) = (h.run turns).run more :=
  List.foldl_append

/-- Undisturbed, the capture side posts a batch as if that were one step. -/
lemma run_post {rest : List QueuedFrame} {batches : List (List QueuedFrame)}
    (at_work : h.capture = .posting rest batches) :
    ∃ departures, h.run (List.replicate (2 * rest.length) .capture) =
      { h with queue := rest.foldl FrameQueue.push h.queue, capture := .posting [] batches, departures } := by
  induction rest generalizing h with
  | nil =>
    refine ⟨h.departures, ?_⟩
    obtain ⟨queue, stop, capture⟩ := h
    cases at_work
    rfl
  | cons unit rest ih =>
    obtain ⟨departures, posted⟩ : ∃ departures, (h.turn .capture).turn .capture =
        { h with queue := h.queue.push unit, capture := .posting rest batches, departures } := by
      obtain ⟨queue, stop, capture⟩ := h
      cases at_work
      exact ⟨_, rfl⟩
    obtain ⟨departures', rested⟩ :=
      @ih { h with queue := h.queue.push unit, capture := .posting rest batches, departures } rfl
    refine ⟨departures', ?_⟩
    rw [List.length_cons, Nat.mul_succ, List.replicate_succ, List.replicate_succ]
    exact (congrArg (Handover.run · (List.replicate (2 * rest.length) .capture)) posted).trans rested

/-- Undisturbed, the delivery side takes everything as if that were one step. -/
lemma run_take (taking : h.delivery = .taking) :
    ∃ departures, h.run (List.replicate h.queue.frames.length .delivery) =
      { h with queue := { h.queue with line := .empty }, taken := h.taken ++ h.queue.frames, departures } := by
  generalize waiting : h.queue.frames = units
  induction units generalizing h with
  | nil =>
    refine ⟨h.departures, ?_⟩
    rw [List.append_nil, ← h.queue.line.eq_empty waiting]
    rfl
  | cons unit rest ih =>
    obtain ⟨line, popped, left⟩ := FrameQueue.pop_cons waiting
    have took : h.turn .delivery = h.take [unit] { h.queue with line } := by
      rw [turn, Handover.deliveryTurn, taking]
      dsimp only
      rw [popped]
    obtain ⟨departures, rested⟩ := @ih (h.take [unit] { h.queue with line }) taking left
    refine ⟨departures, ?_⟩
    rw [List.length_cons, List.replicate_succ]
    refine (congrArg (Handover.run · (List.replicate rest.length .delivery)) took).trans (rested.trans ?_)
    rw [Handover.take, List.append_assoc]
    rfl

/-- The capture side comes to its end after enough turns, when it is about to begin a batch or to stop. -/
lemma batches_end {batches : List (List QueuedFrame)} (at_work : h.capture = .posting [] batches) :
    ∃ turns, (h.run turns).capture = .stopped := by
  induction batches generalizing h with
  | nil =>
    refine ⟨[.capture], ?_⟩
    show h.captureTurn.capture = .stopped
    rw [captureTurn, at_work]
  | cons batch batches ih =>
    have begun : h.captureTurn.capture = .posting batch batches := by
      rw [captureTurn, at_work]
    obtain ⟨departures, posted⟩ := run_post begun
    obtain ⟨turns, stopped⟩ := @ih (h.captureTurn.run (List.replicate (2 * batch.length) .capture)) (by rw [posted])
    refine ⟨.capture :: (List.replicate (2 * batch.length) .capture ++ turns), ?_⟩
    exact (congrArg Handover.capture (run_append h.captureTurn _ turns)).trans stopped

/-- The capture side can stop from wherever it is. -/
lemma capture_ends (h : Handover) : ∃ turns, (h.run turns).capture = .stopped := by
  have posting_ends : ∀ {h : Handover} {rest batches}, h.capture = .posting rest batches →
      ∃ turns, (h.run turns).capture = .stopped := by
    intro h rest batches at_work
    obtain ⟨departures, posted⟩ := run_post at_work
    obtain ⟨turns, stopped⟩ := @batches_end (h.run (List.replicate (2 * rest.length) .capture)) _ (by rw [posted])
    exact ⟨List.replicate (2 * rest.length) .capture ++ turns,
      (congrArg Handover.capture (run_append h _ turns)).trans stopped⟩
  cases at_work : h.capture with
  | posting rest batches => exact posting_ends at_work
  | counting evicted rest batches =>
    have counted : h.captureTurn.capture = .posting rest batches := by
      rw [captureTurn, at_work]
    obtain ⟨turns, stopped⟩ := posting_ends counted
    exact ⟨.capture :: turns, stopped⟩
  | stopped => exact ⟨[], at_work⟩

/-- Behind the flag, the delivery side can end from wherever it is. -/
lemma delivery_ends (stopped : h.capture = .stopped) (flag : h.stop = true) : ∃ turns, (h.run turns).IsOver := by
  cases at_work : h.delivery with
  | taking =>
    obtain ⟨departures, taken⟩ := run_take at_work
    refine ⟨List.replicate h.queue.frames.length .delivery ++ [.delivery, .delivery, .delivery], ?_⟩
    rw [run_append, taken]
    obtain ⟨queue, stop, capture, delivery⟩ := h
    cases flag
    cases at_work
    exact ⟨stopped, rfl⟩
  | checking =>
    obtain ⟨queue, stop, capture, delivery⟩ := h
    cases flag
    cases at_work
    exact ⟨[.delivery, .delivery], stopped, rfl⟩
  | draining =>
    obtain ⟨queue, stop, capture, delivery⟩ := h
    cases at_work
    exact ⟨[.delivery], stopped, rfl⟩
  | ended => exact ⟨[], stopped, at_work⟩

/-- Every handover can come to its end. -/
lemma Accounts.can_end (accounts : h.Accounts units) : ∃ turns, (h.run turns).IsOver := by
  obtain ⟨first, stopped⟩ := capture_ends h
  have flag := (accounts.run first).stopped.mpr stopped
  obtain ⟨second, ended⟩ := delivery_ends stopped flag
  exact ⟨first ++ second, by rwa [run_append]⟩

/-- Delivered are all units that departed without being evicted. -/
lemma departed_delivered (h : Handover) : h.departed .delivered =
    (h.departures.filter fun departure => departure.fate ≠ .evicted).map Departure.unit := by
  rw [departed, Departure.filter_not_evicted]

/-- Every unit that departed is counted once, among the delivered or among the evicted ones. -/
lemma length_departed (h : Handover) :
    (h.departed .delivered).length + (h.departed .evicted).length = h.departures.length := by
  rw [departed, departed, List.length_map, List.length_map, Nat.add_comm, Departure.length_fates]

/-- When everything is posted and nobody waits, the accounts are about all units. -/
lemma Accounts.settled (accounts : h.Accounts units) (posted : h.capture = .posting [] [] ∨ h.capture = .stopped)
    (emptied : h.queue.frames = []) :
    h.delivered + h.queue.dropped = h.unitsPosted ∧ h.unitsPosted = units.length ∧
      h.departures.map Departure.unit = units ∧ h.queue.dropped = (h.departed .evicted).length := by
  obtain ⟨in_order, taken, dropped, announced, -, -, -⟩ := accounts
  have nothing : h.capture.toCome = [] ∧ h.capture.owed = 0 ∧ h.capture.unannounced = 0 := by
    rcases posted with at_work | at_work <;>
    · rw [at_work]
      exact ⟨rfl, rfl, rfl⟩
  rw [emptied, nothing.1, List.append_nil, List.append_nil] at in_order
  rw [nothing.2.1, Nat.add_zero] at dropped
  rw [nothing.2.2, Nat.add_zero] at announced
  refine ⟨?_, announced, in_order, dropped⟩
  calc h.delivered + h.queue.dropped
    _ = (h.departed .delivered).length + (h.departed .evicted).length := by rw [delivered, taken, dropped]
    _ = (h.departures.map Departure.unit).length := by rw [length_departed, List.length_map]
    _ = h.unitsPosted := by rw [in_order, announced]

end Handover

open Handover in
/-- However the two sides take turns, when both are at their end then what was delivered and what was dropped add up to
what was posted: every unit has left the queue in the order in which it was posted, and the delivery side has those
that were not evicted. Whatever has happened so far, the sides can still come to their end. -/
theorem handover_settled (capacity : Nat) (batches : List (List QueuedFrame)) (turns : List Side) :
    let h := (start capacity batches).run turns
    (h.IsOver →
      h.delivered + h.queue.dropped = h.unitsPosted ∧
      h.unitsPosted = batches.flatten.length ∧
      h.departures.map Departure.unit = batches.flatten ∧
      h.taken = (h.departures.filter fun departure => departure.fate ≠ .evicted).map Departure.unit ∧
      h.queue.dropped = (h.departures.filter fun departure => departure.fate = .evicted).length) ∧
    ∃ more, (h.run more).IsOver := by
  intro h
  have accounts : h.Accounts batches.flatten := (start_accounts capacity batches).run turns
  refine ⟨fun ended => ?_, accounts.can_end⟩
  obtain ⟨balanced, announced, in_order, dropped⟩ := accounts.settled (.inr ended.1) (accounts.emptied ended.2)
  refine ⟨balanced, announced, in_order, accounts.taken.trans h.departed_delivered, ?_⟩
  rw [dropped, departed, List.length_map]

open Handover in
/-- The second unit makes room for the third. The fourth is posted, and the flag raised, after the delivery side has
found the queue empty and before it looks at the flag. -/
example :
    let unit (byte : UInt8) : QueuedFrame := ⟨[byte], 0⟩
    let pushes (count : Nat) : List Side := List.replicate (2 * count) .capture
    let turns := [.capture] ++ pushes 1 ++ [.delivery] ++ pushes 2 ++ [.delivery, .delivery, .capture] ++ pushes 1 ++
      [.capture, .delivery, .delivery]
    let h := (start 1 [[unit 1, unit 2, unit 3], [unit 4]]).run turns
    h.IsOver ∧ h.taken = [unit 1, unit 3, unit 4] ∧ h.queue.dropped = 1 ∧ h.unitsPosted = 4 :=
  ⟨⟨rfl, rfl⟩, rfl, rfl, rfl⟩

end VideoCapture
