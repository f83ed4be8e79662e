import VideoCapture.Program
import VideoCapture.Proofs.Capture.Isolation
import VideoCapture.Proofs.Delivery.Accounting

/-!
# The program hands over

The program lets its two sides take turns in one particular way: after each poll the delivery side takes everything.
So a run of the program is a run of a handover (`Playback.Plays`), and the counters that it prints are settled
(`report_settled`).
-/

namespace VideoCapture

namespace Capture

variable {δ : Type} [Device δ] {capture next : Capture δ} {reading : Reading}

/-- What a call posts goes to the queue and is counted. -/
lemma Meets.posts (meets : capture.Meets reading next) :
    ∃ posted : List QueuedFrame, next.feed.queue = posted.foldl FrameQueue.push capture.feed.queue ∧
      next.stats.unitsPosted = capture.stats.unitsPosted + posted.length := by
  obtain ⟨posted, brought, queue⟩ := meets.queue
  refine ⟨posted, queue, ?_⟩
  have counted := congrArg Core.unitsPosted meets.core
  have length := congrArg List.length brought
  rw [List.length_map] at length
  rw [length]
  cases read : reading.buffer? with
  | none =>
    rw [read] at counted
    exact counted
  | some buffer =>
    rw [read] at counted
    exact counted.trans (Core.unitsPosted_take capture.core buffer)

end Capture

namespace Playback

/-- A handover is where a run of the program is, between two polls. -/
structure Plays (playback : Playback) (h : Handover) : Prop where
  queue : h.queue = playback.capture.feed.queue
  posted : h.unitsPosted = playback.capture.stats.unitsPosted
  delivered : h.delivered = playback.delivered
  taking : h.delivery = .taking

/-- From one run of the program to another there is a handover of some batches. -/
def LeadsTo (playback next : Playback) : Prop :=
  ∃ batches, ∀ h later, playback.Plays h → h.capture = .posting [] (batches ++ later) →
    ∃ turns, next.Plays (h.run turns) ∧ (h.run turns).capture = .posting [] later

variable {playback next last : Playback}

/-- Where nothing is handed over, nothing else matters. -/
lemma LeadsTo.of_same (queue : next.capture.feed.queue = playback.capture.feed.queue)
    (posted : next.capture.stats.unitsPosted = playback.capture.stats.unitsPosted)
    (delivered : next.delivered = playback.delivered) : playback.LeadsTo next := by
  refine ⟨[], fun h later plays at_work => ⟨[], ?_, at_work⟩⟩
  exact ⟨plays.queue.trans queue.symm, plays.posted.trans posted.symm, plays.delivered.trans delivered.symm,
    plays.taking⟩

/-- A run that leads to a second one leads to where that leads to. -/
lemma LeadsTo.trans (one : playback.LeadsTo next) (two : next.LeadsTo last) : playback.LeadsTo last := by
  obtain ⟨batches, first⟩ := one
  obtain ⟨batches', second⟩ := two
  refine ⟨batches ++ batches', fun h later plays at_work => ?_⟩
  rw [List.append_assoc] at at_work
  obtain ⟨turns, plays, at_work⟩ := first h _ plays at_work
  obtain ⟨turns', plays, at_work⟩ := second _ later plays at_work
  rw [← Handover.run_append] at plays at_work
  exact ⟨turns ++ turns', plays, at_work⟩

/-- The delivery side takes everything. -/
lemma deliver_leads (playback : Playback) : playback.LeadsTo playback.deliver := by
  refine ⟨[], fun h later plays at_work => ?_⟩
  obtain ⟨departures, taken⟩ := Handover.run_take plays.taking
  refine ⟨List.replicate h.queue.frames.length .delivery, ?_, by rw [taken]; exact at_work⟩
  rw [taken]
  refine ⟨?_, plays.posted, ?_, plays.taking⟩
  · rw [plays.queue]
    rfl
  · rw [Handover.delivered, List.length_append, plays.queue]
    exact congrArg (· + _) plays.delivered

/-- The capture side polls, and posts what it has read as one batch. -/
lemma poll_leads (playback : Playback) :
    playback.LeadsTo { playback with capture := (playback.capture.poll pollTimeout).2 } := by
  obtain ⟨batch, queue, posted⟩ := (playback.capture.meets (.poll pollTimeout)).posts
  refine ⟨[batch], fun h later plays at_work => ?_⟩
  have begun : h.captureTurn = { h with
      capture := .posting batch later, unitsPosted := h.unitsPosted + batch.length } := by
    rw [Handover.captureTurn, at_work]
    rfl
  obtain ⟨departures, run⟩ := @Handover.run_post h.captureTurn batch later (by rw [begun])
  have came : h.run (.capture :: List.replicate (2 * batch.length) .capture) = _ := run
  refine ⟨.capture :: List.replicate (2 * batch.length) .capture, ?_⟩
  rw [came, begun]
  refine ⟨⟨?_, ?_, plays.delivered, plays.taking⟩, rfl⟩
  · rw [plays.queue]
    exact queue.symm
  · rw [plays.posted]
    exact posted.symm

/-- Announcing the source leaves the session and the counter of deliveries alone. -/
lemma announce_same (playback : Playback) (source : VideoSource) :
    (playback.announce source).capture = playback.capture ∧
      (playback.announce source).delivered = playback.delivered := by
  unfold announce
  split <;> exact ⟨rfl, rfl⟩

/-- One step of the program is a handover of some batches. -/
lemma step_leads (playback : Playback) : playback.LeadsTo playback.step.2 := by
  have polled := playback.poll_leads
  unfold Playback.step
  dsimp only
  split
  · rename_i came
    rw [came] at polled
    exact polled
  · rename_i came
    rw [came] at polled
    -- printing in between changes nothing
    have delivered : ∀ next : Playback, next.capture = _ → next.delivered = playback.delivered →
        playback.LeadsTo next.deliver := fun next same counted =>
      polled.trans (.trans (.of_same (by rw [same]) (by rw [same]) counted) next.deliver_leads)
    split
    · exact .of_same rfl rfl rfl
    split
    · exact delivered _ (announce_same _ _).1 (announce_same _ _).2
    split
    · exact delivered _ (announce_same _ _).1 (announce_same _ _).2
    · exact delivered _ rfl rfl

/-- A run of the program is a handover of some batches. -/
lemma run_leads (playback : Playback) (polls : Nat) : playback.LeadsTo (playback.run polls).2 := by
  induction polls generalizing playback with
  | zero => exact .of_same rfl rfl rfl
  | succ polls ih =>
    have stepped := playback.step_leads
    unfold Playback.run
    split
    · rename_i came
      rw [came] at stepped
      exact stepped.trans (ih _)
    · exact stepped

end Playback

/-- However a run of the program goes, in the end it prints numbers of delivered and of dropped units that add up to the
number of units that were posted. -/
theorem report_settled (replay : Replay) (config : CaptureConfig) (host : Host) (args : Arguments) (polls : Nat) :
    let playback := ((Playback.start (Capture.start replay config host) args).run polls).2
    ∃ delivered dropped,
      playback.close.1.stdout = playback.printed ++ Playback.report playback.capture.stats delivered dropped ∧
      delivered + dropped = playback.capture.stats.unitsPosted := by
  intro playback
  obtain ⟨batches, leads⟩ := (Playback.run_leads _ polls).trans playback.deliver_leads
  have begins : (Playback.start (Capture.start replay config host) args).Plays
      (Handover.start config.queueDepth (batches ++ [])) := by
    unfold Playback.start
    dsimp only
    split
    · exact ⟨rfl, rfl, rfl, rfl⟩
    · unfold Playback.announce
      split <;> exact ⟨rfl, rfl, rfl, rfl⟩
  obtain ⟨turns, plays, at_rest⟩ := leads _ [] begins rfl
  have accounts := (Handover.start_accounts config.queueDepth (batches ++ [])).run turns
  obtain ⟨balanced, -⟩ := accounts.settled (.inl at_rest) (by rw [plays.queue]; rfl)
  rw [plays.delivered, plays.queue, plays.posted] at balanced
  exact ⟨_, _, rfl, balanced⟩

end VideoCapture
