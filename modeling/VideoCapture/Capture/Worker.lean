import VideoCapture.Capture

/-!
# Capture workers

A worker polls a session on its own until the device is finished or somebody stops it, closes the
recording, and gives the session up.
-/

namespace VideoCapture.Capture

variable {δ : Type} [Device δ]

/-- Polls until the device is finished, but at most `polls` times. -/
def pollUntilFinished (timeout : Nat) : (polls : Nat) → Capture δ → Capture δ
  | 0, capture => capture
  | polls + 1, capture =>
    match capture.poll timeout with
    | (.finished, capture) => capture
    | (_, capture) => pollUntilFinished timeout polls capture

/-- Polls until the device is finished or has nothing in time, but at most `polls` times. This is what a
worker has done when it is stopped while it waits. -/
def pollUntilIdle (timeout : Nat) : (polls : Nat) → Capture δ → Capture δ
  | 0, capture => capture
  | polls + 1, capture =>
    match capture.poll timeout with
    | (.finished, capture) | (.idle, capture) => capture
    | (_, capture) => pollUntilIdle timeout polls capture

/-- The end of a worker: the recording is closed and the session given up. -/
def retire (capture : Capture δ) : CaptureStats × Feed × Host :=
  let (stats, capture) := capture.finish
  (stats, capture.drop)

end VideoCapture.Capture
