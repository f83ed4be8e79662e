import VideoCapture.ParameterSets.Description

/-!
# Video tracks

What an MP4 file says about its one video track as a whole. Time is counted in ticks of which every
sample lasts the same number.
-/

namespace VideoCapture

/-- A video track: its codec and parameter sets, the picture size, and the frame rate. -/
structure Track where
  codec : Codec
  sets : ParameterSets
  width : Nat
  height : Nat
  fps : Nat
  deriving DecidableEq, Repr

namespace Track

/-- The number of ticks that each sample lasts. -/
def sampleTicks : Nat := 1000

/-- The largest number in a 32-bit field. -/
def maxField : Nat := 0x100000000 - 1

/-- The number of ticks in a second. -/
def timescale (track : Track) : Nat :=
  min (track.fps * sampleTicks) maxField

/-- Refuses a track that no player could show: without a picture, with one that is too large for its
16-bit fields, without a frame rate, or with a parameter set missing. -/
def validate (track : Track) : Except CaptureError Unit :=
  if track.width = 0 ∨ track.height = 0 then
    .error (.invalidTrack (.emptyPicture track.width track.height))
  else if 0x10000 ≤ track.width ∨ 0x10000 ≤ track.height then
    .error (.invalidTrack (.oversizedPicture track.width track.height))
  else if track.fps = 0 then .error (.invalidTrack .noFrameRate)
  else match track.sets.missing? track.codec with
    | some kind => .error (.missingParameterSet kind)
    | none => .ok ()

end Track

end VideoCapture
