import VideoCapture.Delivery.Source

/-!
# Capture devices

Where capture buffers come from. A device can be waited for and read, and either may fail. Some failures
only say that it was not the moment.
-/

namespace VideoCapture

/-- Why a device did not answer. -/
inductive DeviceFault where
  | wouldBlock
  | interrupted
  /-- The buffer to read into has `room` bytes, and the frame needs more. -/
  | noRoom (room needed : Nat)
  /-- Anything else that the device says. -/
  | other (text : String)
  deriving DecidableEq, Repr

namespace DeviceFault

/-- Whether trying again is all there is to do. -/
def isTransient : DeviceFault → Bool
  | wouldBlock | interrupted => true
  | _ => false

/-- The wording of a fault. -/
def message : DeviceFault → String
  | wouldBlock => "operation would block"
  | interrupted => "operation interrupted"
  | noRoom room needed => s!"read buffer of {room} bytes, frame needs {needed}"
  | other text => text

end DeviceFault

/-- A source of capture buffers. Times are nanoseconds of one clock. -/
class Device (δ : Type) where
  /-- The agreed format. -/
  format : δ → VideoFormat
  /-- The size of the largest buffer that a read may give. -/
  bufferSize : δ → Nat
  /-- Whether nothing will ever be read again. -/
  isFinished : δ → Bool
  /-- Waits from the time `now` on for at most `timeout`. Tells whether there is something to read, and
  the time afterwards. -/
  wait : δ → (now timeout : Nat) → Except DeviceFault Bool × Nat × δ
  /-- Reads one buffer of at most `room` bytes. No bytes means that the device had nothing. -/
  read : δ → (room : Nat) → Except DeviceFault Bytes × δ

end VideoCapture
