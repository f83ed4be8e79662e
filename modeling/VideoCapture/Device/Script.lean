import VideoCapture.Device

/-!
# Scripted devices

A device that answers by a script: a list of what reads give, and a list of what waits give. It is done
when both lists are empty, unless it is said never to be done.
-/

namespace VideoCapture

/-- A device that follows a script. -/
structure Script where
  format : VideoFormat
  bufferSize : Nat
  reads : List (Except DeviceFault Bytes) := []
  waits : List (Except DeviceFault Bool) := []
  endless : Bool := false

namespace Script

/-- Whether the script is at its end. -/
def isFinished (script : Script) : Bool :=
  !script.endless && script.reads.isEmpty && script.waits.isEmpty

/-- The next answer to a wait. Without one, there is something to read as long as reads are left. -/
def wait (script : Script) : Except DeviceFault Bool × Script :=
  match script.waits with
  | [] => (.ok !script.reads.isEmpty, script)
  | answer :: rest => (answer, { script with waits := rest })

/-- The next answer to a read, cut to the room there is. Without one, the device has nothing. -/
def read (script : Script) (room : Nat) : Except DeviceFault Bytes × Script :=
  match script.reads with
  | [] => (.ok [], script)
  | answer :: rest => (answer.map (List.take room), { script with reads := rest })

instance : Device Script where
  format := format
  bufferSize := bufferSize
  isFinished := isFinished
  wait script now _ :=
    let (answer, script) := script.wait
    (answer, now, script)
  read := read

end Script

end VideoCapture
