/-!
# Memory

Memory that is asked for in one piece. A piece has a largest size, whatever the machine has; within it the
machine gives what it has, and the program is killed when it asks for more.
-/

namespace VideoCapture

/-- Why a piece of memory is refused. -/
inductive MemoryFault where
  /-- No piece can be that large. -/
  | oversized
  /-- The machine does not have so many bytes. -/
  | exhausted (bytes : Nat)
  deriving DecidableEq, Repr

namespace MemoryFault

/-- The text that is reported. -/
def message : MemoryFault → String
  | .oversized => "capacity overflow"
  | .exhausted bytes => s!"memory allocation of {bytes} bytes failed"

end MemoryFault

namespace Memory

/-- The largest size of a piece. -/
def maxPiece : Nat := 0x8000000000000000 - 1

/-- The number of bytes that a machine is taken to have. -/
def available : Nat := 0x800000000

/-- Asks for a piece of memory. -/
def request (bytes : Nat) : Except MemoryFault Unit :=
  if maxPiece < bytes then .error .oversized
  else if available < bytes then .error (.exhausted bytes)
  else .ok ()

end Memory

end VideoCapture
