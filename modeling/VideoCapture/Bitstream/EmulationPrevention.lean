import VideoCapture.Bytes

/-!
# Emulation prevention

A NAL unit must not contain a start code, so an encoder writes a byte `03` behind two zero bytes wherever
the next byte would complete one. Reading drops each `03` that follows two zero bytes, after which the
count of zero bytes starts again.
-/

namespace VideoCapture.EmulationPrevention

/-- Drops the inserted bytes from `data`, where `zeros` zero bytes precede it and `kept` is what has been
kept so far, last byte first. -/
def stripFrom (zeros : Nat) (kept : Bytes) : Bytes → Bytes
  | [] => kept.reverse
  | b :: rest =>
    if 2 ≤ zeros ∧ b = 3 then stripFrom 0 kept rest
    else stripFrom (if b = 0 then zeros + 1 else 0) (b :: kept) rest

/-- The byte string without its emulation prevention bytes. -/
def strip (data : Bytes) : Bytes :=
  stripFrom 0 [] data

end VideoCapture.EmulationPrevention
