import VideoCapture.Bytes

/-!
# Byte logs

A byte string that grows at its end. It is kept as the pieces that were appended, so that appending takes
as long as the new piece is, and not as long as what is there already. What a log holds is `toBytes`, and
every operation is described by what it does to that.
-/

namespace VideoCapture

/-- A byte string that grows at its end. -/
structure ByteLog where
  /-- The pieces that were appended, last one first. -/
  pieces : List Bytes
  /-- The number of bytes. -/
  size : Nat
  size_eq_length : size = pieces.reverse.flatten.length
  deriving DecidableEq, Repr

namespace ByteLog

/-- The log without any bytes. -/
def empty : ByteLog :=
  ⟨[], 0, rfl⟩

/-- The log with the given bytes. -/
def ofBytes (bytes : Bytes) : ByteLog :=
  ⟨[bytes], bytes.length, by simp⟩

/-- The bytes in the order in which they were appended. -/
def toBytes (log : ByteLog) : Bytes :=
  log.pieces.reverse.flatten

/-- Whether there are no bytes. -/
def isEmpty (log : ByteLog) : Bool :=
  log.size = 0

/-- The log with more bytes at its end. -/
def append (log : ByteLog) (bytes : Bytes) : ByteLog :=
  ⟨bytes :: log.pieces, log.size + bytes.length, by simp [log.size_eq_length]⟩

/-- The size of a log is the number of its bytes. -/
@[simp] theorem length_toBytes (log : ByteLog) : log.toBytes.length = log.size :=
  log.size_eq_length.symm

/-- What is appended to a log stands behind what it holds. -/
@[simp] theorem toBytes_append (log : ByteLog) (bytes : Bytes) :
    (log.append bytes).toBytes = log.toBytes ++ bytes := by
  simp [append, toBytes]

/-- A log grows by what is appended. -/
@[simp] theorem size_append (log : ByteLog) (bytes : Bytes) :
    (log.append bytes).size = log.size + bytes.length := rfl

/-- A log is empty exactly if no bytes are in it. -/
theorem isEmpty_iff (log : ByteLog) : log.isEmpty ↔ log.toBytes = [] := by
  rw [← List.length_eq_zero_iff, length_toBytes]
  simp [isEmpty]

end ByteLog

end VideoCapture
