import VideoCapture.Disk

/-!
# The write buffer

Bytes on their way to a file are gathered in memory up to a limit. An append that would cross the limit
first writes what is gathered, and one that is larger than the limit on its own goes straight through, so
the order of the bytes never changes.
-/

namespace VideoCapture

/-- Something that takes bytes. A write takes all of its bytes or fails. -/
class Writer (ω : Type) where
  write : ω → Bytes → Except FileError Unit × ω
  flush : ω → Except FileError Unit × ω

/-- A writer that keeps everything in memory and never fails. -/
structure MemoryWriter where
  received : Bytes := []
  deriving DecidableEq, Repr

instance : Writer MemoryWriter where
  write out bytes := (.ok (), ⟨out.received ++ bytes⟩)
  flush out := (.ok (), out)

/-- An open file together with the disk it is on. -/
structure DiskFile where
  handle : FileHandle
  disk : Disk

instance : Writer DiskFile where
  write out bytes :=
    let (result, handle, disk) := out.disk.write out.handle bytes
    (result, ⟨handle, disk⟩)
  flush out := (.ok (), out)

/-- How often a buffer was written and why. -/
structure FlushStats where
  /-- Because an append would have crossed the limit. -/
  forced : Nat := 0
  /-- Because a keyframe came after the minimum interval. -/
  scheduled : Nat := 0
  /-- Because someone asked for it. -/
  explicit : Nat := 0
  /-- The number of bytes handed to the writer. -/
  written : Nat := 0
  deriving DecidableEq, Repr

/-- A buffer in front of a writer. -/
structure WriteBuffer where
  /-- The largest number of bytes to gather. -/
  limit : Nat
  /-- The time that passes at least between two scheduled flushes. -/
  interval : Nat
  /-- The bytes that are gathered. -/
  gathered : ByteLog := .empty
  /-- When the buffer was last written. -/
  lastFlush : Nat := 0
  stats : FlushStats := {}
  deriving DecidableEq, Repr

namespace WriteBuffer

variable {ω : Type} [Writer ω]

/-- The bytes that are on their way. -/
def pending (buffer : WriteBuffer) : Bytes :=
  buffer.gathered.toBytes

/-- The buffer with more bytes in it. -/
def gather (buffer : WriteBuffer) (bytes : Bytes) : WriteBuffer :=
  { buffer with gathered := buffer.gathered.append bytes }

/-- Gathered bytes are pending behind the others. -/
@[simp] theorem pending_gather (buffer : WriteBuffer) (bytes : Bytes) :
    (buffer.gather bytes).pending = buffer.pending ++ bytes :=
  buffer.gathered.toBytes_append bytes

/-- The buffer after `count` bytes were handed to the writer. -/
def countWritten (buffer : WriteBuffer) (count : Nat) : WriteBuffer :=
  { buffer with stats := { buffer.stats with written := buffer.stats.written + count } }

/-- Hands everything that is gathered to the writer. When that fails it stays gathered. -/
def writePending (buffer : WriteBuffer) (out : ω) (now : Nat) :
    Except FileError Unit × WriteBuffer × ω :=
  if buffer.gathered.isEmpty then (.ok (), { buffer with lastFlush := now }, out)
  else match Writer.write out buffer.pending with
    | (.error error, out) => (.error error, buffer, out)
    | (.ok (), out) =>
      (.ok (), { buffer.countWritten buffer.gathered.size with gathered := .empty, lastFlush := now }, out)

/-- Appends bytes, and writes what is gathered first if they would cross the limit. -/
def append (buffer : WriteBuffer) (out : ω) (now : Nat) (bytes : Bytes) :
    Except FileError Unit × WriteBuffer × ω :=
  if buffer.gathered.size + bytes.length ≤ buffer.limit then (.ok (), buffer.gather bytes, out)
  else
    let buffer := { buffer with stats := { buffer.stats with forced := buffer.stats.forced + 1 } }
    match buffer.writePending out now with
    | (.error error, buffer, out) => (.error error, buffer, out)
    | (.ok (), buffer, out) =>
      if bytes.length ≤ buffer.limit then (.ok (), buffer.gather bytes, out)
      else match Writer.write out bytes with
        | (.error error, out) => (.error error, buffer, out)
        | (.ok (), out) => (.ok (), buffer.countWritten bytes.length, out)

/-- Appends one byte string after the other, up to the first failure. -/
def appendAll (buffer : WriteBuffer) (out : ω) (now : Nat) :
    List Bytes → Except FileError Unit × WriteBuffer × ω
  | [] => (.ok (), buffer, out)
  | bytes :: rest =>
    match buffer.append out now bytes with
    | (.error error, buffer, out) => (.error error, buffer, out)
    | (.ok (), buffer, out) => buffer.appendAll out now rest

/-- Writes what is gathered if there is something and the interval has passed, and tells whether it
did. -/
def flushIfDue (buffer : WriteBuffer) (out : ω) (now : Nat) :
    Except FileError Bool × WriteBuffer × ω :=
  if buffer.gathered.isEmpty ∨ now - buffer.lastFlush < buffer.interval then (.ok false, buffer, out)
  else
    let buffer := { buffer with stats := { buffer.stats with scheduled := buffer.stats.scheduled + 1 } }
    match buffer.writePending out now with
    | (.error error, buffer, out) => (.error error, buffer, out)
    | (.ok (), buffer, out) => (.ok true, buffer, out)

/-- Writes what is gathered and flushes the writer. -/
def flush (buffer : WriteBuffer) (out : ω) (now : Nat) : Except FileError Unit × WriteBuffer × ω :=
  let buffer := { buffer with stats := { buffer.stats with explicit := buffer.stats.explicit + 1 } }
  match buffer.writePending out now with
  | (.error error, buffer, out) => (.error error, buffer, out)
  | (.ok (), buffer, out) =>
    let (result, out) := Writer.flush out
    (result, buffer, out)

end WriteBuffer

end VideoCapture
