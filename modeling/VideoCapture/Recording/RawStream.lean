import VideoCapture.Disk

/-!
# Raw streams

A file that takes capture buffers as they come. Small writes are gathered up to the capacity of a buffer
in memory. A write that does not fit first empties the buffer, and one that would fill the whole buffer
goes straight to the file.
-/

namespace VideoCapture

/-- An open raw stream and what is still in memory of it. -/
structure RawStream where
  file : FileHandle
  /-- The bytes in memory. -/
  gathered : ByteLog := .empty
  deriving DecidableEq, Repr

namespace RawStream

/-- The capacity of the buffer. -/
def capacity : Nat := 8192

/-- The bytes that are not in the file yet. -/
def pending (stream : RawStream) : Bytes :=
  stream.gathered.toBytes

/-- Writes what is in memory. When that fails it stays there. -/
def flush (stream : RawStream) (disk : Disk) : Except FileError Unit × RawStream × Disk :=
  match disk.write stream.file stream.pending with
  | (.ok (), file, disk) => (.ok (), { file }, disk)
  | (.error error, file, disk) => (.error error, { stream with file }, disk)

/-- Takes bytes that are to follow what is in memory, which has room for them or is empty. -/
def put (stream : RawStream) (disk : Disk) (bytes : Bytes) :
    Except FileError Unit × RawStream × Disk :=
  if capacity ≤ bytes.length then
    let (result, file, disk) := disk.write stream.file bytes
    (result, { stream with file }, disk)
  else (.ok (), { stream with gathered := stream.gathered.append bytes }, disk)

/-- Appends bytes to the stream. -/
def write (stream : RawStream) (disk : Disk) (bytes : Bytes) :
    Except FileError Unit × RawStream × Disk :=
  if stream.gathered.size + bytes.length ≤ capacity then stream.put disk bytes
  else match stream.flush disk with
    | (.error error, stream, disk) => (.error error, stream, disk)
    | (.ok (), stream, disk) => stream.put disk bytes

/-- Closes the stream, after a last attempt to write what is in memory. -/
def drop (stream : RawStream) (disk : Disk) : Disk :=
  (stream.flush disk).2.2

end RawStream

end VideoCapture
