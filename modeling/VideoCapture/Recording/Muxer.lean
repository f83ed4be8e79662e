import VideoCapture.AccessUnit
import VideoCapture.Mp4.Movie
import VideoCapture.Recording.WriteBuffer

/-!
# The muxer

Writes an MP4 file while the camera runs. The file begins with `ftyp`, an unused box that keeps room for
the movie box, and the header of the media data box, whose size is not known yet. From then on samples are
only appended. In the end the size is patched, and the movie box takes the room that was kept for it or,
if it has outgrown that room, a place behind the media data.

```text
ftyp                    32 bytes
free                 16384 bytes, room for moov
mdat  size 0xFFFFFFFF         8 bytes, patched in the end
      (length, NAL unit) ...  one or more for each sample
```

A muxer goes through three phases: it waits for a file, it streams samples into the file, it is
finalized. It never goes back.
-/

namespace VideoCapture

/-- How a muxer writes, which never changes what it writes. -/
structure WriteTuning where
  /-- The largest number of bytes to gather in memory. -/
  bufferLimit : Nat := 1024 * 1024
  /-- The time between two flushes at keyframes, in nanoseconds. -/
  flushInterval : Nat := 1000000000
  /-- The number of samples after which the file is synced, or zero for never. -/
  syncEvery : Nat := 300
  deriving DecidableEq, Repr

/-- What a finished recording contains. -/
structure RecordingSummary where
  frames : Nat
  keyframes : Nat
  /-- The size of the media data box, header included. -/
  mdatSize : Nat
  /-- Whether the movie box took the room that was kept for it. -/
  inPlace : Bool
  deriving DecidableEq, Repr

namespace Recording

/-- The number of bytes that are kept free for the movie box. -/
def moovRoom : Nat := 16 * 1024

/-- The size that stands in the header of the media data box while samples are appended. -/
def openSize : Nat := Track.maxField

/-- What a recording begins with, piece by piece. -/
def opening : List Bytes :=
  [Movie.ftyp, Box.free moovRoom, Box.mdatHeader openSize]

/-- The position of the room for the movie box in a recording that starts at `base`. -/
def moovOffset (base : Nat) : Nat :=
  base + Movie.ftyp.length

/-- The position of the media data box in a recording that starts at `base`. -/
def mdatOffset (base : Nat) : Nat :=
  moovOffset base + moovRoom

/-- Whether a movie box of this length can take the room, so that nothing is left or enough for an
unused box. -/
def fitsRoom (length : Nat) : Bool :=
  length = moovRoom ∨ length + Box.headerSize ≤ moovRoom

/-- Where a movie box is written, and with what behind it, when the samples end at `stop`. -/
def placement (base stop : Nat) (moov : Bytes) : List (Nat × Bytes) :=
  if fitsRoom moov.length then
    (moovOffset base, moov) ::
      if moov.length < moovRoom then
        [(moovOffset base + moov.length, Box.free (moovRoom - moov.length))]
      else []
  else [(stop, moov)]

end Recording

namespace DiskFile

/-- Writes one byte string after the other, up to the first failure. -/
def writeAll (file : DiskFile) : List Bytes → Except FileError Unit × DiskFile
  | [] => (.ok (), file)
  | bytes :: rest =>
    match Writer.write file bytes with
    | (.error error, file) => (.error error, file)
    | (.ok (), file) => file.writeAll rest

/-- Writes byte strings at given positions, up to the first failure. -/
def patch (file : DiskFile) : List (Nat × Bytes) → Except FileError Unit × DiskFile
  | [] => (.ok (), file)
  | (position, bytes) :: rest =>
    match Writer.write { file with handle := { file.handle with position } } bytes with
    | (.error error, file) => (.error error, file)
    | (.ok (), file) => file.patch rest

/-- Makes sure that what was written stays. -/
def sync (file : DiskFile) : Except FileError Unit × DiskFile :=
  let (result, disk) := file.disk.sync
  (result, { file with disk })

end DiskFile

/-- A recording that is being written. -/
structure Streaming where
  file : FileHandle
  track : Track
  /-- The position at which the recording starts in its file. -/
  base : Nat
  /-- The position behind the last sample, counting what is still in memory. -/
  stop : Nat
  /-- The samples so far, last one first. -/
  recorded : List Sample := []
  keyframes : Nat := 0
  buffer : WriteBuffer
  /-- The number of samples since the file was last synced. -/
  unsynced : Nat := 0
  deriving DecidableEq, Repr

namespace Streaming

/-- The position of the media data box. -/
def mdatStart (s : Streaming) : Nat :=
  Recording.mdatOffset s.base

/-- The samples so far, in order. -/
def samples (s : Streaming) : List Sample :=
  s.recorded.reverse

/-- Lets the buffer act on the file. -/
def buffered {α : Type} (s : Streaming) (disk : Disk)
    (act : WriteBuffer → DiskFile → Except FileError α × WriteBuffer × DiskFile) :
    Except FileError α × Streaming × Disk :=
  let (result, buffer, file) := act s.buffer ⟨s.file, disk⟩
  (result, { s with buffer, file := file.handle }, file.disk)

/-- The recording with one more sample in its index. -/
def index (s : Streaming) (size : Nat) (isKeyframe : Bool) : Streaming :=
  { s with
    stop := s.stop + size
    recorded := ⟨s.stop, size % 0x100000000, isKeyframe⟩ :: s.recorded
    keyframes := if isKeyframe then s.keyframes + 1 else s.keyframes }

/-- A new entry stands at the end of the index. -/
@[simp] theorem samples_index (s : Streaming) (size : Nat) (isKeyframe : Bool) :
    (s.index size isKeyframe).samples = s.samples ++ [⟨s.stop, size % 0x100000000, isKeyframe⟩] := by
  simp [index, samples]

/-- Writes the buffer behind a keyframe, if it is time. -/
def flushAtKeyframe (s : Streaming) (disk : Disk) (now : Nat) (isKeyframe : Bool) :
    Except FileError Unit × Streaming × Disk :=
  if isKeyframe then
    match s.buffered disk fun buffer file => buffer.flushIfDue file now with
    | (.error error, s, disk) => (.error error, s, disk)
    | (.ok _, s, disk) => (.ok (), s, disk)
  else (.ok (), s, disk)

/-- Counts a sample, and syncs the file when enough have come together. -/
def syncPeriodically (s : Streaming) (disk : Disk) (now every : Nat) :
    Except FileError Unit × Streaming × Disk :=
  let s := { s with unsynced := s.unsynced + 1 }
  if 0 < every ∧ every ≤ s.unsynced then
    match s.buffered disk fun buffer file => buffer.flush file now with
    | (.error error, s, disk) => (.error error, s, disk)
    | (.ok (), s, disk) =>
      match disk.sync with
      | (.error error, disk) => (.error error, s, disk)
      | (.ok (), disk) => (.ok (), { s with unsynced := 0 }, disk)
  else (.ok (), s, disk)

/-- Appends the non-empty NAL units as one sample. -/
def add (s : Streaming) (disk : Disk) (now every : Nat) (nals : List Bytes) (isKeyframe : Bool) :
    Except CaptureError Unit × Streaming × Disk :=
  let units := nals.filter fun nal => !nal.isEmpty
  if units.isEmpty then (.error .emptyFrame, s, disk)
  else
    let pieces := units.flatMap fun nal => [Bytes.be32 nal.length, nal]
    match s.buffered disk fun buffer file => buffer.appendAll file now pieces with
    | (.error error, s, disk) => (.error (.file error), s, disk)
    | (.ok (), s, disk) =>
      match (s.index (lengthPrefixed units).length isKeyframe).flushAtKeyframe disk now isKeyframe with
      | (.error error, s, disk) => (.error (.file error), s, disk)
      | (.ok (), s, disk) =>
        match s.syncPeriodically disk now every with
        | (.error error, s, disk) => (.error (.file error), s, disk)
        | (.ok (), s, disk) => (.ok (), s, disk)

/-- Patches the size of the media data and puts the movie box into its place. -/
def complete (s : Streaming) (file : DiskFile) : Except CaptureError RecordingSummary × DiskFile :=
  let mdatSize := s.stop - s.mdatStart
  if Track.maxField < mdatSize then (.error (.tooLarge mdatSize), file)
  else match file.patch [(s.mdatStart, Bytes.be32 mdatSize)] with
    | (.error error, file) => (.error (.file error), file)
    | (.ok (), file) =>
      match Movie.moov s.track s.samples with
      | .error error => (.error error, file)
      | .ok moov =>
        match file.patch (Recording.placement s.base s.stop moov) with
        | (.error error, file) => (.error (.file error), file)
        | (.ok (), file) =>
          match file.sync with
          | (.error error, file) => (.error (.file error), file)
          | (.ok (), file) =>
            (.ok ⟨s.recorded.length, s.keyframes, mdatSize, Recording.fitsRoom moov.length⟩, file)

/-- Writes what is in memory, and completes the file. -/
def finalize (s : Streaming) (disk : Disk) (now : Nat) :
    Except CaptureError RecordingSummary × Disk :=
  match s.buffer.flush (⟨s.file, disk⟩ : DiskFile) now with
  | (.error error, _, file) => (.error (.file error), file.disk)
  | (.ok (), _, file) =>
    match file.sync with
    | (.error error, file) => (.error (.file error), file.disk)
    | (.ok (), file) =>
      let (result, file) := s.complete file
      (result, file.disk)

end Streaming

/-- The phases of a muxer. -/
inductive MuxerPhase where
  | uninitialized
  | streaming (recording : Streaming)
  | finalized
  deriving DecidableEq, Repr

/-- A writer of one MP4 file. -/
structure Muxer where
  tuning : WriteTuning
  /-- The path of the file, if the muxer created it. -/
  path : Option String := none
  phase : MuxerPhase := .uninitialized
  deriving DecidableEq, Repr

namespace Muxer

/-- The recording, while it is being written. -/
def streaming? (muxer : Muxer) : Option Streaming :=
  match muxer.phase with
  | .streaming s => some s
  | _ => none

/-- Whether samples can be added. -/
def isStreaming (muxer : Muxer) : Bool :=
  muxer.streaming?.isSome

/-- Whether the recording is over. -/
def isFinalized (muxer : Muxer) : Bool :=
  match muxer.phase with
  | .finalized => true
  | _ => false

/-- The samples of the recording, while it is being written. -/
def samples (muxer : Muxer) : List Sample :=
  match muxer.streaming? with
  | some s => s.samples
  | none => []

/-- The number of samples of the recording, while it is being written. -/
def frameCount (muxer : Muxer) : Nat :=
  muxer.streaming?.elim 0 fun s => s.recorded.length

/-- The last sample of the recording, while it is being written. -/
def lastSample? (muxer : Muxer) : Option Sample :=
  muxer.streaming?.bind fun s => s.recorded.head?

/-- Starts a recording at the position of an open file. A track that no player could show is refused
before anything is written. -/
def start (muxer : Muxer) (disk : Disk) (now : Nat) (file : FileHandle) (track : Track) :
    Except CaptureError Unit × Muxer × Disk :=
  match muxer.phase with
  | .uninitialized =>
    match track.validate with
    | .error error => (.error error, muxer, disk)
    | .ok () =>
      match (⟨file, disk⟩ : DiskFile).writeAll Recording.opening with
      | (.error error, out) => (.error (.file error), muxer, out.disk)
      | (.ok (), out) =>
        let recording : Streaming := {
          file := out.handle
          track
          base := file.position
          stop := Recording.mdatOffset file.position + Box.headerSize
          buffer := {
            limit := muxer.tuning.bufferLimit
            interval := muxer.tuning.flushInterval
            lastFlush := now } }
        (.ok (), { muxer with phase := .streaming recording }, out.disk)
  | _ => (.error .alreadyInitialized, muxer, disk)

/-- Creates the file at a path and starts a recording in it. -/
def create (disk : Disk) (now : Nat) (path : String) (tuning : WriteTuning) (track : Track) :
    Except CaptureError Muxer × Disk :=
  match disk.create path with
  | (.error error, disk) => (.error (.file error), disk)
  | (.ok file, disk) =>
    match ({ tuning, path := some path } : Muxer).start disk now file track with
    | (.error error, _, disk) => (.error error, disk)
    | (.ok (), muxer, disk) => (.ok muxer, disk)

/-- Appends the non-empty ones of some NAL units as one sample. -/
def addSample (muxer : Muxer) (disk : Disk) (now : Nat) (nals : List Bytes) (isKeyframe : Bool) :
    Except CaptureError Unit × Muxer × Disk :=
  match muxer.phase with
  | .streaming s =>
    let (result, s, disk) := s.add disk now muxer.tuning.syncEvery nals isKeyframe
    (result, { muxer with phase := .streaming s }, disk)
  | _ => (.error .notStreaming, muxer, disk)

/-- Appends one NAL unit as one sample. -/
def addFrame (muxer : Muxer) (disk : Disk) (now : Nat) (nal : Bytes) (isKeyframe : Bool) :
    Except CaptureError Unit × Muxer × Disk :=
  muxer.addSample disk now [nal] isKeyframe

/-- Appends an access unit as one sample. -/
def addAccessUnit (muxer : Muxer) (disk : Disk) (now : Nat) (unit : AccessUnit) :
    Except CaptureError Unit × Muxer × Disk :=
  muxer.addSample disk now unit.nals unit.isKeyframe

/-- Completes the file. The recording is over afterwards, even if that failed. -/
def finalize (muxer : Muxer) (disk : Disk) (now : Nat) :
    Except CaptureError RecordingSummary × Muxer × Disk :=
  match muxer.phase with
  | .streaming s =>
    let (result, disk) := s.finalize disk now
    (result, { muxer with phase := .finalized }, disk)
  | _ => (.error .notStreaming, muxer, disk)

/-- Gives a muxer up. A recording that is still being written is completed as far as possible. -/
def drop (muxer : Muxer) (disk : Disk) (now : Nat) : Disk :=
  (muxer.finalize disk now).2.2

end Muxer

end VideoCapture
