import VideoCapture.Host
import VideoCapture.Mp4.Still
import VideoCapture.Splitter

/-!
# The latest still

For those who come late, a source keeps one still picture: an MP4 file with the latest keyframe, or the
latest image as it came. From time to time the still is saved into a directory, where it replaces the one
saved before.
-/

namespace VideoCapture

/-- The encodings of a still. -/
inductive StillFormat where
  | mp4
  | jpeg
  deriving DecidableEq, Repr

namespace StillFormat

/-- The file extension of a still. -/
def fileExtension : StillFormat → String
  | mp4 => "mp4"
  | jpeg => "jpg"

end StillFormat

/-- A stored still. -/
structure StoredStill where
  format : StillFormat
  data : Bytes
  /-- The number of stills up to this one. -/
  sequence : Nat
  deriving DecidableEq, Repr

/-- Where stills are saved and what they show. -/
structure StillConfig where
  /-- The directory for saved stills, if they are saved at all. -/
  directory : Option String := none
  /-- The time between two saves, in seconds. -/
  interval : Nat := 5
  width : Nat := 1920
  height : Nat := 1080
  fps : Nat := 30
  deriving DecidableEq, Repr

/-- The interval between two saves in seconds, kept between one second and one minute. -/
def clampSaveInterval (seconds : Nat) : Nat :=
  max 1 (min seconds 60)

/-- The latest still and what was saved last. -/
structure StillStore where
  config : StillConfig
  latest : Option StoredStill := none
  /-- The number of stills so far. -/
  count : Nat := 0
  /-- The sequence number of the still that was saved last, zero if none was. -/
  savedSequence : Nat := 0
  /-- When it was saved. -/
  savedAt : Option Nat := none
  deriving DecidableEq, Repr

namespace StillStore

/-- The effective interval between two saves, in seconds. -/
def saveInterval (store : StillStore) : Nat :=
  clampSaveInterval store.config.interval

/-- The store with a new still. -/
def put (store : StillStore) (format : StillFormat) (data : Bytes) : StillStore :=
  { store with
    count := store.count + 1
    latest := some ⟨format, data, store.count + 1⟩ }

/-- The store with a keyframe as its still, or the error that no file can hold it. -/
def putKeyframe (store : StillStore) (codec : Codec) (sets : ParameterSets) (unit : AccessUnit) :
    Except CaptureError StillStore := do
  let file ← Still.file ⟨codec, sets, store.config.width, store.config.height, store.config.fps⟩ unit
  return store.put .mp4 file

/-- The store after a splitter has split a buffer: a keyframe whose parameter sets are complete becomes
the still if a file can hold it. -/
def observe (store : StillStore) (splitter : Splitter) (frame : SplitFrame) : StillStore :=
  if frame.accessUnit.isKeyframe ∧ splitter.sets.isComplete splitter.codec then
    (store.putKeyframe splitter.codec splitter.sets frame.accessUnit).toOption.getD store
  else store

/-- The still that is due to be saved at a given time: the latest one, if it was not saved yet and the
interval since the last save has passed. -/
def due? (store : StillStore) (now : Nat) : Option StoredStill :=
  store.latest.filter fun still =>
    still.sequence ≠ store.savedSequence &&
      store.savedAt.all fun saved => store.saveInterval * 1000000000 ≤ now - saved

/-- Replaces the file at a path in one step: the bytes are written to a file beside it, which then takes
its name. -/
def replaceFile (disk : Disk) (path : String) (bytes : Bytes) : Except FileError Unit × Disk :=
  let draft := path ++ ".tmp"
  match disk.writeFile draft bytes with
  | (.error error, disk) => (.error error, disk)
  | (.ok (), disk) => disk.rename draft path

/-- The path of the saved still of a format. -/
def savePath (directory : String) (format : StillFormat) : String :=
  Path.join directory ("snapshot." ++ format.fileExtension)

/-- Saves the still if one is due, and gives the path. A still that could not be saved stays due. The clock is
read to see whether one is due, and once more when the still is claimed for saving. -/
def saveIfDue (store : StillStore) (disk : Disk) (now : Nat) (claimed : Nat := now) :
    Except CaptureError (Option String) × StillStore × Disk :=
  match store.config.directory, store.due? now with
  | some directory, some still =>
    let path := savePath directory still.format
    match replaceFile disk path still.data with
    | (.error error, disk) => (.error (.file error), store, disk)
    | (.ok (), disk) =>
      (.ok (some path), { store with savedSequence := still.sequence, savedAt := some claimed }, disk)
  | _, _ => (.ok none, store, disk)

end StillStore

end VideoCapture
