import VideoCapture.Disk.Content
import VideoCapture.Disk.Path
import VideoCapture.Error

/-!
# A disk

Directories and files as a value. A name leads to a directory, to a file, or to a device that opens like
a file but has no room for any byte. Files have an identity of their own, so a file that is open stays the
same file when its name is given to another one.

A path is followed name by name. Every name but the last has to lead to a directory, also when two dots
lead out of that directory again. The directories above the root exist.

An operation either takes effect as a whole or fails and changes nothing. Besides the failures that follow
from the state of the disk, the disk has a schedule of faults: the operation with number `n` fails if the
schedule says so for `n`. A sound disk has no faults.
-/

namespace VideoCapture

/-- What a name on a disk stands for. -/
inductive DiskEntry where
  | directory
  | file (id : Nat)
  /-- A device that is always full. -/
  | full
  deriving DecidableEq, Repr

/-- An open file and the position of its next byte. A full device has no file behind it. -/
structure FileHandle where
  id : Option Nat
  position : Nat := 0
  deriving DecidableEq, Repr

/-- The state of a disk. -/
structure Disk where
  /-- What stands at places other than the root and those above it. -/
  entries : List (Place × DiskEntry) := []
  /-- The contents of the files, by their numbers. -/
  contents : List FileContent := []
  /-- The fault that befalls an operation, by its number. -/
  faults : Nat → Option FileError := fun _ => none
  /-- The number of operations so far. -/
  operations : Nat := 0

namespace Disk

/-- What stands at a place. -/
def lookup? (disk : Disk) (place : Place) : Option DiskEntry :=
  if place.isOutside then some .directory else disk.entries.lookup place

/-- The content of a file as it is stored. -/
def stored (disk : Disk) (id : Nat) : FileContent :=
  disk.contents.getD id .empty

/-- The bytes of a file. -/
def content (disk : Disk) (id : Nat) : Bytes :=
  (disk.stored id).toBytes

/-- The bytes of the file at a place. -/
def fileAt? (disk : Disk) (place : Place) : Option Bytes :=
  match disk.lookup? place with
  | some (.file id) => some (disk.content id)
  | _ => none

/-- The disk with an entry at a place, in lieu of what stood there. -/
def setEntry (disk : Disk) (place : Place) (entry : DiskEntry) : Disk :=
  { disk with entries := (place, entry) :: disk.entries.filter fun item => item.1 ≠ place }

/-- The disk without what stood at a place. -/
def removeEntry (disk : Disk) (place : Place) : Disk :=
  { disk with entries := disk.entries.filter fun item => item.1 ≠ place }

/-- The disk with another content of a file. -/
def setStored (disk : Disk) (id : Nat) (stored : FileContent) : Disk :=
  { disk with contents := disk.contents.set id stored }

/-- A place has the entry that it was given. -/
@[simp] theorem lookup?_setEntry_self (disk : Disk) {place : Place}
    (below : place.isOutside = false) (entry : DiskEntry) :
    (disk.setEntry place entry).lookup? place = some entry := by
  simp [lookup?, setEntry, below]

/-- What stands elsewhere stays when a place gets another entry. -/
theorem lookup?_setEntry_of_ne (disk : Disk) {place other : Place} (different : other ≠ place)
    (entry : DiskEntry) : (disk.setEntry place entry).lookup? other = disk.lookup? other := by
  have kept : ∀ items : List (Place × DiskEntry),
      (items.filter fun item => item.1 ≠ place).lookup other = items.lookup other := by
    intro items
    induction items with
    | nil => rfl
    | cons item items ih =>
      obtain ⟨at_, what⟩ := item
      by_cases here : at_ = place
      · subst here
        have skip : (other == at_) = false := beq_eq_false_iff_ne.mpr different
        simpa [List.lookup_cons, skip] using ih
      · simp only [ne_eq, decide_not] at ih
        simp [here, List.lookup_cons, ih]
  have skip : (other == place) = false := beq_eq_false_iff_ne.mpr different
  simp only [lookup?, setEntry, List.lookup_cons, skip, kept]

/-- A file has the content that it was given. -/
@[simp] theorem stored_setStored_self (disk : Disk) {id : Nat} (present : id < disk.contents.length)
    (stored : FileContent) : (disk.setStored id stored).stored id = stored := by
  simp [Disk.stored, setStored, present]

/-- Another file keeps its content when a file is written. -/
theorem stored_setStored_of_ne (disk : Disk) {id other : Nat} (different : other ≠ id)
    (stored : FileContent) : (disk.setStored id stored).stored other = disk.stored other := by
  simp [Disk.stored, setStored, List.getElem?_set_ne (Ne.symm different)]

/-- The disk with a new empty file at a place, and the number of that file. -/
def newFile (disk : Disk) (place : Place) : Nat × Disk :=
  let id := disk.contents.length
  (id, { disk with contents := disk.contents ++ [FileContent.empty] }.setEntry place (.file id))

/-- Counts one operation and tells which fault befalls it. -/
def tick (disk : Disk) : Option FileError × Disk :=
  (disk.faults disk.operations, { disk with operations := disk.operations + 1 })

/-- What stands under a name in a directory, if a directory can hold such a name. -/
def look (disk : Disk) (directory : Place) (name : String) : Except FileError (Option DiskEntry) :=
  if Path.maxName < name.utf8ByteSize then .error .nameTooLong
  else .ok (disk.lookup? (directory ++ [name]))

/-- The directory that a name leads to from a directory. -/
def enter (disk : Disk) (directory : Place) (name : String) : Except FileError Place :=
  if name = "." then .ok directory
  else if name = ".." then .ok directory.up
  else match disk.look directory name with
    | .error error => .error error
    | .ok (some .directory) => .ok (directory ++ [name])
    | .ok (some _) => .error .notADirectory
    | .ok none => .error .notFound

/-- Follows a path up to its last name: the directory it leads to, and the name in that directory, if the
path ends in one. -/
def follow (disk : Disk) (path : String) : Except FileError (Place × Option String) :=
  if '\x00' ∈ path.toList then .error .invalidName
  else if Path.maxLength < path.utf8ByteSize then .error .nameTooLong
  else
    let names := Path.names path
    match names.getLast?.filter fun name => !Path.isDots name with
    | none => (names.foldlM disk.enter (Path.start path)).map fun directory => (directory, none)
    | some name =>
      (names.dropLast.foldlM disk.enter (Path.start path)).map fun directory => (directory, some name)

/-- Opens the file at a path for writing, empty: a missing file is created, an existing one is cut to
nothing. -/
def create (disk : Disk) (path : String) : Except FileError FileHandle × Disk :=
  match disk.tick with
  | (some fault, disk) => (.error fault, disk)
  | (none, disk) =>
    match disk.follow path with
    | .error error => (.error error, disk)
    | .ok (_, none) => (.error .isADirectory, disk)
    | .ok (directory, some name) =>
      if Path.endsInSlash path then (.error .isADirectory, disk)
      else match disk.look directory name with
        | .error error => (.error error, disk)
        | .ok (some .directory) => (.error .isADirectory, disk)
        | .ok (some (.file id)) => (.ok ⟨some id, 0⟩, disk.setStored id .empty)
        | .ok (some .full) => (.ok ⟨none, 0⟩, disk)
        | .ok none =>
          let (id, disk) := disk.newFile (directory ++ [name])
          (.ok ⟨some id, 0⟩, disk)

/-- Writes bytes at the position of an open file, and moves the position behind them. Nothing is asked of
the disk when there are no bytes. -/
def write (disk : Disk) (file : FileHandle) (bytes : Bytes) :
    Except FileError Unit × FileHandle × Disk :=
  if bytes.isEmpty then (.ok (), file, disk)
  else match disk.tick with
    | (some fault, disk) => (.error fault, file, disk)
    | (none, disk) =>
      match file.id with
      | none => (.error .storageFull, file, disk)
      | some id =>
        (.ok (), { file with position := file.position + bytes.length },
          disk.setStored id ((disk.stored id).write file.position bytes))

/-- Makes sure that what was written stays. -/
def sync (disk : Disk) : Except FileError Unit × Disk :=
  match disk.tick with
  | (some fault, disk) => (.error fault, disk)
  | (none, disk) => (.ok (), disk)

/-- The bytes of the file at a path. -/
def read (disk : Disk) (path : String) : Except FileError Bytes × Disk :=
  match disk.tick with
  | (some fault, disk) => (.error fault, disk)
  | (none, disk) =>
    match disk.follow path with
    | .error error => (.error error, disk)
    | .ok (_, none) => (.error .isADirectory, disk)
    | .ok (directory, some name) =>
      match disk.look directory name with
      | .error error => (.error error, disk)
      | .ok none => (.error .notFound, disk)
      | .ok (some .directory) => (.error .isADirectory, disk)
      | .ok (some entry) =>
        if Path.endsInSlash path then (.error .notADirectory, disk)
        else match entry with
          | .file id => (.ok (disk.content id), disk)
          | _ => (.ok [], disk)

/-- Replaces the file at a path by one with the given bytes. -/
def writeFile (disk : Disk) (path : String) (bytes : Bytes) : Except FileError Unit × Disk :=
  match disk.create path with
  | (.error error, disk) => (.error error, disk)
  | (.ok file, disk) =>
    let (result, _, disk) := disk.write file bytes
    (result, disk)

/-- Gives the file at one path the name of another path, whose file is replaced. -/
def rename (disk : Disk) (source target : String) : Except FileError Unit × Disk :=
  match disk.tick with
  | (some fault, disk) => (.error fault, disk)
  | (none, disk) =>
    match disk.follow source, disk.follow target with
    | .error error, _ | .ok _, .error error => (.error error, disk)
    | .ok (origin, some name), .ok (goal, some other) =>
      match disk.look origin name, disk.look goal other with
      | .error error, _ | .ok _, .error error => (.error error, disk)
      | .ok none, _ => (.error .notFound, disk)
      | .ok (some _), .ok (some .directory) => (.error .isADirectory, disk)
      | .ok (some entry), .ok _ =>
        (.ok (), (disk.removeEntry (origin ++ [name])).setEntry (goal ++ [other]) entry)
    | .ok _, .ok _ => (.error .isADirectory, disk)

/-- Makes the directories that names lead to from a directory, each from the one before, unless they
exist. -/
def makeDirectories (disk : Disk) (directory : Place) : List String → Disk
  | [] => disk
  | name :: names =>
    match disk.enter directory name with
    | .ok entered => disk.makeDirectories entered names
    | .error .notFound =>
      let made := directory ++ [name]
      (disk.setEntry made .directory).makeDirectories made names
    | .error _ => disk

/-- Makes a directory, and those that the path leads through, unless they exist. -/
def makeDirectory (disk : Disk) (path : String) : Disk :=
  disk.makeDirectories (Path.start path) (Path.names path)

/-- Puts a device that is always full at a path, if the path leads to a name. -/
def placeFullDevice (disk : Disk) (path : String) : Disk :=
  match disk.follow path with
  | .ok (directory, some name) => disk.setEntry (directory ++ [name]) .full
  | _ => disk

/-- Everything below a directory, ordered by the path from there. -/
def listing (disk : Disk) (directory : Place) : List (String × DiskEntry) :=
  let below := disk.entries.filterMap fun (place, entry) =>
    (place.below? directory).map fun rest => (rest.path, entry)
  below.mergeSort fun a b => decide (a.1 ≤ b.1)

end Disk

end VideoCapture
