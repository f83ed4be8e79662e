import VideoCapture.Recording.Muxer

/-!
# The registry of recordings

All muxers that somebody still holds. A muxer is registered under a number of its own and may be held
through several handles. When the last handle goes, the muxer leaves the registry and a recording that it
still writes is completed. In an emergency all recordings are completed at once, except those whose muxer
somebody has locked.
-/

namespace VideoCapture

/-- A registered muxer. -/
structure RegistryEntry where
  id : Nat
  muxer : Muxer
  /-- The number of handles through which the muxer is held. -/
  handles : Nat := 1
  deriving DecidableEq, Repr

/-- The muxers that are held. -/
structure Registry where
  nextId : Nat := 1
  entries : List RegistryEntry := []
  deriving DecidableEq, Repr

/-- What became of the muxers in an emergency. -/
structure ShutdownReport where
  /-- Muxers whose recording was completed. -/
  finalized : Nat := 0
  /-- Muxers whose recording could not be completed. -/
  failed : Nat := 0
  /-- Muxers that were locked. -/
  skipped : Nat := 0
  deriving DecidableEq, Repr

namespace Registry

/-- The number of registered muxers. -/
def size (registry : Registry) : Nat :=
  registry.entries.length

/-- Registers a muxer and gives its number. -/
def register (registry : Registry) (muxer : Muxer) : Nat × Registry :=
  (registry.nextId, {
    nextId := registry.nextId + 1
    entries := registry.entries ++ [{ id := registry.nextId, muxer }] })

/-- The entry with a number. -/
def find? (registry : Registry) (id : Nat) : Option RegistryEntry :=
  registry.entries.find? fun entry => entry.id = id

/-- The muxer with a number. -/
def muxer? (registry : Registry) (id : Nat) : Option Muxer :=
  (registry.find? id).map RegistryEntry.muxer

/-- Changes the entry with a number. -/
def modify (registry : Registry) (id : Nat) (change : RegistryEntry → RegistryEntry) : Registry :=
  { registry with
    entries := registry.entries.map fun entry => if entry.id = id then change entry else entry }

/-- The registry with another muxer under a number. -/
def setMuxer (registry : Registry) (id : Nat) (muxer : Muxer) : Registry :=
  registry.modify id fun entry => { entry with muxer }

/-- Adds a handle to the muxer with a number. -/
def clone (registry : Registry) (id : Nat) : Registry :=
  registry.modify id fun entry => { entry with handles := entry.handles + 1 }

/-- The registry without the muxer with a number. -/
def remove (registry : Registry) (id : Nat) : Registry :=
  { registry with entries := registry.entries.filter fun entry => entry.id ≠ id }

/-- Gives up one handle to the muxer with a number. -/
def release (registry : Registry) (disk : Disk) (now : Nat) (id : Nat) : Registry × Disk :=
  match registry.find? id with
  | none => (registry, disk)
  | some entry =>
    if entry.handles ≤ 1 then (registry.remove id, entry.muxer.drop disk now)
    else (registry.modify id fun entry => { entry with handles := entry.handles - 1 }, disk)

/-- Completes the recording of the muxer with a number, unless the muxer is locked. -/
def shutDown (locked : List Nat) (now : Nat) (state : ShutdownReport × Registry × Disk) (id : Nat) :
    ShutdownReport × Registry × Disk :=
  let (report, registry, disk) := state
  match registry.muxer? id with
  | none => state
  | some muxer =>
    if id ∈ locked then ({ report with skipped := report.skipped + 1 }, registry, disk)
    else if !muxer.isStreaming then state
    else match muxer.finalize disk now with
      | (.ok _, muxer, disk) =>
        ({ report with finalized := report.finalized + 1 }, registry.setMuxer id muxer, disk)
      | (.error _, muxer, disk) =>
        ({ report with failed := report.failed + 1 }, registry.setMuxer id muxer, disk)

/-- Visits the muxers with the given numbers, in that order, and completes their recordings. -/
def shutDownInOrder (registry : Registry) (disk : Disk) (now : Nat) (locked order : List Nat) :
    ShutdownReport × Registry × Disk :=
  order.foldl (shutDown locked now) ({}, registry, disk)

/-- Completes the recordings of all muxers that are not locked. -/
def finalizeAll (registry : Registry) (disk : Disk) (now : Nat) (locked : List Nat) :
    ShutdownReport × Registry × Disk :=
  registry.shutDownInOrder disk now locked (registry.entries.map RegistryEntry.id)

end Registry

end VideoCapture
