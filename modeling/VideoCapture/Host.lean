import VideoCapture.Recording.Registry

/-!
# The host

What the recordings of one machine share: its disk, the registry of muxers, and its clock, which counts
nanoseconds.
-/

namespace VideoCapture

/-- The disk, the registry and the clock of a machine. -/
structure Host where
  disk : Disk := {}
  registry : Registry := {}
  now : Nat := 0

namespace Host

/-- Lets a registered muxer act on the disk. A muxer that is not registered does not stream. -/
def withMuxer {α : Type} (host : Host) (id : Nat)
    (act : Muxer → Disk → Nat → Except CaptureError α × Muxer × Disk) :
    Except CaptureError α × Host :=
  match host.registry.muxer? id with
  | none => (.error .notStreaming, host)
  | some muxer =>
    let (result, muxer, disk) := act muxer host.disk host.now
    (result, { host with disk, registry := host.registry.setMuxer id muxer })

/-- Registers a muxer and gives its number. -/
def register (host : Host) (muxer : Muxer) : Nat × Host :=
  let (id, registry) := host.registry.register muxer
  (id, { host with registry })

/-- Gives up one handle to a registered muxer. -/
def release (host : Host) (id : Nat) : Host :=
  let (registry, disk) := host.registry.release host.disk host.now id
  { host with disk, registry }

/-- Completes the recordings of all muxers that are not locked. -/
def finalizeAll (host : Host) (locked : List Nat) : ShutdownReport × Host :=
  let (report, registry, disk) := host.registry.finalizeAll host.disk host.now locked
  (report, { host with disk, registry })

end Host

end VideoCapture
