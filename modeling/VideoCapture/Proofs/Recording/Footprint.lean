import VideoCapture.Delivery.Source
import VideoCapture.Proofs.Disk.Bypass
import VideoCapture.Proofs.Recording.Locality
import VideoCapture.Proofs.Recording.Registry
import VideoCapture.Recording.Recorder

/-!
# What a recorder writes to

Whatever a recorder is asked for, it goes past every place on the disk to which none of its paths leads
(`Recorder.Passes`). An open file is written through a buffer, which touches that file only (`Streaming.add_spares`,
`RawStream.write_spares`), and files are opened at the configured path or, with another extension, at the path of the
raw stream (`Recorder.outputs`).
-/

namespace VideoCapture
open Disk

/-- What holds of a writer still holds when it was written to or flushed. -/
structure Writer.Stable {ω : Type} [Writer ω] (P : ω → Prop) : Prop where
  written : ∀ {out} bytes, P out → P (Writer.write out bytes).2
  flushed : ∀ {out}, P out → P (Writer.flush out).2

namespace WriteBuffer

variable {ω : Type} [Writer ω] {P : ω → Prop} {out : ω}

/-- What stays true of a writer stays true when pending bytes are written. -/
lemma writePending_stable (buffer : WriteBuffer) (stable : Writer.Stable P) (holds : P out) (now : Nat) :
    P (buffer.writePending out now).2.2 := by
  have written := stable.written buffer.pending holds
  unfold writePending
  split
  · exact holds
  · split
    all_goals
      rename_i came
      rw [came] at written
      exact written

/-- What stays true of a writer stays true when bytes are appended. -/
lemma append_stable (buffer : WriteBuffer) (stable : Writer.Stable P) (holds : P out) (now : Nat) (bytes : Bytes) :
    P (buffer.append out now bytes).2.2 := by
  unfold append
  split
  · exact holds
  · generalize counted : { buffer with stats := { buffer.stats with forced := buffer.stats.forced + 1 } } = other
    have emptied := other.writePending_stable stable holds now
    dsimp only
    rcases came : other.writePending out now with ⟨error | _, buffer', between⟩
    · rw [came] at emptied
      exact emptied
    · rw [came] at emptied
      have written := stable.written bytes emptied
      dsimp only
      split
      · exact emptied
      · split
        all_goals
          rename_i came
          rw [came] at written
          exact written

/-- What stays true of a writer stays true when byte strings are appended one after the other. -/
lemma appendAll_stable (buffer : WriteBuffer) (stable : Writer.Stable P) (holds : P out) (now : Nat)
    (pieces : List Bytes) :
    P (buffer.appendAll out now pieces).2.2 := by
  induction pieces generalizing buffer out with
  | nil => exact holds
  | cons bytes rest ih =>
    have first := buffer.append_stable stable holds now bytes
    unfold appendAll
    rcases came : buffer.append out now bytes with ⟨error | _, buffer', between⟩
    · rw [came] at first
      exact first
    · rw [came] at first
      exact ih buffer' first

/-- What stays true of a writer stays true when it is flushed if due. -/
lemma flushIfDue_stable (buffer : WriteBuffer) (stable : Writer.Stable P) (holds : P out) (now : Nat) :
    P (buffer.flushIfDue out now).2.2 := by
  unfold flushIfDue
  split
  · exact holds
  · generalize counted : { buffer with stats := { buffer.stats with scheduled := buffer.stats.scheduled + 1 } } = other
    have emptied := other.writePending_stable stable holds now
    dsimp only
    split
    all_goals
      rename_i came
      rw [came] at emptied
      exact emptied

/-- What stays true of a writer stays true when it is flushed. -/
lemma flush_stable (buffer : WriteBuffer) (stable : Writer.Stable P) (holds : P out) (now : Nat) :
    P (buffer.flush out now).2.2 := by
  unfold flush
  generalize counted : { buffer with stats := { buffer.stats with explicit := buffer.stats.explicit + 1 } } = other
  have emptied := other.writePending_stable stable holds now
  dsimp only
  rcases came : other.writePending out now with ⟨error | _, buffer', between⟩
  · rw [came] at emptied
    exact emptied
  · rw [came] at emptied
    exact stable.flushed emptied

end WriteBuffer

/-- From a disk on, nothing but one file was touched, and that is the file that is open. -/
def DiskFile.Within (origin : Disk) (id? : Option Nat) (out : DiskFile) : Prop :=
  out.handle.id = id? ∧ origin.Spares (id? = some ·) out.disk

/-- Writes and flushes touch no other file than the open one. -/
lemma DiskFile.stable_within (origin : Disk) (id? : Option Nat) : Writer.Stable (Within origin id?) where
  written := by
    rintro out bytes ⟨same, spares⟩
    have local_ := isLocal_write bytes
    have more := local_.spares out
    rw [same] at more
    exact ⟨(local_.same_id out).trans same, spares.trans more⟩
  flushed holds := holds

namespace Streaming

variable {origin : Disk} {id? : Option Nat} {s : Streaming} {disk : Disk}

/-- From a disk on, nothing but the file of a recording was touched. -/
def Within (origin : Disk) (id? : Option Nat) (s : Streaming) (disk : Disk) : Prop :=
  DiskFile.Within origin id? ⟨s.file, disk⟩

/-- A recording touches only its own file when its buffer acts in a stable way. -/
lemma Within.buffered {α : Type} (within : s.Within origin id? disk)
    (act : WriteBuffer → DiskFile → Except FileError α × WriteBuffer × DiskFile)
    (stable : ∀ {out : DiskFile}, DiskFile.Within origin id? out →
      DiskFile.Within origin id? (act s.buffer out).2.2) :
    (s.buffered disk act).2.1.Within origin id? (s.buffered disk act).2.2 :=
  stable within

/-- A recording touches only its own file when it is flushed behind a keyframe. -/
lemma Within.flushAtKeyframe (within : s.Within origin id? disk) (now : Nat) (isKeyframe : Bool) :
    (s.flushAtKeyframe disk now isKeyframe).2.1.Within origin id? (s.flushAtKeyframe disk now isKeyframe).2.2 := by
  have flushed := within.buffered (fun buffer file => buffer.flushIfDue file now) fun holds =>
    s.buffer.flushIfDue_stable (DiskFile.stable_within origin id?) holds now
  unfold Streaming.flushAtKeyframe
  split
  · split
    all_goals
      rename_i came
      rw [came] at flushed
      exact flushed
  · exact within

/-- A recording touches only its own file when a sample is counted. -/
lemma Within.syncPeriodically (within : s.Within origin id? disk) (now every : Nat) :
    (s.syncPeriodically disk now every).2.1.Within origin id? (s.syncPeriodically disk now every).2.2 := by
  have within' : ({ s with unsynced := s.unsynced + 1 } : Streaming).Within origin id? disk := within
  unfold Streaming.syncPeriodically
  generalize ({ s with unsynced := s.unsynced + 1 } : Streaming) = t at within' ⊢
  have flushed := within'.buffered (fun buffer file => buffer.flush file now) fun holds =>
    t.buffer.flush_stable (DiskFile.stable_within origin id?) holds now
  dsimp only
  split
  · rcases came : t.buffered disk fun buffer file => buffer.flush file now with ⟨error | _, u, between⟩
    · rw [came] at flushed
      exact flushed
    · rw [came] at flushed
      obtain ⟨same, spares⟩ := flushed
      have synced := DiskFile.isLocal_sync.spares ⟨u.file, between⟩
      rw [show u.file.id = id? from same] at synced
      have whole : origin.Spares (id? = some ·) between.sync.2 := spares.trans synced
      dsimp only
      rcases came : between.sync with ⟨error | _, after⟩
      all_goals
        rw [came] at whole
        exact ⟨same, whole⟩
  · exact within'

/-- Adding a sample touches the file of the recording only. -/
lemma add_spares (s : Streaming) (disk : Disk) (now every : Nat) (nals : List Bytes) (isKeyframe : Bool) :
    (s.add disk now every nals isKeyframe).2.1.Within disk s.file.id (s.add disk now every nals isKeyframe).2.2 := by
  have begins : s.Within disk s.file.id disk := ⟨rfl, .refl _ _⟩
  unfold add
  dsimp only
  split
  · exact begins
  · generalize (nals.filter fun nal => !nal.isEmpty) = units
    generalize (units.flatMap fun nal => [Bytes.be32 nal.length, nal]) = pieces
    have appended := begins.buffered (fun buffer file => buffer.appendAll file now pieces) fun holds =>
      s.buffer.appendAll_stable (DiskFile.stable_within disk s.file.id) holds now pieces
    split
    · rename_i came
      rw [came] at appended
      exact appended
    · rename_i t between came
      rw [came] at appended
      have indexed : (t.index (lengthPrefixed units).length isKeyframe).Within disk s.file.id between := appended
      have flushed := indexed.flushAtKeyframe now isKeyframe
      split
      · rename_i came
        rw [came] at flushed
        exact flushed
      · rename_i u between' came
        rw [came] at flushed
        have synced := flushed.syncPeriodically now every
        split
        all_goals
          rename_i came
          rw [came] at synced
          exact synced

end Streaming

namespace RawStream

variable {stream : RawStream} {disk : Disk}

/-- From a disk on, nothing but the file of a raw stream was touched. -/
def Within (origin : Disk) (id? : Option Nat) (stream : RawStream) (disk : Disk) : Prop :=
  DiskFile.Within origin id? ⟨stream.file, disk⟩

variable {origin : Disk} {id? : Option Nat}

/-- A raw stream touches only its own file when it is flushed. -/
lemma Within.flush (within : stream.Within origin id? disk) :
    (stream.flush disk).2.1.Within origin id? (stream.flush disk).2.2 := by
  have written := (DiskFile.stable_within origin id?).written stream.pending within
  have unfolded : Writer.write (⟨stream.file, disk⟩ : DiskFile) stream.pending =
      ((disk.write stream.file stream.pending).1, ⟨(disk.write stream.file stream.pending).2.1,
        (disk.write stream.file stream.pending).2.2⟩) := rfl
  rw [unfolded] at written
  unfold RawStream.flush
  rcases came : disk.write stream.file stream.pending with ⟨error | _, file, after⟩
  all_goals
    rw [came] at written
    exact written

/-- A raw stream touches only its own file when bytes are put into it. -/
lemma Within.put (within : stream.Within origin id? disk) (bytes : Bytes) :
    (stream.put disk bytes).2.1.Within origin id? (stream.put disk bytes).2.2 := by
  unfold RawStream.put
  split
  · exact (DiskFile.stable_within origin id?).written bytes within
  · exact within

/-- Flushing a raw stream touches its file only. -/
lemma flush_spares (stream : RawStream) (disk : Disk) :
    (stream.flush disk).2.1.Within disk stream.file.id (stream.flush disk).2.2 :=
  have begins : stream.Within disk stream.file.id disk := ⟨rfl, .refl _ _⟩
  begins.flush

/-- Writing to a raw stream touches its file only. -/
lemma write_spares (stream : RawStream) (disk : Disk) (bytes : Bytes) :
    (stream.write disk bytes).2.1.Within disk stream.file.id (stream.write disk bytes).2.2 := by
  have begins : stream.Within disk stream.file.id disk := ⟨rfl, .refl _ _⟩
  unfold write
  split
  · exact begins.put bytes
  · have flushed := begins.flush
    rcases came : stream.flush disk with ⟨error | _, emptied, between⟩
    · rw [came] at flushed
      exact flushed
    · rw [came] at flushed
      exact Within.put flushed bytes

end RawStream

namespace Muxer

/-- Adding a sample touches the file of a muxer only. -/
lemma addSample_spares (muxer : Muxer) (disk : Disk) (now : Nat) (nals : List Bytes) (isKeyframe : Bool) :
    (muxer.addSample disk now nals isKeyframe).2.1.fileId? = muxer.fileId? ∧
      disk.Spares (muxer.fileId? = some ·) (muxer.addSample disk now nals isKeyframe).2.2 := by
  unfold addSample
  cases phase : muxer.phase with
  | streaming s =>
    have file : muxer.fileId? = s.file.id := by rw [fileId?, streaming?, phase, Option.bind_some]
    rw [file]
    exact s.add_spares disk now muxer.tuning.syncEvery nals isKeyframe
  | uninitialized | finalized => exact ⟨rfl, .refl _ _⟩

/-- Starting a recording touches the file that it is given only. -/
lemma start_spares (muxer : Muxer) (disk : Disk) (now : Nat) (file : FileHandle) (track : Track) :
    ((muxer.start disk now file track).1 = .ok () → (muxer.start disk now file track).2.1.fileId? = file.id) ∧
      disk.Spares (file.id = some ·) (muxer.start disk now file track).2.2 := by
  have opened := DiskFile.isLocal_writeAll Recording.opening
  have same_id := opened.same_id ⟨file, disk⟩
  have spares := opened.spares ⟨file, disk⟩
  unfold start
  split
  · split
    · exact ⟨nofun, .refl _ _⟩
    · dsimp only at same_id spares
      rcases came : (⟨file, disk⟩ : DiskFile).writeAll Recording.opening with ⟨error | _, out⟩
      all_goals rw [came] at same_id spares
      · exact ⟨nofun, spares⟩
      · exact ⟨fun _ => same_id, spares⟩
  · exact ⟨nofun, .refl _ _⟩

/-- A muxer creates its file past a place to which the path does not lead, and does not write there afterwards. -/
lemma create_bypasses {disk : Disk} {place : Place} {path : String} (formed : disk.IsWellFormed)
    (elsewhere : disk.place? path ≠ some place) (now : Nat) (tuning : WriteTuning) (track : Track) :
    Bypasses place disk (create disk now path tuning track).2 ∧
      ∀ muxer, (create disk now path tuning track).1 = .ok muxer → disk.IsElsewhere place muxer.fileId? := by
  obtain ⟨opens, others⟩ := Disk.create_bypasses formed elsewhere
  unfold create
  rcases came : disk.create path with ⟨error | file, opened⟩
  · rw [came] at opens
    exact ⟨opens, fun _ impossible => by cases impossible⟩
  · rw [came] at opens others
    have aside := others file rfl
    have starts := ({ tuning, path := some path } : Muxer).start_spares opened now file track
    dsimp only at aside ⊢
    rcases came : ({ tuning, path := some path } : Muxer).start opened now file track with ⟨error | _, muxer, started⟩
    · rw [came] at starts
      exact ⟨opens.trans (starts.2.bypasses aside), fun _ impossible => by cases impossible⟩
    · rw [came] at starts
      refine ⟨opens.trans (starts.2.bypasses aside), ?_⟩
      rintro _ ⟨⟩ id same
      rw [starts.1 rfl] at same
      rw [← opens.entry]
      exact aside id same

end Muxer

namespace Host

variable {origin : Disk} {place : Place} {host : Host}

/-- Since its disk was `origin` a host has gone past a place, and no registered muxer writes there. -/
structure Passes (origin : Disk) (place : Place) (host : Host) : Prop where
  formed : host.disk.IsWellFormed
  disk : Bypasses place origin host.disk
  muxers : ∀ entry ∈ host.registry.entries, origin.IsElsewhere place entry.muxer.fileId?

/-- A host goes past a place when its disk does. -/
lemma Passes.onDisk (passes : host.Passes origin place) {disk : Disk} (bypasses : Bypasses place host.disk disk) :
    ({ host with disk } : Host).Passes origin place :=
  ⟨bypasses.formed passes.formed, passes.disk.trans bypasses, passes.muxers⟩

/-- Writing to a file that stands elsewhere goes past the place. -/
lemma Passes.spares (passes : host.Passes origin place) {id? : Option Nat} {disk : Disk}
    (spares : host.disk.Spares (id? = some ·) disk) (elsewhere : origin.IsElsewhere place id?) :
    Bypasses place host.disk disk :=
  spares.bypasses (elsewhere.later passes.disk)

/-- What muxers are asked for concerns their own files, and gives them no other. -/
def KeepsToFile {α : Type} (act : Muxer → Disk → Nat → Except CaptureError α × Muxer × Disk) : Prop :=
  ∀ muxer disk now, (∀ id, (act muxer disk now).2.1.fileId? = some id → muxer.fileId? = some id) ∧
    disk.Spares (muxer.fileId? = some ·) (act muxer disk now).2.2

/-- A host goes past a place when one of its muxers keeps to its file. -/
lemma Passes.withMuxer {α : Type} {act : Muxer → Disk → Nat → Except CaptureError α × Muxer × Disk}
    (passes : host.Passes origin place) (keeps : KeepsToFile act) (id : Nat) :
    (host.withMuxer id act).2.Passes origin place := by
  unfold Host.withMuxer
  cases found : host.registry.find? id with
  | none =>
    rw [Registry.muxer?, found]
    exact passes
  | some entry =>
    rw [Registry.muxer?_of_find? found]
    obtain ⟨same, spares⟩ := keeps entry.muxer host.disk host.now
    have elsewhere := passes.muxers entry (List.mem_of_find?_eq_some found)
    obtain ⟨formed, disk, muxers⟩ := passes.onDisk (passes.spares spares elsewhere)
    refine ⟨formed, disk, ?_⟩
    intro other among
    obtain ⟨old, inside, rfl⟩ := List.mem_map.mp among
    split
    · exact fun id kept => elsewhere id (same id kept)
    · exact muxers old inside

/-- A handle is given up, and a muxer that nobody holds any more is completed. -/
lemma Passes.release (passes : host.Passes origin place) (id : Nat) : (host.release id).Passes origin place := by
  unfold Host.release Registry.release
  cases found : host.registry.find? id with
  | none => exact passes
  | some entry =>
    dsimp only
    split
    · have elsewhere := passes.muxers entry (List.mem_of_find?_eq_some found)
      obtain ⟨formed, disk, muxers⟩ :=
        passes.onDisk (passes.spares (entry.muxer.finalize_spares host.disk host.now) elsewhere)
      refine ⟨formed, disk, ?_⟩
      intro other among
      exact muxers other (List.mem_filter.mp among).1
    · refine ⟨passes.formed, passes.disk, ?_⟩
      intro other among
      obtain ⟨old, inside, rfl⟩ := List.mem_map.mp among
      have aside := passes.muxers old inside
      split <;> exact aside

/-- A host goes past a place when it registers a muxer whose file is elsewhere. -/
lemma Passes.register (passes : host.Passes origin place) {muxer : Muxer}
    (elsewhere : origin.IsElsewhere place muxer.fileId?) : (host.register muxer).2.Passes origin place := by
  refine ⟨passes.formed, passes.disk, ?_⟩
  intro entry inside
  rcases List.mem_append.mp inside with inside | inside
  · exact passes.muxers entry inside
  · cases List.mem_singleton.mp inside
    exact elsewhere

end Host

namespace Recorder

/-- The paths at which a recording that is to go to a path may come about, for a camera that delivers a format. -/
def outputs (path : String) : PixelFormat → List String
  | .video codec => [path, Path.withExtension path codec.rawExtension]
  | .mjpeg => [Path.withExtension path imageExtension]

variable {origin : Disk} {place : Place} {format : PixelFormat} {recorder : Recorder} {host : Host}

/-- What is recorded does not go to a place, wherever a recording that is pending will go. Only a video stream comes to
be recorded as a movie. -/
def Avoids (origin : Disk) (place : Place) (format : PixelFormat) : Recorder → Prop
  | pending config => ∀ path ∈ outputs config.path format, origin.place? path ≠ some place
  | raw stream => origin.IsElsewhere place stream.file.id
  | mp4 _ => format ≠ .mjpeg
  | disabled => True

/-- A recorder goes past a place, and so did its host since its disk was `origin`. -/
structure Passes (origin : Disk) (place : Place) (format : PixelFormat) (recorder : Recorder) (host : Host) : Prop where
  host : host.Passes origin place
  avoids : recorder.Avoids origin place format

/-- Opening a raw stream goes past a place to which its path does not lead. -/
lemma openRaw_passes (passes : host.Passes origin place) {path : String} (elsewhere : origin.place? path ≠ some place)
    (format : PixelFormat) : (openRaw host path).1.Passes origin place format (openRaw host path).2 := by
  rw [← passes.disk.place?] at elsewhere
  obtain ⟨bypasses, others⟩ := Disk.create_bypasses passes.formed elsewhere
  unfold openRaw
  rcases created : host.disk.create path with ⟨error | file, disk⟩
  all_goals rw [created] at bypasses others
  · exact ⟨passes.onDisk bypasses, trivial⟩
  · refine ⟨passes.onDisk bypasses, ?_⟩
    intro id same
    rw [← (passes.disk.trans bypasses).entry]
    exact others file rfl id same

/-- Starting a recording goes past a place to which none of its paths leads. -/
lemma Passes.start {config : RecordingConfig} {track : Track}
    (passes : (pending config).Passes origin place (.video track.codec) host) :
    let next := Recorder.start config host track
    next.1.Passes origin place (.video track.codec) next.2 := by
  intro next
  have avoids := passes.avoids
  have aside := avoids config.path (List.mem_cons_self ..)
  have raw_aside := avoids _ (List.mem_cons_of_mem _ (List.mem_singleton_self _))
  unfold next Recorder.start
  split
  · exact openRaw_passes passes.host raw_aside _
  · rw [← passes.host.disk.place?] at aside
    obtain ⟨bypasses, others⟩ := Muxer.create_bypasses passes.host.formed aside host.now config.tuning track
    rcases created : Muxer.create host.disk host.now config.path config.tuning track with ⟨error | muxer, disk⟩
    all_goals rw [created] at bypasses others
    · exact ⟨passes.host.onDisk bypasses, trivial⟩
    · refine ⟨(passes.host.onDisk bypasses).register ?_, nofun⟩
      intro id same
      rw [← passes.host.disk.entry]
      exact others muxer rfl id same

/-- Finalizing keeps to the file of the muxer. -/
lemma finalize_keeps : Host.KeepsToFile fun muxer disk now => muxer.finalize disk now := by
  intro muxer disk now
  refine ⟨?_, muxer.finalize_spares disk now⟩
  dsimp only
  rw [muxer.finalize_closed, Muxer.closed]
  split
  · intro id kept
    cases kept
  · exact fun _ kept => kept

/-- What was done to the file of a raw stream only goes past a place where that file does not stand. -/
lemma Passes.streamed {stream stream' : RawStream} {disk : Disk} (passes : (raw stream).Passes origin place format host)
    (within : stream'.Within host.disk stream.file.id disk) :
    (raw stream').Passes origin place format { host with disk } := by
  obtain ⟨same, spares⟩ := within
  refine ⟨passes.host.onDisk (passes.host.spares spares passes.avoids), ?_⟩
  rw [Avoids, show stream'.file.id = stream.file.id from same]
  exact passes.avoids

/-- However a recording ends, the host goes past the place. -/
lemma Passes.finish (passes : recorder.Passes origin place format host) :
    (recorder.finish host).2.Passes origin place := by
  cases recorder with
  | mp4 id =>
    have completed := passes.host.withMuxer finalize_keeps id
    unfold Recorder.finish
    dsimp only
    split
    · exact passes.host
    · split
      · split
        all_goals
          rename_i came
          rw [came] at completed
          exact completed.release id
      · exact passes.host.release id
  | raw stream =>
    have flushed := passes.streamed (stream.flush_spares host.disk)
    unfold Recorder.finish
    dsimp only
    rcases came : stream.flush host.disk with ⟨error | _, stream', disk⟩
    all_goals rw [came] at flushed
    · exact (flushed.streamed (stream'.flush_spares disk)).host
    · exact flushed.host
  | pending config => exact passes.host
  | disabled => exact passes.host

/-- Giving a recorder up goes past the place. -/
lemma Passes.drop (passes : recorder.Passes origin place format host) : (recorder.drop host).Passes origin place := by
  cases recorder with
  | mp4 id => exact passes.host.release id
  | raw stream => exact (passes.streamed (stream.flush_spares host.disk)).host
  | pending config => exact passes.host
  | disabled => exact passes.host

/-- A recorder goes past a place when it fails. -/
lemma Passes.fail (passes : recorder.Passes origin place format host) :
    (recorder.fail host).1.Passes origin place format (recorder.fail host).2 :=
  ⟨passes.finish, trivial⟩

/-- Adding an access unit keeps to the file of the muxer. -/
lemma addAccessUnit_keeps (unit : AccessUnit) :
    Host.KeepsToFile fun muxer disk now => muxer.addAccessUnit disk now unit := by
  intro muxer disk now
  obtain ⟨same, spares⟩ := muxer.addSample_spares disk now unit.nals unit.isKeyframe
  exact ⟨fun id kept => same ▸ kept, spares⟩

/-- A recorder goes past a place when it adds to its MP4 file. -/
lemma Passes.recordMp4 {id : Nat} (passes : (mp4 id).Passes origin place format host) (unit : AccessUnit) :
    (recordMp4 id host unit).1.Passes origin place format (recordMp4 id host unit).2 := by
  have added := passes.host.withMuxer (addAccessUnit_keeps unit) id
  unfold Recorder.recordMp4
  split
  · exact passes
  · split
    all_goals
      rename_i came
      rw [came] at added
    · exact ⟨added, passes.avoids⟩
    · split
      · exact ⟨added.release id, trivial⟩
      · exact Passes.fail ⟨added, passes.avoids⟩

/-- A recorder goes past a place when it adds to its raw stream. -/
lemma Passes.recordRaw {stream : RawStream} (passes : (raw stream).Passes origin place format host) (buffer : Bytes) :
    (recordRaw stream host buffer).1.Passes origin place format (recordRaw stream host buffer).2 := by
  have written := passes.streamed (stream.write_spares host.disk buffer)
  unfold Recorder.recordRaw
  rcases came : stream.write host.disk buffer with ⟨error | _, stream', disk⟩
  all_goals rw [came] at written
  · exact written.fail
  · exact written

/-- A recorder goes past a place when it adds to what it records. -/
lemma Passes.append (passes : recorder.Passes origin place format host) (frame : SplitFrame) (buffer : Bytes) :
    (recorder.append host frame buffer).1.Passes origin place format (recorder.append host frame buffer).2 := by
  cases recorder with
  | mp4 id => exact passes.recordMp4 frame.accessUnit
  | raw stream => exact passes.recordRaw buffer
  | pending config => exact passes
  | disabled => exact passes

/-- Recording a buffer of a video stream goes past every place to which none of the paths leads. -/
lemma Passes.recordFrame {codec : Codec} (passes : recorder.Passes origin place (.video codec) host)
    (sets : ParameterSets) (shape : PictureShape) (frame : SplitFrame) (buffer : Bytes) :
    let next := recorder.recordFrame host codec sets shape frame buffer
    next.1.Passes origin place (.video codec) next.2 := by
  cases recorder with
  | pending config =>
    unfold Recorder.recordFrame
    dsimp only
    split
    · let track : Track := ⟨codec, sets, shape.width, shape.height, shape.fps⟩
      have started := @Passes.start origin place host config track passes
      exact started.append frame buffer
    · exact passes
  | mp4 id => exact passes.append frame buffer
  | raw stream => exact passes.append frame buffer
  | disabled => exact passes.append frame buffer

/-- Recording an image goes past every place to which the path does not lead. -/
lemma Passes.recordImage (passes : recorder.Passes origin place .mjpeg host) (image : Bytes) :
    (recorder.recordImage host image).1.Passes origin place .mjpeg (recorder.recordImage host image).2 := by
  cases recorder with
  | pending config =>
    have opened := openRaw_passes passes.host (passes.avoids _ (List.mem_singleton_self _)) .mjpeg
    unfold Recorder.recordImage
    dsimp only
    rcases came : openRaw host (Path.withExtension config.path imageExtension) with ⟨recorder, between⟩
    rw [came] at opened
    cases recorder with
    | raw stream => exact opened.recordRaw image
    | pending _ | mp4 _ | disabled => exact opened
  | raw stream => exact passes.recordRaw image
  | mp4 id => exact passes
  | disabled => exact passes

end Recorder

end VideoCapture
