import VideoCapture.Proofs.Disk.Local
import VideoCapture.Proofs.Recording.Outcome

/-!
# Finalizing is local

What a muxer does when it is finalized is local to its file: it touches nothing else (`Muxer.finalize_spares`), and what
becomes of the muxer and of the file depends on nothing but the file and the outcomes of the operations that this takes
(`Muxer.finalize_agrees`).
-/

namespace VideoCapture
open DiskFile

namespace Streaming

/-- A recording that is small enough is completed by the size of its media data, and by its movie box behind them. -/
lemma complete_eq (s : Streaming) (small : ¬ Track.maxField < s.stop - s.mdatStart) :
    s.complete = andThen .file (fun out => out.patch [(s.mdatStart, Bytes.be32 (s.stop - s.mdatStart))]) fun _ =>
      match Movie.moov s.track s.samples with
      | .error error => fun out => (.error error, out)
      | .ok moov => andThen .file (fun out => out.patch (Recording.placement s.base s.stop moov)) fun _ =>
          andThen .file DiskFile.sync fun _ out =>
            (.ok ⟨s.recorded.length, s.keyframes, s.stop - s.mdatStart, Recording.fitsRoom moov.length⟩, out) := by
  funext out
  unfold complete andThen
  dsimp only
  rw [if_neg small]
  rcases out.patch [(s.mdatStart, Bytes.be32 (s.stop - s.mdatStart))] with ⟨error | ⟨⟩, sized⟩
  · rfl
  cases Movie.moov s.track s.samples with
  | error error => rfl
  | ok moov =>
    dsimp only
    rcases sized.patch (Recording.placement s.base s.stop moov) with ⟨error | ⟨⟩, placed⟩
    · rfl
    · dsimp only
      rcases placed.sync with ⟨error | ⟨⟩, synced⟩ <;> rfl

/-- A recording whose media data are too large is not completed, and its file is left alone. -/
lemma complete_of_large (s : Streaming) (large : Track.maxField < s.stop - s.mdatStart) :
    s.complete = fun out => (.error (.tooLarge (s.stop - s.mdatStart)), out) := by
  funext out
  unfold complete
  dsimp only
  rw [if_pos large]

/-- Completing a recording touches no file but its own. -/
lemma isLocal_complete (s : Streaming) : IsLocal s.complete := by
  by_cases large : Track.maxField < s.stop - s.mdatStart
  · rw [complete_of_large s large]
    exact isLocal_pure _
  · rw [complete_eq s large]
    refine (isLocal_patch _).andThen ?_
    intro _
    cases Movie.moov s.track s.samples with
    | error error => exact isLocal_pure _
    | ok moov => exact (isLocal_patch _).andThen fun _ => isLocal_sync.andThen fun _ => isLocal_pure _

/-- What finalizing a recording does to its file. -/
def closing (s : Streaming) (now : Nat) : DiskFile → Except CaptureError RecordingSummary × DiskFile :=
  andThen .file (fun out => ((s.buffer.flush out now).1, (s.buffer.flush out now).2.2)) fun _ =>
    andThen .file DiskFile.sync fun _ => s.complete

/-- A recording is not completed unless everything is on the disk. As in `finalize_of_flushed`, what completes it has a
name, so that nothing evaluates it. -/
lemma finalize_of_unsynced {s : Streaming} {disk : Disk} {now : Nat} {buffer : WriteBuffer} {out after : DiskFile}
    {error : FileError} {complete : DiskFile → Except CaptureError RecordingSummary × DiskFile}
    (named : s.complete = complete) (flushed : s.buffer.flush (⟨s.file, disk⟩ : DiskFile) now = (.ok (), buffer, out))
    (run : out.sync = (.error error, after)) : s.finalize disk now = (.error (.file error), after.disk) := by
  rw [finalize, named, flushed]
  dsimp only
  rw [run]

/-- A recording is finalized by what is done to its file. -/
lemma finalize_eq (s : Streaming) (disk : Disk) (now : Nat) :
    s.finalize disk now = ((s.closing now ⟨s.file, disk⟩).1, (s.closing now ⟨s.file, disk⟩).2.disk) := by
  rcases run : s.buffer.flush (⟨s.file, disk⟩ : DiskFile) now with ⟨error | ⟨⟩, buffer, out⟩
  · have flushed : ((s.buffer.flush (⟨s.file, disk⟩ : DiskFile) now).1,
        (s.buffer.flush (⟨s.file, disk⟩ : DiskFile) now).2.2) = (.error error, out) := by rw [run]
    have came : s.closing now ⟨s.file, disk⟩ = (.error (.file error), out) := andThen_error flushed
    rw [finalize, run, came]
  · have flushed : ((s.buffer.flush (⟨s.file, disk⟩ : DiskFile) now).1,
        (s.buffer.flush (⟨s.file, disk⟩ : DiskFile) now).2.2) = (.ok (), out) := by rw [run]
    rcases synced : out.sync with ⟨error | ⟨⟩, after⟩
    · have came : s.closing now ⟨s.file, disk⟩ = (.error (.file error), after) :=
        (andThen_ok flushed).trans (andThen_error synced)
      rw [finalize_of_unsynced rfl run synced, came]
    · have came : s.closing now ⟨s.file, disk⟩ = s.complete after := (andThen_ok flushed).trans (andThen_ok synced)
      rw [finalize_of_flushed rfl run synced, came]

/-- Finalizing a recording touches its file only. -/
lemma isLocal_closing (s : Streaming) (now : Nat) : IsLocal (s.closing now) :=
  (isLocal_flush s.buffer now).andThen fun _ => isLocal_sync.andThen fun _ => s.isLocal_complete

end Streaming


namespace Muxer

variable {muxer : Muxer}

/-- The file that a muxer writes to, if it streams, and not to a full device. -/
def fileId? (muxer : Muxer) : Option Nat :=
  muxer.streaming?.bind fun s => s.file.id

/-- A muxer behind a call that finalizes it. -/
def closed (muxer : Muxer) : Muxer :=
  if muxer.isStreaming then { muxer with phase := .finalized } else muxer

/-- A muxer behind its finalizing does not stream. -/
@[simp] lemma isStreaming_closed : muxer.closed.isStreaming = false := by
  rw [closed]
  split
  · rfl
  · rename_i idle
    simpa using idle

/-- Finalizing changes no muxer that does not stream. -/
lemma closed_of_idle (idle : muxer.isStreaming = false) : muxer.closed = muxer := by
  rw [closed, idle, if_neg Bool.false_ne_true]

/-- Finalizing a muxer leaves it closed, whatever the outcome. -/
lemma finalize_closed (disk : Disk) (now : Nat) : (muxer.finalize disk now).2.1 = muxer.closed := by
  cases phase : muxer.phase with
  | streaming s =>
    rw [finalize_of_streaming rfl phase, closed, isStreaming, streaming?, phase, Option.isSome_some, if_pos rfl]
  | uninitialized | finalized =>
    have idle : muxer.streaming? = none := by rw [streaming?, phase]
    rw [finalize_idle idle, closed, isStreaming, idle, Option.isSome_none, if_neg Bool.false_ne_true]

/-- To finalize a muxer touches its own file only. -/
lemma finalize_spares (disk : Disk) (now : Nat) :
    disk.Spares (muxer.fileId? = some ·) (muxer.finalize disk now).2.2 := by
  cases phase : muxer.phase with
  | streaming s =>
    have file : muxer.fileId? = s.file.id := by rw [fileId?, streaming?, phase, Option.bind_some]
    rw [finalize_of_streaming rfl phase, file, s.finalize_eq]
    exact (s.isLocal_closing now).spares ⟨s.file, disk⟩
  | uninitialized | finalized =>
    have idle : muxer.streaming? = none := by rw [streaming?, phase]
    rw [finalize_idle idle]
    exact .refl _ _

/-- What becomes of a muxer that is finalized, and of its file, depends on nothing but the file and the outcomes of the
operations that this takes. -/
lemma finalize_agrees {stop now : Nat} {one two : Disk} (agrees : one.Agrees stop muxer.fileId? two)
    (within : (muxer.finalize one now).2.2.operations ≤ stop) :
    (muxer.finalize two now).1 = (muxer.finalize one now).1 ∧
      (muxer.finalize one now).2.2.Agrees stop muxer.fileId? (muxer.finalize two now).2.2 := by
  cases phase : muxer.phase with
  | streaming s =>
    have file : muxer.fileId? = s.file.id := by rw [fileId?, streaming?, phase, Option.bind_some]
    rw [finalize_of_streaming rfl phase, s.finalize_eq] at within
    rw [file] at agrees
    obtain ⟨same, -, agrees'⟩ := (s.isLocal_closing now).agrees agrees within
    rw [finalize_of_streaming rfl phase, finalize_of_streaming rfl phase, s.finalize_eq, s.finalize_eq, file]
    exact ⟨same, agrees'⟩
  | uninitialized | finalized =>
    have idle : muxer.streaming? = none := by rw [streaming?, phase]
    rw [finalize_idle idle, finalize_idle idle]
    exact ⟨rfl, agrees⟩

end Muxer

end VideoCapture
