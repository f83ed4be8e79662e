import VideoCapture.Proofs.Disk.Bypass
import VideoCapture.Recording.Recorder

/-!
# Tracks that are rejected

A track that no player could show is rejected in two places. A recorder looks at the track before it opens anything, and
takes the raw stream instead, so that nothing happens to the MP4 file. A muxer that creates its file looks at the track
when the file is open already, and so has emptied the file, or made an empty one, when it refuses the track
(`rejected_track`).
-/

namespace VideoCapture
open Disk

/-- A track is rejected for a defect of its picture or for a parameter set that is missing. -/
lemma Track.reason_of_validate {track : Track} {error : CaptureError} (invalid : track.validate = .error error) :
    (∃ defect, error = .invalidTrack defect) ∨ ∃ kind, error = .missingParameterSet kind := by
  unfold validate at invalid
  split at invalid
  · cases invalid
    exact .inl ⟨_, rfl⟩
  split at invalid
  · cases invalid
    exact .inl ⟨_, rfl⟩
  split at invalid
  · cases invalid
    exact .inl ⟨_, rfl⟩
  split at invalid
  · cases invalid
    exact .inr ⟨_, rfl⟩
  · cases invalid

/-- What a path leads to after it was opened for writing. -/
lemma Disk.Opened.standing? {before after : Disk} {path name : String} {directory : Place} {file : FileHandle}
    (opened : Opened before (directory ++ [name]) file after) (way : before.follow path = .ok (directory, some name)) :
    after.standing? path = some (if file.id.isSome then .file [] else .full) := by
  have led := follow_still (opened.besides.directories opened.no_directory) way
  rw [standing?_of_follow led, opened.entry]
  cases stands : file.id with
  | none => rfl
  | some id => exact congrArg (fun bytes => some (Standing.file bytes)) (opened.empty id stands).2

/-- A raw stream with a path that leads elsewhere does nothing at a place. -/
lemma Recorder.openRaw_bypasses {host : Host} {path : String} {place : Place} (formed : host.disk.IsWellFormed)
    (elsewhere : host.disk.place? path ≠ some place) :
    Bypasses place host.disk (openRaw host path).2.disk ∧
      ((openRaw host path).1.isRaw = true ∨ (openRaw host path).1.isDisabled = true) := by
  obtain ⟨bypasses, -⟩ := create_bypasses formed elsewhere
  unfold openRaw
  rcases created : host.disk.create path with ⟨error | file, disk⟩
  · rw [created] at bypasses
    exact ⟨bypasses, .inr rfl⟩
  · rw [created] at bypasses
    exact ⟨bypasses, .inl rfl⟩

/-- A muxer that is to create a file for a rejected track opens the file, and no more. -/
lemma Muxer.create_rejected {track : Track} {error : CaptureError} (rejected : track.validate = .error error)
    (disk : Disk) (now : Nat) (path : String) (tuning : WriteTuning) :
    create disk now path tuning track =
      ((match (disk.create path).1 with | .error fault => .error (.file fault) | .ok _ => .error error),
        (disk.create path).2) := by
  unfold create
  rcases disk.create path with ⟨fault | file, opened⟩
  · rfl
  · simp only [start, rejected]

/-- With a track that is rejected, a recorder leaves the MP4 file alone, be it there or not, and turns to the raw
stream. A muxer that is to create the file answers why the track is rejected, and leaves an empty file at the path,
unless the file cannot be opened in the first place. -/
theorem rejected_track {config : RecordingConfig} {host : Host} {track : Track} {error : CaptureError}
    (formed : host.disk.IsWellFormed) (other : Path.extension? config.path ≠ some track.codec.rawExtension)
    (rejected : track.validate = .error error) :
    ((∃ defect, error = .invalidTrack defect) ∨ ∃ kind, error = .missingParameterSet kind) ∧
    ((Recorder.start config host track).1.isRaw = true ∨ (Recorder.start config host track).1.isDisabled = true) ∧
    (Recorder.start config host track).2.disk.standing? config.path = host.disk.standing? config.path ∧
    match host.disk.create config.path with
    | (.error fault, _) => Muxer.create host.disk host.now config.path config.tuning track =
        (.error (.file fault), host.disk.ticked)
    | (.ok file, opened) => Muxer.create host.disk host.now config.path config.tuning track = (.error error, opened) ∧
        opened.standing? config.path = some (if file.id.isSome then .file [] else .full) ∧
        ∀ path, host.disk.Apart config.path path → opened.standing? path = host.disk.standing? path := by
  have no_slash : '/' ∉ track.codec.rawExtension.toList := by cases track.codec <;> decide
  have no_dot : '.' ∉ track.codec.rawExtension.toList := by cases track.codec <;> decide
  have apart := (host.disk.apart_withExtension no_slash no_dot other).ne_spot
  obtain ⟨bypasses, falls_back⟩ := Recorder.openRaw_bypasses formed apart
  have started : Recorder.start config host track =
      Recorder.openRaw host (Path.withExtension config.path track.codec.rawExtension) := by
    rw [Recorder.start, rejected]
  refine ⟨Track.reason_of_validate rejected, ?_, ?_, ?_⟩
  · rw [started]
    exact falls_back
  · rw [started]
    exact bypasses.standing?
  · have opens := create_opens formed config.path
    have refused := Muxer.create_rejected rejected host.disk host.now config.path config.tuning
    have past : ∀ path, host.disk.Apart config.path path →
        Bypasses (host.disk.spot path) host.disk (host.disk.create config.path).2 := fun path apart =>
      (create_bypasses formed apart.ne_spot).1
    rcases created : host.disk.create config.path with ⟨fault | file, opened⟩
    · rw [created] at opens refused
      rw [refused, ← opens]
    · rw [created] at opens refused past
      obtain ⟨directory, name, way, -, -, open_file⟩ := opens
      exact ⟨refused, open_file.standing? way, fun path apart => (past path apart).standing?⟩

/-- The path of an earlier recording, and a track without a picture. -/
theorem rejected_track_no_width :
    let track : Track := ⟨.h264, .ofH264 [0x67, 0x42, 0x00, 0x1E] [0x68], 0, 480, 30⟩
    let disk := [Operation.create "a.mp4", .write ⟨some 0, 0⟩ [1, 2, 3]].foldl perform {}
    let config : RecordingConfig := { path := "a.mp4" }
    disk.IsWellFormed ∧ Path.extension? config.path ≠ some track.codec.rawExtension ∧
      track.validate = .error (.invalidTrack (.emptyPicture 0 480)) ∧
      (Recorder.start config { disk } track).2.disk.standing? "a.mp4" = some (.file [1, 2, 3]) ∧
      (disk.create "a.mp4").2.standing? "a.mp4" = some (.file []) := by
  intro track disk config
  have formed : disk.IsWellFormed := isWellFormed_performAll _ _
  have other : Path.extension? config.path ≠ some track.codec.rawExtension := by decide
  have rejected : track.validate = .error (.invalidTrack (.emptyPicture 0 480)) := rfl
  have there : disk.standing? "a.mp4" = some (.file [1, 2, 3]) := by decide +kernel
  have opens : (disk.create "a.mp4").1.toOption = some ⟨some 0, 0⟩ := by decide +kernel
  obtain ⟨-, -, kept, created⟩ := @rejected_track config { disk } track _ formed other rejected
  refine ⟨formed, other, rejected, kept.trans there, ?_⟩
  rcases run : disk.create "a.mp4" with ⟨fault | file, opened⟩
  · rw [run] at opens
    cases opens
  · rw [run] at opens
    cases opens
    rw [show disk.create config.path = _ from run] at created
    exact created.2.1

/-- A muxer refuses a track without a picture, and the recording that was at its path is gone. Where there was none, an
empty file is. -/
theorem rejected_track_empties_file :
    let track : Track := ⟨.h264, .ofH264 [0x67, 0x42, 0x00, 0x1E] [0x68], 0, 480, 30⟩
    let disk := [Operation.create "a.mp4", .write ⟨some 0, 0⟩ [1, 2, 3]].foldl perform {}
    disk.standing? "a.mp4" = some (.file [1, 2, 3]) ∧
      (Muxer.create disk 0 "a.mp4" {} track).1 = .error (.invalidTrack (.emptyPicture 0 480)) ∧
      (Muxer.create disk 0 "a.mp4" {} track).2.standing? "a.mp4" = some (.file []) ∧
      ({} : Disk).standing? "a.mp4" = none ∧
      (Muxer.create {} 0 "a.mp4" {} track).2.standing? "a.mp4" = some (.file []) :=
  ⟨by decide +kernel, rfl, by decide +kernel, by decide +kernel, by decide +kernel⟩

end VideoCapture
