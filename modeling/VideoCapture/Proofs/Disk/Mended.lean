import VideoCapture.Proofs.Disk.Local
import VideoCapture.Proofs.Disk.Sound

/-!
# Mended disks

A disk that fails now and then, and the same disk without its faults (`Disk.mended`). What succeeds on the one, step by
step, does the same on the other (`DiskFile.Mends`), and a write or sync that fails changes nothing but the number of
operations. So whatever is known about sound disks is known about a failing disk, as far as its operations succeed.
-/

namespace VideoCapture

/-- The disk as it is, without a fault from now on. -/
def Disk.mended (disk : Disk) : Disk :=
  { disk with faults := fun _ => none }

/-- A disk without faults is sound. -/
lemma Disk.isSound_mended (disk : Disk) : disk.mended.IsSound :=
  fun _ _ => rfl

namespace DiskFile

variable {α β ε φ : Type} {out after : DiskFile}

/-- The open file on the mended disk. -/
def mended (out : DiskFile) : DiskFile :=
  { out with disk := out.disk.mended }

/-- An action that succeeds does the same on the mended disk. -/
def Mends (act : DiskFile → Except ε α × DiskFile) : Prop :=
  ∀ out answer after, act out = (.ok answer, after) → act out.mended = (.ok answer, after.mended)

/-- An answer without any action is the same on the mended disk. -/
lemma mends_pure (answer : Except ε α) : Mends fun out => (answer, out) := by
  intro out answer after run
  cases run
  rfl

/-- Actions that do the same on the mended disk do the same there one after the other. -/
lemma Mends.andThen {wrap : ε → φ} {act : DiskFile → Except ε α × DiskFile}
    {next : α → DiskFile → Except φ β × DiskFile} (first : Mends act) (second : ∀ answer, Mends (next answer)) :
    Mends (DiskFile.andThen wrap act next) := by
  intro out answer after run
  rcases came : act out with ⟨error | midway, between⟩
  · cases (andThen_error came).symm.trans run
  · have rest := (andThen_ok came).symm.trans run
    exact (andThen_ok (first _ _ _ came)).trans (second midway _ _ _ rest)

/-- An action that does the same on the mended disk does so in one operation. -/
lemma Mends.attempt {act : DiskFile → Except FileError Unit × DiskFile} (acts : Mends act) :
    Mends (DiskFile.attempt act) := by
  intro out answer after run
  rw [DiskFile.attempt] at run
  rcases ticked : out.tick with ⟨_ | fault, next⟩
  · rw [ticked] at run
    have next_eq : out.tick.2 = next := congrArg Prod.snd ticked
    subst next_eq
    exact acts _ _ _ run
  · rw [ticked] at run
    cases run

/-- Putting bytes into the open file does the same on the mended disk. -/
lemma mends_put (bytes : Bytes) : Mends (put bytes) := by
  rintro ⟨⟨_ | id, position⟩, disk⟩ answer after run
  · cases run
  · cases run
    rfl

/-- A write that succeeds does the same on the mended disk. -/
lemma mends_write (bytes : Bytes) : Mends fun out : DiskFile => Writer.write out bytes := by
  rw [funext fun out => write_eq out bytes]
  by_cases nothing : bytes.isEmpty = true
  · simp only [if_pos nothing]
    exact mends_pure _
  · simp only [if_neg nothing]
    exact (mends_put bytes).attempt

/-- A sync that succeeds does the same on the mended disk. -/
lemma mends_sync : Mends DiskFile.sync := by
  rw [funext sync_eq]
  exact (mends_pure _).attempt

/-- Patches that succeed do the same on the mended disk. -/
lemma mends_patch (pieces : List (Nat × Bytes)) : Mends fun out : DiskFile => out.patch pieces := by
  induction pieces with
  | nil => exact mends_pure _
  | cons piece rest ih =>
    obtain ⟨position, bytes⟩ := piece
    have written : Mends fun out : DiskFile =>
        Writer.write { out with handle := { out.handle with position } } bytes :=
      fun _ => mends_write bytes _
    rw [patch_cons]
    exact written.andThen fun _ => ih

/-- Byte strings that are all written are written in the same way on the mended disk. -/
lemma mends_writeAll (pieces : List Bytes) : Mends fun out : DiskFile => out.writeAll pieces := by
  induction pieces with
  | nil => exact mends_pure _
  | cons bytes rest ih =>
    rw [writeAll_cons]
    exact (mends_write bytes).andThen fun _ => ih

/-- A flush that succeeds does the same on the mended disk. -/
lemma mends_flush (buffer : WriteBuffer) (now : Nat) :
    Mends fun out : DiskFile => ((buffer.flush out now).1, (buffer.flush out now).2.2) := by
  rw [funext fun out => flush_eq buffer out now]
  by_cases nothing : buffer.gathered.isEmpty = true
  · simp only [if_pos nothing]
    exact mends_pure _
  · simp only [if_neg nothing]
    exact mends_write _

/-- A write that fails writes nothing. -/
lemma write_refused {bytes : Bytes} {error : FileError} (refusal : Writer.write out bytes = (.error error, after)) :
    after = ⟨out.handle, out.disk.ticked⟩ := by
  rw [write_eq] at refusal
  split at refusal
  · cases refusal
  rw [attempt] at refusal
  rcases ticked : out.tick with ⟨_ | fault, next⟩
  all_goals
    rw [ticked] at refusal
    have next_eq : out.tick.2 = next := congrArg Prod.snd ticked
    subst next_eq
  · obtain ⟨⟨_ | id, position⟩, disk⟩ := out
    · cases refusal
      rfl
    · cases refusal
  · cases refusal
    rfl

/-- A sync changes no file. -/
lemma sync_snd (out : DiskFile) : out.sync.2 = ⟨out.handle, out.disk.ticked⟩ := by
  rw [sync_eq, attempt]
  rcases ticked : out.tick with ⟨_ | fault, next⟩ <;> exact (congrArg Prod.snd ticked).symm

end DiskFile

end VideoCapture
