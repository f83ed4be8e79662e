import Mathlib.Tactic.Lemma
import VideoCapture.Recording.Muxer

/-!
# Operations on one file

What acts on an open file through writes and syncs is local to that file (`DiskFile.IsLocal`): it leaves everything
else on the disk alone, and what it does depends on nothing but the content of the file and the outcomes of the
operations that it makes. Local actions can be put together (`IsLocal.bind`, `IsLocal.andThen`), and what a recording
does to its file is put together from them.
-/

namespace VideoCapture

namespace Disk

/-- Nothing can be stored in a file that is not there. -/
lemma setStored_of_missing {disk : Disk} {id : Nat} (missing : disk.contents.length ≤ id) (stored : FileContent) :
    disk.setStored id stored = disk := by
  rw [Disk.setStored, List.set_eq_of_length_le missing]

/-- Nothing differs but the contents of the files that were touched and the number of operations. -/
structure Spares (touched : Nat → Prop) (before after : Disk) : Prop where
  entries : after.entries = before.entries
  faults : after.faults = before.faults
  count : after.contents.length = before.contents.length
  others : ∀ other, ¬ touched other → after.stored other = before.stored other
  operations : before.operations ≤ after.operations

/-- Two disks agree on a file, and on the outcomes of the operations ahead, up to operation `stop` of the first disk. -/
structure Agrees (stop : Nat) (id? : Option Nat) (one two : Disk) : Prop where
  count : two.contents.length = one.contents.length
  stored : ∀ id, id? = some id → two.stored id = one.stored id
  outcomes : ∀ n, one.operations + n < stop → two.faults (two.operations + n) = one.faults (one.operations + n)

/-- A disk that stays as it is spares everything. -/
lemma Spares.refl (touched : Nat → Prop) (disk : Disk) : disk.Spares touched disk :=
  ⟨rfl, rfl, rfl, fun _ _ => rfl, Nat.le_refl _⟩

/-- What is spared twice is spared. -/
lemma Spares.trans {touched : Nat → Prop} {first second third : Disk} (one : first.Spares touched second)
    (two : second.Spares touched third) : first.Spares touched third where
  entries := two.entries.trans one.entries
  faults := two.faults.trans one.faults
  count := two.count.trans one.count
  others other different := (two.others other different).trans (one.others other different)
  operations := Nat.le_trans one.operations two.operations

/-- What is spared by touching little is spared by touching more. -/
lemma Spares.mono {touched more : Nat → Prop} {before after : Disk} (spares : before.Spares touched after)
    (within : ∀ id, touched id → more id) : before.Spares more after :=
  { spares with others := fun other untouched => spares.others other fun inside => untouched (within other inside) }

end Disk

namespace DiskFile

/-- An action touches the open file only, and has the same answer and effect wherever the file has the same content and
the operations that the action makes have the same outcomes. -/
structure IsLocal {α : Type} (act : DiskFile → α × DiskFile) : Prop where
  same_id : ∀ out, (act out).2.handle.id = out.handle.id
  spares : ∀ out : DiskFile, out.disk.Spares (out.handle.id = some ·) (act out).2.disk
  agrees : ∀ {stop handle one two}, Disk.Agrees stop handle.id one two → (act ⟨handle, one⟩).2.disk.operations ≤ stop →
    (act ⟨handle, two⟩).1 = (act ⟨handle, one⟩).1 ∧
      (act ⟨handle, two⟩).2.handle = (act ⟨handle, one⟩).2.handle ∧
      Disk.Agrees stop handle.id (act ⟨handle, one⟩).2.disk (act ⟨handle, two⟩).2.disk

variable {α β ε φ : Type}

/-- An answer without any action is local. -/
lemma isLocal_pure (answer : α) : IsLocal fun out => (answer, out) :=
  ⟨fun _ => rfl, fun _ => .refl _ _, fun agrees _ => ⟨rfl, rfl, agrees⟩⟩

/-- One action after the other, the second of which depends on the answer of the first. -/
lemma IsLocal.bind {act : DiskFile → α × DiskFile} {next : α → DiskFile → β × DiskFile} (first : IsLocal act)
    (second : ∀ answer, IsLocal (next answer)) : IsLocal fun out => next (act out).1 (act out).2 where
  same_id out := ((second _).same_id _).trans (first.same_id out)
  spares out := by
    have after := (second (act out).1).spares (act out).2
    rw [first.same_id] at after
    exact (first.spares out).trans after
  agrees := by
    intro stop handle one two agrees within
    have midway := ((second (act ⟨handle, one⟩).1).spares (act ⟨handle, one⟩).2).operations
    obtain ⟨same, same', between⟩ := first.agrees agrees (Nat.le_trans midway within)
    -- in between both stand at the same place of the same file
    have id_eq := first.same_id ⟨handle, one⟩
    generalize act ⟨handle, one⟩ = came at *
    generalize act ⟨handle, two⟩ = came' at *
    obtain ⟨answer, ⟨handle', one'⟩⟩ := came
    obtain ⟨answer', ⟨handle'', two'⟩⟩ := came'
    dsimp only at same same' between within id_eq ⊢
    subst same same'
    rw [← id_eq] at between ⊢
    exact (second answer').agrees between within

/-- One action after the other, unless the first one fails. -/
def andThen (wrap : ε → φ) (act : DiskFile → Except ε α × DiskFile) (next : α → DiskFile → Except φ β × DiskFile)
    (out : DiskFile) : Except φ β × DiskFile :=
  match act out with
  | (.error error, out) => (.error (wrap error), out)
  | (.ok answer, out) => next answer out

/-- When the first action fails, its error is the answer and nothing follows. -/
lemma andThen_error {act : DiskFile → Except ε α × DiskFile} {next : α → DiskFile → Except φ β × DiskFile}
    {wrap : ε → φ} {out after : DiskFile} {error : ε} (run : act out = (.error error, after)) :
    andThen wrap act next out = (.error (wrap error), after) := by
  rw [andThen, run]

/-- When the first action succeeds, the next one goes on from there. -/
lemma andThen_ok {act : DiskFile → Except ε α × DiskFile} {next : α → DiskFile → Except φ β × DiskFile}
    {wrap : ε → φ} {out after : DiskFile} {answer : α} (run : act out = (.ok answer, after)) :
    andThen wrap act next out = next answer after := by
  rw [andThen, run]

/-- Local actions one after the other are local. -/
lemma IsLocal.andThen {act : DiskFile → Except ε α × DiskFile} {next : α → DiskFile → Except φ β × DiskFile}
    {wrap : ε → φ} (first : IsLocal act) (second : ∀ answer, IsLocal (next answer)) :
    IsLocal (DiskFile.andThen wrap act next) := by
  let rest (came : Except ε α) (out : DiskFile) : Except φ β × DiskFile :=
    match came with
    | .error error => (.error (wrap error), out)
    | .ok answer => next answer out
  have goes_on : ∀ came, IsLocal (rest came) := by
    intro came
    cases came with
    | error error => exact isLocal_pure _
    | ok answer => exact second answer
  have same : DiskFile.andThen wrap act next = fun out => rest (act out).1 (act out).2 := by
    funext out
    rw [DiskFile.andThen]
    rcases act out with ⟨error | answer, after⟩ <;> rfl
  rw [same]
  exact first.bind goes_on

/-- Moving the position of the open file is local. -/
lemma isLocal_seek (position : Nat) :
    IsLocal fun out => ((), { out with handle := { out.handle with position } }) :=
  ⟨fun _ => rfl, fun _ => .refl _ _, fun agrees _ => ⟨rfl, rfl, agrees⟩⟩

/-- Counts one operation on the disk, and tells which fault befalls it. -/
def tick (out : DiskFile) : Option FileError × DiskFile :=
  (out.disk.tick.1, ⟨out.handle, out.disk.tick.2⟩)

/-- Acts on the file in one operation, unless a fault befalls it. -/
def attempt (act : DiskFile → Except FileError Unit × DiskFile) (out : DiskFile) : Except FileError Unit × DiskFile :=
  match out.tick with
  | (some fault, out) => (.error fault, out)
  | (none, out) => act out

/-- Puts bytes at the position of the file, and the position behind them. -/
def put (bytes : Bytes) (out : DiskFile) : Except FileError Unit × DiskFile :=
  match out.handle.id with
  | none => (.error .storageFull, out)
  | some id => (.ok (), ⟨{ out.handle with position := out.handle.position + bytes.length },
      out.disk.setStored id ((out.disk.stored id).write out.handle.position bytes)⟩)

/-- A write of some bytes puts them in one operation, and a write of none does nothing. -/
lemma write_eq (out : DiskFile) (bytes : Bytes) :
    Writer.write out bytes = if bytes.isEmpty then (.ok (), out) else out.attempt (put bytes) := by
  obtain ⟨⟨id?, position⟩, disk⟩ := out
  have unfolded : Writer.write (⟨⟨id?, position⟩, disk⟩ : DiskFile) bytes = ((disk.write ⟨id?, position⟩ bytes).1,
      ⟨(disk.write ⟨id?, position⟩ bytes).2.1, (disk.write ⟨id?, position⟩ bytes).2.2⟩) := rfl
  rw [unfolded, Disk.write]
  split
  · rfl
  · rw [attempt, tick]
    rcases disk.tick with ⟨fault | fault, after⟩
    · cases id? <;> rfl
    · rfl

/-- A sync is one operation that does nothing else. -/
lemma sync_eq (out : DiskFile) : out.sync = out.attempt fun out => (.ok (), out) := by
  rw [DiskFile.sync, Disk.sync, attempt, tick]
  rcases out.disk.tick with ⟨fault | fault, disk⟩ <;> rfl

/-- Counting an operation is local, as disks that agree have the same outcomes ahead. -/
lemma isLocal_tick : IsLocal tick where
  same_id _ := rfl
  spares _ := ⟨rfl, rfl, rfl, fun _ _ => rfl, Nat.le_succ _⟩
  agrees := by
    intro stop handle one two agrees within
    refine ⟨agrees.outcomes 0 within, rfl, agrees.count, agrees.stored, ?_⟩
    intro n ahead
    have shift : ∀ operations, operations + 1 + n = operations + (n + 1) := by omega
    simp only [tick, Disk.tick] at ahead ⊢
    rw [shift] at ahead
    rw [shift, shift]
    exact agrees.outcomes (n + 1) ahead

/-- A local action that takes one operation is local together with it. -/
lemma IsLocal.attempt {act : DiskFile → Except FileError Unit × DiskFile} (acts : IsLocal act) :
    IsLocal (DiskFile.attempt act) := by
  let rest (fault? : Option FileError) (out : DiskFile) : Except FileError Unit × DiskFile :=
    match fault? with
    | some fault => (.error fault, out)
    | none => act out
  have goes_on : ∀ fault?, IsLocal (rest fault?) := by
    intro fault?
    cases fault? with
    | some fault => exact isLocal_pure _
    | none => exact acts
  have same : DiskFile.attempt act = fun out => rest out.tick.1 out.tick.2 := by
    funext out
    rw [DiskFile.attempt]
    rcases out.tick with ⟨fault | fault, after⟩ <;> rfl
  rw [same]
  exact isLocal_tick.bind goes_on

/-- A sync is local. -/
lemma isLocal_sync : IsLocal DiskFile.sync := by
  rw [funext sync_eq]
  exact (isLocal_pure _).attempt

/-- Putting bytes into the open file is local. -/
lemma isLocal_put (bytes : Bytes) : IsLocal (put bytes) where
  same_id := by
    rintro ⟨⟨_ | id, position⟩, disk⟩ <;> rfl
  spares := by
    rintro ⟨⟨_ | id, position⟩, disk⟩
    · exact .refl _ _
    · refine ⟨rfl, rfl, List.length_set, ?_, Nat.le_refl _⟩
      intro other different
      have elsewhere : other ≠ id := fun same => different (congrArg some same.symm)
      exact Disk.stored_setStored_of_ne disk elsewhere _
  agrees := by
    rintro stop ⟨_ | id, position⟩ one two ⟨count, stored, outcomes⟩ -
    · exact ⟨rfl, rfl, count, stored, outcomes⟩
    · have before := stored id rfl
      refine ⟨rfl, rfl, ?_, ?_, outcomes⟩
      · simpa only [put, Disk.setStored, List.length_set] using count
      · rintro _ ⟨⟩
        simp only [put, before]
        -- a file that is missing on one disk is missing on the other
        by_cases present : id < one.contents.length
        · rw [Disk.stored_setStored_self one present, Disk.stored_setStored_self two (count.symm ▸ present)]
        · rw [Disk.setStored_of_missing (Nat.not_lt.mp present),
            Disk.setStored_of_missing (count.symm ▸ Nat.not_lt.mp present), before]

/-- A write touches the file that it writes to only. -/
lemma isLocal_write (bytes : Bytes) : IsLocal fun out : DiskFile => Writer.write out bytes := by
  rw [funext fun out => write_eq out bytes]
  by_cases nothing : bytes.isEmpty = true
  · simp only [if_pos nothing]
    exact isLocal_pure _
  · simp only [if_neg nothing]
    exact (isLocal_put bytes).attempt

/-- Patches are made one after the other, each by a write at its position. -/
lemma patch_cons (position : Nat) (bytes : Bytes) (rest : List (Nat × Bytes)) :
    (fun out : DiskFile => out.patch ((position, bytes) :: rest)) =
      andThen id (fun out => Writer.write { out with handle := { out.handle with position } } bytes)
        fun _ out => out.patch rest := by
  funext out
  rw [DiskFile.patch, andThen]
  dsimp only
  rcases Writer.write (⟨⟨out.handle.id, position⟩, out.disk⟩ : DiskFile) bytes with ⟨error | ⟨⟩, after⟩ <;> rfl

/-- Writes at given positions touch the one file only. -/
lemma isLocal_patch (pieces : List (Nat × Bytes)) : IsLocal fun out : DiskFile => out.patch pieces := by
  induction pieces with
  | nil => exact isLocal_pure _
  | cons piece rest ih =>
    obtain ⟨position, bytes⟩ := piece
    have written := (isLocal_seek position).bind fun _ => isLocal_write bytes
    rw [patch_cons]
    exact written.andThen fun _ => ih

/-- Byte strings are written one after the other. -/
lemma writeAll_cons (bytes : Bytes) (rest : List Bytes) :
    (fun out : DiskFile => out.writeAll (bytes :: rest)) =
      andThen id (fun out => Writer.write out bytes) fun _ out => out.writeAll rest := by
  funext out
  rw [DiskFile.writeAll, andThen]
  rcases Writer.write out bytes with ⟨error | ⟨⟩, after⟩ <;> rfl

/-- Writes one after the other touch the one file only. -/
lemma isLocal_writeAll (pieces : List Bytes) : IsLocal fun out : DiskFile => out.writeAll pieces := by
  induction pieces with
  | nil => exact isLocal_pure _
  | cons bytes rest ih =>
    rw [writeAll_cons]
    exact (isLocal_write bytes).andThen fun _ => ih

/-- Whether something is gathered decides whether a flush is a write. -/
lemma flush_eq (buffer : WriteBuffer) (out : DiskFile) (now : Nat) :
    ((buffer.flush out now).1, (buffer.flush out now).2.2) =
      if buffer.gathered.isEmpty then (.ok (), out) else Writer.write out buffer.pending := by
  unfold WriteBuffer.flush
  dsimp only
  generalize counted : { buffer with stats := { buffer.stats with explicit := buffer.stats.explicit + 1 } } = other
  have gathered : other.gathered = buffer.gathered := by rw [← counted]
  rw [WriteBuffer.pending, ← gathered, WriteBuffer.writePending]
  by_cases nothing : other.gathered.isEmpty = true
  · rw [if_pos nothing, if_pos nothing]
    rfl
  · rw [if_neg nothing, if_neg nothing, WriteBuffer.pending]
    rcases Writer.write out other.gathered.toBytes with ⟨error | ⟨⟩, after⟩ <;> rfl

/-- Flushing a buffer is local. -/
lemma isLocal_flush (buffer : WriteBuffer) (now : Nat) :
    IsLocal fun out : DiskFile => ((buffer.flush out now).1, (buffer.flush out now).2.2) := by
  rw [funext fun out => flush_eq buffer out now]
  by_cases nothing : buffer.gathered.isEmpty = true
  · simp only [if_pos nothing]
    exact isLocal_pure _
  · simp only [if_neg nothing]
    exact isLocal_write _

end DiskFile

end VideoCapture
