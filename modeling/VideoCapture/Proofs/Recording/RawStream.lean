import VideoCapture.Proofs.Recording.Calls
import VideoCapture.Recording.RawStream

/-!
# Raw streams on a sound disk

What has reached the file and what is gathered in memory are together what was written to the stream
(`RawStream.Carries`). Writing keeps that, and flushing brings everything into the file.
-/

namespace VideoCapture.RawStream

variable {origin : Disk} {id : Nat} {stream : RawStream} {disk : Disk} {content : Bytes}

/-- A stream into the file `id` has taken the bytes `content`. -/
def Carries (origin : Disk) (id : Nat) (stream : RawStream) (disk : Disk) (content : Bytes) : Prop :=
  ∃ received, DiskFile.Holds origin id 0 ⟨stream.file, disk⟩ received ∧ received ++ stream.pending = content

/-- A write to a file puts the bytes behind those that it has received. -/
lemma write_of_holds {file : FileHandle} {received : Bytes}
    (holds : DiskFile.Holds origin id 0 ⟨file, disk⟩ received) (bytes : Bytes) :
    ∃ file' disk', disk.write file bytes = (.ok (), file', disk') ∧
      DiskFile.Holds origin id 0 ⟨file', disk'⟩ (received ++ bytes) := by
  obtain ⟨after, written, holds'⟩ := holds.write bytes
  refine ⟨after.handle, after.disk, ?_, holds'⟩
  rcases run : disk.write file bytes with ⟨result, file', disk'⟩
  have same : Writer.write (⟨file, disk⟩ : DiskFile) bytes = (result, ⟨file', disk'⟩) :=
    congrArg (fun out => (out.1, (⟨out.2.1, out.2.2⟩ : DiskFile))) run
  cases same.symm.trans written
  rfl

/-- A stream into an empty file has taken nothing. -/
lemma carries_nil (sound : origin.IsSound) (present : id < origin.contents.length) :
    Carries origin id ({ file := ⟨some id, 0⟩ } : RawStream) origin [] := by
  refine ⟨[], ⟨rfl, present, ?_, sound, Disk.SameBut.refl id origin⟩, rfl⟩
  simp [FileContent.overwrite, Bytes.zeros]

/-- A flush puts everything into the file, and loses nothing. -/
lemma Carries.flush (carries : stream.Carries origin id disk content) :
    ∃ stream' disk', stream.flush disk = (.ok (), stream', disk') ∧ stream'.Carries origin id disk' content ∧
      stream'.pending = [] := by
  obtain ⟨received, holds, rfl⟩ := carries
  obtain ⟨file, disk', written, holds'⟩ := write_of_holds holds stream.pending
  refine ⟨{ file }, disk', ?_, ⟨received ++ stream.pending, holds', List.append_nil _⟩, rfl⟩
  rw [RawStream.flush, written]

/-- What is put into a stream stands behind what it has taken before. -/
lemma Carries.put (carries : stream.Carries origin id disk content) {bytes : Bytes}
    (room : capacity ≤ bytes.length → stream.pending = []) :
    ∃ stream' disk', stream.put disk bytes = (.ok (), stream', disk') ∧
      stream'.Carries origin id disk' (content ++ bytes) := by
  obtain ⟨received, holds, rfl⟩ := carries
  unfold RawStream.put
  split
  · rename_i full
    obtain ⟨file, disk', written, holds'⟩ := write_of_holds holds bytes
    refine ⟨{ stream with file }, disk', ?_, received ++ bytes, holds', ?_⟩
    · rw [written]
    · have still : ({ stream with file } : RawStream).pending = stream.pending := rfl
      rw [still, room full, List.append_nil, List.append_nil]
  · refine ⟨{ stream with gathered := stream.gathered.append bytes }, disk, rfl, received, holds, ?_⟩
    rw [RawStream.pending, ByteLog.toBytes_append, List.append_assoc]
    rfl

/-- Writing to a stream appends to what it has taken. -/
lemma Carries.write (carries : stream.Carries origin id disk content) (bytes : Bytes) :
    ∃ stream' disk', stream.write disk bytes = (.ok (), stream', disk') ∧
      stream'.Carries origin id disk' (content ++ bytes) := by
  unfold RawStream.write
  split
  · rename_i room
    refine carries.put ?_
    intro full
    -- a buffer of full length finds room only if nothing is gathered
    have empty : stream.pending.length = 0 := by
      rw [RawStream.pending, ByteLog.length_toBytes]
      omega
    exact List.length_eq_zero_iff.mp empty
  · obtain ⟨flushed, disk₁, run, carries₁, empty⟩ := carries.flush
    rw [run]
    exact carries₁.put fun _ => empty

/-- A flushed stream has everything in its file. -/
lemma Carries.flush_shows (carries : stream.Carries origin id disk content) :
    ∃ stream' disk', stream.flush disk = (.ok (), stream', disk') ∧ Disk.Shows origin id 0 content disk' := by
  obtain ⟨stream', disk', run, ⟨received, holds, rfl⟩, empty⟩ := carries.flush
  refine ⟨stream', disk', run, ?_⟩
  rw [empty, List.append_nil]
  exact holds.shown

end VideoCapture.RawStream
