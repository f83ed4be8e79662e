import VideoCapture.Proofs.Disk.Overwrite
import VideoCapture.Proofs.Recording.WriteBuffer

/-!
# Sound disks

A disk on which no operation fails any more, and what writing to one file of it comes to. The file as it
was (`origin`) gets one region of bytes laid over it (`Disk.Shows`), everything else on the disk stays as
it was (`Disk.SameBut`), and an open file stands at the end of the region (`DiskFile.Holds`). Every write
succeeds and is described by what it does to the region.
-/

namespace VideoCapture
open FileContent

namespace Disk

/-- No operation fails from now on. -/
def IsSound (disk : Disk) : Prop :=
  ∀ n, disk.operations ≤ n → disk.faults n = none

/-- Nothing differs but the content of one file. -/
structure SameBut (id : Nat) (before after : Disk) : Prop where
  entries : after.entries = before.entries
  count : after.contents.length = before.contents.length
  others : ∀ other, other ≠ id → after.content other = before.content other

/-- A disk differs from itself in nothing. -/
lemma SameBut.refl (id : Nat) (disk : Disk) : SameBut id disk disk :=
  ⟨rfl, rfl, fun _ _ => rfl⟩

/-- Disks that differ in one file only, one after the other, differ in that file only. -/
lemma SameBut.trans {id : Nat} {first second third : Disk} (one : SameBut id first second)
    (two : SameBut id second third) : SameBut id first third where
  entries := two.entries.trans one.entries
  count := two.count.trans one.count
  others other different := (two.others other different).trans (one.others other different)

/-- A name leads to the same as before. -/
lemma SameBut.lookup? {id : Nat} {before after : Disk} (same : SameBut id before after)
    (place : Place) : after.lookup? place = before.lookup? place := by
  simp only [Disk.lookup?, same.entries]

/-- The disk after one operation. -/
def ticked (disk : Disk) : Disk :=
  { disk with operations := disk.operations + 1 }

/-- A sound disk stays sound when an operation is counted. -/
lemma IsSound.ticked {disk : Disk} (sound : disk.IsSound) : disk.ticked.IsSound := by
  intro n later
  apply sound n
  simp only [Disk.ticked] at later
  omega

/-- No fault befalls an operation on a sound disk. -/
lemma tick_of_sound {disk : Disk} (sound : disk.IsSound) : disk.tick = (none, disk.ticked) := by
  simp only [tick, ticked, sound disk.operations (Nat.le_refl _)]

/-- On a sound disk a sync succeeds. -/
lemma sync_of_sound {disk : Disk} (sound : disk.IsSound) : disk.sync = (.ok (), disk.ticked) := by
  simp only [sync, tick_of_sound sound]

/-- A file that is there has the bytes of the content that it was given. -/
lemma content_setStored_self {disk : Disk} {id : Nat} (present : id < disk.contents.length)
    (stored : FileContent) : (disk.setStored id stored).content id = stored.toBytes := by
  simp only [content, stored_setStored_self disk present]

/-- Giving a file another content changes nothing else. -/
lemma sameBut_setStored (disk : Disk) (id : Nat) (stored : FileContent) :
    SameBut id disk (disk.setStored id stored) where
  entries := rfl
  count := List.length_set
  others other different := by simp only [content, stored_setStored_of_ne disk different]

/-- One file of a disk is as it was at first, with a region laid over it. Nothing else differs. -/
structure Shows (origin : Disk) (id base : Nat) (region : Bytes) (disk : Disk) : Prop where
  present : id < disk.contents.length
  content : disk.content id = overwrite (origin.content id) base region
  sound : disk.IsSound
  same : SameBut id origin disk

/-- What a disk shows, it shows after one more operation. -/
lemma Shows.ticked {origin disk : Disk} {id base : Nat} {region : Bytes}
    (shown : Shows origin id base region disk) : Shows origin id base region disk.ticked where
  present := shown.present
  content := shown.content
  sound := shown.sound.ticked
  same := ⟨shown.same.entries, shown.same.count, shown.same.others⟩

/-- A write of some bytes to a sound disk, by what it does to the file. -/
lemma write_of_sound {disk : Disk} {id position : Nat} {bytes : Bytes} (sound : disk.IsSound)
    (present : id < disk.contents.length) (some_bytes : bytes ≠ []) :
    ∃ after, disk.write ⟨some id, position⟩ bytes = (.ok (), ⟨some id, position + bytes.length⟩, after) ∧
      id < after.contents.length ∧ after.IsSound ∧ SameBut id disk after ∧
      after.content id = overwrite (disk.content id) position bytes := by
  have nonempty : bytes.isEmpty = false := by simpa using some_bytes
  let after := disk.ticked.setStored id ((disk.ticked.stored id).write position bytes)
  have same : SameBut id disk.ticked after := sameBut_setStored _ _ _
  refine ⟨after, ?_, ?_, sound.ticked, ⟨same.entries, same.count, same.others⟩, ?_⟩
  · simp [write, nonempty, tick_of_sound sound, after]
  · rw [same.count]
    exact present
  · rw [@content_setStored_self disk.ticked id present, toBytes_write]
    rfl

/-- The first write to a file lays its bytes over what was there. -/
lemma Shows.of_write {origin : Disk} {id base : Nat} {bytes : Bytes} (sound : origin.IsSound)
    (present : id < origin.contents.length) (some_bytes : bytes ≠ []) :
    ∃ after, origin.write ⟨some id, base⟩ bytes = (.ok (), ⟨some id, base + bytes.length⟩, after) ∧
      Shows origin id base bytes after := by
  obtain ⟨after, written, still, sound', same, content⟩ := write_of_sound sound present some_bytes
  exact ⟨after, written, still, content, sound', same⟩

/-- A write that begins inside the region, or right behind it, acts on the region. -/
lemma Shows.write {origin disk : Disk} {id base at_ : Nat} {region : Bytes}
    (shown : Shows origin id base region disk) (bytes : Bytes) (inside : at_ ≤ region.length) :
    ∃ after, disk.write ⟨some id, base + at_⟩ bytes =
        (.ok (), ⟨some id, base + at_ + bytes.length⟩, after) ∧
      Shows origin id base (overwrite region at_ bytes) after := by
  by_cases nothing : bytes = []
  · subst nothing
    refine ⟨disk, rfl, ?_⟩
    have kept : overwrite region at_ [] = region := by
      have no_gap : at_ - region.length = 0 := by omega
      simp [overwrite, Bytes.zeros, no_gap]
    rw [kept]
    exact shown
  · obtain ⟨after, written, still, sound, same, content⟩ :=
      write_of_sound shown.sound shown.present nothing
    refine ⟨after, written, still, ?_, sound, shown.same.trans same⟩
    rw [content, shown.content, overwrite_overwrite _ _ _ inside]

end Disk

namespace DiskFile

/-- An open file that stands at the end of a region laid over its content. -/
structure Holds (origin : Disk) (id base : Nat) (out : DiskFile) (region : Bytes) : Prop where
  handle : out.handle = ⟨some id, base + region.length⟩
  shown : Disk.Shows origin id base region out.disk

/-- Writing to an open file appends to its region. -/
lemma Holds.write {origin : Disk} {id base : Nat} {out : DiskFile} {region : Bytes}
    (holds : Holds origin id base out region) (bytes : Bytes) :
    ∃ after, Writer.write out bytes = (.ok (), after) ∧ Holds origin id base after (region ++ bytes) := by
  obtain ⟨handle, disk⟩ := out
  obtain ⟨rfl, shown⟩ := holds
  obtain ⟨after, written, shown'⟩ := shown.write bytes (Nat.le_refl region.length)
  rw [overwrite_at_end] at shown'
  refine ⟨⟨⟨some id, base + region.length + bytes.length⟩, after⟩, ?_, ?_, shown'⟩
  · exact congrArg (fun out => (out.1, (⟨out.2.1, out.2.2⟩ : DiskFile))) written
  · simp only [List.length_append, Nat.add_assoc]

/-- What an open file holds, it holds after one more operation on its disk. -/
lemma Holds.ticked {origin : Disk} {id base : Nat} {handle : FileHandle} {disk : Disk} {region : Bytes}
    (holds : Holds origin id base ⟨handle, disk⟩ region) : Holds origin id base ⟨handle, disk.ticked⟩ region :=
  ⟨holds.handle, holds.shown.ticked⟩

/-- What was written through a file behind `opening`, as a relation that a write buffer can rely on. -/
lemma reliable (origin : Disk) (id base : Nat) (opening : Bytes) :
    Writer.Reliable fun out received => Holds origin id base out (opening ++ received) where
  written := by
    intro out after received bytes holds success
    obtain ⟨after', written, holds'⟩ := holds.write bytes
    cases success.symm.trans written
    rw [List.append_assoc] at holds'
    exact holds'
  refused := by
    intro out after received bytes error holds refusal
    obtain ⟨after', written, -⟩ := holds.write bytes
    cases refusal.symm.trans written
  flushed holds := holds
  succeeds := by
    intro out received bytes holds
    obtain ⟨after', written, -⟩ := holds.write bytes
    rw [written]
  flushes _ := rfl

end DiskFile

end VideoCapture
