import VideoCapture.Proofs.Disk.WellFormed
import VideoCapture.Proofs.Recording.Calls

/-!
# Recordings can be recovered

What a recording in progress is worth if nothing else ever happens to it. The disk and the write buffer
together hold the opening and the samples, the index tells where each sample is, and what has reached the
disk stays there until the recording is finalized (`recording_recoverable`). The index tells sizes in 32 bits,
so it cuts a sample that is larger, and another muxer that creates the same file takes away what the disk holds
(`vast_sample_cut_and_shared_file_lost`).
-/

namespace VideoCapture
open Recording FileContent

namespace Streaming

/-- What a recording in progress has written to its file. -/
def onDisk (s : Streaming) (id : Nat) (disk : Disk) : Bytes :=
  ((disk.content id).drop s.base).take (s.file.position - s.base)

/-- The bytes of a recording of `units`, as long as it is not finalized. -/
def openStream (units : List AccessUnit) : Bytes :=
  Movie.ftyp ++ Box.free moovRoom ++ Box.mdatHeader openSize ++ mediaData units

/-- What holds of a recording in progress that began at position `base` of the file `id`, when the disk was
as `origin` says, and to which `units` were added. -/
structure Recoverable (origin : Disk) (id base : Nat) (tuning : WriteTuning) (s : Streaming) (disk : Disk)
    (units : List AccessUnit) : Prop where
  base_eq : s.base = base
  file_eq : s.file = ⟨some id, base + (s.onDisk id disk).length⟩
  /-- The disk and the buffer together hold the opening and the samples. -/
  stream : s.onDisk id disk ++ s.buffer.pending = openStream units
  /-- Around what was written, the file is as it was. -/
  around : disk.content id = overwrite (origin.content id) base (s.onDisk id disk)
  /-- Everything else is as it was. -/
  elsewhere : Disk.SameBut id origin disk
  /-- The samples lie one behind the other. -/
  samples_eq : s.samples = Sample.indexFrom (s.mdatStart + Box.headerSize) units
  stop_eq : s.stop = s.mdatStart + Box.headerSize + (mediaData units).length
  /-- The index leads to each sample, and tells all of it exactly if 32 bits can tell its size. -/
  indexed : ∀ (i : Nat) (unit : AccessUnit), units[i]? = some unit → ∃ sample : Sample, s.samples[i]? = some sample ∧
    ((openStream units).drop (sample.offset - base)).take unit.sampleSize = unit.toSample ∧
    (((openStream units).drop (sample.offset - base)).take sample.size = unit.toSample ↔
      unit.sampleSize < 0x100000000) ∧
    sample.isKeyframe = unit.isKeyframe
  keyframes_eq : s.keyframes = units.countP AccessUnit.isKeyframe
  within : s.buffer.pending.length ≤ tuning.bufferLimit
  /-- The bytes of samples that were handed on are those on the disk. -/
  counted : opening.flatten.length + s.buffer.stats.written = (s.onDisk id disk).length
  /-- With periodic syncs, only the last few samples can be missing on the disk. -/
  synced : 0 < tuning.syncEvery → ∃ recent < tuning.syncEvery,
    openStream (units.take (units.length - recent)) <+: s.onDisk id disk

variable {origin : Disk} {id base : Nat} {tuning : WriteTuning} {track : Track} {s : Streaming} {disk : Disk}
  {received : Bytes} {units : List AccessUnit}

/-- A stream that is open is the opening of the file and the media data. -/
lemma openStream_eq (units : List AccessUnit) : openStream units = opening.flatten ++ mediaData units := by
  simp only [openStream, opening, List.flatten_cons, List.flatten_nil, List.append_nil, List.append_assoc]

/-- What the file has received behind the opening is what the recording has written. -/
lemma onDisk_of_received (base_eq : s.base = base) (reaches : Received origin id base ⟨s.file, disk⟩ received) :
    s.onDisk id disk = opening.flatten ++ received := by
  obtain ⟨handle, shown⟩ := reaches
  dsimp only at handle shown
  rw [onDisk, base_eq, handle, shown.content, Nat.add_sub_cancel_left, slice_overwrite]

/-- The file of a recording holds its opening and what it has received. -/
lemma Records.onDisk_eq (records : s.Records origin id base tuning track disk received units) :
    s.onDisk id disk = opening.flatten ++ received :=
  onDisk_of_received records.base_eq records.carries.reaches

/-- Every recording in progress can be recovered. -/
lemma Records.recoverable (records : s.Records origin id base tuning track disk received units) :
    s.Recoverable origin id base tuning disk units := by
  have onDisk := records.onDisk_eq
  obtain ⟨base_eq, -, carries, samples_eq, stop_eq, keyframes_eq, synced⟩ := records
  obtain ⟨handle, shown⟩ := carries.reaches
  have start_eq : s.mdatStart + Box.headerSize = mediaOffset base := by rw [mdatStart, base_eq, mediaOffset]
  refine
    { base_eq, keyframes_eq, file_eq := ?file_eq, stream := ?stream, around := ?around, elsewhere := shown.same,
      samples_eq := ?samples_eq, stop_eq := ?stop_eq, indexed := ?indexed, within := carries.within,
      counted := ?counted, synced := ?synced }
  case file_eq => rw [onDisk]; exact handle
  case stream => rw [onDisk, openStream_eq, List.append_assoc, carries.whole]
  case around => rw [onDisk]; exact shown.content
  case samples_eq => rw [start_eq, samples_eq]
  case stop_eq => rw [start_eq, stop_eq]
  case counted => rw [onDisk, carries.counted, List.length_append]
  case synced =>
    intro every_pos
    obtain ⟨below, reached⟩ := synced every_pos
    refine ⟨s.unsynced, below, ?_⟩
    rw [onDisk, openStream_eq]
    exact (List.prefix_append_right_inj _).mpr reached
  case indexed =>
    intro i unit there
    refine ⟨_, samples_eq ▸ Sample.getElem?_indexFrom there (mediaOffset base), ?_⟩
    have slice : ((openStream units).drop
        (mediaOffset base + (mediaData (units.take i)).length - base)).take unit.sampleSize =
          unit.toSample := by
      have reach : mediaOffset base + (mediaData (units.take i)).length - base =
          opening.flatten.length + (mediaData (units.take i)).length := by
        rw [mediaOffset_eq]
        omega
      rw [reach, openStream_eq, ← List.drop_drop, List.drop_left, slice_mediaData there]
    refine ⟨slice, ?_, rfl⟩
    dsimp only
    constructor
    · intro same
      have length := congrArg List.length same
      rw [List.length_take, AccessUnit.length_toSample] at length
      omega
    · intro narrow
      rw [Nat.mod_eq_of_lt narrow]
      exact slice

/-- The index has too small a size for a sample whose size takes more than 32 bits. -/
lemma Recoverable.cut (recoverable : s.Recoverable origin id base tuning disk units) {i : Nat} {unit : AccessUnit}
    (there : units[i]? = some unit) (vast : 0x100000000 ≤ unit.sampleSize) :
    ∃ sample, s.samples[i]? = some sample ∧
      ((s.onDisk id disk ++ s.buffer.pending).drop (sample.offset - base)).take sample.size ≠ unit.toSample := by
  obtain ⟨sample, indexed, -, exact_iff, -⟩ := recoverable.indexed i unit there
  refine ⟨sample, indexed, ?_⟩
  rw [recoverable.stream]
  exact fun whole => Nat.not_lt.mpr vast (exact_iff.mp whole)

/-- Without room in the buffer, everything is on the disk. -/
lemma Recoverable.unbuffered (recoverable : s.Recoverable origin id base tuning disk units)
    (no_room : tuning.bufferLimit = 0) : s.onDisk id disk = openStream units := by
  have nothing : s.buffer.pending = [] :=
    List.eq_nil_of_length_eq_zero (Nat.le_zero.mp (no_room ▸ recoverable.within))
  rw [← recoverable.stream, nothing, List.append_nil]

/-- When another muxer creates the same file, only its opening is left of what was on the disk. -/
lemma Records.lost {before : Disk} {path : String} {directory : Place} {name : String} {other : Track}
    (records : s.Records origin id 0 tuning track disk received units)
    (created : Disk.Created before path directory name id origin) (valid : other.validate = .ok ()) (now : Nat)
    (tuning' : WriteTuning) :
    ∃ muxer emptied, Muxer.create disk now path tuning' other = (.ok muxer, emptied) ∧
      s.onDisk id emptied = openStream [] := by
  obtain ⟨handle, shown⟩ := records.carries.reaches
  dsimp only at handle shown
  have present : id < disk.ticked.contents.length := shown.present
  have present' : id < (disk.ticked.setStored id .empty).contents.length :=
    (Disk.sameBut_setStored disk.ticked id .empty).count ▸ present
  have sound : (disk.ticked.setStored id .empty).IsSound := shown.sound.ticked
  obtain ⟨muxer, emptied, creation, ⟨s', -, records'⟩, -⟩ :=
    Muxer.create_records (created.create_again shown) sound present' valid now tuning'
  refine ⟨muxer, emptied, creation, ?_⟩
  have content : emptied.content id = opening.flatten := by
    rw [records'.carries.reaches.shown.content, Disk.content_setStored_self present, toBytes_empty, List.append_nil,
      overwrite_nil_zero]
  have reach : opening.flatten.length ≤ s.file.position - 0 := by
    rw [handle, List.length_append, Nat.sub_zero, Nat.zero_add]
    exact Nat.le_add_right _ _
  rw [onDisk, content, records.base_eq, openStream_eq, mediaData_nil, List.append_nil, List.drop_zero,
    List.take_of_length_le reach]

end Streaming

/-- The index of a recording without samples gets an entry of size 0 for a sample of 4 GiB. -/
lemma Muxer.Records.vast {origin disk : Disk} {id : Nat} {track : Track} {muxer : Muxer} {received : Bytes}
    (records : muxer.Records origin id 0 track disk received []) (now : Nat) {nal : Bytes}
    (length : nal.length = 0xFFFFFFFC) :
    ∃ filming disk' s sample,
      muxer.run disk [(now, .accessUnit ⟨[nal], true⟩)] = ([.ok ()], filming, disk') ∧
      filming.phase = .streaming s ∧ s.samples = [sample] ∧ sample.size = 0 ∧
      ((s.onDisk id disk' ++ s.buffer.pending).drop sample.offset).take sample.size ≠
        AccessUnit.toSample ⟨[nal], true⟩ := by
  obtain ⟨byte, rest, rfl⟩ := List.exists_cons_of_length_pos (l := nal) (by omega)
  obtain ⟨filming, disk', received', run, ⟨s, phase, recording⟩, -⟩ :=
    records.run [(now, .accessUnit ⟨[byte :: rest], true⟩)]
  have brought : accepted [(now, .accessUnit ⟨[byte :: rest], true⟩)] = [⟨[byte :: rest], true⟩] := rfl
  rw [brought, List.nil_append] at recording
  have size : AccessUnit.sampleSize ⟨[byte :: rest], true⟩ = 0x100000000 := by
    rw [AccessUnit.sampleSize, List.foldr_cons, List.foldr_nil, length]
  have samples : s.samples = [⟨mediaOffset 0, 0, true⟩] := by
    rw [recording.samples_eq, Sample.indexFrom, Sample.indexFrom, size, Nat.mod_self]
  obtain ⟨sample, indexed, different⟩ := recording.recoverable.cut (i := 0) rfl (Nat.le_of_eq size.symm)
  rw [samples] at indexed
  cases indexed
  exact ⟨filming, disk', s, _, run, phase, samples, rfl, different⟩

/-- A muxer is started on a sound disk and called any number of times. At every moment on the way its
recording can be recovered, and what has reached the disk by then stays there until the end. -/
theorem recording_recoverable {muxer started : Muxer} {origin disk : Disk} {now id base : Nat} {track : Track}
    (sound : origin.IsSound) (present : id < origin.contents.length)
    (start : muxer.start origin now ⟨some id, base⟩ track = (.ok (), started, disk))
    (earlier later : List (Nat × SampleCall)) :
    ∃ m₁ m₂ s₁ s₂ disk₁ disk₂,
      started.run disk earlier = (earlier.map fun call => call.2.answer, m₁, disk₁) ∧
      started.run disk (earlier ++ later) =
        ((earlier ++ later).map fun call => call.2.answer, m₂, disk₂) ∧
      m₁.phase = .streaming s₁ ∧ m₂.phase = .streaming s₂ ∧
      s₁.Recoverable origin id base muxer.tuning disk₁ (accepted earlier) ∧
      s₂.Recoverable origin id base muxer.tuning disk₂ (accepted (earlier ++ later)) ∧
      s₁.onDisk id disk₁ <+: s₂.onDisk id disk₂ ∧
      (disk₂.content id).take s₁.file.position = (disk₁.content id).take s₁.file.position := by
  obtain ⟨records, tuning, -⟩ := Muxer.start_records sound present start
  obtain ⟨m₁, disk₁, received₁, run₁, records₁, tuning₁, -⟩ := records.run earlier
  obtain ⟨m₂, disk₂, received₂, run₂, records₂, tuning₂, grown⟩ := records₁.run later
  rw [List.nil_append] at records₁ records₂
  rw [← accepted_append] at records₂
  obtain ⟨s₁, phase₁, recording₁⟩ := records₁
  obtain ⟨s₂, phase₂, recording₂⟩ := records₂
  rw [tuning₂] at recording₂
  rw [tuning₁, tuning] at recording₁ recording₂
  have prefix_ : s₁.onDisk id disk₁ <+: s₂.onDisk id disk₂ := by
    rw [recording₁.onDisk_eq, recording₂.onDisk_eq]
    exact (List.prefix_append_right_inj _).mpr grown
  have recoverable₁ := recording₁.recoverable
  have recoverable₂ := recording₂.recoverable
  refine ⟨m₁, m₂, s₁, s₂, disk₁, disk₂, run₁, ?_, phase₁, phase₂, recoverable₁, recoverable₂, prefix_, ?_⟩
  · rw [Muxer.run_append, run₁]
    dsimp only
    rw [run₂, List.map_append]
  · rw [recoverable₁.around, recoverable₂.around, recoverable₁.file_eq]
    rw [take_overwrite _ _ prefix_, take_overwrite _ _ (List.prefix_refl _)]

/-- A recording of two samples into a new file. -/
theorem recording_recoverable_two_samples :
    let track : Track := ⟨.h264, .ofH264 [0x67, 0x42, 0x00, 0x1E] [0x68, 0x01], 16, 16, 30⟩
    let origin : Disk := { contents := [.empty] }
    let start := ({ tuning := {} } : Muxer).start origin 0 ⟨some 0, 0⟩ track
    let calls := [(1, .frame [0x65] true), (2, .frame [] false), (3, .accessUnit ⟨[[], [0x41]], false⟩)]
    start.1 = .ok () ∧
      ∃ s disk answers muxer, start.2.1.run start.2.2 calls = (answers, muxer, disk) ∧
        muxer.phase = .streaming s ∧
        s.Recoverable origin 0 0 {} disk [⟨[[0x65]], true⟩, ⟨[[0x41]], false⟩] := by
  intro track origin start calls
  have sound : origin.IsSound := fun _ _ => rfl
  obtain ⟨m₁, m₂, s₁, s₂, disk₁, disk₂, run₁, -, phase₁, -, recoverable₁, -⟩ :=
    recording_recoverable sound (by decide) (rfl : start = (.ok (), start.2.1, start.2.2)) calls []
  exact ⟨rfl, s₁, disk₁, _, m₁, run₁, phase₁, recoverable₁⟩

/-- Two things that no recording can be kept from. The index cuts a sample of 4 GiB to nothing, and when another muxer
creates the same file, a sample that was on the disk is gone. -/
theorem vast_sample_cut_and_shared_file_lost :
    let track : Track := ⟨.h264, .ofH264 [0x67, 0x42, 0x00, 0x1E] [0x68], 16, 16, 30⟩
    let tuning : WriteTuning := { bufferLimit := 0 }
    let vast : AccessUnit := ⟨[List.replicate 0xFFFFFFFC 0], true⟩
    let slice : AccessUnit := ⟨[[0x65]], true⟩
    ∃ muxer created, Muxer.create {} 0 "a.mp4" tuning track = (.ok muxer, created) ∧
      (∃ filming disk s sample, muxer.run created [(1, .accessUnit vast)] = ([.ok ()], filming, disk) ∧
        filming.phase = .streaming s ∧ s.samples = [sample] ∧ sample.size = 0 ∧
        ((s.onDisk 0 disk ++ s.buffer.pending).drop sample.offset).take sample.size ≠ vast.toSample) ∧
      ∃ filming disk s other shared, muxer.run created [(1, .accessUnit slice)] = ([.ok ()], filming, disk) ∧
        filming.phase = .streaming s ∧ s.onDisk 0 disk = Streaming.openStream [slice] ∧
        Muxer.create disk 2 "a.mp4" tuning track = (.ok other, shared) ∧
        s.onDisk 0 shared = Streaming.openStream [] := by
  intro track tuning vast slice
  have sound : ({} : Disk).IsSound := fun _ _ => rfl
  have valid : track.validate = .ok () := rfl
  obtain ⟨origin, creation⟩ : ∃ origin, ({} : Disk).create "a.mp4" = (.ok ⟨some 0, 0⟩, origin) := ⟨_, rfl⟩
  obtain ⟨directory, name, made⟩ := Disk.created_of_sound sound (Disk.isWellFormed_empty _) creation
  obtain ⟨muxer, created, start, records, tuning_eq⟩ :=
    Muxer.create_records creation made.sound made.present valid 0 tuning
  refine ⟨muxer, created, start, ?vast, ?shared⟩
  case vast => exact records.vast 1 List.length_replicate
  case shared =>
    obtain ⟨filming, disk, received, run, ⟨s, phase, recording⟩, tuning_eq', -⟩ := records.run [(1, .accessUnit slice)]
    obtain ⟨other, shared, again, lost⟩ := recording.lost made valid 2 tuning
    have on_disk := recording.recoverable.unbuffered (by rw [tuning_eq', tuning_eq])
    exact ⟨filming, disk, s, other, shared, run, phase, on_disk, again, lost⟩

end VideoCapture
