import VideoCapture.Proofs.Disk.Sound
import VideoCapture.Recording.Muxer

/-!
# Recordings in progress

The invariant of a recording that is being written to a sound disk (`Streaming.Records`): the file begins
with the opening, behind it the disk and the write buffer together carry the media data of the access units
recorded so far, and the index, the counters and the sync counter describe these units. Adding a sample
keeps it whatever way the bytes take, be it the buffer, a forced, scheduled or periodic flush, or straight
to the file.
-/

namespace VideoCapture

/-- The samples of access units that lie one behind the other from a position on. -/
def Sample.indexFrom (position : Nat) : List AccessUnit → List Sample
  | [] => []
  | unit :: rest =>
    ⟨position, unit.sampleSize % 0x100000000, unit.isKeyframe⟩ :: indexFrom (position + unit.sampleSize) rest

/-- Access units as media data, one sample behind the other. -/
def mediaData (units : List AccessUnit) : Bytes :=
  units.flatMap AccessUnit.toSample

/-- What becomes of NAL units that are added as one sample: the non-empty ones are an access unit, and
without any there is no sample. -/
def AccessUnit.ofNals? (nals : List Bytes) (isKeyframe : Bool) : Option AccessUnit :=
  let units := nals.filter fun nal => !nal.isEmpty
  if units.isEmpty then none else some ⟨units, isKeyframe⟩

/-- All NAL units are kept if none is empty. -/
lemma AccessUnit.filter_of_no_empty {nals : List Bytes} (no_empty : [] ∉ nals) :
    (nals.filter fun nal => !nal.isEmpty) = nals := by
  refine List.filter_eq_self.mpr ?_
  intro nal inside
  cases nal with
  | nil => exact absurd inside no_empty
  | cons => rfl

/-- No access units have no media data. -/
@[simp] lemma mediaData_nil : mediaData [] = [] := rfl

/-- The media data of the first unit stand in front of those of the others. -/
@[simp] lemma mediaData_cons (unit : AccessUnit) (units : List AccessUnit) :
    mediaData (unit :: units) = unit.toSample ++ mediaData units := rfl

/-- The media data of one list stand in front of those of the next. -/
@[simp] lemma mediaData_append (one two : List AccessUnit) :
    mediaData (one ++ two) = mediaData one ++ mediaData two :=
  List.flatMap_append

/-- The index of the second list goes on behind the media data of the first. -/
lemma Sample.indexFrom_append (position : Nat) (one two : List AccessUnit) :
    indexFrom position (one ++ two) =
      indexFrom position one ++ indexFrom (position + (mediaData one).length) two := by
  induction one generalizing position with
  | nil => rfl
  | cons unit rest ih =>
    simp only [List.cons_append, indexFrom, ih, mediaData_cons, List.length_append,
      AccessUnit.length_toSample, Nat.add_assoc]

/-- The index has an entry for each unit. -/
@[simp] lemma Sample.length_indexFrom (position : Nat) (units : List AccessUnit) :
    (indexFrom position units).length = units.length := by
  induction units generalizing position with
  | nil => rfl
  | cons unit rest ih => simp [indexFrom, ih]

/-- The entry of an access unit in the index. -/
lemma Sample.getElem?_indexFrom {units : List AccessUnit} {i : Nat} {unit : AccessUnit}
    (there : units[i]? = some unit) (position : Nat) :
    (indexFrom position units)[i]? =
      some ⟨position + (mediaData (units.take i)).length, unit.sampleSize % 0x100000000, unit.isKeyframe⟩ := by
  induction units generalizing i position with
  | nil => cases there
  | cons first rest ih =>
    cases i with
    | zero =>
      cases there
      rfl
    | succ i =>
      have next := ih there (position + first.sampleSize)
      simpa [indexFrom, AccessUnit.length_toSample, Nat.add_assoc] using next

/-- An access unit can be cut out of the media data. -/
lemma slice_mediaData {units : List AccessUnit} {i : Nat} {unit : AccessUnit}
    (there : units[i]? = some unit) :
    ((mediaData units).drop (mediaData (units.take i)).length).take unit.sampleSize = unit.toSample := by
  induction units generalizing i with
  | nil => cases there
  | cons first rest ih =>
    cases i with
    | zero =>
      cases there
      exact List.take_left' (AccessUnit.length_toSample unit)
    | succ i =>
      rw [List.take_succ_cons, mediaData_cons, mediaData_cons, List.length_append, ← List.drop_drop,
        List.drop_left]
      exact ih there

/-- NAL units that are appended piece by piece make up the access unit as a sample. -/
lemma flatten_pieces (nals : List Bytes) :
    (nals.flatMap fun nal => [Bytes.be32 nal.length, nal]).flatten = lengthPrefixed nals := by
  induction nals with
  | nil => rfl
  | cons nal rest ih =>
    simp only [List.flatMap_cons, List.flatten_append, ih, lengthPrefixed, List.flatten_cons,
      List.flatten_nil, List.append_nil]

namespace Recording

/-- The position of the first sample in a recording that starts at `base`. -/
def mediaOffset (base : Nat) : Nat :=
  mdatOffset base + Box.headerSize

/-- What the file behind the opening of a recording has received. -/
def Received (origin : Disk) (id base : Nat) (out : DiskFile) (received : Bytes) : Prop :=
  DiskFile.Holds origin id base out (opening.flatten ++ received)

/-- The opening of a file has the file type, the reserved room and the header of the media data. -/
lemma length_opening : opening.flatten.length = Movie.ftyp.length + moovRoom + Box.headerSize := by
  have room : (Box.free moovRoom).length = moovRoom := Box.length_free (by decide)
  simp only [opening, List.flatten_cons, List.flatten_nil, List.append_nil, List.length_append, room,
    Box.length_mdatHeader, Nat.add_assoc]

/-- The media data begin behind the opening. -/
lemma mediaOffset_eq (base : Nat) : mediaOffset base = base + opening.flatten.length := by
  rw [length_opening, mediaOffset, mdatOffset, moovOffset]
  omega

/-- The time that passes on a disk changes nothing that was received. -/
lemma Received.ticked {origin : Disk} {id base : Nat} {handle : FileHandle} {disk : Disk}
    {received : Bytes} (reaches : Received origin id base ⟨handle, disk⟩ received) :
    Received origin id base ⟨handle, disk.ticked⟩ received :=
  DiskFile.Holds.ticked reaches

/-- A disk without faults is a reliable writer. -/
lemma reliable (origin : Disk) (id base : Nat) : Writer.Reliable (Received origin id base) :=
  DiskFile.reliable origin id base opening.flatten

end Recording

namespace Streaming
open Recording

variable {origin : Disk} {id base : Nat}

/-- A recording of `track` that starts at `base` of the file `id` holds the access units `units`, and
`received` of their media data have reached the disk. -/
structure Records (origin : Disk) (id base : Nat) (tuning : WriteTuning) (track : Track) (s : Streaming)
    (disk : Disk) (received : Bytes) (units : List AccessUnit) : Prop where
  base_eq : s.base = base
  track_eq : s.track = track
  carries : s.buffer.Carries (Received origin id base) tuning.bufferLimit ⟨s.file, disk⟩ received
    (mediaData units)
  samples_eq : s.samples = Sample.indexFrom (mediaOffset base) units
  stop_eq : s.stop = mediaOffset base + (mediaData units).length
  keyframes_eq : s.keyframes = units.countP AccessUnit.isKeyframe
  synced : 0 < tuning.syncEvery → s.unsynced < tuning.syncEvery ∧
    mediaData (units.take (units.length - s.unsynced)) <+: received

/-- The flush behind a keyframe changes the buffer and the file only, and succeeds. -/
lemma flushAtKeyframe_succeeds {s : Streaming} {disk : Disk} {limit : Nat} {received stream : Bytes}
    (carries : s.buffer.Carries (Received origin id base) limit ⟨s.file, disk⟩ received stream)
    (now : Nat) (isKeyframe : Bool) :
    ∃ buffer file disk' received', s.flushAtKeyframe disk now isKeyframe =
        (.ok (), { s with buffer, file }, disk') ∧
      buffer.Carries (Received origin id base) limit ⟨file, disk'⟩ received' stream ∧
      received <+: received' := by
  unfold flushAtKeyframe
  split
  · obtain ⟨due, buffer, out, received', run, carries', grown⟩ :=
      carries.flushIfDue_succeeds (reliable origin id base) now
    refine ⟨buffer, out.handle, out.disk, received', ?_, carries', grown⟩
    simp only [buffered, run]
  · exact ⟨s.buffer, s.file, disk, received, rfl, carries, List.prefix_refl _⟩

/-- Counting a sample changes the buffer, the file and the sync counter only, and succeeds. Either the
counter goes up and stays below its limit, or everything has reached the disk. -/
lemma syncPeriodically_succeeds {s : Streaming} {disk : Disk} {limit : Nat} {received stream : Bytes}
    (carries : s.buffer.Carries (Received origin id base) limit ⟨s.file, disk⟩ received stream)
    (now every : Nat) :
    ∃ buffer file unsynced disk' received', s.syncPeriodically disk now every =
        (.ok (), { s with buffer, file, unsynced }, disk') ∧
      buffer.Carries (Received origin id base) limit ⟨file, disk'⟩ received' stream ∧
      received <+: received' ∧
      (unsynced = s.unsynced + 1 ∧ (0 < every → unsynced < every) ∨ unsynced = 0 ∧ received' = stream) := by
  unfold syncPeriodically
  dsimp only
  split
  · obtain ⟨buffer, out, run, carries', grown⟩ := carries.flush_succeeds (reliable origin id base) now
    have sound : out.disk.IsSound := carries'.reaches.shown.sound
    refine ⟨buffer, out.handle, 0, out.disk.ticked, stream, ?_, ?_, grown, .inr ⟨rfl, rfl⟩⟩
    · simp only [buffered, run, Disk.sync_of_sound sound]
    · exact ⟨carries'.reaches.ticked, carries'.whole, carries'.limit_eq, carries'.within, carries'.counted⟩
  · rename_i below
    refine ⟨s.buffer, s.file, s.unsynced + 1, disk, received, rfl, carries, List.prefix_refl _,
      .inl ⟨rfl, ?_⟩⟩
    intro every_pos
    have short := not_and.mp below every_pos
    omega

/-- Adding a sample succeeds and records its access unit. -/
lemma Records.add {tuning : WriteTuning} {track : Track} {s : Streaming} {disk : Disk} {received : Bytes}
    {units : List AccessUnit} (records : Records origin id base tuning track s disk received units)
    (now : Nat) {nals : List Bytes} {isKeyframe : Bool} {unit : AccessUnit}
    (accepted : AccessUnit.ofNals? nals isKeyframe = some unit) :
    ∃ s' disk' received', s.add disk now tuning.syncEvery nals isKeyframe = (.ok (), s', disk') ∧
      Records origin id base tuning track s' disk' received' (units ++ [unit]) ∧
      received <+: received' := by
  obtain ⟨base_eq, track_eq, carries, samples_eq, stop_eq, keyframes_eq, synced⟩ := records
  unfold AccessUnit.ofNals? at accepted
  dsimp only at accepted
  split at accepted
  · cases accepted
  rename_i some_nal
  cases accepted
  generalize filtered : nals.filter (fun nal => !nal.isEmpty) = kept at some_nal
  -- the three stages of an append, each of which leaves the stream whole
  obtain ⟨buffer₁, out₁, received₁, run₁, carries₁, grown₁⟩ :=
    carries.appendAll_succeeds (reliable origin id base) now
      (kept.flatMap fun nal => [Bytes.be32 nal.length, nal])
  rw [flatten_pieces] at carries₁
  generalize indexed : { s with buffer := buffer₁, file := out₁.handle }.index
    (lengthPrefixed kept).length isKeyframe = s₁
  have carries₁' : s₁.buffer.Carries (Received origin id base) tuning.bufferLimit ⟨s₁.file, out₁.disk⟩
      received₁ (mediaData units ++ lengthPrefixed kept) := by
    rw [← indexed]
    exact carries₁
  obtain ⟨buffer₂, file₂, disk₂, received₂, run₂, carries₂, grown₂⟩ :=
    flushAtKeyframe_succeeds carries₁' now isKeyframe
  obtain ⟨buffer₃, file₃, unsynced, disk₃, received₃, run₃, carries₃, grown₃, sync⟩ :=
    @syncPeriodically_succeeds origin id base { s₁ with buffer := buffer₂, file := file₂ } disk₂ _ _ _
      carries₂ now tuning.syncEvery
  have grown := (grown₁.trans grown₂).trans grown₃
  have size : (⟨kept, isKeyframe⟩ : AccessUnit).sampleSize = (lengthPrefixed kept).length :=
    (AccessUnit.length_toSample ⟨kept, isKeyframe⟩).symm
  have media : mediaData (units ++ [⟨kept, isKeyframe⟩]) = mediaData units ++ lengthPrefixed kept := by
    simp only [mediaData_append, mediaData_cons, mediaData_nil, List.append_nil, AccessUnit.toSample]
  refine ⟨{ s₁ with buffer := buffer₃, file := file₃, unsynced }, disk₃, received₃, ?_, ?_, grown⟩
  · simp only [Streaming.add, filtered]
    rw [if_neg some_nal]
    simp only [buffered, run₁, indexed, run₂, run₃]
  subst indexed
  refine ⟨base_eq, track_eq, media ▸ carries₃, ?_, ?_, ?_, ?_⟩
  · refine Eq.trans (samples_index _ _ _) ?_
    change s.samples ++ _ = _
    rw [samples_eq, Sample.indexFrom_append, stop_eq, Sample.indexFrom, Sample.indexFrom, size]
  · rw [media, List.length_append, ← Nat.add_assoc, ← stop_eq]
    rfl
  · rw [List.countP_append, ← keyframes_eq]
    cases isKeyframe <;> rfl
  · intro every_pos
    obtain ⟨below, reached⟩ := synced every_pos
    rcases sync with ⟨rfl, bound⟩ | ⟨rfl, all⟩
    · refine ⟨bound every_pos, ?_⟩
      have as_many : (units ++ [(⟨kept, isKeyframe⟩ : AccessUnit)]).length - (s.unsynced + 1) =
          units.length - s.unsynced := by
        simp
      have same : (units ++ [(⟨kept, isKeyframe⟩ : AccessUnit)]).take
          ((units ++ [(⟨kept, isKeyframe⟩ : AccessUnit)]).length - (s.unsynced + 1)) =
            units.take (units.length - s.unsynced) := by
        rw [as_many, List.take_append_of_le_length (Nat.sub_le _ _)]
      rw [← same] at reached
      exact reached.trans grown
    · refine ⟨every_pos, ?_⟩
      have everything : mediaData ((units ++ [(⟨kept, isKeyframe⟩ : AccessUnit)]).take
          ((units ++ [(⟨kept, isKeyframe⟩ : AccessUnit)]).length - 0)) = received₃ := by
        rw [Nat.sub_zero, List.take_length, media, all]
      exact everything ▸ List.prefix_refl _

/-- Without a single non-empty NAL unit nothing is recorded. -/
lemma add_rejected {s : Streaming} {nals : List Bytes} {isKeyframe : Bool}
    (rejected : AccessUnit.ofNals? nals isKeyframe = none) (disk : Disk) (now every : Nat) :
    s.add disk now every nals isKeyframe = (.error .emptyFrame, s, disk) := by
  unfold AccessUnit.ofNals? at rejected
  dsimp only at rejected
  split at rejected
  · rename_i no_nal
    simp only [add]
    rw [if_pos no_nal]
  · cases rejected

end Streaming

end VideoCapture
