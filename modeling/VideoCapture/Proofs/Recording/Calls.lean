import VideoCapture.Proofs.Recording.Streaming

/-!
# Runs of a muxer

A muxer that was started on a sound disk and then called any number of times. Every call is accepted or
refused on its own merits, and the recording stays what `Streaming.Records` says it is (`run_records`).
From this follows what a recording is worth if nothing else ever happens to it
(`recording_recoverable`): what is on the disk and in memory together is the opening and the samples, and
what has reached the disk stays there.
-/

namespace VideoCapture

/-- A call that adds a sample to a muxer. -/
inductive SampleCall where
  | frame (nal : Bytes) (isKeyframe : Bool)
  | accessUnit (unit : AccessUnit)
  deriving DecidableEq, Repr

namespace SampleCall

/-- What the call adds: its non-empty NAL units, if there are any. -/
def unit? : SampleCall → Option AccessUnit
  | frame nal isKeyframe => AccessUnit.ofNals? [nal] isKeyframe
  | accessUnit unit => AccessUnit.ofNals? unit.nals unit.isKeyframe

/-- What the call answers when no file operation fails. -/
def answer (call : SampleCall) : Except CaptureError Unit :=
  if call.unit?.isSome then .ok () else .error .emptyFrame

/-- Makes the call. -/
def apply (call : SampleCall) (muxer : Muxer) (disk : Disk) (now : Nat) :
    Except CaptureError Unit × Muxer × Disk :=
  match call with
  | frame nal isKeyframe => muxer.addFrame disk now nal isKeyframe
  | accessUnit unit => muxer.addAccessUnit disk now unit

end SampleCall

/-- The access units that calls add. -/
def accepted (calls : List (Nat × SampleCall)) : List AccessUnit :=
  calls.filterMap fun call => call.2.unit?

/-- Makes calls at the given times, one after the other, whatever they answer. -/
def Muxer.run (muxer : Muxer) (disk : Disk) :
    List (Nat × SampleCall) → List (Except CaptureError Unit) × Muxer × Disk
  | [] => ([], muxer, disk)
  | (now, call) :: rest =>
    let (answer, muxer, disk) := call.apply muxer disk now
    let (answers, muxer, disk) := muxer.run disk rest
    (answer :: answers, muxer, disk)

/-- Calls in two parts add the access units of both. -/
lemma accepted_append (one two : List (Nat × SampleCall)) :
    accepted (one ++ two) = accepted one ++ accepted two :=
  List.filterMap_append

/-- Calls in two parts are made one part after the other. -/
lemma Muxer.run_append (muxer : Muxer) (disk : Disk) (one two : List (Nat × SampleCall)) :
    muxer.run disk (one ++ two) =
      ((muxer.run disk one).1 ++ ((muxer.run disk one).2.1.run (muxer.run disk one).2.2 two).1,
        ((muxer.run disk one).2.1.run (muxer.run disk one).2.2 two).2) := by
  induction one generalizing muxer disk with
  | nil => rfl
  | cons call rest ih => simp only [List.cons_append, Muxer.run, ih]

namespace DiskFile
open Recording

/-- Byte strings that are written one after the other make the region longer. -/
lemma Holds.writeAll {origin : Disk} {id base : Nat} {out : DiskFile} {region : Bytes}
    (holds : Holds origin id base out region) (pieces : List Bytes) :
    ∃ after, out.writeAll pieces = (.ok (), after) ∧
      Holds origin id base after (region ++ pieces.flatten) := by
  induction pieces generalizing out region with
  | nil => exact ⟨out, rfl, by simpa using holds⟩
  | cons bytes rest ih =>
    obtain ⟨next, written, holds'⟩ := holds.write bytes
    obtain ⟨after, written', holds''⟩ := ih holds'
    refine ⟨after, ?_, by simpa using holds''⟩
    simp only [DiskFile.writeAll, written, written']

/-- The opening is written over whatever the file holds at its position. -/
lemma writeAll_opening {origin : Disk} {id : Nat} (sound : origin.IsSound)
    (present : id < origin.contents.length) (base : Nat) :
    ∃ after, DiskFile.writeAll ⟨⟨some id, base⟩, origin⟩ opening = (.ok (), after) ∧
      Holds origin id base after opening.flatten := by
  have some_bytes : Movie.ftyp ≠ [] := by decide
  obtain ⟨disk, written, shown⟩ := @Disk.Shows.of_write origin id base _ sound present some_bytes
  have holds : Holds origin id base ⟨⟨some id, base + Movie.ftyp.length⟩, disk⟩ Movie.ftyp := ⟨rfl, shown⟩
  obtain ⟨after, rest, holds'⟩ := holds.writeAll [Box.free moovRoom, Box.mdatHeader openSize]
  refine ⟨after, ?_, holds'⟩
  have first : Writer.write (⟨⟨some id, base⟩, origin⟩ : DiskFile) Movie.ftyp =
      (.ok (), ⟨⟨some id, base + Movie.ftyp.length⟩, disk⟩) :=
    congrArg (fun out => (out.1, (⟨out.2.1, out.2.2⟩ : DiskFile))) written
  rw [opening, DiskFile.writeAll, first]
  exact rest

end DiskFile

namespace Muxer
open Recording

variable {origin : Disk} {id base : Nat}

/-- A muxer streams a recording of the given access units. -/
def Records (origin : Disk) (id base : Nat) (track : Track) (muxer : Muxer) (disk : Disk) (received : Bytes)
    (units : List AccessUnit) : Prop :=
  ∃ s, muxer.phase = .streaming s ∧ s.Records origin id base muxer.tuning track disk received units

/-- A muxer that starts has a valid track and a recording without samples. -/
lemma start_records {muxer muxer' : Muxer} {disk' : Disk} {now : Nat} {track : Track}
    (sound : origin.IsSound) (present : id < origin.contents.length)
    (started : muxer.start origin now ⟨some id, base⟩ track = (.ok (), muxer', disk')) :
    muxer'.Records origin id base track disk' [] [] ∧ muxer'.tuning = muxer.tuning ∧
      track.validate = .ok () := by
  unfold start at started
  split at started
  · split at started
    · cases started
    · rename_i valid
      obtain ⟨after, written, holds⟩ := DiskFile.writeAll_opening sound present base
      rw [written] at started
      cases started
      refine ⟨⟨_, rfl, rfl, rfl, ?_, rfl, rfl, rfl, ?_⟩, rfl, valid⟩
      · refine ⟨?_, rfl, rfl, Nat.zero_le _, rfl⟩
        rw [Received, List.append_nil]
        exact holds
      · intro every_pos
        exact ⟨every_pos, List.prefix_refl _⟩
  · cases started

/-- A new muxer starts with every valid track. -/
lemma start_of_valid {muxer : Muxer} {track : Track} (sound : origin.IsSound) (present : id < origin.contents.length)
    (unused : muxer.phase = .uninitialized) (valid : track.validate = .ok ()) (now base : Nat) :
    ∃ muxer' disk', muxer.start origin now ⟨some id, base⟩ track = (.ok (), muxer', disk') := by
  obtain ⟨after, written, -⟩ := DiskFile.writeAll_opening sound present base
  unfold start
  rw [unused]
  dsimp only
  rw [valid]
  dsimp only
  rw [written]
  exact ⟨_, _, rfl⟩

/-- A muxer that creates its file has a recording without samples in it. -/
lemma create_records {before : Disk} {path : String} {track : Track}
    (created : before.create path = (.ok ⟨some id, 0⟩, origin)) (sound : origin.IsSound)
    (present : id < origin.contents.length) (valid : track.validate = .ok ()) (now : Nat) (tuning : WriteTuning) :
    ∃ muxer disk, Muxer.create before now path tuning track = (.ok muxer, disk) ∧
      muxer.Records origin id 0 track disk [] [] ∧ muxer.tuning = tuning := by
  obtain ⟨muxer, disk, started⟩ :=
    @start_of_valid origin id { tuning, path := some path } track sound present rfl valid now 0
  obtain ⟨records, tuning_eq, -⟩ := start_records sound present started
  refine ⟨muxer, disk, ?_, records, tuning_eq⟩
  unfold Muxer.create
  rw [created]
  dsimp only
  rw [started]

/-- A call is answered as it deserves, and adds the access unit that it brings. -/
lemma Records.apply {track : Track} {muxer : Muxer} {disk : Disk} {received : Bytes}
    {units : List AccessUnit} (records : muxer.Records origin id base track disk received units)
    (now : Nat) (call : SampleCall) :
    ∃ muxer' disk' received', call.apply muxer disk now = (call.answer, muxer', disk') ∧
      muxer'.Records origin id base track disk' received' (units ++ call.unit?.toList) ∧
      muxer'.tuning = muxer.tuning ∧ received <+: received' := by
  obtain ⟨s, phase, recording⟩ := records
  -- both calls come down to the same operation
  have add : ∀ nals isKeyframe unit?, AccessUnit.ofNals? nals isKeyframe = unit? →
      ∃ muxer' disk' received', muxer.addSample disk now nals isKeyframe =
          (if unit?.isSome then .ok () else .error .emptyFrame, muxer', disk') ∧
        muxer'.Records origin id base track disk' received' (units ++ unit?.toList) ∧
        muxer'.tuning = muxer.tuning ∧ received <+: received' := by
    intro nals isKeyframe unit? brought
    unfold addSample
    rw [phase]
    cases unit? with
    | none =>
      refine ⟨{ muxer with phase := .streaming s }, disk, received, ?_, ⟨s, rfl, ?_⟩, rfl,
        List.prefix_refl _⟩
      · dsimp only
        rw [Streaming.add_rejected brought]
        rfl
      · simpa using recording
    | some unit =>
      obtain ⟨s', disk', received', run, recording', grown⟩ := recording.add now brought
      refine ⟨{ muxer with phase := .streaming s' }, disk', received', ?_, ⟨s', rfl, recording'⟩, rfl, grown⟩
      dsimp only
      rw [run]
      rfl
  cases call with
  | frame nal isKeyframe => exact add [nal] isKeyframe _ rfl
  | accessUnit unit => exact add unit.nals unit.isKeyframe _ rfl

/-- However a muxer is called, every call is answered as it deserves, and the recording has the access
units of the accepted calls. What has reached the disk on the way stays there. -/
lemma Records.run {track : Track} {muxer : Muxer} {disk : Disk} {received : Bytes}
    {units : List AccessUnit} (records : muxer.Records origin id base track disk received units)
    (calls : List (Nat × SampleCall)) :
    ∃ muxer' disk' received',
      muxer.run disk calls = (calls.map fun call => call.2.answer, muxer', disk') ∧
      muxer'.Records origin id base track disk' received' (units ++ accepted calls) ∧
      muxer'.tuning = muxer.tuning ∧ received <+: received' := by
  induction calls generalizing muxer disk received units with
  | nil =>
    refine ⟨muxer, disk, received, rfl, ?_, rfl, List.prefix_refl _⟩
    simpa [accepted] using records
  | cons call rest ih =>
    obtain ⟨now, call⟩ := call
    obtain ⟨muxer₁, disk₁, received₁, applied, records₁, tuning₁, grown₁⟩ := records.apply now call
    obtain ⟨muxer₂, disk₂, received₂, run, records₂, tuning₂, grown₂⟩ := ih records₁
    refine ⟨muxer₂, disk₂, received₂, ?_, ?_, tuning₂.trans tuning₁, grown₁.trans grown₂⟩
    · simp only [Muxer.run, applied, run, List.map_cons]
    · have brought : accepted ((now, call) :: rest) = call.unit?.toList ++ accepted rest := by
        rw [accepted, List.filterMap_cons]
        cases call.unit? <;> rfl
      rw [brought, ← List.append_assoc]
      exact records₂

end Muxer

end VideoCapture
