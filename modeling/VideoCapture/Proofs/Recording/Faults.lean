import VideoCapture.Proofs.Disk.Mended
import VideoCapture.Proofs.Recording.LifeCycle
import VideoCapture.Proofs.Recording.RoundTrip

/-!
# Recordings on a failing disk

A write takes all of its bytes or none, but an access unit is written in pieces, and its entry in the index comes
before the flushes behind it. So a call that fails has done one of two things (`Leaves`): it has left some first part of
the sample in the stream, without an entry, or all of the sample, with its entry. A recording in which no part was left
is as good as any other, whatever failed on the way, and its muxer can tell (`recording_despite_faults`). After a part
that was left, the entries lead to the wrong places.
-/

namespace VideoCapture
open Recording Demux

/-- What a call leaves that is to add an access unit: its answer, its bytes in the stream, and its entries in the
index. -/
inductive Leaves : Option AccessUnit → Except CaptureError Unit → Bytes → List AccessUnit → Prop where
  | nothing : Leaves none (.error .emptyFrame) [] []
  | taken {unit} : Leaves (some unit) (.ok ()) unit.toSample [unit]
  /-- The file fails when the sample has its place. -/
  | late {unit error} : Leaves (some unit) (.error (.file error)) unit.toSample [unit]
  /-- The file fails before all of the sample has its place. -/
  | torn {unit error part} : part <+: unit.toSample → Leaves (some unit) (.error (.file error)) part []

/-- What calls leave, one after the other. -/
inductive LeavesAll :
    List (Nat × SampleCall) → List (Except CaptureError Unit) → Bytes → List AccessUnit → Prop where
  | nil : LeavesAll [] [] [] []
  | cons {now call rest answer answers part stream entered units} :
    Leaves call.unit? answer part entered → LeavesAll rest answers stream units →
    LeavesAll ((now, call) :: rest) (answer :: answers) (part ++ stream) (entered ++ units)

/-- The bytes that a call leaves are at least those of the entries that it makes, and are just those if they are no
more. -/
lemma Leaves.le {unit? : Option AccessUnit} {answer : Except CaptureError Unit} {part : Bytes}
    {entered : List AccessUnit} (leaves : Leaves unit? answer part entered) :
    (mediaData entered).length ≤ part.length ∧
      (part.length = (mediaData entered).length → part = mediaData entered) := by
  cases leaves with
  | nothing => exact ⟨Nat.le_refl _, fun _ => rfl⟩
  | taken | late => simp
  | torn _ => exact ⟨Nat.zero_le _, List.eq_nil_of_length_eq_zero⟩

/-- The stream is at least as long as the index says, and if it is not longer then the entries lead to their samples. -/
lemma LeavesAll.le {calls : List (Nat × SampleCall)} {answers : List (Except CaptureError Unit)} {stream : Bytes}
    {units : List AccessUnit} (leaves : LeavesAll calls answers stream units) :
    (mediaData units).length ≤ stream.length ∧
      (stream.length = (mediaData units).length → stream = mediaData units) := by
  induction leaves with
  | nil => exact ⟨Nat.le_refl _, fun _ => rfl⟩
  | cons first _ ih =>
    obtain ⟨first_le, first_whole⟩ := first.le
    obtain ⟨rest_le, rest_whole⟩ := ih
    rw [mediaData_append, List.length_append, List.length_append]
    refine ⟨Nat.add_le_add first_le rest_le, fun same => ?_⟩
    rw [first_whole (by omega), rest_whole (by omega)]

namespace Recording

variable {origin : Disk} {id base : Nat}

/-- What the file behind the opening of a recording has received, on a disk that may fail. -/
def Kept (origin : Disk) (id base : Nat) (out : DiskFile) (received : Bytes) : Prop :=
  Received origin.mended id base out.mended received

/-- What a file on a failing disk has kept, it keeps after one more operation. -/
lemma Kept.ticked {handle : FileHandle} {disk : Disk} {received : Bytes}
    (kept : Kept origin id base ⟨handle, disk⟩ received) : Kept origin id base ⟨handle, disk.ticked⟩ received :=
  Received.ticked kept

/-- What a buffer and a file on a failing disk carry, they carry on the mended disk. -/
lemma carries_mended {limit : Nat} {buffer : WriteBuffer} {file : FileHandle} {disk : Disk} {received stream : Bytes} :
    buffer.Carries (Kept origin id base) limit ⟨file, disk⟩ received stream ↔
      buffer.Carries (Received origin.mended id base) limit ⟨file, disk.mended⟩ received stream := by
  constructor <;>
  · rintro ⟨reaches, whole, limit_eq, within, counted⟩
    exact ⟨reaches, whole, limit_eq, within, counted⟩

/-- A file on a failing disk keeps what was written to it, and nothing of what was refused. -/
lemma lawful_kept : Writer.Lawful (Kept origin id base) where
  written kept success :=
    (reliable origin.mended id base).written kept (DiskFile.mends_write _ _ _ _ success)
  refused kept refusal := by
    rw [DiskFile.write_refused refusal]
    exact kept.ticked
  flushed kept := kept

end Recording

namespace Streaming

variable {origin : Disk} {id base limit : Nat} {track : Track} {s t : Streaming} {disk disk' : Disk}
  {received stream : Bytes} {now every : Nat} {units : List AccessUnit}

/-- The index of a recording has an entry for each unit, one behind the other. -/
structure Indexes (base : Nat) (track : Track) (s : Streaming) (units : List AccessUnit) : Prop where
  base_eq : s.base = base
  track_eq : s.track = track
  samples_eq : s.samples = Sample.indexFrom (mediaOffset base) units
  stop_eq : s.stop = mediaOffset base + (mediaData units).length
  keyframes_eq : s.keyframes = units.countP AccessUnit.isKeyframe

/-- Recordings with the same index have the same entries. -/
lemma Indexes.same (indexes : s.Indexes base track units) (same : s.SameIndex t) : t.Indexes base track units where
  base_eq := same.base_eq.trans indexes.base_eq
  track_eq := same.track_eq.trans indexes.track_eq
  samples_eq := same.samples_eq.trans indexes.samples_eq
  stop_eq := same.stop_eq.trans indexes.stop_eq
  keyframes_eq := same.keyframes_eq.trans indexes.keyframes_eq

/-- An access unit that is indexed gets an entry behind the others. -/
lemma Indexes.index (indexes : s.Indexes base track units) (unit : AccessUnit) :
    (s.index unit.sampleSize unit.isKeyframe).Indexes base track (units ++ [unit]) where
  base_eq := indexes.base_eq
  track_eq := indexes.track_eq
  samples_eq := by
    rw [samples_index, indexes.samples_eq, indexes.stop_eq, Sample.indexFrom_append]
    rfl
  stop_eq := by
    rw [mediaData_append, List.length_append, ← Nat.add_assoc, ← indexes.stop_eq, mediaData_cons, mediaData_nil,
      List.append_nil, AccessUnit.length_toSample]
    rfl
  keyframes_eq := by
    rw [List.countP_append, ← indexes.keyframes_eq]
    obtain ⟨nals, isKeyframe⟩ := unit
    cases isKeyframe <;> rfl

/-- The flush behind a keyframe loses nothing of the stream, even if it fails. -/
lemma flushAtKeyframe_carries {isKeyframe : Bool} {answer : Except FileError Unit}
    (carries : s.buffer.Carries (Kept origin id base) limit ⟨s.file, disk⟩ received stream)
    (run : s.flushAtKeyframe disk now isKeyframe = (answer, t, disk')) :
    ∃ received', t.buffer.Carries (Kept origin id base) limit ⟨t.file, disk'⟩ received' stream := by
  unfold flushAtKeyframe at run
  split at run
  · rcases flushed : s.buffer.flushIfDue (⟨s.file, disk⟩ : DiskFile) now with ⟨due, buffer, out⟩
    obtain ⟨received', carries', -⟩ := carries.flushIfDue lawful_kept flushed
    rw [buffered, flushed] at run
    cases due <;>
    · cases run
      exact ⟨received', carries'⟩
  · cases run
    exact ⟨received, carries⟩

/-- Counting a sample loses nothing of the stream, even if a sync fails. -/
lemma syncPeriodically_carries {answer : Except FileError Unit}
    (carries : s.buffer.Carries (Kept origin id base) limit ⟨s.file, disk⟩ received stream)
    (run : s.syncPeriodically disk now every = (answer, t, disk')) :
    ∃ received', t.buffer.Carries (Kept origin id base) limit ⟨t.file, disk'⟩ received' stream := by
  unfold syncPeriodically at run
  dsimp only at run
  split at run
  · rcases flushed : s.buffer.flush (⟨s.file, disk⟩ : DiskFile) now with ⟨outcome, buffer, out⟩
    obtain ⟨received', carries', -, -⟩ := carries.flush lawful_kept flushed
    rw [buffered] at run
    dsimp only at run
    rw [flushed] at run
    cases outcome with
    | error error =>
      cases run
      exact ⟨received', carries'⟩
    | ok =>
      have synced : out.disk.sync.2 = out.disk.ticked := congrArg DiskFile.disk out.sync_snd
      have kept : buffer.Carries (Kept origin id base) limit ⟨out.handle, out.disk.ticked⟩ received' stream :=
        ⟨carries'.reaches.ticked, carries'.whole, carries'.limit_eq, carries'.within, carries'.counted⟩
      dsimp only at run
      rcases answered : out.disk.sync with ⟨error | ⟨⟩, after⟩
      all_goals
        rw [answered] at run synced
        dsimp only at synced
        subst synced
        cases run
        exact ⟨received', kept⟩
  · cases run
    exact ⟨received, carries⟩

/-- An access unit that is added leaves its sample with an entry, or a part of it without one. -/
lemma add_leaves {nals : List Bytes} {isKeyframe : Bool} {unit : AccessUnit} {answer : Except CaptureError Unit}
    (carries : s.buffer.Carries (Kept origin id base) limit ⟨s.file, disk⟩ received stream)
    (indexes : s.Indexes base track units) (brought : AccessUnit.ofNals? nals isKeyframe = some unit)
    (run : s.add disk now every nals isKeyframe = (answer, t, disk')) :
    ∃ received' part entered, Leaves (some unit) answer part entered ∧
      t.buffer.Carries (Kept origin id base) limit ⟨t.file, disk'⟩ received' (stream ++ part) ∧
      t.Indexes base track (units ++ entered) := by
  unfold AccessUnit.ofNals? at brought
  dsimp only at brought
  split at brought
  · cases brought
  rename_i some_nal
  cases brought
  unfold add at run
  dsimp only at run
  rw [if_neg some_nal] at run
  generalize nals.filter (fun nal => !nal.isEmpty) = kept at run some_nal
  have size : (lengthPrefixed kept).length = (⟨kept, isKeyframe⟩ : AccessUnit).sampleSize :=
    AccessUnit.length_toSample ⟨kept, isKeyframe⟩
  rcases appended : s.buffer.appendAll (⟨s.file, disk⟩ : DiskFile) now
    (kept.flatMap fun nal => [Bytes.be32 nal.length, nal]) with ⟨outcome, buffer, out⟩
  obtain ⟨received₁, part, carries₁, -, inside, all⟩ := carries.appendAll lawful_kept appended
  rw [flatten_pieces] at inside all
  rw [buffered] at run
  dsimp only at run
  rw [appended] at run
  cases outcome with
  | error error =>
    cases run
    refine ⟨received₁, part, [], .torn inside, carries₁, ?_⟩
    rw [List.append_nil]
    exact indexes.same ⟨rfl, rfl, rfl, rfl, rfl⟩
  | ok =>
    have whole : part = (⟨kept, isKeyframe⟩ : AccessUnit).toSample := all rfl
    subst whole
    have placed : ({ s with buffer, file := out.handle } : Streaming).Indexes base track units :=
      indexes.same ⟨rfl, rfl, rfl, rfl, rfl⟩
    have entered := placed.index ⟨kept, isKeyframe⟩
    rw [← size] at entered
    dsimp only at entered run
    -- from here on the sample has its place and its entry, whatever fails
    generalize indexed : ({ s with buffer, file := out.handle } : Streaming).index (lengthPrefixed kept).length
      isKeyframe = s₁ at entered run
    have carries₁' : s₁.buffer.Carries (Kept origin id base) limit ⟨s₁.file, out.disk⟩ received₁
        (stream ++ (⟨kept, isKeyframe⟩ : AccessUnit).toSample) := by
      rw [← indexed]
      exact carries₁
    rcases flushed : s₁.flushAtKeyframe out.disk now isKeyframe with ⟨outcome, s₂, disk₂⟩
    obtain ⟨received₂, carries₂⟩ := flushAtKeyframe_carries carries₁' flushed
    have entered₂ := entered.same (flushAtKeyframe_sameIndex flushed)
    rw [flushed] at run
    cases outcome with
    | error error =>
      cases run
      exact ⟨received₂, _, _, .late, carries₂, entered₂⟩
    | ok =>
      dsimp only at run
      rcases synced : s₂.syncPeriodically disk₂ now every with ⟨outcome, s₃, disk₃⟩
      obtain ⟨received₃, carries₃⟩ := syncPeriodically_carries carries₂ synced
      have entered₃ := entered₂.same (syncPeriodically_sameIndex synced)
      rw [synced] at run
      cases outcome with
      | error error =>
        cases run
        exact ⟨received₃, _, _, .late, carries₃, entered₃⟩
      | ok =>
        cases run
        exact ⟨received₃, _, _, .taken, carries₃, entered₃⟩

/-- A recording that is completed is completed in the same way on the mended disk. -/
lemma mends_complete (s : Streaming) : DiskFile.Mends s.complete := by
  by_cases large : Track.maxField < s.stop - s.mdatStart
  · rw [complete_of_large s large]
    exact DiskFile.mends_pure _
  · rw [complete_eq s large]
    refine (DiskFile.mends_patch _).andThen fun _ => ?_
    cases Movie.moov s.track s.samples with
    | error error => exact DiskFile.mends_pure _
    | ok moov =>
      exact (DiskFile.mends_patch _).andThen fun _ => DiskFile.mends_sync.andThen fun _ => DiskFile.mends_pure _

/-- A recording that is completed would also be completed if nothing failed, and be the same. -/
lemma finalize_mended {summary : RecordingSummary} (run : s.finalize disk now = (.ok summary, disk')) :
    s.finalize disk.mended now = (.ok summary, disk'.mended) := by
  have mends : DiskFile.Mends (s.closing now) :=
    (DiskFile.mends_flush _ _).andThen fun _ => DiskFile.mends_sync.andThen fun _ => s.mends_complete
  rw [finalize_eq] at run ⊢
  rcases closed : s.closing now ⟨s.file, disk⟩ with ⟨answer, out⟩
  rw [closed] at run
  cases run
  have again : s.closing now ⟨s.file, disk.mended⟩ = (.ok summary, out.mended) := mends _ _ _ closed
  rw [again]
  rfl

end Streaming

/-- Where the disk shows a finished recording, a reader finds its access units. -/
lemma film_of_shown {origin after : Disk} {id base : Nat} {track : Track} {configuration : Bytes}
    {units : List AccessUnit} (valid : track.validate = .ok ()) (position : base < 0x8000000000000000)
    (moov_small : (Movie.moovWith track configuration (Sample.indexFrom (mediaOffset base) units)).length < 0x100000000)
    (fits : Box.headerSize + (mediaData units).length ≤ Track.maxField)
    (shown : Disk.Shows origin id base (finished (moviePayload base track configuration units) units) after) :
    ∃ film,
      after.content id = FileContent.overwrite (origin.content id) base
        (finished (moviePayload base track configuration units) units) ∧
      Disk.SameBut id origin after ∧
      film? (after.content id) base (finished (moviePayload base track configuration units) units).length = some film ∧
      film.units = units ∧
      (Streaming.summaryOf (moviePayload base track configuration units) units).Describes film := by
  have moov : (moovBox (moviePayload base track configuration units)).length < 0x100000000 := by
    rwa [moovBox_moviePayload]
  have read := @film?_finished (origin.content id) base track configuration units valid position moov fits
  rw [← shown.content] at read
  exact ⟨_, shown.content, shown.same, read, rfl, summaryOf_describes _ _ _⟩

namespace Muxer

variable {origin : Disk} {id base : Nat} {track : Track} {muxer muxer' : Muxer} {disk disk' : Disk} {stream : Bytes}
  {units : List AccessUnit} {now : Nat}

/-- A muxer streams a recording on a disk that may fail, with some stream behind its opening and with entries for some
units. -/
def Survives (origin : Disk) (id base : Nat) (track : Track) (muxer : Muxer) (disk : Disk) (stream : Bytes)
    (units : List AccessUnit) : Prop :=
  ∃ s received, muxer.phase = .streaming s ∧ s.Indexes base track units ∧
    s.buffer.Carries (Kept origin id base) muxer.tuning.bufferLimit ⟨s.file, disk⟩ received stream

/-- A muxer that starts does so in the same way on the mended disk. -/
lemma start_mended {file : FileHandle} (started : muxer.start disk now file track = (.ok (), muxer', disk')) :
    muxer.start disk.mended now file track = (.ok (), muxer', disk'.mended) := by
  unfold start at started ⊢
  split at started
  · split at started
    · cases started
    · rcases written : (⟨file, disk⟩ : DiskFile).writeAll opening with ⟨error | ⟨⟩, out⟩
      · rw [written] at started
        cases started
      · rw [written] at started
        cases started
        have again : (⟨file, disk.mended⟩ : DiskFile).writeAll opening = (.ok (), out.mended) :=
          DiskFile.mends_writeAll opening _ _ _ written
        rw [again]
        rfl
  · cases started

/-- A muxer that starts survives without samples, and its track is valid. -/
lemma start_survives (present : id < origin.contents.length)
    (started : muxer.start origin now ⟨some id, base⟩ track = (.ok (), muxer', disk')) :
    muxer'.Survives origin id base track disk' [] [] ∧ track.validate = .ok () := by
  obtain ⟨⟨s, phase, records⟩, -, valid⟩ :=
    start_records origin.isSound_mended present (start_mended started)
  obtain ⟨base_eq, track_eq, carries, samples_eq, stop_eq, keyframes_eq, -⟩ := records
  exact ⟨⟨s, [], phase, ⟨base_eq, track_eq, samples_eq, stop_eq, keyframes_eq⟩, carries_mended.mpr carries⟩, valid⟩

/-- Whatever fails, a call leaves one of a few things. -/
lemma Survives.apply (survives : muxer.Survives origin id base track disk stream units) {call : SampleCall}
    {answer : Except CaptureError Unit} (run : call.apply muxer disk now = (answer, muxer', disk')) :
    ∃ part entered, Leaves call.unit? answer part entered ∧
      muxer'.Survives origin id base track disk' (stream ++ part) (units ++ entered) := by
  obtain ⟨s, received, phase, indexes, carries⟩ := survives
  obtain ⟨nals, isKeyframe, brought, applied⟩ := call.apply_eq
  rw [applied, addSample, phase] at run
  dsimp only at run
  cases unit? : call.unit? with
  | none =>
    rw [Streaming.add_rejected (brought.trans unit?)] at run
    cases run
    refine ⟨[], [], .nothing, s, received, rfl, ?_, ?_⟩
    · rw [List.append_nil]
      exact indexes
    · rw [List.append_nil]
      exact carries
  | some unit =>
    rcases added : s.add disk now muxer.tuning.syncEvery nals isKeyframe with ⟨came, t, after⟩
    obtain ⟨received', part, entered, leaves, carries', indexes'⟩ :=
      Streaming.add_leaves carries indexes (brought.trans unit?) added
    rw [added] at run
    cases run
    exact ⟨part, entered, leaves, t, received', rfl, indexes', carries'⟩

/-- A muxer survives calls that leave bytes and entries behind those before, whatever fails. -/
lemma Survives.run (survives : muxer.Survives origin id base track disk stream units)
    {calls : List (Nat × SampleCall)} {answers : List (Except CaptureError Unit)}
    (ran : muxer.run disk calls = (answers, muxer', disk')) :
    ∃ left entered, LeavesAll calls answers left entered ∧
      muxer'.Survives origin id base track disk' (stream ++ left) (units ++ entered) := by
  induction calls generalizing muxer disk stream units answers with
  | nil =>
    cases ran
    refine ⟨[], [], .nil, ?_⟩
    rw [List.append_nil, List.append_nil]
    exact survives
  | cons call rest ih =>
    obtain ⟨now, call⟩ := call
    rcases applied : call.apply muxer disk now with ⟨answer, between, midway⟩
    obtain ⟨part, entered, leaves, survives'⟩ := survives.apply applied
    rcases followed : between.run midway rest with ⟨others, last, after⟩
    rw [Muxer.run, applied] at ran
    dsimp only at ran
    rw [followed] at ran
    cases ran
    obtain ⟨left, more, leaves', survives''⟩ := ih survives' followed
    refine ⟨part ++ left, entered ++ more, .cons leaves leaves', ?_⟩
    rw [← List.append_assoc, ← List.append_assoc]
    exact survives''

end Muxer

/-- A muxer is started and called any number of times on a disk that may fail at any time. Every call has left the whole
of its sample, with an entry, or a part of it, without one. The muxer can tell whether a part was left: then the stream
is longer than it counts. Otherwise, if the recording can be completed, a reader finds in the file what was entered. -/
theorem recording_despite_faults {muxer started recorded : Muxer} {origin disk streamed : Disk} {now stop id base : Nat}
    {track : Track} {configuration : Bytes} {answers : List (Except CaptureError Unit)}
    (present : id < origin.contents.length) (position : base < 0x8000000000000000)
    (start : muxer.start origin now ⟨some id, base⟩ track = (.ok (), started, disk))
    (configured : track.sets.decoderConfiguration track.codec = .ok configuration)
    (calls : List (Nat × SampleCall)) (ran : started.run disk calls = (answers, recorded, streamed)) :
    ∃ s stream units,
      recorded.phase = .streaming s ∧
      LeavesAll calls answers stream units ∧
      s.samples = Sample.indexFrom (mediaOffset base) units ∧
      s.stop = mediaOffset base + (mediaData units).length ∧
      s.file.position + s.buffer.pending.length = mediaOffset base + stream.length ∧
      (s.file.position + s.buffer.pending.length = s.stop →
        ∀ summary finalized after, recorded.finalize streamed stop = (.ok summary, finalized, after) →
          (Movie.moovWith track configuration s.samples).length < 0x100000000 →
          ∃ region film,
            after.content id = FileContent.overwrite (origin.content id) base region ∧
            Disk.SameBut id origin after ∧
            film? (after.content id) base region.length = some film ∧
            film.units = units ∧
            summary.Describes film) := by
  obtain ⟨survives, valid⟩ := Muxer.start_survives present start
  obtain ⟨stream, units, leaves, survives'⟩ := survives.run ran
  rw [List.nil_append, List.nil_append] at survives'
  obtain ⟨s, received, phase, indexes, carries⟩ := survives'
  obtain ⟨handle, -⟩ := carries.reaches
  have reached : s.file.position + s.buffer.pending.length = mediaOffset base + stream.length := by
    have handle : s.file = ⟨some id, base + (opening.flatten ++ received).length⟩ := handle
    rw [handle, ← carries.whole, mediaOffset_eq]
    simp only [List.length_append]
    omega
  refine ⟨s, stream, units, phase, leaves, indexes.samples_eq, indexes.stop_eq, reached, ?_⟩
  intro agrees summary finalized after finalize moov_small
  have whole : stream = mediaData units := by
    refine leaves.le.2 ?_
    rw [reached, indexes.stop_eq] at agrees
    omega
  subst whole
  rw [Muxer.finalize_of_streaming rfl phase] at finalize
  rcases closed : s.finalize streamed stop with ⟨result, left⟩
  rw [closed] at finalize
  cases finalize
  have records : s.Records origin.mended id base { recorded.tuning with syncEvery := 0 } track streamed.mended received
      units :=
    ⟨indexes.base_eq, indexes.track_eq, carries_mended.mp carries, indexes.samples_eq, indexes.stop_eq,
      indexes.keyframes_eq, nofun⟩
  obtain ⟨result, after', again, small, large⟩ := records.finalize (moov_recorded configured) stop
  cases again.symm.trans (Streaming.finalize_mended closed)
  have fits : Box.headerSize + (mediaData units).length ≤ Track.maxField := by
    rcases Nat.lt_or_ge Track.maxField (Box.headerSize + (mediaData units).length) with exceeds | fits
    · cases large exceeds
    · exact fits
  obtain ⟨summary_eq, shown⟩ := small fits
  cases summary_eq
  rw [indexes.samples_eq] at moov_small
  obtain ⟨film, laid, same, read, film_units, describes⟩ := film_of_shown valid position moov_small fits shown
  exact ⟨_, film, laid, ⟨same.entries, same.count, same.others⟩, read, film_units, describes⟩

/-- The length of the first NAL unit is gathered when the write fails that would make room for the unit itself. It stays
in the stream, and the entry of the next sample leads to it. -/
example :
    let track : Track := ⟨.h264, .ofH264 [0x67, 0x42, 0x00, 0x1E] [0x68], 16, 16, 30⟩
    let disk : Disk := {
      contents := [.empty]
      faults := fun number => if number = 3 then some .storageFull else none }
    let start := ({ tuning := { bufferLimit := 9 } } : Muxer).start disk 0 ⟨some 0, 0⟩ track
    let run := start.2.1.run start.2.2 [(1, .frame [0x65, 1, 2, 3, 4, 5] true), (2, .frame [0x41] false)]
    run.1.map Except.isOk = [false, true] ∧
      run.2.1.streaming?.map (fun s => (s.file.position, s.buffer.pending, s.samples)) =
        some (16424, [0, 0, 0, 6, 0, 0, 0, 1, 0x41], [⟨16424, 5, false⟩]) ∧
      (run.2.1.finalize run.2.2 3).1.isOk = true := by
  decide +kernel

end VideoCapture
