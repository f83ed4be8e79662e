import Mathlib.Logic.Relation
import VideoCapture.Proofs.Recording.Acceptance
import VideoCapture.Proofs.Recording.Locality

/-!
# The life of a muxer

A muxer waits for a file, streams samples into it, and is finalized, and it never goes back. This holds on every disk,
in whatever way file operations fail. All that a call can come to is one relation with a case for each
(`MuxerSite.Makes`), and every call is an instance of it (`MuxerSite.makes`). What a call does to the life of its muxer,
and by induction what a whole run does, is read off the cases (`muxer_life`).
-/

namespace VideoCapture

/-- Whether a call is refused for what it asks, or for when it asks, and not because something went wrong. -/
def CaptureError.isRefusal : CaptureError → Bool
  | missingParameterSet _ | invalidTrack _ | alreadyInitialized | notStreaming | emptyFrame => true
  | file _ | spsTooShort _ | tooLarge _ | device _ => false

/-- A track is refused for what it is. -/
lemma Track.isRefusal_of_validate {track : Track} {error : CaptureError} (invalid : track.validate = .error error) :
    error.isRefusal = true := by
  unfold validate at invalid
  split at invalid
  · cases invalid
    rfl
  split at invalid
  · cases invalid
    rfl
  split at invalid
  · cases invalid
    rfl
  split at invalid
  · cases invalid
    rfl
  · cases invalid

/-- The movie box of a valid track is not refused: only its SPS can be too short. -/
lemma Movie.moov_not_refused {track : Track} (valid : track.validate = .ok ()) {samples : List Sample}
    {error : CaptureError} (failed : Movie.moov track samples = .error error) : error.isRefusal = false := by
  obtain ⟨-, -, -, complete⟩ := Track.of_validate valid
  obtain ⟨sps, found⟩ := ParameterSets.sps_of_complete complete
  cases long : track.codec.reads sps with
  | true =>
    obtain ⟨moov, built⟩ := (Movie.moov_iff_reads valid found samples).mpr long
    cases built.symm.trans failed
  | false =>
    rw [Movie.moov, ParameterSets.decoderConfiguration_of_short complete found long] at failed
    cases failed
    rfl

namespace DiskFile

/-- An action may fail, but is not refused. -/
def Unrefused {α : Type} (act : DiskFile → Except CaptureError α × DiskFile) : Prop :=
  ∀ out error, (act out).1 = .error error → error.isRefusal = false

/-- An answer that is no refusal is unrefused. -/
lemma Unrefused.pure {α : Type} {answer : Except CaptureError α}
    (fine : ∀ error, answer = .error error → error.isRefusal = false) : Unrefused fun out => (answer, out) :=
  fun _ => fine

/-- An action on a file can be followed by another one. -/
lemma Unrefused.andThen {α β : Type} {act : DiskFile → Except FileError α × DiskFile}
    {next : α → DiskFile → Except CaptureError β × DiskFile} (second : ∀ answer, Unrefused (next answer)) :
    Unrefused (DiskFile.andThen .file act next) := by
  intro out error failed
  rw [DiskFile.andThen] at failed
  rcases run : act out with ⟨cause | answer, after⟩
  all_goals rw [run] at failed
  · cases failed
    rfl
  · exact second answer after error failed

end DiskFile

namespace Streaming

variable {s t : Streaming} {disk disk' : Disk} {now every : Nat}

/-- The index of two recordings is the same, whatever has become of the bytes. -/
structure SameIndex (s t : Streaming) : Prop where
  track_eq : t.track = s.track
  base_eq : t.base = s.base
  stop_eq : t.stop = s.stop
  recorded_eq : t.recorded = s.recorded
  keyframes_eq : t.keyframes = s.keyframes

/-- A recording has gone on: it is still in its place, and has lost none of its samples. -/
structure Extends (s t : Streaming) : Prop where
  track_eq : t.track = s.track
  base_eq : t.base = s.base
  stop_le : s.stop ≤ t.stop
  grown : s.samples <+: t.samples

/-- A recording has the same index as itself. -/
lemma SameIndex.refl (s : Streaming) : s.SameIndex s :=
  ⟨rfl, rfl, rfl, rfl, rfl⟩

/-- Recordings that have the same index as a third one have the same index. -/
lemma SameIndex.trans {u : Streaming} (one : s.SameIndex t) (two : t.SameIndex u) : s.SameIndex u :=
  ⟨two.track_eq.trans one.track_eq, two.base_eq.trans one.base_eq, two.stop_eq.trans one.stop_eq,
    two.recorded_eq.trans one.recorded_eq, two.keyframes_eq.trans one.keyframes_eq⟩

/-- Recordings with the same index have the same index after one more sample. -/
lemma SameIndex.index (same : s.SameIndex t) (size : Nat) (isKeyframe : Bool) :
    (s.index size isKeyframe).SameIndex (t.index size isKeyframe) := by
  obtain ⟨track_eq, base_eq, stop_eq, recorded_eq, keyframes_eq⟩ := same
  constructor <;> simp only [Streaming.index, *]

/-- Recordings with the same index have the same samples. -/
lemma SameIndex.samples_eq (same : s.SameIndex t) : t.samples = s.samples :=
  congrArg List.reverse same.recorded_eq

/-- A recording that keeps its index has gone on. -/
lemma SameIndex.extends (same : s.SameIndex t) : s.Extends t :=
  ⟨same.track_eq, same.base_eq, Nat.le_of_eq same.stop_eq.symm, same.samples_eq ▸ List.prefix_refl _⟩

/-- A recording extends itself. -/
lemma Extends.refl (s : Streaming) : s.Extends s :=
  (SameIndex.refl s).extends

/-- A recording that has gone on twice has gone on. -/
lemma Extends.trans {u : Streaming} (one : s.Extends t) (two : t.Extends u) : s.Extends u :=
  ⟨two.track_eq.trans one.track_eq, two.base_eq.trans one.base_eq, Nat.le_trans one.stop_le two.stop_le,
    one.grown.trans two.grown⟩

/-- A recording that has gone on has its media data where they were. -/
lemma Extends.mdatStart_eq (ext : s.Extends t) : t.mdatStart = s.mdatStart :=
  congrArg Recording.mdatOffset ext.base_eq

/-- A recording that gets one more sample has gone on. -/
lemma index_extends (s : Streaming) (size : Nat) (isKeyframe : Bool) : s.Extends (s.index size isKeyframe) :=
  ⟨rfl, rfl, Nat.le_add_right _ _, by simp⟩

/-- Whatever the buffer does to the file, the index stays. -/
lemma buffered_sameIndex {α : Type}
    {act : WriteBuffer → DiskFile → Except FileError α × WriteBuffer × DiskFile} {answer : Except FileError α}
    (run : s.buffered disk act = (answer, t, disk')) : s.SameIndex t := by
  cases run
  exact ⟨rfl, rfl, rfl, rfl, rfl⟩

/-- The flush behind a keyframe keeps the index. -/
lemma flushAtKeyframe_sameIndex {isKeyframe : Bool} {answer : Except FileError Unit}
    (run : s.flushAtKeyframe disk now isKeyframe = (answer, t, disk')) : s.SameIndex t := by
  unfold flushAtKeyframe at run
  split at run
  · split at run <;>
    · rename_i flushed
      cases run
      exact buffered_sameIndex flushed
  · cases run
    exact .refl _

/-- Counting a sample keeps the index. -/
lemma syncPeriodically_sameIndex {answer : Except FileError Unit}
    (run : s.syncPeriodically disk now every = (answer, t, disk')) : s.SameIndex t := by
  have counted : s.SameIndex { s with unsynced := s.unsynced + 1 } := ⟨rfl, rfl, rfl, rfl, rfl⟩
  unfold syncPeriodically at run
  dsimp only at run
  split at run
  · split at run
    · rename_i flushed
      cases run
      exact counted.trans (buffered_sameIndex flushed)
    · rename_i flushed
      split at run <;>
      · cases run
        obtain ⟨track_eq, base_eq, stop_eq, recorded_eq, keyframes_eq⟩ := counted.trans (buffered_sameIndex flushed)
        exact ⟨track_eq, base_eq, stop_eq, recorded_eq, keyframes_eq⟩
  · cases run
    exact counted

/-- An access unit is entered in the index by an add that succeeds. One that fails has entered it or not, and fails
because of the file. -/
lemma add_accepted {nals : List Bytes} {isKeyframe : Bool} {unit : AccessUnit} {answer : Except CaptureError Unit}
    (accepted : AccessUnit.ofNals? nals isKeyframe = some unit)
    (run : s.add disk now every nals isKeyframe = (answer, t, disk')) :
    answer = .ok () ∧ (s.index unit.sampleSize unit.isKeyframe).SameIndex t ∨
      ∃ error, answer = .error (.file error) ∧
        (s.SameIndex t ∨ (s.index unit.sampleSize unit.isKeyframe).SameIndex t) := by
  unfold AccessUnit.ofNals? at accepted
  dsimp only at accepted
  split at accepted
  · cases accepted
  rename_i some_nal
  cases accepted
  unfold add at run
  dsimp only at run
  rw [if_neg some_nal] at run
  have size : (⟨nals.filter fun nal => !nal.isEmpty, isKeyframe⟩ : AccessUnit).sampleSize =
      (lengthPrefixed (nals.filter fun nal => !nal.isEmpty)).length :=
    (AccessUnit.length_toSample ⟨_, isKeyframe⟩).symm
  rw [size]
  split at run
  · rename_i appended
    cases run
    exact .inr ⟨_, rfl, .inl (buffered_sameIndex appended)⟩
  rename_i appended
  have indexed := (buffered_sameIndex appended).index
    (lengthPrefixed (nals.filter fun nal => !nal.isEmpty)).length isKeyframe
  split at run
  · rename_i flushed
    cases run
    exact .inr ⟨_, rfl, .inr (indexed.trans (flushAtKeyframe_sameIndex flushed))⟩
  rename_i flushed
  have indexed := indexed.trans (flushAtKeyframe_sameIndex flushed)
  split at run
  · rename_i synced
    cases run
    exact .inr ⟨_, rfl, .inr (indexed.trans (syncPeriodically_sameIndex synced))⟩
  · rename_i synced
    cases run
    exact .inl ⟨rfl, indexed.trans (syncPeriodically_sameIndex synced)⟩

/-- A recording with a valid track is not refused when it is completed. -/
lemma unrefused_complete (valid : s.track.validate = .ok ()) : DiskFile.Unrefused s.complete := by
  by_cases large : Track.maxField < s.stop - s.mdatStart
  · rw [complete_of_large s large]
    exact .pure fun error failed => by cases failed; rfl
  · rw [complete_eq s large]
    refine .andThen fun _ => ?_
    cases built : Movie.moov s.track s.samples with
    | error error =>
      refine .pure fun error failed => ?_
      cases failed
      exact Movie.moov_not_refused valid built
    | ok moov => exact .andThen fun _ => .andThen fun _ => .pure nofun

/-- A recording of a valid track is not refused its end, though it may fail. -/
lemma finalize_not_refused (valid : s.track.validate = .ok ()) {error : CaptureError}
    (failed : (s.finalize disk now).1 = .error error) : error.isRefusal = false := by
  have unrefused : DiskFile.Unrefused (s.closing now) := .andThen fun _ => .andThen fun _ => unrefused_complete valid
  rw [finalize_eq] at failed
  exact unrefused _ _ failed

end Streaming

/-- Both kinds of calls come down to the same operation. -/
lemma SampleCall.apply_eq (call : SampleCall) : ∃ nals isKeyframe, AccessUnit.ofNals? nals isKeyframe = call.unit? ∧
    ∀ muxer disk now, call.apply muxer disk now = Muxer.addSample muxer disk now nals isKeyframe := by
  cases call with
  | frame nal isKeyframe => exact ⟨_, _, rfl, fun _ _ _ => rfl⟩
  | accessUnit unit => exact ⟨_, _, rfl, fun _ _ _ => rfl⟩

/-- Where a muxer is in its life. -/
inductive MuxerStage where
  | uninitialized
  | streaming
  | finalized
  deriving DecidableEq, Repr

/-- The steps of a muxer's life. -/
inductive MuxerStage.Arrow : MuxerStage → MuxerStage → Prop where
  | start : Arrow uninitialized streaming
  | close : Arrow streaming finalized

/-- A life leads from one stage to another. -/
def MuxerStage.Leads : MuxerStage → MuxerStage → Prop :=
  Relation.ReflTransGen MuxerStage.Arrow

/-- A step of a muxer's life, or none, leads from stage to stage. -/
lemma MuxerStage.Leads.of_step {one two : MuxerStage} (step : two = one ∨ one.Arrow two) : one.Leads two := by
  rcases step with rfl | arrow
  · exact .refl
  · exact .single arrow

/-- No arrow leads away from the end. -/
lemma MuxerStage.eq_finalized_of_leads {stage : MuxerStage} (leads : finalized.Leads stage) : stage = finalized := by
  induction leads with
  | refl => rfl
  | tail _ arrow ih =>
    subst ih
    cases arrow

/-- The stage of a muxer. -/
def Muxer.stage (muxer : Muxer) : MuxerStage :=
  match muxer.phase with
  | .uninitialized => .uninitialized
  | .streaming _ => .streaming
  | .finalized => .finalized

/-- A muxer streams only what it has accepted: a track that can be played. -/
def Muxer.IsSane (muxer : Muxer) : Prop :=
  ∀ s, muxer.streaming? = some s → s.track.validate = .ok ()

/-- A muxer in the phase of streaming streams its recording. -/
lemma Muxer.streaming?_of_phase {muxer : Muxer} {s : Streaming} (phase : muxer.phase = .streaming s) :
    muxer.streaming? = some s := by
  rw [streaming?, phase]

/-- A muxer that streams is in the stage of streaming. -/
lemma Muxer.stage_of_streaming? {muxer : Muxer} {s : Streaming} (streaming : muxer.streaming? = some s) :
    muxer.stage = .streaming := by
  unfold streaming? at streaming
  unfold stage
  cases phase : muxer.phase with
  | streaming s => rfl
  | uninitialized => simp [phase] at streaming
  | finalized => simp [phase] at streaming

/-- A muxer in the stage of streaming has a recording. -/
lemma Muxer.exists_streaming {muxer : Muxer} (streams : muxer.stage = .streaming) :
    ∃ s, muxer.streaming? = some s := by
  unfold stage at streams
  unfold streaming?
  cases phase : muxer.phase with
  | streaming s => exact ⟨s, rfl⟩
  | uninitialized => simp [phase] at streams
  | finalized => simp [phase] at streams

/-- What can be asked of a muxer. -/
inductive MuxerCall where
  | start (file : FileHandle) (track : Track)
  | add (sample : SampleCall)
  | finalize
  deriving DecidableEq, Repr

/-- What can happen to a muxer and its disk: the muxer is called at some time, or somebody else uses the disk, which
can then be in any state and fail in any way. -/
inductive MuxerEvent where
  | call (now : Nat) (call : MuxerCall)
  | elsewhere (disk : Disk)

/-- A muxer and the disk that it writes to. -/
structure MuxerSite where
  muxer : Muxer
  disk : Disk

namespace MuxerSite

/-- Calls the muxer. Only a recording that is completed is summarized. -/
def call (site : MuxerSite) (now : Nat) : MuxerCall → Except CaptureError (Option RecordingSummary) × MuxerSite
  | .start file track =>
    let (answer, muxer, disk) := site.muxer.start site.disk now file track
    (answer.map fun _ => none, ⟨muxer, disk⟩)
  | .add sample =>
    let (answer, muxer, disk) := sample.apply site.muxer site.disk now
    (answer.map fun _ => none, ⟨muxer, disk⟩)
  | .finalize =>
    let (answer, muxer, disk) := site.muxer.finalize site.disk now
    (answer.map some, ⟨muxer, disk⟩)

/-- The site after an event. -/
def perform (site : MuxerSite) : MuxerEvent → MuxerSite
  | .call now call => (site.call now call).2
  | .elsewhere disk => { site with disk }

/-- The site after events, one after the other. -/
def performAll (site : MuxerSite) (events : List MuxerEvent) : MuxerSite :=
  events.foldl perform site

/-- The disk after events of which the muxer has no part. -/
def leftByOthers (disk : Disk) (events : List MuxerEvent) : Disk :=
  events.foldl (fun disk event => match event with
    | .call _ _ => disk
    | .elsewhere disk => disk) disk

/-- All that a call can come to. -/
inductive Makes (site : MuxerSite) :
    MuxerCall → Except CaptureError (Option RecordingSummary) → MuxerSite → Prop where
  /-- The call is refused before it touches anything. -/
  | refused {call error} : error.isRefusal = true → Makes site call (.error error) site
  /-- The opening cannot be written, and the muxer goes on waiting for a file. -/
  | unopened {file track error disk} :
    site.muxer.phase = .uninitialized →
    Makes site (.start file track) (.error (.file error)) ⟨site.muxer, disk⟩
  | started {file track s disk} :
    site.muxer.phase = .uninitialized → track.validate = .ok () → s.track = track →
    Makes site (.start file track) (.ok none) ⟨{ site.muxer with phase := .streaming s }, disk⟩
  | added {sample unit s t disk} :
    site.muxer.phase = .streaming s → sample.unit? = some unit →
    (s.index unit.sampleSize unit.isKeyframe).SameIndex t →
    Makes site (.add sample) (.ok none) ⟨{ site.muxer with phase := .streaming t }, disk⟩
  /-- The file fails, before or after the sample has its entry. -/
  | lost {sample unit s t error disk} :
    site.muxer.phase = .streaming s → sample.unit? = some unit →
    s.SameIndex t ∨ (s.index unit.sampleSize unit.isKeyframe).SameIndex t →
    Makes site (.add sample) (.error (.file error)) ⟨{ site.muxer with phase := .streaming t }, disk⟩
  /-- The recording is over, even if it could not be completed. -/
  | closed {s answer disk} :
    site.muxer.phase = .streaming s → (∀ error, answer = .error error → error.isRefusal = false) →
    Makes site .finalize answer ⟨{ site.muxer with phase := .finalized }, disk⟩

variable {site after : MuxerSite} {request : MuxerCall} {answer : Except CaptureError (Option RecordingSummary)}

/-- Starting a muxer does what its call may do. -/
lemma start_makes (site : MuxerSite) (now : Nat) (file : FileHandle) (track : Track) :
    site.Makes (.start file track) (site.call now (.start file track)).1 (site.call now (.start file track)).2 := by
  unfold call
  dsimp only
  cases phase : site.muxer.phase with
  | uninitialized =>
    unfold Muxer.start
    rw [phase]
    dsimp only
    cases valid : track.validate with
    | error error => exact .refused (Track.isRefusal_of_validate valid)
    | ok =>
      dsimp only
      rcases (⟨file, site.disk⟩ : DiskFile).writeAll Recording.opening with ⟨_ | _, out⟩
      · exact .unopened phase
      · exact .started phase valid rfl
  | streaming s =>
    rw [Muxer.start, phase]
    exact .refused rfl
  | finalized =>
    rw [Muxer.start, phase]
    exact .refused rfl

/-- Adding a sample does what its call may do. -/
lemma add_makes (site : MuxerSite) (now : Nat) (sample : SampleCall) :
    site.Makes (.add sample) (site.call now (.add sample)).1 (site.call now (.add sample)).2 := by
  obtain ⟨nals, isKeyframe, brought, applied⟩ := sample.apply_eq
  unfold call
  dsimp only
  rw [applied]
  unfold Muxer.addSample
  cases phase : site.muxer.phase with
  | uninitialized => exact .refused rfl
  | finalized => exact .refused rfl
  | streaming s =>
    dsimp only
    cases unit : sample.unit? with
    | none =>
      rw [Streaming.add_rejected (brought.trans unit)]
      have same : ({ site.muxer with phase := .streaming s } : Muxer) = site.muxer := by rw [← phase]
      dsimp only
      rw [same]
      exact .refused rfl
    | some unit =>
      rcases run : s.add site.disk now site.muxer.tuning.syncEvery nals isKeyframe with ⟨answer, t, disk⟩
      rcases Streaming.add_accepted (brought.trans unit) run with ⟨rfl, indexed⟩ | ⟨error, rfl, entry⟩
      · exact .added phase unit indexed
      · exact .lost phase unit entry

/-- Finalizing a sane muxer does what its call may do. -/
lemma finalize_makes (sane : site.muxer.IsSane) (now : Nat) :
    site.Makes .finalize (site.call now .finalize).1 (site.call now .finalize).2 := by
  unfold call
  dsimp only
  cases phase : site.muxer.phase with
  | uninitialized =>
    rw [Muxer.finalize_idle (by rw [Muxer.streaming?, phase])]
    exact .refused rfl
  | finalized =>
    rw [Muxer.finalize_idle (by rw [Muxer.streaming?, phase])]
    exact .refused rfl
  | streaming s =>
    rw [Muxer.finalize_of_streaming rfl phase]
    refine .closed phase ?_
    intro error failed
    have valid := sane s (Muxer.streaming?_of_phase phase)
    rcases run : s.finalize site.disk now with ⟨result | summary, disk⟩
    all_goals rw [run] at failed
    · cases failed
      exact Streaming.finalize_not_refused valid (congrArg Prod.fst run)
    · cases failed

/-- Every call is one of the cases. -/
lemma makes (sane : site.muxer.IsSane) (now : Nat) (request : MuxerCall) :
    site.Makes request (site.call now request).1 (site.call now request).2 := by
  cases request with
  | start file track => exact start_makes site now file track
  | add sample => exact add_makes site now sample
  | finalize => exact finalize_makes sane now

/-- A recording is over once it is finalized, whatever came of that. -/
lemma finalize_ends (streaming : site.muxer.isStreaming = true) (now : Nat) :
    (site.call now .finalize).2.muxer.stage = .finalized := by
  have closed : (site.call now .finalize).2.muxer = site.muxer.closed := Muxer.finalize_closed site.disk now
  rw [closed, Muxer.closed, if_pos streaming]
  rfl

namespace Makes

/-- A call leaves a sane muxer sane. -/
lemma sane (made : site.Makes request answer after) (sane : site.muxer.IsSane) : after.muxer.IsSane := by
  intro u streaming
  cases made with
  | refused _ => exact sane u streaming
  | unopened _ => exact sane u streaming
  | started _ valid track_eq =>
    cases streaming
    rw [track_eq]
    exact valid
  | added phase _ indexed =>
    cases streaming
    have valid := sane _ (Muxer.streaming?_of_phase phase)
    rw [indexed.track_eq]
    exact valid
  | lost phase _ entry =>
    cases streaming
    have valid := sane _ (Muxer.streaming?_of_phase phase)
    rcases entry with kept | indexed
    · rw [kept.track_eq]
      exact valid
    · rw [indexed.track_eq]
      exact valid
  | closed _ _ => cases streaming

/-- A call makes one step of a muxer's life, or none. -/
lemma step (made : site.Makes request answer after) :
    after.muxer.stage = site.muxer.stage ∨ site.muxer.stage.Arrow after.muxer.stage := by
  cases made with
  | refused _ => exact .inl rfl
  | unopened _ => exact .inl rfl
  | started phase _ _ =>
    right
    rw [Muxer.stage, phase]
    exact .start
  | added phase _ _ =>
    left
    rw [Muxer.stage, Muxer.stage, phase]
  | lost phase _ _ =>
    left
    rw [Muxer.stage, Muxer.stage, phase]
  | closed phase _ =>
    right
    rw [Muxer.stage, phase]
    exact .close

/-- A call that is refused changes nothing, neither the muxer nor the disk. -/
lemma eq_of_refused {error : CaptureError} (made : site.Makes request (.error error) after)
    (refusal : error.isRefusal = true) : after = site := by
  cases made with
  | refused _ => rfl
  | unopened _ => cases refusal
  | lost _ _ _ => cases refusal
  | closed _ fine => exact absurd refusal (by rw [fine error rfl]; exact Bool.false_ne_true)

/-- A muxer that could not be started is as it was before. -/
lemma muxer_eq_of_unstarted {file : FileHandle} {track : Track} {error : CaptureError}
    (made : site.Makes (.start file track) (.error error) after) : after.muxer = site.muxer := by
  cases made with
  | refused _ => rfl
  | unopened _ => rfl

/-- A sample that was added has the last entry of the index, behind all others. -/
lemma entry {sample : SampleCall} {summary : Option RecordingSummary}
    (made : site.Makes (.add sample) (.ok summary) after) :
    ∃ unit s t, sample.unit? = some unit ∧ site.muxer.streaming? = some s ∧ after.muxer.streaming? = some t ∧
      t.samples = s.samples ++ [⟨s.stop, unit.sampleSize % 0x100000000, unit.isKeyframe⟩] ∧
      t.stop = s.stop + unit.sampleSize := by
  cases made with
  | @added _ unit s t disk phase brought indexed =>
    refine ⟨unit, s, t, brought, Muxer.streaming?_of_phase phase, rfl, ?_, indexed.stop_eq⟩
    rw [indexed.samples_eq, Streaming.samples_index]

/-- What streams before and behind a call is one recording that has gone on. -/
lemma grows {s t : Streaming} (made : site.Makes request answer after) (before : site.muxer.streaming? = some s)
    (behind : after.muxer.streaming? = some t) : s.Extends t := by
  cases made with
  | refused _ =>
    cases before.symm.trans behind
    exact .refl _
  | unopened _ =>
    cases before.symm.trans behind
    exact .refl _
  | started phase _ _ =>
    rw [Muxer.streaming?, phase] at before
    cases before
  | added phase _ indexed =>
    cases behind
    cases before.symm.trans (Muxer.streaming?_of_phase phase)
    exact (s.index_extends _ _).trans indexed.extends
  | lost phase _ entry =>
    cases behind
    cases before.symm.trans (Muxer.streaming?_of_phase phase)
    rcases entry with kept | indexed
    · exact kept.extends
    · exact (s.index_extends _ _).trans indexed.extends
  | closed _ _ => cases behind

/-- A call to a muxer that is finalized changes nothing. -/
lemma eq_of_finalized (made : site.Makes request answer after) (ended : site.muxer.stage = .finalized) :
    after = site := by
  have phase_ne : ∀ phase, site.muxer.phase = phase → phase = .finalized := by
    intro phase at_phase
    rw [Muxer.stage, at_phase] at ended
    cases phase with
    | finalized => rfl
    | uninitialized => cases ended
    | streaming s => cases ended
  cases made with
  | refused _ => rfl
  | unopened phase => cases phase_ne _ phase
  | started phase _ _ => cases phase_ne _ phase
  | added phase _ _ => cases phase_ne _ phase
  | lost phase _ _ => cases phase_ne _ phase
  | closed phase _ => cases phase_ne _ phase

end Makes

/-- Whatever happens, a sane muxer stays sane. -/
lemma perform_sane (sane : site.muxer.IsSane) (event : MuxerEvent) : (site.perform event).muxer.IsSane := by
  cases event with
  | call now request => exact (makes sane now request).sane sane
  | elsewhere disk => exact sane

/-- A muxer stays sane over all that happens. -/
lemma performAll_sane (sane : site.muxer.IsSane) (events : List MuxerEvent) :
    (site.performAll events).muxer.IsSane := by
  induction events generalizing site with
  | nil => exact sane
  | cons event rest ih => exact ih (perform_sane sane event)

/-- An event makes one step of a muxer's life, or none. -/
lemma perform_step (sane : site.muxer.IsSane) (event : MuxerEvent) :
    (site.perform event).muxer.stage = site.muxer.stage ∨
      site.muxer.stage.Arrow (site.perform event).muxer.stage := by
  cases event with
  | call now request => exact (makes sane now request).step
  | elsewhere disk => exact .inl rfl

/-- What happens to a muxer leads along its life. -/
lemma performAll_leads (sane : site.muxer.IsSane) (events : List MuxerEvent) :
    site.muxer.stage.Leads (site.performAll events).muxer.stage := by
  induction events generalizing site with
  | nil => exact .refl
  | cons event rest ih =>
    exact .trans (MuxerStage.Leads.of_step (perform_step sane event)) (ih (perform_sane sane event))

/-- A muxer that is finalized takes no part in what happens. -/
lemma perform_finalized (sane : site.muxer.IsSane) (ended : site.muxer.stage = .finalized) (event : MuxerEvent) :
    site.perform event = ⟨site.muxer, leftByOthers site.disk [event]⟩ := by
  cases event with
  | call now request => exact (makes sane now request).eq_of_finalized ended
  | elsewhere disk => rfl

/-- Once a muxer is finalized, what becomes of its disk is up to the others. -/
lemma performAll_finalized (sane : site.muxer.IsSane) (ended : site.muxer.stage = .finalized)
    (events : List MuxerEvent) : site.performAll events = ⟨site.muxer, leftByOthers site.disk events⟩ := by
  induction events generalizing site with
  | nil => rfl
  | cons event rest ih =>
    have first := perform_finalized sane ended event
    have next := @ih (site.perform event) (perform_sane sane event) (by rw [first]; exact ended)
    rw [first] at next
    exact (congrArg (performAll · rest) first).trans next

/-- What streams before and behind an event is one recording that has gone on. -/
lemma perform_grows {s t : Streaming} (sane : site.muxer.IsSane) (event : MuxerEvent)
    (before : site.muxer.streaming? = some s) (behind : (site.perform event).muxer.streaming? = some t) :
    s.Extends t := by
  cases event with
  | call now request => exact (makes sane now request).grows before behind
  | elsewhere disk =>
    cases before.symm.trans behind
    exact .refl _

/-- Between any two moments at which a muxer streams, its recording has only gone on. -/
lemma performAll_grows {s t : Streaming} (sane : site.muxer.IsSane) (events : List MuxerEvent)
    (before : site.muxer.streaming? = some s) (behind : (site.performAll events).muxer.streaming? = some t) :
    s.Extends t := by
  induction events generalizing site s with
  | nil =>
    cases before.symm.trans behind
    exact .refl _
  | cons event rest ih =>
    have sane' := perform_sane sane event
    have streams := Muxer.stage_of_streaming? before
    have leads := performAll_leads sane' rest
    rcases perform_step sane event with same | arrow
    · obtain ⟨u, between⟩ := Muxer.exists_streaming (same.trans streams)
      exact (perform_grows sane event before between).trans (ih sane' between behind)
    · -- the muxer would have to come back from its end
      rw [streams] at arrow
      generalize (site.perform event).muxer.stage = stage at arrow leads
      cases arrow
      cases (Muxer.stage_of_streaming? behind).symm.trans (MuxerStage.eq_finalized_of_leads leads)

end MuxerSite

open MuxerSite in
/-- A new muxer is called in any order, on a disk that others may change in between and that may fail in any way. Every
call leads at most one step further in its life. A call that is refused changes nothing, and a start that fails leaves
the muxer as it was. While the muxer streams, its recording stays in its place and never shrinks, and every sample that
it takes is one more. Once it is finalized, successfully or not, neither a call nor giving it up changes the disk. -/
theorem muxer_life (tuning : WriteTuning) (path : Option String) (disk : Disk) (earlier later : List MuxerEvent)
    (now : Nat) (request : MuxerCall) :
    let site := performAll ⟨{ tuning, path }, disk⟩ earlier
    let answer := (site.call now request).1
    let after := (site.call now request).2
    let last := after.performAll later
    (after.muxer.stage = site.muxer.stage ∨ site.muxer.stage.Arrow after.muxer.stage) ∧
    after.muxer.stage.Leads last.muxer.stage ∧
    (∀ error, answer = .error error → error.isRefusal = true → after = site) ∧
    (∀ file track error, request = .start file track → answer = .error error → after.muxer = site.muxer) ∧
    (∀ sample summary, request = .add sample → answer = .ok summary →
      ∃ unit s t, sample.unit? = some unit ∧ site.muxer.streaming? = some s ∧ after.muxer.streaming? = some t ∧
        t.samples = s.samples ++ [⟨s.stop, unit.sampleSize % 0x100000000, unit.isKeyframe⟩] ∧
        t.stop = s.stop + unit.sampleSize) ∧
    (∀ s t, site.muxer.streaming? = some s → last.muxer.streaming? = some t →
      t.mdatStart = s.mdatStart ∧ s.stop ≤ t.stop ∧ s.samples <+: t.samples) ∧
    (request = .finalize → site.muxer.isStreaming = true → after.muxer.stage = .finalized) ∧
    (after.muxer.stage = .finalized →
      last = ⟨after.muxer, leftByOthers after.disk later⟩ ∧ ∀ time, last.muxer.drop last.disk time = last.disk) := by
  intro site answer after last
  have new : ({ tuning, path } : Muxer).IsSane := by
    intro s streaming
    cases streaming
  have sane : site.muxer.IsSane := performAll_sane new earlier
  have made : site.Makes request answer after := makes sane now request
  have sane' : after.muxer.IsSane := made.sane sane
  refine ⟨made.step, performAll_leads sane' later, ?refused, ?unstarted, ?added, ?streaming, ?ends, ?final⟩
  case refused =>
    intro error failed refusal
    rw [failed] at made
    exact made.eq_of_refused refusal
  case unstarted =>
    rintro file track error rfl failed
    rw [failed] at made
    exact made.muxer_eq_of_unstarted
  case added =>
    rintro sample summary rfl fine
    rw [fine] at made
    exact made.entry
  case streaming =>
    intro s t before behind
    have grown := performAll_grows sane (.call now request :: later) before behind
    exact ⟨grown.mdatStart_eq, grown.stop_le, grown.grown⟩
  case ends =>
    rintro rfl streaming
    exact finalize_ends streaming now
  case final =>
    intro ended
    have at_last : last = ⟨after.muxer, leftByOthers after.disk later⟩ := performAll_finalized sane' ended later
    refine ⟨at_last, fun time => ?_⟩
    have idle : last.muxer.streaming? = none := by
      cases streaming : last.muxer.streaming? with
      | none => rfl
      | some s =>
        rw [at_last] at streaming
        cases (Muxer.stage_of_streaming? streaming).symm.trans ended
    exact congrArg (fun came => came.2.2) (Muxer.finalize_idle idle last.disk time)

open MuxerSite in
/-- The first start fails halfway and is made good; the recording cannot be completed and is over all the same. -/
example :
    let track : Track := ⟨.h264, .ofH264 [0x67, 0x42, 0x00, 0x1E] [0x68], 16, 16, 30⟩
    let start := MuxerEvent.call 0 (.start ⟨some 0, 0⟩ track)
    let disk : Disk := {
      contents := [.empty]
      faults := fun number => if number = 1 ∨ number = 5 then some .storageFull else none }
    let stage := fun events => (performAll ⟨{ tuning := {} }, disk⟩ events).muxer.stage
    stage [start] = .uninitialized ∧ stage [start, start] = .streaming ∧
      stage [start, start, .call 0 .finalize] = .finalized ∧
      stage [start, start, .call 0 .finalize, start] = .finalized := by
  decide +kernel

end VideoCapture
