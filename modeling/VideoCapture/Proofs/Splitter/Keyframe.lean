import VideoCapture.Proofs.Splitter.Joining

/-!
# The last keyframe

A splitter keeps the latest key picture as a byte stream for those who join late. The stream needs nothing that came
before it: it reads back as the sets that were remembered behind the picture, if they were complete, and the units of the
picture, and a splitter that never saw anything else comes to the same picture and the same sets
(`keyframe_selfContained`).
-/

namespace VideoCapture

/-- A unit that refreshes the decoder is no parameter set. -/
lemma Codec.not_isSet_of_refreshes {codec : Codec} {nal : Bytes} (refreshing : codec.refreshes nal = true) :
    codec.isSet nal = false := by
  rw [isSet, of_decide_eq_true refreshing]

namespace Splitter

variable {codec : Codec} {sets : ParameterSets} {unit : AccessUnit}

/-- The stream of a key picture is made of units, just as it would be delivered. -/
lemma keyframeStream_eq (codec : Codec) (sets : ParameterSets) (unit : AccessUnit) :
    keyframeStream codec sets unit = NalUnit.annexB (repeatedSets codec true sets ++ unit.nals) := by
  have laid : (sets.annexB codec).toOption.getD [] = NalUnit.annexB (repeatedSets codec true sets) := by
    rw [ParameterSets.annexB, repeatedSets, if_pos rfl]
    cases sets.ordered codec <;> exact rfl
  rw [keyframeStream, laid, AccessUnit.toAnnexB, NalUnit.annexB, NalUnit.annexB, NalUnit.annexB, List.flatMap_append]

/-- The stream of a keyframe holds the repeated sets and the units of the keyframe. -/
lemma payloads_keyframeStream (cached : sets.Cached codec) (fit : ∀ nal ∈ unit.nals, NalUnit.IsPayload nal) :
    NalUnit.payloads (keyframeStream codec sets unit) = repeatedSets codec true sets ++ unit.nals := by
  rw [keyframeStream_eq]
  apply NalUnit.payloads_annexB
  intro nal inside
  rcases List.mem_append.mp inside with repeated | recorded
  · exact (conveys_repeatedSets cached).fit nal repeated
  · exact fit nal recorded

/-- The NAL units of a buffer's access unit are payloads. -/
lemma fit_ofBuffer (codec : Codec) (buffer : Bytes) :
    ∀ nal ∈ (AccessUnit.ofBuffer codec buffer).nals, NalUnit.IsPayload nal := by
  intro nal inside
  exact NalUnit.isPayload_of_mem (List.mem_filter.mp inside).1

/-- A key picture is the access unit in its own stream. -/
lemma ofBuffer_keyframeStream (cached : sets.Cached codec) (buffer : Bytes) :
    AccessUnit.ofBuffer codec (keyframeStream codec sets (AccessUnit.ofBuffer codec buffer)) =
      AccessUnit.ofBuffer codec buffer := by
  have repeated := conveys_repeatedSets cached
  have payloads := payloads_keyframeStream cached (fit_ofBuffer codec buffer)
  -- the sets in front are not recorded and refresh nothing
  have nals : ((NalUnit.payloads (keyframeStream codec sets (AccessUnit.ofBuffer codec buffer))).filter
      fun nal => !codec.isSet nal) = (AccessUnit.ofBuffer codec buffer).nals := by
    rw [payloads, List.filter_append, repeated.pictures, List.filter_nil, List.nil_append, AccessUnit.ofBuffer,
      List.filter_filter]
    simp only [Bool.and_self]
  have refreshing : (NalUnit.payloads (keyframeStream codec sets (AccessUnit.ofBuffer codec buffer))).any
      codec.refreshes = (AccessUnit.ofBuffer codec buffer).isKeyframe := by
    rw [payloads, List.any_append, repeated.refreshing, List.any_nil, Bool.false_or, AccessUnit.ofBuffer,
      List.any_filter]
    congr 1
    funext nal
    cases refreshing : codec.refreshes nal with
    | false => exact Bool.and_false _
    | true => rw [Codec.not_isSet_of_refreshes refreshing, Bool.and_true, Bool.not_false]
  rw [AccessUnit.ofBuffer, nals, refreshing]

/-- Units that are no parameter sets leave what is remembered as it is. -/
lemma foldl_pictures (sets : ParameterSets) {nals : List Bytes} (pictures : ∀ nal ∈ nals, codec.isSet nal = false) :
    nals.foldl (remembered codec) sets = sets := by
  induction nals generalizing sets with
  | nil => exact rfl
  | cons nal rest ih =>
    obtain ⟨picture, pictures⟩ := List.forall_mem_cons.mp pictures
    have kept : remembered codec sets nal = sets := by
      unfold remembered
      split
      · rename_i kind is_set
        rw [Codec.isSet, is_set] at picture
        cases picture
      · exact rfl
    rw [List.foldl_cons, kept, ih sets pictures]

/-- Complete sets are what a fresh splitter remembers behind the stream. -/
lemma sets_keyframeStream (cached : sets.Cached codec) (complete : sets.isComplete codec = true) (repeatSets : Bool)
    (buffer : Bytes) :
    (split { codec, repeatSets } (keyframeStream codec sets (AccessUnit.ofBuffer codec buffer))).2.sets = sets := by
  rw [split_sets, splitUnits_sets, payloads_keyframeStream cached (fit_ofBuffer codec buffer), List.foldl_append,
    foldl_repeatedSets cached (ParameterSets.cached_empty codec) complete]
  apply foldl_pictures
  intro nal inside
  simpa using (List.mem_filter.mp inside).2

/-- A splitter keeps the stream of the last keyframe. -/
lemma split_lastKeyframe (splitter : Splitter) (buffer : Bytes) :
    (splitter.split buffer).2.lastKeyframe =
      if (AccessUnit.ofBuffer splitter.codec buffer).isKeyframe then
        some (keyframeStream splitter.codec (splitter.split buffer).2.sets
          (AccessUnit.ofBuffer splitter.codec buffer))
      else splitter.lastKeyframe := by
  rw [split_sets, ← split_accessUnit, split_frame]
  unfold split
  dsimp only
  split <;> rfl

/-- Buffers change no codec. -/
lemma run_codec (splitter : Splitter) (buffers : List Bytes) : (splitter.run buffers).2.codec = splitter.codec := by
  induction buffers generalizing splitter with
  | nil => exact rfl
  | cons buffer rest ih => exact (ih _).trans (splitter.split_codec buffer)

/-- Sets stay cached over all buffers. -/
lemma run_cached (splitter : Splitter) (cached : splitter.sets.Cached splitter.codec) (buffers : List Bytes) :
    (splitter.run buffers).2.sets.Cached splitter.codec := by
  induction buffers generalizing splitter with
  | nil => exact cached
  | cons buffer rest ih =>
    have next := ih (splitter.split buffer).2
    rw [split_codec, split_sets, splitUnits_sets] at next
    exact next (cached_foldl cached fun _ => NalUnit.isPayload_of_mem)

/-- There is no last key picture as long as none came. -/
lemma run_lastKeyframe_eq_none_iff (splitter : Splitter) (buffers : List Bytes) :
    (splitter.run buffers).2.lastKeyframe = none ↔
      splitter.lastKeyframe = none ∧
        ∀ buffer ∈ buffers, (AccessUnit.ofBuffer splitter.codec buffer).isKeyframe = false := by
  induction buffers generalizing splitter with
  | nil => exact (and_iff_left (List.forall_mem_nil _)).symm
  | cons buffer rest ih =>
    have next := ih (splitter.split buffer).2
    rw [split_codec, split_lastKeyframe] at next
    rw [List.forall_mem_cons]
    refine next.trans ?_
    cases (AccessUnit.ofBuffer splitter.codec buffer).isKeyframe with
    | true => exact ⟨fun impossible => (by cases impossible.1), fun impossible => (by cases impossible.2.1)⟩
    | false => exact ⟨fun ⟨none_before, others⟩ => ⟨none_before, rfl, others⟩, fun ⟨none_before, _, others⟩ =>
        ⟨none_before, others⟩⟩

/-- Buffers without a key picture leave the last one as it is. -/
lemma run_lastKeyframe_of_keyless (splitter : Splitter) {buffers : List Bytes}
    (keyless : ∀ buffer ∈ buffers, (AccessUnit.ofBuffer splitter.codec buffer).isKeyframe = false) :
    (splitter.run buffers).2.lastKeyframe = splitter.lastKeyframe := by
  induction buffers generalizing splitter with
  | nil => exact rfl
  | cons buffer rest ih =>
    obtain ⟨no_key, keyless⟩ := List.forall_mem_cons.mp keyless
    have kept : (splitter.split buffer).2.lastKeyframe = splitter.lastKeyframe := by
      rw [split_lastKeyframe, no_key, if_neg Bool.false_ne_true]
    refine (ih (splitter.split buffer).2 ?_).trans kept
    rw [split_codec]
    exact keyless

/-- Behind the latest key picture, its stream is what is kept. -/
lemma run_lastKeyframe_of_key (splitter : Splitter) (before : List Bytes) {key : Bytes} {behind : List Bytes}
    (is_key : (AccessUnit.ofBuffer splitter.codec key).isKeyframe = true)
    (keyless : ∀ buffer ∈ behind, (AccessUnit.ofBuffer splitter.codec buffer).isKeyframe = false) :
    (splitter.run (before ++ key :: behind)).2.lastKeyframe =
      some (keyframeStream splitter.codec (splitter.run (before ++ [key])).2.sets
        (AccessUnit.ofBuffer splitter.codec key)) := by
  rw [(run_append splitter before (key :: behind)).1, (run_append splitter before [key]).1]
  have codec_eq := run_codec splitter before
  generalize (splitter.run before).2 = reached at *
  rw [← codec_eq] at is_key keyless ⊢
  have kept := @run_lastKeyframe_of_keyless (reached.split key).2 behind (by rwa [split_codec])
  refine Eq.trans kept ?_
  rw [split_lastKeyframe, is_key, if_pos rfl]
  exact rfl

end Splitter

open Splitter

/-- A splitter has a last keyframe once a buffer with a refresh unit came. What it keeps of the latest such buffer reads
back as the sets that were remembered behind it, if they were complete, followed by the units of its access unit. A fresh
splitter that gets nothing else makes the same access unit of it, and remembers the same sets if they were complete. -/
theorem keyframe_selfContained (codec : Codec) (repeatSets : Bool) (buffers : List Bytes) :
    let splitter : Splitter := { codec, repeatSets }
    let last := (splitter.run buffers).2.lastKeyframe
    (last = none ↔ ∀ buffer ∈ buffers, (NalUnit.payloads buffer).any codec.refreshes = false) ∧
      ∀ before key behind, buffers = before ++ key :: behind →
        (NalUnit.payloads key).any codec.refreshes = true →
        (∀ buffer ∈ behind, (NalUnit.payloads buffer).any codec.refreshes = false) →
        let unit := ((splitter.run before).2.split key).1.accessUnit
        let sets := (splitter.run (before ++ [key])).2.sets
        ∃ stream, last = some stream ∧
          NalUnit.payloads stream =
            (if sets.isComplete codec then codec.requiredSets.filterMap sets.get? else []) ++ unit.nals ∧
          ∀ repeated, let fresh := split { codec, repeatSets := repeated } stream
            fresh.1.accessUnit = unit ∧ unit.isKeyframe = true ∧
              (sets.isComplete codec = true → fresh.2.sets = sets) := by
  intro splitter last
  constructor
  · exact (splitter.run_lastKeyframe_eq_none_iff buffers).trans (and_iff_right rfl)
  · intro before key behind parted is_key keyless unit sets
    have unit_eq : unit = AccessUnit.ofBuffer codec key :=
      (split_accessUnit _ key).trans (congrArg (AccessUnit.ofBuffer · key) (splitter.run_codec before))
    have cached : sets.Cached codec := splitter.run_cached (ParameterSets.cached_empty codec) _
    have kept : last = some (keyframeStream codec sets unit) := by
      simp only [last, parted, unit_eq]
      exact splitter.run_lastKeyframe_of_key before is_key keyless
    refine ⟨_, kept, ?_, ?_⟩
    · rw [← repeatedSets_eq, unit_eq]
      exact payloads_keyframeStream cached (fit_ofBuffer codec key)
    · intro repeated fresh
      simp only [fresh, unit_eq]
      refine ⟨?_, is_key, ?_⟩
      · rw [split_accessUnit]
        exact ofBuffer_keyframeStream cached key
      · exact fun complete => sets_keyframeStream cached complete repeated key

/-- A splitter keeps its key picture while a slice and a new set come behind it. The stream of the picture has the sets
that were remembered when it came. -/
theorem keyframe_selfContained_two_buffers :
    let sps : Bytes := [0x67, 0x64, 0x00, 0x28]
    let pps : Bytes := [0x68, 0xEE, 0x3C, 0x80]
    let key : Bytes := [0x65, 0x88, 0x84, 0x21]
    let buffers := [NalUnit.annexB [sps, key, pps], NalUnit.annexB [[0x41, 0x9A], [0x68, 0xFF]]]
    ∃ stream, (Splitter.run { codec := .h264 } buffers).2.lastKeyframe = some stream ∧
      NalUnit.payloads stream = [sps, pps, key] ∧
      (split { codec := .h264 } stream).1.accessUnit = ⟨[key], true⟩ ∧
      (split { codec := .h264 } stream).2.sets = .ofH264 sps pps := by
  intro sps pps key buffers
  obtain ⟨-, latest⟩ := keyframe_selfContained .h264 false buffers
  obtain ⟨stream, kept, payloads, fresh⟩ := latest [] (NalUnit.annexB [sps, key, pps])
    [NalUnit.annexB [[0x41, 0x9A], [0x68, 0xFF]]] rfl (by decide +kernel) (by decide +kernel)
  obtain ⟨unit, -, sets⟩ := fresh false
  refine ⟨stream, kept, payloads.trans ?_, unit.trans ?_, (sets ?_).trans ?_⟩ <;> decide +kernel

end VideoCapture
