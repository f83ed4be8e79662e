import VideoCapture.Proofs.Bitstream.NalUnit
import VideoCapture.Proofs.Recording.Streaming
import VideoCapture.Splitter

/-!
# What a splitter makes of a buffer

The access unit of a buffer depends on the buffer alone (`AccessUnit.ofBuffer`): it has the NAL units that
are no parameter sets, and is a keyframe if one of them refreshes the decoder.
-/

namespace VideoCapture

namespace Codec

/-- Whether a NAL unit is a parameter set. -/
def isSet (codec : Codec) (nal : Bytes) : Bool :=
  match codec.kindOf nal with
  | .parameterSet _ => true
  | _ => false

/-- Whether a NAL unit refreshes the decoder. -/
def refreshes (codec : Codec) (nal : Bytes) : Bool :=
  codec.kindOf nal = .refresh

end Codec

/-- The access unit in a capture buffer. -/
def AccessUnit.ofBuffer (codec : Codec) (buffer : Bytes) : AccessUnit where
  nals := (NalUnit.payloads buffer).filter fun nal => !codec.isSet nal
  isKeyframe := (NalUnit.payloads buffer).any codec.refreshes

/-- All of an access unit is recorded, unless there is nothing to record. -/
lemma AccessUnit.ofNals?_ofBuffer (codec : Codec) (buffer : Bytes) (isKeyframe : Bool) :
    AccessUnit.ofNals? (ofBuffer codec buffer).nals isKeyframe =
      if (ofBuffer codec buffer).isEmpty then none else some ⟨(ofBuffer codec buffer).nals, isKeyframe⟩ := by
  have no_empty : [] ∉ (ofBuffer codec buffer).nals :=
    fun inside => NalUnit.ne_nil_of_mem_payloads (List.mem_filter.mp inside).1 rfl
  rw [ofNals?, filter_of_no_empty no_empty, AccessUnit.isEmpty]

namespace Splitter

variable (codec : Codec) (repeatSets : Bool)

/-- What is delivered for one NAL unit. -/
def delivered (sets : ParameterSets) (nal : Bytes) : List Bytes :=
  if codec.refreshes nal then repeatedSets codec repeatSets sets ++ [nal] else [nal]

/-- The parameter sets that are remembered behind one NAL unit. -/
def remembered (sets : ParameterSets) (nal : Bytes) : ParameterSets :=
  match codec.kindOf nal with
  | .parameterSet kind => sets.put kind nal
  | _ => sets

/-- Whether a NAL unit is a parameter set other than the one that is remembered for its kind. -/
def announces (sets : ParameterSets) (nal : Bytes) : Bool :=
  match codec.kindOf nal with
  | .parameterSet kind => sets.changedBy kind nal
  | _ => false

/-- What the first of some NAL units adds to the split of the others. -/
lemma splitUnits_cons (sets : ParameterSets) (nal : Bytes) (rest : List Bytes) :
    let first := splitUnits codec repeatSets sets (nal :: rest)
    let others := splitUnits codec repeatSets (remembered codec sets nal) rest
    first.1.units = delivered codec repeatSets sets nal ++ others.1.units ∧
      first.1.accessUnit = ⟨([nal].filter fun nal => !codec.isSet nal) ++ others.1.accessUnit.nals,
        codec.refreshes nal || others.1.accessUnit.isKeyframe⟩ ∧
      first.2 = others.2 := by
  intro first others
  -- a set is remembered, a refresh may repeat the sets, and anything else passes
  cases kind : codec.kindOf nal with
  | parameterSet which =>
    have set : codec.isSet nal = true := by rw [Codec.isSet, kind]
    have quiet : codec.refreshes nal = false := by rw [Codec.refreshes, kind]; rfl
    have after : remembered codec sets nal = sets.put which nal := by rw [remembered, kind]
    simp only [first, others, splitUnits, kind, delivered, after, quiet]
    rw [List.filter_cons_of_neg (by simp [set])]
    exact ⟨rfl, rfl, trivial⟩
  | refresh =>
    have no_set : codec.isSet nal = false := by rw [Codec.isSet, kind]
    have refreshing : codec.refreshes nal = true := by rw [Codec.refreshes, kind]; rfl
    have after : remembered codec sets nal = sets := by rw [remembered, kind]
    simp only [first, others, splitUnits, kind, delivered, after, refreshing]
    rw [List.filter_cons_of_pos (by simp [no_set]), if_pos trivial, List.append_assoc]
    exact ⟨rfl, rfl, trivial⟩
  | slice | other =>
    have no_set : codec.isSet nal = false := by rw [Codec.isSet, kind]
    have quiet : codec.refreshes nal = false := by rw [Codec.refreshes, kind]; rfl
    have after : remembered codec sets nal = sets := by rw [remembered, kind]
    simp only [first, others, splitUnits, kind, delivered, after, quiet]
    rw [List.filter_cons_of_pos (by simp [no_set])]
    exact ⟨rfl, rfl, trivial⟩

/-- What is recorded of some NAL units does not depend on what came before them. -/
lemma splitUnits_accessUnit (sets : ParameterSets) (nals : List Bytes) :
    (splitUnits codec repeatSets sets nals).1.accessUnit =
      ⟨nals.filter fun nal => !codec.isSet nal, nals.any codec.refreshes⟩ := by
  induction nals generalizing sets with
  | nil => rfl
  | cons nal rest ih =>
    rw [(splitUnits_cons codec repeatSets sets nal rest).2.1, ih, ← List.filter_append, List.singleton_append,
      List.any_cons]

/-- NAL units may be split in two parts, one after the other. -/
lemma splitUnits_append (sets : ParameterSets) (one two : List Bytes) :
    let first := splitUnits codec repeatSets sets one
    let second := splitUnits codec repeatSets first.2 two
    (splitUnits codec repeatSets sets (one ++ two)).1.units = first.1.units ++ second.1.units ∧
      (splitUnits codec repeatSets sets (one ++ two)).2 = second.2 := by
  induction one generalizing sets with
  | nil => exact ⟨rfl, rfl⟩
  | cons nal rest ih =>
    intro first second
    obtain ⟨units, -, after⟩ := splitUnits_cons codec repeatSets sets nal rest
    obtain ⟨units', -, after'⟩ := splitUnits_cons codec repeatSets sets nal (rest ++ two)
    obtain ⟨units'', after''⟩ := ih (remembered codec sets nal)
    refine ⟨?_, ?_⟩
    · simp only [first, second]
      rw [List.cons_append, units', units'', units, after, List.append_assoc]
    · simp only [first, second]
      rw [List.cons_append, after', after'', after]

/-- The sets are changed by the first unit, or by the others behind it. -/
lemma splitUnits_setsChanged_cons (sets : ParameterSets) (nal : Bytes) (rest : List Bytes) :
    (splitUnits codec repeatSets sets (nal :: rest)).1.setsChanged =
      (announces codec sets nal ||
        (splitUnits codec repeatSets (remembered codec sets nal) rest).1.setsChanged) := by
  rw [splitUnits, announces, remembered]
  cases codec.kindOf nal with
  | parameterSet kind => exact rfl
  | refresh | slice | other => exact rfl

/-- Some parameter set is news in one of two parts, or none is in both. -/
lemma splitUnits_setsChanged_append (sets : ParameterSets) (one two : List Bytes) :
    (splitUnits codec repeatSets sets (one ++ two)).1.setsChanged =
      ((splitUnits codec repeatSets sets one).1.setsChanged ||
        (splitUnits codec repeatSets (splitUnits codec repeatSets sets one).2 two).1.setsChanged) := by
  induction one generalizing sets with
  | nil => exact rfl
  | cons nal rest ih =>
    obtain ⟨-, -, after⟩ := splitUnits_cons codec repeatSets sets nal rest
    rw [List.cons_append, splitUnits_setsChanged_cons, splitUnits_setsChanged_cons, ih, after, Bool.or_assoc]

variable (splitter : Splitter) (buffer : Bytes)

/-- The split of a buffer is that of its payloads. -/
lemma split_frame : (splitter.split buffer).1 =
    (splitUnits splitter.codec splitter.repeatSets splitter.sets (NalUnit.payloads buffer)).1 := by
  unfold split
  dsimp only
  split <;> rfl

/-- A splitter remembers what the payloads of a buffer leave. -/
lemma split_sets : (splitter.split buffer).2.sets =
    (splitUnits splitter.codec splitter.repeatSets splitter.sets (NalUnit.payloads buffer)).2 := by
  unfold split
  dsimp only
  split <;> rfl

/-- A split changes no codec. -/
@[simp] lemma split_codec : (splitter.split buffer).2.codec = splitter.codec := by
  unfold split
  dsimp only
  split <;> rfl

/-- A split does not change whether sets are repeated. -/
@[simp] lemma split_repeatSets : (splitter.split buffer).2.repeatSets = splitter.repeatSets := by
  unfold split
  dsimp only
  split <;> rfl

/-- The access unit of a split is that of the buffer. -/
@[simp] lemma split_accessUnit :
    (splitter.split buffer).1.accessUnit = AccessUnit.ofBuffer splitter.codec buffer := by
  rw [split_frame, splitUnits_accessUnit]
  rfl

end Splitter

end VideoCapture
