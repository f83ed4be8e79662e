import VideoCapture.Proofs.Splitter.Keyframe

/-!
# What a splitter has seen

The NAL units that a splitter has seen so far are its history. All that it remembers and does is said here by that
history: the set of a kind is the last unit of that kind, sets are repeated in front of a refresh unit as the history up
to that unit has them, and a set is news if the history up to it has another one (`split_by_history`).
-/

namespace VideoCapture

namespace Codec

/-- The last parameter set of a kind in a history. -/
def lastSet? (codec : Codec) (kind : ParameterSetKind) (history : List Bytes) : Option Bytes :=
  (history.filter fun nal => codec.kindOf nal = .parameterSet kind).getLast?

/-- What is delivered in front of a NAL unit, by the history up to it: if sets are to be repeated and the unit
refreshes the decoder, the last set of each kind that is needed, once there is one of each. -/
def inFront (codec : Codec) (repeatSets : Bool) (history : List Bytes) (nal : Bytes) : List Bytes :=
  if repeatSets ∧ codec.kindOf nal = .refresh ∧ ∀ kind ∈ codec.requiredSets, (codec.lastSet? kind history).isSome then
    codec.requiredSets.filterMap fun kind => codec.lastSet? kind history
  else []

variable {codec : Codec} {kind : ParameterSetKind}

/-- The last set of a kind is in the rest of the units, or else it is the first one. -/
lemma lastSet?_cons (nal : Bytes) (rest : List Bytes) : codec.lastSet? kind (nal :: rest) =
    (codec.lastSet? kind rest).or (if codec.kindOf nal = .parameterSet kind then some nal else none) := by
  unfold lastSet?
  by_cases is_set : codec.kindOf nal = .parameterSet kind
  · rw [if_pos is_set, List.filter_cons_of_pos (by simpa using is_set), List.getLast?_cons]
    cases ((rest.filter fun nal => codec.kindOf nal = .parameterSet kind).getLast?) <;> exact rfl
  · rw [if_neg is_set, List.filter_cons_of_neg (by simpa using is_set), Option.or_none]

end Codec

namespace ParameterSets

variable {codec : Codec} {sets : ParameterSets}

/-- A set that was taken from a stream is not empty, so it is usable. -/
lemma Cached.get?_eq (cached : Cached codec sets) (kind : ParameterSetKind) : sets.get? kind = sets.slot kind := by
  unfold get?
  cases stored : sets.slot kind with
  | none => exact rfl
  | some nal =>
    obtain ⟨-, some_byte, -⟩ := cached kind nal stored
    exact Option.filter_eq_some_iff.mpr ⟨rfl, by simpa using some_byte⟩

/-- Sets are complete when there is one of each kind that is needed. -/
lemma isComplete_iff : sets.isComplete codec = true ↔ ∀ kind ∈ codec.requiredSets, (sets.get? kind).isSome = true := by
  unfold isComplete missing?
  rw [Option.isNone_iff_eq_none, List.find?_eq_none]
  simp only [Bool.not_eq_true, Option.isNone_eq_false_iff]

end ParameterSets

namespace Splitter

variable {codec : Codec} {repeatSets : Bool} {sets : ParameterSets} {history nals : List Bytes}

/-- The sets that are remembered behind a history. -/
def storedBy (codec : Codec) (history : List Bytes) : ParameterSets :=
  history.foldl (remembered codec) {}

/-- A NAL unit fills the slot of its own kind, and leaves the others. -/
lemma slot_remembered (sets : ParameterSets) (nal : Bytes) (kind : ParameterSetKind) :
    (remembered codec sets nal).slot kind =
      (if codec.kindOf nal = .parameterSet kind then some nal else none).or (sets.slot kind) := by
  unfold remembered
  split
  · rename_i which is_set
    rw [is_set]
    by_cases same : kind = which
    · subst same
      rw [if_pos rfl]
      exact ParameterSets.slot_setSlot_self _ _ _
    · rw [if_neg (fun equal => same (NalKind.parameterSet.inj equal).symm)]
      exact ParameterSets.slot_setSlot_of_ne _ same _
  · rename_i no_set
    rw [if_neg (no_set kind)]
    exact rfl

/-- A slot has the last set of its kind, or else what it had before. -/
lemma slot_foldl (sets : ParameterSets) (history : List Bytes) (kind : ParameterSetKind) :
    (history.foldl (remembered codec) sets).slot kind = (codec.lastSet? kind history).or (sets.slot kind) := by
  induction history generalizing sets with
  | nil => exact rfl
  | cons nal rest ih => rw [List.foldl_cons, ih, slot_remembered, Codec.lastSet?_cons, Option.or_assoc]

/-- What is stored under a kind is the last set of that kind. -/
lemma slot_storedBy (codec : Codec) (history : List Bytes) (kind : ParameterSetKind) :
    (storedBy codec history).slot kind = codec.lastSet? kind history := by
  have empty : ({} : ParameterSets).slot kind = none := by cases kind <;> exact rfl
  rw [storedBy, slot_foldl, empty, Option.or_none]

/-- The sets behind a longer history come from those behind its first part. -/
lemma storedBy_append (codec : Codec) (history more : List Bytes) :
    storedBy codec (history ++ more) = more.foldl (remembered codec) (storedBy codec history) :=
  List.foldl_append

/-- The sets behind one more NAL unit come from those before it. -/
lemma storedBy_concat (codec : Codec) (history : List Bytes) (nal : Bytes) :
    storedBy codec (history ++ [nal]) = remembered codec (storedBy codec history) nal :=
  storedBy_append codec history [nal]

/-- The sets that a stream leaves were taken from it. -/
lemma cached_storedBy (fit : ∀ nal ∈ history, NalUnit.IsPayload nal) : (storedBy codec history).Cached codec :=
  cached_foldl (ParameterSets.cached_empty codec) fit

/-- What is repeated in front of a refresh unit follows from the history. -/
lemma repeatedSets_storedBy (fit : ∀ nal ∈ history, NalUnit.IsPayload nal) :
    repeatedSets codec true (storedBy codec history) =
      if ∀ kind ∈ codec.requiredSets, (codec.lastSet? kind history).isSome then
        codec.requiredSets.filterMap fun kind => codec.lastSet? kind history
      else [] := by
  have usable : ∀ kind, (storedBy codec history).get? kind = codec.lastSet? kind history :=
    fun kind => ((cached_storedBy fit).get?_eq kind).trans (slot_storedBy codec history kind)
  have get?_eq : (storedBy codec history).get? = fun kind => codec.lastSet? kind history := funext usable
  rw [repeatedSets_eq, get?_eq]
  simp only [ParameterSets.isComplete_iff, usable]

/-- What is delivered for a NAL unit is the sets that its history calls for, and the unit itself. -/
lemma delivered_storedBy (repeatSets : Bool) (fit : ∀ nal ∈ history, NalUnit.IsPayload nal) (nal : Bytes) :
    delivered codec repeatSets (storedBy codec history) nal = codec.inFront repeatSets history nal ++ [nal] := by
  unfold delivered Codec.inFront
  by_cases refreshing : codec.kindOf nal = .refresh
  · have refreshes : codec.refreshes nal = true := decide_eq_true refreshing
    rw [refreshes, if_pos rfl]
    cases repeatSets with
    | false => exact rfl
    | true =>
      rw [repeatedSets_storedBy fit]
      simp only [refreshing, true_and]
  · have quiet : codec.refreshes nal = false := decide_eq_false refreshing
    rw [quiet, if_neg Bool.false_ne_true, if_neg (fun repeated => refreshing repeated.2.1), List.nil_append]

/-- The units that are delivered for a buffer, by the history up to each of its units. -/
lemma units_storedBy (repeatSets : Bool) (fit : ∀ nal ∈ history ++ nals, NalUnit.IsPayload nal) :
    (splitUnits codec repeatSets (storedBy codec history) nals).1.units =
      (nals.mapIdx fun i nal => codec.inFront repeatSets (history ++ nals.take i) nal ++ [nal]).flatten := by
  induction nals generalizing history with
  | nil => exact rfl
  | cons nal rest ih =>
    obtain ⟨units, -, -⟩ := splitUnits_cons codec repeatSets (storedBy codec history) nal rest
    obtain ⟨fit_history, -⟩ := List.forall_mem_append.mp fit
    -- the unit belongs to the history of those behind it
    rw [List.append_cons] at fit
    rw [units, delivered_storedBy repeatSets fit_history, ← storedBy_concat, ih fit, List.mapIdx_cons, List.flatten_cons,
      List.take_zero, List.append_nil]
    simp only [List.take_succ_cons, List.append_assoc, List.singleton_append]

/-- A NAL unit is news when it is a set other than the last one of its kind. -/
lemma announces_storedBy (codec : Codec) (history : List Bytes) (nal : Bytes) :
    announces codec (storedBy codec history) nal = true ↔
      ∃ kind, codec.kindOf nal = .parameterSet kind ∧ codec.lastSet? kind history ≠ some nal := by
  unfold announces
  cases is_set : codec.kindOf nal with
  | parameterSet kind =>
    dsimp only
    rw [ParameterSets.changedBy, slot_storedBy, bne_iff_ne]
    constructor
    · exact fun news => ⟨kind, rfl, news⟩
    · rintro ⟨_, same, news⟩
      cases same
      exact news
  | refresh | slice | other => exact ⟨nofun, fun ⟨_, impossible, _⟩ => (by cases impossible)⟩

/-- A buffer changes the sets exactly if one of its units is a set other than the last one of its kind. -/
lemma setsChanged_storedBy (codec : Codec) (repeatSets : Bool) (history nals : List Bytes) :
    (splitUnits codec repeatSets (storedBy codec history) nals).1.setsChanged = true ↔
      ∃ i nal kind, nals[i]? = some nal ∧ codec.kindOf nal = .parameterSet kind ∧
        codec.lastSet? kind (history ++ nals.take i) ≠ some nal := by
  induction nals generalizing history with
  | nil => exact ⟨nofun, fun ⟨_, _, _, impossible, _⟩ => (by cases impossible)⟩
  | cons nal rest ih =>
    rw [splitUnits_setsChanged_cons, Bool.or_eq_true, announces_storedBy, ← storedBy_concat, ih]
    constructor
    · rintro (⟨kind, is_set, news⟩ | ⟨i, other, kind, there, is_set, news⟩)
      · exact ⟨0, nal, kind, rfl, is_set, by rwa [List.take_zero, List.append_nil]⟩
      · exact ⟨i + 1, other, kind, there, is_set, by rwa [List.take_succ_cons, List.append_cons]⟩
    · rintro ⟨i, other, kind, there, is_set, news⟩
      cases i with
      | zero =>
        cases there
        rw [List.take_zero, List.append_nil] at news
        exact .inl ⟨kind, is_set, news⟩
      | succ i =>
        rw [List.take_succ_cons, List.append_cons] at news
        exact .inr ⟨i, other, kind, there, is_set, news⟩

/-- A splitter remembers what all payloads of its buffers leave. -/
lemma run_sets (splitter : Splitter) (buffers : List Bytes) :
    (splitter.run buffers).2.sets =
      (buffers.flatMap NalUnit.payloads).foldl (remembered splitter.codec) splitter.sets := by
  induction buffers generalizing splitter with
  | nil => exact rfl
  | cons buffer rest ih =>
    refine (ih (splitter.split buffer).2).trans ?_
    rw [split_codec, split_sets, splitUnits_sets, List.flatMap_cons, List.foldl_append]

/-- Buffers do not change whether sets are repeated. -/
lemma run_repeatSets (splitter : Splitter) (buffers : List Bytes) :
    (splitter.run buffers).2.repeatSets = splitter.repeatSets := by
  induction buffers generalizing splitter with
  | nil => exact rfl
  | cons buffer rest ih => exact (ih _).trans (splitter.split_repeatSets buffer)

/-- A splitter counts each buffer, and each one with a keyframe. -/
lemma split_counts (splitter : Splitter) (buffer : Bytes) :
    (splitter.split buffer).2.frames = splitter.frames + 1 ∧
      (splitter.split buffer).2.keyframes =
        splitter.keyframes + if (AccessUnit.ofBuffer splitter.codec buffer).isKeyframe then 1 else 0 := by
  rw [← split_accessUnit, split_frame]
  unfold split
  dsimp only
  split <;> exact ⟨rfl, rfl⟩

/-- A splitter counts the buffers and the key pictures among them. -/
lemma run_counts (splitter : Splitter) (buffers : List Bytes) :
    (splitter.run buffers).2.frames = splitter.frames + buffers.length ∧
      (splitter.run buffers).2.keyframes = splitter.keyframes +
        buffers.countP fun buffer => (AccessUnit.ofBuffer splitter.codec buffer).isKeyframe := by
  induction buffers generalizing splitter with
  | nil => exact ⟨rfl, rfl⟩
  | cons buffer rest ih =>
    obtain ⟨frames, keyframes⟩ := ih (splitter.split buffer).2
    obtain ⟨one, key⟩ := splitter.split_counts buffer
    rw [split_codec] at keyframes
    refine ⟨frames.trans ?_, keyframes.trans ?_⟩
    · rw [one, List.length_cons, Nat.add_assoc, Nat.add_comm 1]
    · rw [key, List.countP_cons, ← Nat.add_assoc, Nat.add_right_comm]

end Splitter

open Splitter

/-- A splitter has taken some capture buffers and takes one more. Behind it, the set of each kind is the last unit of
that kind in all of them, which is a whole unit of a stream. The units of the buffer are delivered in order, with nothing
but the sets in front of refresh units added; its access unit is what is no parameter set; and it changes the sets if
it brings one that is not the last one of its kind at that point. -/
theorem split_by_history (codec : Codec) (repeatSets : Bool) (earlier : List Bytes) (buffer : Bytes) :
    let before := (Splitter.run { codec, repeatSets } earlier).2
    let history := earlier.flatMap NalUnit.payloads
    let nals := NalUnit.payloads buffer
    let frame := (before.split buffer).1
    let after := (before.split buffer).2
    (∀ kind, after.sets.slot kind = codec.lastSet? kind (history ++ nals)) ∧
      (∀ kind nal, after.sets.slot kind = some nal →
        nal ≠ [] ∧ ¬StartCode.short <:+: nal ∧ codec.kindOf nal = .parameterSet kind) ∧
      frame.units = (nals.mapIdx fun i nal => codec.inFront repeatSets (history ++ nals.take i) nal ++ [nal]).flatten ∧
      frame.accessUnit.nals = nals.filter (fun nal => !codec.isSet nal) ∧
      (frame.accessUnit.isKeyframe = true ↔ ∃ nal ∈ nals, codec.kindOf nal = .refresh) ∧
      (frame.setsChanged = true ↔ ∃ i nal kind, nals[i]? = some nal ∧ codec.kindOf nal = .parameterSet kind ∧
        codec.lastSet? kind (history ++ nals.take i) ≠ some nal) ∧
      after.frames = (earlier ++ [buffer]).length ∧
      after.keyframes = (earlier ++ [buffer]).countP fun buffer => (NalUnit.payloads buffer).any codec.refreshes := by
  intro before history nals frame after
  have fresh : before.sets = storedBy codec history := run_sets _ earlier
  have codec_eq : before.codec = codec := run_codec _ earlier
  have repeats : before.repeatSets = repeatSets := run_repeatSets _ earlier
  have frame_eq : frame = (splitUnits codec repeatSets (storedBy codec history) nals).1 := by
    refine (split_frame before buffer).trans ?_
    rw [codec_eq, repeats, fresh]
  have sets_eq : after.sets = storedBy codec (history ++ nals) := by
    refine (split_sets before buffer).trans ?_
    rw [splitUnits_sets, codec_eq, fresh, storedBy_append]
  have unit : frame.accessUnit = AccessUnit.ofBuffer codec buffer := by
    exact (before.split_accessUnit buffer).trans (congrArg (AccessUnit.ofBuffer · buffer) codec_eq)
  have whole : ∀ nal ∈ history ++ nals, NalUnit.IsPayload nal := by
    intro nal inside
    rcases List.mem_append.mp inside with seen | here
    · obtain ⟨buffer, -, there⟩ := List.mem_flatMap.mp seen
      exact NalUnit.isPayload_of_mem there
    · exact NalUnit.isPayload_of_mem here
  obtain ⟨frames, keyframes⟩ := run_counts { codec, repeatSets } (earlier ++ [buffer])
  rw [(run_append _ earlier [buffer]).1, Nat.zero_add] at frames keyframes
  refine ⟨?_, ?_, ?_, ?_, ?_, ?_, frames, keyframes⟩
  · intro kind
    rw [sets_eq, slot_storedBy]
  · intro kind nal there
    rw [sets_eq] at there
    obtain ⟨is_set, some_byte, free⟩ := cached_storedBy whole kind nal there
    exact ⟨some_byte, free, is_set⟩
  · rw [frame_eq]
    exact units_storedBy repeatSets whole
  · rw [unit]
    exact rfl
  · rw [unit, AccessUnit.ofBuffer, List.any_eq_true]
    simp only [Codec.refreshes, decide_eq_true_eq]
    exact Iff.rfl
  · rw [frame_eq]
    exact setsChanged_storedBy codec repeatSets history nals

/-- Between two key pictures comes another picture parameter set. Each picture has the sets in front that hold for it. -/
example :
    let sps : Bytes := [0x67, 0x64, 0x00, 0x28]
    let key : Bytes := [0x65, 0x88, 0x84, 0x21]
    (split { codec := .h264, repeatSets := true } (NalUnit.annexB [sps, [0x68, 1], key, [0x68, 2], key])).1.units =
      [sps, [0x68, 1], sps, [0x68, 1], key, [0x68, 2], sps, [0x68, 2], key] := by
  decide +kernel

end VideoCapture
