import VideoCapture.Proofs.ParameterSets.Record

/-!
# When parameter sets can be described

A decoder configuration record needs more than parameter sets that are not missing: the SPS has to reach as far as the
record reads it. Where it does not, that is the only error. The format parameters of a session description read the SPS
for H.264 only.
-/

namespace VideoCapture

/-- Whether an SPS reaches as far as the decoder configuration record of a codec reads it. -/
def Codec.reads (codec : Codec) (sps : Bytes) : Bool :=
  match codec with
  | .h264 => 4 ≤ sps.length
  | .h265 => 15 ≤ (EmulationPrevention.strip sps).length

namespace ParameterSets

variable {codec : Codec} {sets : ParameterSets} {sps : Bytes}

/-- A set that is there is what is required. -/
lemma require_of_get? {kind : ParameterSetKind} {nal : Bytes} (there : sets.get? kind = some nal) :
    sets.require kind = .ok nal := by
  rw [require, there]

/-- Of complete sets, each one that the codec needs is there. -/
lemma get?_of_complete (complete : sets.missing? codec = none) {kind : ParameterSetKind}
    (required : kind ∈ codec.requiredSets) : ∃ nal, sets.get? kind = some nal := by
  have there := List.find?_eq_none.mp complete kind required
  rwa [Bool.not_eq_true, Option.isNone_eq_false_iff, Option.isSome_iff_exists] at there

/-- Complete sets have an SPS among them. -/
lemma sps_of_complete (complete : sets.missing? codec = none) : ∃ sps, sets.get? .sps = some sps :=
  get?_of_complete complete (by cases codec <;> decide)

/-- The profile stands in the three bytes behind the header of an SPS, if the SPS is long enough. -/
lemma profileBytes_eq (sps : Bytes) : Avc.profileBytes sps =
    if Codec.h264.reads sps then .ok ((sps.drop 1).take 3) else .error (.spsTooShort sps.length) := by
  unfold Avc.profileBytes Codec.reads
  by_cases long : 4 ≤ sps.length
  · rw [if_neg (Nat.not_lt.mpr long), decide_eq_true long, if_pos rfl]
  · rw [if_pos (Nat.not_le.mp long), decide_eq_false long, if_neg Bool.false_ne_true]

/-- The profile of an SPS can be read exactly if its fifteenth byte is there. -/
lemma ofSps_of_reads (long : Codec.h265.reads sps = true) : ∃ ptl, Hevc.ProfileTierLevel.ofSps sps = .ok ptl := by
  have long : 15 ≤ (EmulationPrevention.strip sps).length := of_decide_eq_true long
  unfold Hevc.ProfileTierLevel.ofSps
  generalize EmulationPrevention.strip sps = rbsp at long
  rcases rbsp with _ | ⟨_, _ | ⟨_, _ | ⟨_, _ | ⟨_, _ | ⟨_, _ | ⟨_, _ | ⟨_, _ | ⟨_, _ | ⟨_, _ | ⟨_, _ | ⟨_, _ | ⟨_,
    _ | ⟨_, _ | ⟨_, _ | ⟨_, rest⟩⟩⟩⟩⟩⟩⟩⟩⟩⟩⟩⟩⟩⟩⟩
  case cons => exact ⟨_, rfl⟩
  all_goals simp at long

/-- An SPS that is too short for the profile, tier and level is refused, with its length. -/
lemma ofSps_of_short (short : Codec.h265.reads sps = false) :
    Hevc.ProfileTierLevel.ofSps sps = .error (.spsTooShort sps.length) := by
  have short : ¬ 15 ≤ (EmulationPrevention.strip sps).length := of_decide_eq_false short
  unfold Hevc.ProfileTierLevel.ofSps
  split
  · rename_i stripped
    rw [stripped] at short
    exact absurd (by simp) short
  · rfl

/-- Complete sets make a decoder configuration if the SPS reaches far enough. -/
lemma decoderConfiguration_of_reads (complete : sets.missing? codec = none) (found : sets.get? .sps = some sps)
    (long : codec.reads sps = true) : ∃ configuration, sets.decoderConfiguration codec = .ok configuration := by
  have sps_eq := require_of_get? found
  cases codec with
  | h264 =>
    obtain ⟨pps, pps_there⟩ := @get?_of_complete .h264 sets complete .pps (by decide)
    have profile_eq := profileBytes_eq sps
    rw [if_pos long] at profile_eq
    rw [decoderConfiguration, Avc.decoderConfiguration, sps_eq, require_of_get? pps_there]
    dsimp only [bind, Except.bind]
    rw [profile_eq]
    exact ⟨_, rfl⟩
  | h265 =>
    obtain ⟨vps, vps_there⟩ := @get?_of_complete .h265 sets complete .vps (by decide)
    obtain ⟨pps, pps_there⟩ := @get?_of_complete .h265 sets complete .pps (by decide)
    obtain ⟨ptl, ptl_eq⟩ := ofSps_of_reads long
    rw [decoderConfiguration, Hevc.decoderConfiguration, require_of_get? vps_there, sps_eq, require_of_get? pps_there]
    dsimp only [bind, Except.bind]
    rw [ptl_eq]
    exact ⟨_, rfl⟩

/-- The only error that complete sets can give is that the SPS is too short. -/
lemma decoderConfiguration_of_short (complete : sets.missing? codec = none) (found : sets.get? .sps = some sps)
    (short : codec.reads sps = false) : sets.decoderConfiguration codec = .error (.spsTooShort sps.length) := by
  have sps_eq := require_of_get? found
  cases codec with
  | h264 =>
    obtain ⟨pps, pps_there⟩ := @get?_of_complete .h264 sets complete .pps (by decide)
    have profile_eq := profileBytes_eq sps
    rw [short, if_neg Bool.false_ne_true] at profile_eq
    rw [decoderConfiguration, Avc.decoderConfiguration, sps_eq, require_of_get? pps_there]
    dsimp only [bind, Except.bind]
    rw [profile_eq]
  | h265 =>
    obtain ⟨vps, vps_there⟩ := @get?_of_complete .h265 sets complete .vps (by decide)
    obtain ⟨pps, pps_there⟩ := @get?_of_complete .h265 sets complete .pps (by decide)
    rw [decoderConfiguration, Hevc.decoderConfiguration, require_of_get? vps_there, sps_eq, require_of_get? pps_there]
    dsimp only [bind, Except.bind]
    rw [ofSps_of_short short]

/-- Sets that have format parameters are complete. -/
lemma missing?_of_formatParameters {text : String} (described : sets.formatParameters codec = .ok text) :
    sets.missing? codec = none := by
  cases codec with
  | h264 =>
    obtain ⟨sps, sps_eq, described⟩ := of_bind_ok described
    obtain ⟨profile, -, described⟩ := of_bind_ok described
    obtain ⟨sprop, sprop_eq, -⟩ := of_bind_ok described
    obtain ⟨sps', -, sprop_eq⟩ := of_bind_ok sprop_eq
    obtain ⟨pps, pps_eq, -⟩ := of_bind_ok sprop_eq
    exact missing?_of_ordered (ordered_h264 sps_eq pps_eq)
  | h265 =>
    obtain ⟨vps, vps_eq, described⟩ := of_bind_ok described
    obtain ⟨sps, sps_eq, described⟩ := of_bind_ok described
    obtain ⟨pps, pps_eq, -⟩ := of_bind_ok described
    exact missing?_of_ordered (ordered_h265 vps_eq sps_eq pps_eq)

/-- Complete sets have format parameters, unless the SPS of an H.264 stream ends before its profile does. -/
lemma formatParameters_of_complete (complete : sets.missing? codec = none) (found : sets.get? .sps = some sps) :
    (sets.formatParameters codec).toOption = none ↔ codec = .h264 ∧ sps.length < 4 := by
  have sps_eq := require_of_get? found
  cases codec with
  | h264 =>
    obtain ⟨pps, pps_there⟩ := @get?_of_complete .h264 sets complete .pps (by decide)
    rw [formatParameters, Avc.formatParameters, Avc.spropParameterSets, sps_eq, require_of_get? pps_there]
    dsimp only [bind, Except.bind]
    rw [Avc.profileLevelId, Avc.profileBytes]
    by_cases short : sps.length < 4
    · rw [if_pos short]
      exact ⟨fun _ => ⟨rfl, short⟩, fun _ => rfl⟩
    · rw [if_neg short]
      exact ⟨fun nothing => (by cases nothing), fun ⟨_, impossible⟩ => absurd impossible short⟩
  | h265 =>
    obtain ⟨vps, vps_there⟩ := @get?_of_complete .h265 sets complete .vps (by decide)
    obtain ⟨pps, pps_there⟩ := @get?_of_complete .h265 sets complete .pps (by decide)
    rw [formatParameters, Hevc.formatParameters, require_of_get? vps_there, sps_eq, require_of_get? pps_there]
    exact ⟨fun nothing => (by cases nothing), fun ⟨impossible, _⟩ => (by cases impossible)⟩

/-- No format parameters are given exactly if a set is missing, or if an H.264 SPS is too short for its profile. -/
lemma formatParameters_eq_none_iff (codec : Codec) (sets : ParameterSets) :
    (sets.formatParameters codec).toOption = none ↔
      sets.isComplete codec = false ∨ codec = .h264 ∧ ∃ sps, sets.get? .sps = some sps ∧ sps.length < 4 := by
  unfold isComplete
  cases missing : sets.missing? codec with
  | none =>
    obtain ⟨sps, found⟩ := sps_of_complete missing
    rw [formatParameters_of_complete missing found, found]
    simp
  | some kind =>
    refine ⟨fun _ => .inl rfl, fun _ => ?_⟩
    cases described : sets.formatParameters codec with
    | error error => exact rfl
    | ok text => cases missing.symm.trans (missing?_of_formatParameters described)

end ParameterSets

end VideoCapture
