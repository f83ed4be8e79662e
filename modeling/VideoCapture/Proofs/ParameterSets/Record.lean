import VideoCapture.ParameterSets.Description
import VideoCapture.Proofs.Mp4.Demux

/-!
# Decoder configuration records are read back

A reader of decoder configuration records that follows their counts and lengths
(`Demux.parameterSets?`). It finds in a record the parameter sets that the record was made from, in the
order in which a decoder needs them.
-/

namespace VideoCapture

namespace Demux

/-- The first `count` NAL units, each behind its 16-bit length, and what follows them. -/
def shortNals? : (count : Nat) → Bytes → Option (List Bytes × Bytes)
  | 0, data => some ([], data)
  | count + 1, data => do
    let (length, data) ← number? 2 data
    if data.length < length then none
    else
      let (others, rest) ← shortNals? count (data.drop length)
      return (data.take length :: others, rest)

/-- The NAL units of the first `count` arrays, which begin with a type, and what follows them. -/
def nalArrays? : (count : Nat) → Bytes → Option (List Bytes × Bytes)
  | 0, data => some ([], data)
  | count + 1, data => do
    let (inside, data) ← number? 2 (data.drop 1)
    let (found, data) ← shortNals? inside data
    let (others, rest) ← nalArrays? count data
    return (found ++ others, rest)

/-- The parameter sets in a decoder configuration record, which ends with the last of them. -/
def parameterSets? (codec : Codec) (record : Bytes) : Option (List Bytes) := do
  let (found, rest) ← match codec with
    | .h264 => do
      let (count, data) ← number? 1 (record.drop 5)
      let (sps, data) ← shortNals? (count % 32) data
      let (count, data) ← number? 1 data
      let (pps, rest) ← shortNals? count data
      some (sps ++ pps, rest)
    | .h265 => do
      let (count, data) ← number? 1 (record.drop 22)
      nalArrays? count data
  if rest = [] then some found else none

/-- One NAL unit is read behind its 16-bit length. -/
lemma shortNals?_one {nal : Bytes} (short : nal.length < 0x10000) (rest : Bytes) :
    shortNals? 1 (Bytes.be16 nal.length ++ nal ++ rest) = some ([nal], rest) := by
  rw [shortNals?, List.append_assoc, number?_be16 short, Option.bind_eq_bind, Option.bind_some]
  dsimp only
  rw [if_neg (by simp), List.drop_left, List.take_left, shortNals?]
  rfl

/-- The sets of an array are read in front of those of the other arrays. -/
lemma nalArrays?_nalArray {nal : Bytes} (short : nal.length < 0x10000) (type : UInt8) (count : Nat)
    (rest : Bytes) :
    nalArrays? (count + 1) (Hevc.nalArray type nal ++ rest) =
      (nalArrays? count rest).map fun found => (nal :: found.1, found.2) := by
  have laid : (Hevc.nalArray type nal ++ rest).drop 1 =
      Bytes.be16 1 ++ (Bytes.be16 nal.length ++ nal ++ rest) := by
    simp only [Hevc.nalArray, List.append_assoc, List.cons_append, List.nil_append, List.drop_succ_cons,
      List.drop_zero]
  rw [nalArrays?, laid, number?_be16 (by decide), Option.bind_eq_bind, Option.bind_some]
  dsimp only
  rw [shortNals?_one short, Option.bind_eq_bind, Option.bind_some]
  cases nalArrays? count rest <;> rfl

end Demux

namespace ParameterSets
open Demux

variable {sets : ParameterSets} {configuration : Bytes} {required : List Bytes}

/-- A computation that succeeds has succeeded in each of its steps. -/
lemma of_bind_ok {ε α β : Type} {first : Except ε α} {next : α → Except ε β} {result : β}
    (run : first >>= next = .ok result) : ∃ value, first = .ok value ∧ next value = .ok result := by
  cases first with
  | error error => cases run
  | ok value => exact ⟨value, rfl, run⟩

/-- The required sets of H.264 are the SPS and the PPS, in this order. -/
lemma ordered_h264 {sps pps : Bytes} (sps_eq : sets.require .sps = .ok sps) (pps_eq : sets.require .pps = .ok pps) :
    sets.ordered .h264 = .ok [sps, pps] := by
  simp only [ordered, Codec.requiredSets, List.mapM_cons, sps_eq, pps_eq]
  exact rfl

/-- The required sets of H.265 are the VPS, the SPS and the PPS, in this order. -/
lemma ordered_h265 {vps sps pps : Bytes} (vps_eq : sets.require .vps = .ok vps) (sps_eq : sets.require .sps = .ok sps)
    (pps_eq : sets.require .pps = .ok pps) : sets.ordered .h265 = .ok [vps, sps, pps] := by
  simp only [ordered, Codec.requiredSets, List.mapM_cons, vps_eq, sps_eq, pps_eq]
  exact rfl

/-- Profile bytes that were found are the three bytes behind the header of the SPS. -/
lemma profileBytes_of_ok {sps profile : Bytes} (run : Avc.profileBytes sps = .ok profile) :
    ∃ header p₀ p₁ p₂ more, sps = header :: p₀ :: p₁ :: p₂ :: more ∧ profile = [p₀, p₁, p₂] := by
  unfold Avc.profileBytes at run
  split at run
  · cases run
  · rename_i long
    match sps, long with
    | header :: p₀ :: p₁ :: p₂ :: more, _ =>
      cases run
      exact ⟨header, p₀, p₁, p₂, more, rfl, rfl⟩
    | [], long | [_], long | [_, _], long | [_, _, _], long => simp at long

/-- An H.264 record byte by byte. -/
lemma avc_laid (configured : Avc.decoderConfiguration sets = .ok configuration) :
    ∃ header profile compatibility level more, ∃ sps pps : Bytes, sets.ordered .h264 = .ok [sps, pps] ∧
      sps = header :: profile :: compatibility :: level :: more ∧
      configuration = 1 :: profile :: compatibility :: level :: 0xFF :: 0xE1 ::
        (Bytes.be16 sps.length ++ sps ++ ([1] ++ (Bytes.be16 pps.length ++ pps ++ []))) := by
  obtain ⟨sps, sps_eq, configured⟩ := of_bind_ok configured
  obtain ⟨pps, pps_eq, configured⟩ := of_bind_ok configured
  obtain ⟨profile, profile_eq, configured⟩ := of_bind_ok configured
  obtain ⟨header, p₀, p₁, p₂, more, parted, rfl⟩ := profileBytes_of_ok profile_eq
  cases configured
  exact ⟨header, p₀, p₁, p₂, more, sps, pps, ordered_h264 sps_eq pps_eq, parted, by simp⟩

/-- The byte that tells the number of temporal layers, as it is made from the byte in the SPS. -/
def packedLayers (ids : UInt8) : UInt8 :=
  ((((ids >>> 1) &&& 0x07) + 1) <<< 3) ||| ((if ids &&& 0x01 == 1 then (1 : UInt8) else 0) <<< 2) ||| 0x03

/-- An H.265 record byte by byte. -/
lemma hevc_laid (configured : Hevc.decoderConfiguration sets = .ok configuration) :
    ∃ h₀ h₁ ids profile c₀ c₁ c₂ c₃ k₀ k₁ k₂ k₃ k₄ k₅ level more, ∃ vps sps pps : Bytes,
      sets.ordered .h265 = .ok [vps, sps, pps] ∧
      EmulationPrevention.strip sps = h₀ :: h₁ :: ids :: profile :: c₀ :: c₁ :: c₂ :: c₃ ::
        k₀ :: k₁ :: k₂ :: k₃ :: k₄ :: k₅ :: level :: more ∧
      configuration = 1 :: profile :: c₀ :: c₁ :: c₂ :: c₃ :: k₀ :: k₁ :: k₂ :: k₃ :: k₄ :: k₅ :: level ::
        0xF0 :: 0x00 :: 0xFC :: 0xFD :: 0xF8 :: 0xF8 :: 0x00 :: 0x00 :: packedLayers ids :: 3 ::
        (Hevc.nalArray 32 vps ++ (Hevc.nalArray 33 sps ++ (Hevc.nalArray 34 pps ++ []))) := by
  obtain ⟨vps, vps_eq, configured⟩ := of_bind_ok configured
  obtain ⟨sps, sps_eq, configured⟩ := of_bind_ok configured
  obtain ⟨pps, pps_eq, configured⟩ := of_bind_ok configured
  obtain ⟨ptl, ptl_eq, configured⟩ := of_bind_ok configured
  unfold Hevc.ProfileTierLevel.ofSps at ptl_eq
  split at ptl_eq
  · rename_i stripped
    cases ptl_eq
    cases configured
    exact ⟨_, _, _, _, _, _, _, _, _, _, _, _, _, _, _, _, vps, sps, pps, ordered_h265 vps_eq sps_eq pps_eq, stripped,
      by simp [Bytes.be16, packedLayers]⟩
  · cases ptl_eq

/-- The sets in an H.264 record are those that are required. -/
lemma read_avc (configured : Avc.decoderConfiguration sets = .ok configuration)
    (in_order : sets.ordered .h264 = .ok required) (short : ∀ nal ∈ required, nal.length < 0x10000) :
    parameterSets? .h264 configuration = some required := by
  obtain ⟨_, _, _, _, _, sps, pps, in_order', -, rfl⟩ := avc_laid configured
  cases in_order'.symm.trans in_order
  have first := shortNals?_one (short sps (by simp)) ([1] ++ (Bytes.be16 pps.length ++ pps ++ []))
  have second := shortNals?_one (short pps (by simp)) []
  have sps_count : Bytes.toNat [0xE1] % 32 = 1 := rfl
  have pps_count : Bytes.toNat [1] = 1 := rfl
  have counted := @number?_append [0xE1] 1 rfl
    (Bytes.be16 sps.length ++ sps ++ ([1] ++ (Bytes.be16 pps.length ++ pps ++ [])))
  rw [List.singleton_append] at counted
  simp only [parameterSets?, List.drop_succ_cons, List.drop_zero, counted, @number?_append [1] 1 rfl, sps_count,
    pps_count, first, second, Option.bind_eq_bind, Option.bind_some]
  rfl

/-- The sets in an H.265 record are those that are required. -/
lemma read_hevc (configured : Hevc.decoderConfiguration sets = .ok configuration)
    (in_order : sets.ordered .h265 = .ok required) (short : ∀ nal ∈ required, nal.length < 0x10000) :
    parameterSets? .h265 configuration = some required := by
  obtain ⟨_, _, _, _, _, _, _, _, _, _, _, _, _, _, _, _, vps, sps, pps, in_order', -, rfl⟩ := hevc_laid configured
  cases in_order'.symm.trans in_order
  have array_count : Bytes.toNat [3] = 3 := rfl
  have counted := @number?_append [3] 1 rfl
    (Hevc.nalArray 32 vps ++ (Hevc.nalArray 33 sps ++ (Hevc.nalArray 34 pps ++ [])))
  rw [List.singleton_append] at counted
  simp only [parameterSets?, List.drop_succ_cons, List.drop_zero, counted, array_count, Option.bind_eq_bind,
    Option.bind_some]
  rw [nalArrays?_nalArray (short vps (by simp)), nalArrays?_nalArray (short sps (by simp)),
    nalArrays?_nalArray (short pps (by simp))]
  rfl

/-- A decoder configuration record holds the parameter sets that it was made from. -/
lemma parameterSets?_decoderConfiguration {codec : Codec}
    (configured : sets.decoderConfiguration codec = .ok configuration)
    (in_order : sets.ordered codec = .ok required) (short : ∀ nal ∈ required, nal.length < 0x10000) :
    parameterSets? codec configuration = some required := by
  cases codec with
  | h264 => exact read_avc configured in_order short
  | h265 => exact read_hevc configured in_order short

/-- When the sets that a decoder needs can be given, none is missing. -/
lemma missing?_of_ordered {codec : Codec} (in_order : sets.ordered codec = .ok required) :
    sets.missing? codec = none := by
  -- what holds of the sets a codec needs is shown for any kinds, one after the other
  have each : ∀ (kinds : List ParameterSetKind) (found : List Bytes), kinds.mapM sets.require = .ok found →
      (kinds.find? fun kind => (sets.get? kind).isNone) = none := by
    intro kinds
    induction kinds with
    | nil =>
      intro found run
      rfl
    | cons kind rest ih =>
      intro found run
      rw [List.mapM_cons] at run
      obtain ⟨nal, first, run⟩ := of_bind_ok run
      obtain ⟨others, behind, -⟩ := of_bind_ok run
      have there : sets.get? kind = some nal := by
        rw [require] at first
        split at first
        · rename_i nal' there
          cases first
          exact there
        · cases first
      rw [List.find?_cons_of_neg (by simp [there])]
      exact ih others behind
  exact each codec.requiredSets required in_order

end ParameterSets

end VideoCapture
