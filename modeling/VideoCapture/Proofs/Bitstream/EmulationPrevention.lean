import Mathlib.Tactic.Lemma
import VideoCapture.ParameterSets.Hevc

/-!
# Emulation prevention, there and back

An encoder writes a `03` before every byte up to `03` that would follow two zero bytes, so that no start code can come
about inside a NAL unit (`EmulationPrevention.escape`). `EmulationPrevention.strip` takes those bytes out again. Both go
through the bytes with a count of the zero bytes they saw last, and the two counts are always the same, wherever the
inserted bytes stand. So the fields of an SPS are found at their places in what the encoder had before it escaped it
(`sps_profile_unescaped`).
-/

namespace VideoCapture

namespace EmulationPrevention

/-- `escape`, behind so many zero bytes without an inserted one among them. -/
def escapeFrom (zeros : Nat) : Bytes → Bytes
  | [] => []
  | b :: rest =>
    if 2 ≤ zeros ∧ b ≤ 3 then 3 :: b :: escapeFrom (if b = 0 then 1 else 0) rest
    else b :: escapeFrom (if b = 0 then zeros + 1 else 0) rest

/-- The bytes as an encoder writes them: with a `03` before every byte up to `03` that follows two zero bytes written
since the last one inserted. -/
def escape (data : Bytes) : Bytes :=
  escapeFrom 0 data

/-- A byte that is not zero starts the count afresh. -/
lemma stripFrom_header (h₀ : UInt8) {h₁ : UInt8} (used : h₁ ≠ 0) (kept data : Bytes) :
    stripFrom 0 kept (h₀ :: h₁ :: data) = stripFrom 0 (h₁ :: h₀ :: kept) data := by
  by_cases zero : h₀ = 0 <;> simp [stripFrom, zero, used]

/-- The inserted bytes, and no others, are taken out: reader and writer count the same zero bytes, since both start
afresh at an inserted byte. -/
lemma stripFrom_escapeFrom (zeros : Nat) (kept data : Bytes) :
    stripFrom zeros kept (escapeFrom zeros data) = kept.reverse ++ data := by
  induction data generalizing zeros kept with
  | nil => simp [escapeFrom, stripFrom]
  | cons b rest ih =>
    by_cases inserted : 2 ≤ zeros ∧ b ≤ 3
    · -- the byte behind the inserted one is kept, even if it is another `03`
      simp [escapeFrom, stripFrom, inserted, ih]
    · have stays : ¬ (2 ≤ zeros ∧ b = 3) := fun ⟨enough, three⟩ => inserted ⟨enough, three ▸ UInt8.le_refl 3⟩
      simp only [escapeFrom, if_neg inserted, stripFrom, if_neg stays, ih]
      simp

/-- Where no `03` follows two zero bytes, counting those already gone by, there is nothing to take out. -/
lemma stripFrom_of_free (zeros : Nat) (kept data : Bytes)
    (free : ¬ [0, 0, 3] <:+: List.replicate zeros (0 : UInt8) ++ data) :
    stripFrom zeros kept data = kept.reverse ++ data := by
  induction data generalizing zeros kept with
  | nil => simp [stripFrom]
  | cons b rest ih =>
    have stays : ¬ (2 ≤ zeros ∧ b = 3) := by
      rintro ⟨enough, rfl⟩
      obtain ⟨more, rfl⟩ := Nat.exists_eq_add_of_le' enough
      exact free ⟨List.replicate more 0, rest, by simp [List.replicate_succ']⟩
    rw [stripFrom, if_neg stays, ih]
    · simp
    · intro found
      apply free
      split at found
      · next zero => simpa [zero, List.replicate_succ', List.append_assoc] using found
      · exact found.trans ⟨List.replicate zeros 0 ++ [b], [], by simp⟩

/-- Stripping adds nothing. -/
lemma length_stripFrom_le (zeros : Nat) (kept data : Bytes) :
    (stripFrom zeros kept data).length ≤ kept.length + data.length := by
  induction data generalizing zeros kept with
  | nil => simp [stripFrom]
  | cons b rest ih =>
    rw [stripFrom]
    split
    · exact Nat.le_trans (ih 0 kept) (by simp)
    · refine Nat.le_trans (ih _ (b :: kept)) (Nat.le_of_eq ?_)
      simp only [List.length_cons]
      omega

/-- A `03` behind two zero bytes goes, whatever was before: the count is two or more there. -/
lemma length_stripFrom_lt (zeros : Nat) (kept front back : Bytes) :
    (stripFrom zeros kept (front ++ 0 :: 0 :: 3 :: back)).length <
      kept.length + (front ++ 0 :: 0 :: 3 :: back).length := by
  induction front generalizing zeros kept with
  | nil =>
    have behind := length_stripFrom_le 0 (0 :: 0 :: kept) back
    simp only [List.length_cons] at behind
    simp [stripFrom]
    omega
  | cons b rest ih =>
    rw [List.cons_append, stripFrom]
    split
    · exact Nat.lt_trans (ih 0 kept) (by simp)
    · refine Nat.lt_of_lt_of_eq (ih _ (b :: kept)) ?_
      simp only [List.length_cons]
      omega

/-- Stripping what was escaped gives the bytes back. -/
lemma strip_escape (data : Bytes) : strip (escape data) = data :=
  stripFrom_escapeFrom 0 [] data

/-- Nothing is stripped exactly if two zero bytes are nowhere followed by a three. -/
lemma strip_eq_self_iff (data : Bytes) : strip data = data ↔ ¬ [0, 0, 3] <:+: data := by
  constructor
  · rintro same ⟨front, back, rfl⟩
    have shorter := length_stripFrom_lt 0 [] front back
    rw [show front ++ [0, 0, 3] ++ back = front ++ 0 :: 0 :: 3 :: back by simp] at same
    rw [show stripFrom 0 [] _ = _ from same] at shorter
    simp at shorter
  · intro free
    exact stripFrom_of_free 0 [] data (by simpa using free)

/-- A header in front does not move the inserted bytes, as long as it does not end in a zero byte. -/
lemma strip_headed (h₀ : UInt8) {h₁ : UInt8} (used : h₁ ≠ 0) (data : Bytes) :
    strip (h₀ :: h₁ :: escape data) = h₀ :: h₁ :: data := by
  rw [strip, stripFrom_header h₀ used, escape, stripFrom_escapeFrom]
  rfl

end EmulationPrevention

namespace Hevc

/-- The fields at their places in the payload of an SPS: four bits of an id, three for the layers beyond the first and
the nesting flag in the first byte, then profile, compatibility, constraints and level. -/
def ProfileTierLevel.ofPayload (payload : Bytes) (fits : 13 ≤ payload.length) : ProfileTierLevel where
  profile := payload[1]
  compatibility := (payload.drop 2).take 4
  constraints := (payload.drop 6).take 6
  level := payload[12]
  temporalLayers := UInt8.ofNat (payload[0].toNat / 2 % 8 + 1)
  nested := payload[0].toNat % 2 = 1

/-- The three bits above the last one, and the last one. -/
lemma ids_fields (ids : UInt8) :
    ((ids >>> 1) &&& 0x07) + 1 = UInt8.ofNat (ids.toNat / 2 % 8 + 1) ∧
      (ids &&& 0x01 == 1) = decide (ids.toNat % 2 = 1) := by
  have all : ∀ n < 256, let ids := UInt8.ofNat n
      ((ids >>> 1) &&& 0x07) + 1 = UInt8.ofNat (ids.toNat / 2 % 8 + 1) ∧
        (ids &&& 0x01 == 1) = decide (ids.toNat % 2 = 1) := by
    decide +kernel
  have one := all ids.toNat ids.toNat_lt
  rwa [UInt8.ofNat_toNat] at one

/-- A long enough SPS has its fields at their places behind the two bytes of its header. -/
lemma ofSps_long {sps : Bytes} {h₀ h₁ : UInt8} {payload : Bytes}
    (stripped : EmulationPrevention.strip sps = h₀ :: h₁ :: payload) (fits : 13 ≤ payload.length) :
    ProfileTierLevel.ofSps sps = .ok (.ofPayload payload fits) := by
  match payload, fits with
  | ids :: profile :: c₀ :: c₁ :: c₂ :: c₃ :: k₀ :: k₁ :: k₂ :: k₃ :: k₄ :: k₅ :: level :: rest, _ =>
    obtain ⟨layers, nested⟩ := ids_fields ids
    simp only [ProfileTierLevel.ofSps, stripped, layers, nested]
    rfl

/-- An SPS that is too short for the fields is refused, with its length. -/
lemma ofSps_short {sps : Bytes} {h₀ h₁ : UInt8} {payload : Bytes}
    (stripped : EmulationPrevention.strip sps = h₀ :: h₁ :: payload) (short : payload.length < 13) :
    ProfileTierLevel.ofSps sps = .error (.spsTooShort sps.length) := by
  rw [ProfileTierLevel.ofSps, stripped]
  split
  · next long =>
    simp only [List.cons.injEq] at long
    rw [long.2.2] at short
    simp only [List.length_cons] at short
    omega
  · rfl

end Hevc

open EmulationPrevention Hevc

/-- Taking the emulation prevention bytes out gives back what was escaped, for every byte string, and changes a byte
string only if `00 00 03` stands in it. An H.265 SPS is therefore read by what the encoder put behind its two-byte
header: every field at its place there, however many bytes were inserted before it, or the complaint that the SPS is
too short. -/
theorem sps_profile_unescaped (payload : Bytes) :
    strip (escape payload) = payload ∧
    (strip payload = payload ↔ ¬ [0, 0, 3] <:+: payload) ∧
    ∀ h₀ h₁ : UInt8, h₁ ≠ 0 →
      (∀ fits : 13 ≤ payload.length,
        ProfileTierLevel.ofSps (h₀ :: h₁ :: escape payload) = .ok (.ofPayload payload fits)) ∧
      (payload.length < 13 →
        ProfileTierLevel.ofSps (h₀ :: h₁ :: escape payload) =
          .error (.spsTooShort (h₀ :: h₁ :: escape payload).length)) := by
  refine ⟨strip_escape payload, strip_eq_self_iff payload, ?_⟩
  intro h₀ h₁ used
  have stripped := strip_headed h₀ used payload
  exact ⟨ofSps_long stripped, ofSps_short stripped⟩

/-- A payload with a byte inserted among the compatibility flags, one among the constraints and one before the level. -/
theorem sps_profile_unescaped_thrice :
    let payload : Bytes := [0x01, 0x01, 0x60, 0, 0, 0, 0x90, 0, 0, 3, 0, 0, 1]
    escape payload = [0x01, 0x01, 0x60, 0, 0, 3, 0, 0x90, 0, 0, 3, 3, 0, 0, 3, 1] ∧ (0x01 : UInt8) ≠ 0 ∧
      ProfileTierLevel.ofSps (0x42 :: 0x01 :: escape payload) = .ok {
        profile := 1, compatibility := [0x60, 0, 0, 0], constraints := [0x90, 0, 0, 3, 0, 0], level := 1
        temporalLayers := 1, nested := true } := by
  intro payload
  have read := (sps_profile_unescaped payload).2.2 0x42 0x01 (by decide)
  exact ⟨by decide, by decide, (read.1 (by decide)).trans (congrArg Except.ok (by decide))⟩

end VideoCapture
