import VideoCapture.Proofs.ParameterSets.Configuration

/-!
# Decoder configuration records by their layout

The layout of a decoder configuration record (ISO/IEC 14496-15) has bit fields in front and NAL units behind, in groups
with a count and each with a 16-bit length. The readers here (`avc?`, `hevc?`) take every field apart, hold reserved
bits to their values, and do not read a record that goes on behind its last NAL unit. What they should find follows from
the parameter sets, of which a decoder drops the emulation prevention bytes before it reads a field (`AvcRecord.of?`,
`HevcRecord.of?`).

They find just that, unless the parameter sets do not fit into the layout: a length has 16 bits and the number of
temporal layers three, and neither is checked. Nor are emulation prevention bytes looked for among the three bytes that
an H.264 record takes from its SPS, where only an SPS of profile zero can have one (`configuration_decodes`).
-/

namespace VideoCapture

namespace Demux

/-- A field that has so many values at the end of a byte whose other bits are reserved, and therefore all set. -/
def reserved? (values : Nat) (b : UInt8) : Option Nat :=
  if b.toNat / values = 0xFF / values then some (b.toNat % values) else none

/-- What an H.264 record says. -/
structure AvcRecord where
  profile : UInt8
  compatibility : UInt8
  level : UInt8
  /-- How many bytes the length of a NAL unit takes in a sample. -/
  lengthSize : Nat
  sps : List Bytes
  pps : List Bytes
  deriving DecidableEq, Repr

/-- The content of an H.264 record. -/
def avc? : Bytes → Option AvcRecord
  | version :: profile :: compatibility :: level :: size :: count :: data => do
    let size ← reserved? 4 size
    let count ← reserved? 32 count
    let (sps, data) ← shortNals? count data
    let (count, data) ← number? 1 data
    let (pps, rest) ← shortNals? count data
    if version = 1 ∧ rest = [] then
      some { profile, compatibility, level, lengthSize := size + 1, sps, pps }
    else none
  | _ => none

/-- NAL units of one type. -/
structure TypedArray where
  /-- Whether there are none of the type elsewhere. -/
  isComplete : Bool
  type : Nat
  nals : List Bytes
  deriving DecidableEq, Repr

/-- The first `count` arrays, and what follows them. -/
def typedArrays? : (count : Nat) → Bytes → Option (List TypedArray × Bytes)
  | 0, data => some ([], data)
  | count + 1, data => do
    let (head, data) ← number? 1 data
    let (inside, data) ← number? 2 data
    let (nals, data) ← shortNals? inside data
    let (others, rest) ← typedArrays? count data
    if head / 64 % 2 = 0 then some (⟨head / 128 = 1, head % 64, nals⟩ :: others, rest) else none

/-- What an H.265 record says. -/
structure HevcRecord where
  /-- Profile space, tier and profile number. -/
  profile : UInt8
  compatibility : Bytes
  constraints : Bytes
  level : UInt8
  segmentation : Nat
  parallelism : Nat
  chroma : Nat
  lumaDepth : Nat
  chromaDepth : Nat
  averageRate : Nat
  constantRate : Nat
  layers : Nat
  isNested : Bool
  /-- How many bytes the length of a NAL unit takes in a sample. -/
  lengthSize : Nat
  arrays : List TypedArray
  deriving DecidableEq, Repr

/-- The content of an H.265 record. -/
def hevc? : Bytes → Option HevcRecord
  | version :: profile :: c₀ :: c₁ :: c₂ :: c₃ :: k₀ :: k₁ :: k₂ :: k₃ :: k₄ :: k₅ :: level ::
      s₀ :: s₁ :: parallelism :: chroma :: luma :: depth :: r₀ :: r₁ :: packed :: count :: data => do
    let high ← reserved? 16 s₀
    let parallelism ← reserved? 4 parallelism
    let chroma ← reserved? 4 chroma
    let lumaDepth ← reserved? 8 luma
    let chromaDepth ← reserved? 8 depth
    let (arrays, rest) ← typedArrays? count.toNat data
    if version = 1 ∧ rest = [] then
      some {
        profile
        compatibility := [c₀, c₁, c₂, c₃]
        constraints := [k₀, k₁, k₂, k₃, k₄, k₅]
        level
        segmentation := high * 256 + s₁.toNat
        parallelism, chroma, lumaDepth, chromaDepth
        averageRate := Bytes.toNat [r₀, r₁]
        constantRate := packed.toNat / 64
        layers := packed.toNat / 8 % 8
        isNested := packed.toNat / 4 % 2 = 1
        lengthSize := packed.toNat % 4 + 1
        arrays }
    else none
  | _ => none

/-- What the record of an SPS and a PPS has to say. -/
def AvcRecord.of? (sps pps : Bytes) : Option AvcRecord :=
  match EmulationPrevention.strip sps with
  | _ :: profile :: compatibility :: level :: _ =>
    some { profile, compatibility, level, lengthSize := 4, sps := [sps], pps := [pps] }
  | _ => none

/-- What the record of a VPS, an SPS and a PPS has to say. Frame rates and the size of segments stay unspecified, and
the picture format is fixed. -/
def HevcRecord.of? (vps sps pps : Bytes) : Option HevcRecord :=
  match EmulationPrevention.strip sps with
  | _ :: _ :: ids :: profile :: c₀ :: c₁ :: c₂ :: c₃ :: k₀ :: k₁ :: k₂ :: k₃ :: k₄ :: k₅ :: level :: _ =>
    some {
      profile
      compatibility := [c₀, c₁, c₂, c₃]
      constraints := [k₀, k₁, k₂, k₃, k₄, k₅]
      level
      segmentation := 0
      parallelism := 0
      chroma := 1
      lumaDepth := 0
      chromaDepth := 0
      averageRate := 0
      constantRate := 0
      layers := ids.toNat / 2 % 8 + 1
      isNested := ids.toNat % 2 = 1
      lengthSize := 4
      arrays := [⟨true, 32, [vps]⟩, ⟨true, 33, [sps]⟩, ⟨true, 34, [pps]⟩] }
  | _ => none

/-- Whether the three bytes behind the header of an SPS are those that a decoder reads there. -/
def IsPlain (sps : Bytes) : Prop :=
  ((EmulationPrevention.strip sps).drop 1).take 3 = (sps.drop 1).take 3

/-- A number of two bytes that was read fits into 16 bits. -/
lemma lt_of_number? {n : Nat} {data rest : Bytes} (read : number? 2 data = some (n, rest)) : n < 0x10000 := by
  match data with
  | a :: b :: _ =>
    have high := a.toNat_lt
    have low := b.toNat_lt
    have field : n = a.toNat * 256 + b.toNat := by
      cases read
      simp [Bytes.toNat]
    omega
  | [] | [_] => cases read

/-- NAL units that were read behind 16-bit lengths are short enough for them. -/
lemma short_of_shortNals? {count : Nat} {data rest : Bytes} {nals : List Bytes}
    (read : shortNals? count data = some (nals, rest)) : ∀ nal ∈ nals, nal.length < 0x10000 := by
  induction count generalizing data nals with
  | zero =>
    cases read
    exact List.forall_mem_nil _
  | succ count ih =>
    simp only [shortNals?, Option.bind_eq_bind, Option.bind_eq_some_iff] at read
    obtain ⟨⟨length, behind⟩, length_read, read⟩ := read
    split at read
    · cases read
    · obtain ⟨⟨others, rest'⟩, further, read⟩ := Option.bind_eq_some_iff.mp read
      cases read
      exact List.forall_mem_cons.mpr
        ⟨Nat.lt_of_le_of_lt (List.length_take_le _ _) (lt_of_number? length_read), ih further⟩

/-- NAL units in an H.264 record that can be read are short enough for 16-bit lengths. -/
lemma short_of_avc? {record : Bytes} {content : AvcRecord} (read : avc? record = some content) :
    ∀ nal ∈ content.sps ++ content.pps, nal.length < 0x10000 := by
  unfold avc? at read
  split at read
  · simp only [Option.bind_eq_bind, Option.bind_eq_some_iff] at read
    obtain ⟨size, -, count, -, ⟨sps, data⟩, sps_read, ⟨count', data'⟩, -, ⟨pps, rest⟩, pps_read, read⟩ := read
    split at read
    · cases read
      exact List.forall_mem_append.mpr ⟨short_of_shortNals? sps_read, short_of_shortNals? pps_read⟩
    · cases read
  · cases read

/-- NAL units in arrays that can be read are short enough for 16-bit lengths. -/
lemma short_of_typedArrays? {count : Nat} {data rest : Bytes} {arrays : List TypedArray}
    (read : typedArrays? count data = some (arrays, rest)) : 
    ∀ array ∈ arrays, ∀ nal ∈ array.nals, nal.length < 0x10000 := by
  induction count generalizing data arrays with
  | zero =>
    cases read
    exact List.forall_mem_nil _
  | succ count ih =>
    simp only [typedArrays?, Option.bind_eq_bind, Option.bind_eq_some_iff] at read
    obtain ⟨⟨head, data₁⟩, -, ⟨inside, data₂⟩, -, ⟨nals, data₃⟩, nals_read, ⟨others, rest'⟩, further, read⟩ := read
    split at read
    · cases read
      exact List.forall_mem_cons.mpr ⟨short_of_shortNals? nals_read, ih further⟩
    · cases read

/-- In an H.265 record that can be read, the lengths fit into 16 bits and the number of layers into three. -/
lemma fits_of_hevc? {record : Bytes} {content : HevcRecord} (read : hevc? record = some content) :
    (∀ array ∈ content.arrays, ∀ nal ∈ array.nals, nal.length < 0x10000) ∧ content.layers < 8 := by
  unfold hevc? at read
  split at read
  · simp only [Option.bind_eq_bind, Option.bind_eq_some_iff] at read
    obtain ⟨_, -, _, -, _, -, _, -, _, -, ⟨arrays, rest⟩, arrays_read, read⟩ := read
    split at read
    · cases read
      exact ⟨short_of_typedArrays? arrays_read, Nat.mod_lt _ (by decide)⟩
    · cases read
  · cases read

/-- An array of one parameter set is read in front of the other arrays. -/
lemma typedArrays?_nalArray {nal : Bytes} (short : nal.length < 0x10000) {type : UInt8}
    (parameterSet : type ∈ [32, 33, 34]) (count : Nat) (rest : Bytes) :
    typedArrays? (count + 1) (Hevc.nalArray type nal ++ rest) =
      (typedArrays? count rest).map fun found => (⟨true, type.toNat, [nal]⟩ :: found.1, found.2) := by
  have laid : Hevc.nalArray type nal ++ rest =
      [0x80 ||| type] ++ (Bytes.be16 1 ++ (Bytes.be16 nal.length ++ nal ++ rest)) := by
    simp only [Hevc.nalArray, List.append_assoc, List.cons_append, List.nil_append]
  obtain ⟨head, narrow⟩ : Bytes.toNat [0x80 ||| type] = 128 + type.toNat ∧ type.toNat < 64 := by
    simp only [List.mem_cons, List.not_mem_nil, or_false] at parameterSet
    rcases parameterSet with rfl | rfl | rfl <;> decide
  have complete : (128 + type.toNat) / 128 = 1 := by omega
  have reserved : (128 + type.toNat) / 64 % 2 = 0 := by omega
  have same : (128 + type.toNat) % 64 = type.toNat := by omega
  rw [typedArrays?, laid, @number?_append [0x80 ||| type] 1 rfl, Option.bind_eq_bind, Option.bind_some]
  dsimp only
  rw [number?_be16 (by decide), Option.bind_eq_bind, Option.bind_some]
  dsimp only
  rw [shortNals?_one short, Option.bind_eq_bind, Option.bind_some, head, complete, reserved, same]
  cases typedArrays? count rest <;> rfl

/-- An H.264 record that was written with short sets is read again, field by field. -/
lemma avc?_written {sps pps : Bytes} (sps_short : sps.length < 0x10000) (pps_short : pps.length < 0x10000)
    (profile compatibility level : UInt8) :
    avc? (1 :: profile :: compatibility :: level :: 0xFF :: 0xE1 ::
        (Bytes.be16 sps.length ++ sps ++ ([1] ++ (Bytes.be16 pps.length ++ pps ++ [])))) =
      some ⟨profile, compatibility, level, 4, [sps], [pps]⟩ := by
  have size : reserved? 4 0xFF = some 3 := by decide
  have count : reserved? 32 0xE1 = some 1 := by decide
  have count' : Bytes.toNat [1] = 1 := rfl
  simp only [avc?, size, count, count', Option.bind_eq_bind, Option.bind_some, shortNals?_one sps_short,
    @number?_append [1] 1 rfl, shortNals?_one pps_short, and_self, if_true]

/-- An H.265 record that was written with short sets is read again, field by field. -/
lemma hevc?_written {vps sps pps : Bytes} (short : ∀ nal ∈ [vps, sps, pps], nal.length < 0x10000)
    (profile c₀ c₁ c₂ c₃ k₀ k₁ k₂ k₃ k₄ k₅ level packed : UInt8) :
    hevc? (1 :: profile :: c₀ :: c₁ :: c₂ :: c₃ :: k₀ :: k₁ :: k₂ :: k₃ :: k₄ :: k₅ :: level ::
        0xF0 :: 0x00 :: 0xFC :: 0xFD :: 0xF8 :: 0xF8 :: 0x00 :: 0x00 :: packed :: 3 ::
        (Hevc.nalArray 32 vps ++ (Hevc.nalArray 33 sps ++ (Hevc.nalArray 34 pps ++ [])))) =
      some {
        profile
        compatibility := [c₀, c₁, c₂, c₃]
        constraints := [k₀, k₁, k₂, k₃, k₄, k₅]
        level
        segmentation := 0
        parallelism := 0
        chroma := 1
        lumaDepth := 0
        chromaDepth := 0
        averageRate := 0
        constantRate := packed.toNat / 64
        layers := packed.toNat / 8 % 8
        isNested := packed.toNat / 4 % 2 = 1
        lengthSize := packed.toNat % 4 + 1
        arrays := [⟨true, 32, [vps]⟩, ⟨true, 33, [sps]⟩, ⟨true, 34, [pps]⟩] } := by
  have count : (3 : UInt8).toNat = 3 := rfl
  have arrays : typedArrays? 3 (Hevc.nalArray 32 vps ++ (Hevc.nalArray 33 sps ++ (Hevc.nalArray 34 pps ++ []))) =
      some ([⟨true, 32, [vps]⟩, ⟨true, 33, [sps]⟩, ⟨true, 34, [pps]⟩], []) := by
    rw [typedArrays?_nalArray (short vps (by simp)) (by decide),
      typedArrays?_nalArray (short sps (by simp)) (by decide),
      typedArrays?_nalArray (short pps (by simp)) (by decide)]
    rfl
  rw [hevc?, count, arrays]
  rfl

end Demux

open Demux EmulationPrevention

/-- What was kept so far stands in front of what is still stripped. -/
lemma EmulationPrevention.stripFrom_kept (zeros : Nat) (kept data : Bytes) :
    stripFrom zeros kept data = kept.reverse ++ stripFrom zeros [] data := by
  induction data generalizing zeros kept with
  | nil => simp [stripFrom]
  | cons b data ih =>
    rw [stripFrom, stripFrom]
    split
    · exact ih 0 kept
    · rw [ih _ (b :: kept), ih _ [b], List.reverse_cons, List.append_assoc, List.reverse_singleton]

/-- In front of the level, only two zero bytes could make an emulation prevention byte, and the profile is none. -/
lemma isPlain_of_profile {header profile : UInt8} (used : profile ≠ 0) (compatibility level : UInt8) (more : Bytes) :
    IsPlain (header :: profile :: compatibility :: level :: more) := by
  have one : ∀ b : UInt8, ¬ 2 ≤ if b = 0 then 1 else 0 := by
    intro b
    split <;> decide
  rw [IsPlain, strip, stripFrom, if_neg (by simp), stripFrom, if_neg (fun both => one header both.1), if_neg used,
    stripFrom, if_neg (by simp), stripFrom, if_neg (fun both => one compatibility both.1), stripFrom_kept]
  simp

namespace ParameterSets

variable {sets : ParameterSets} {record : Bytes}

/-- Three bits tell up to seven layers, and leave the fields beside them alone. -/
lemma packedLayers_fields {ids : UInt8} (few : ids.toNat / 2 % 8 + 1 < 8) :
    (packedLayers ids).toNat / 64 = 0 ∧ (packedLayers ids).toNat / 8 % 8 = ids.toNat / 2 % 8 + 1 ∧
      ((packedLayers ids).toNat / 4 % 2 = 1 ↔ ids.toNat % 2 = 1) ∧ (packedLayers ids).toNat % 4 = 3 := by
  have all : ∀ n < 256, let ids := UInt8.ofNat n
      ids.toNat / 2 % 8 + 1 < 8 →
        (packedLayers ids).toNat / 64 = 0 ∧ (packedLayers ids).toNat / 8 % 8 = ids.toNat / 2 % 8 + 1 ∧
          ((packedLayers ids).toNat / 4 % 2 = 1 ↔ ids.toNat % 2 = 1) ∧ (packedLayers ids).toNat % 4 = 3 := by
    decide +kernel
  have one := all ids.toNat ids.toNat_lt
  rw [UInt8.ofNat_toNat] at one
  exact one few

/-- The H.264 record of some sets is read as what it should say exactly if the sets are short and the profile bytes of
the SPS are plain. -/
lemma avc_decodes (configured : Avc.decoderConfiguration sets = .ok record) :
    ∃ sps pps, sets.ordered .h264 = .ok [sps, pps] ∧ (sps[1]? ≠ some 0 → IsPlain sps) ∧
      ((∃ content, AvcRecord.of? sps pps = some content ∧ avc? record = some content) ↔
        (∀ nal ∈ [sps, pps], nal.length < 0x10000) ∧ IsPlain sps) := by
  obtain ⟨header, profile, compatibility, level, more, sps, pps, in_order, sps_eq, record_eq⟩ := avc_laid configured
  have read : (∀ nal ∈ [sps, pps], nal.length < 0x10000) →
      avc? record = some ⟨profile, compatibility, level, 4, [sps], [pps]⟩ := by
    intro short
    rw [record_eq, avc?_written (short sps (by simp)) (short pps (by simp))]
  have behind : (sps.drop 1).take 3 = [profile, compatibility, level] := by
    rw [sps_eq]
    rfl
  refine ⟨sps, pps, in_order, ?_, ?_, ?_⟩
  · intro used
    subst sps_eq
    refine isPlain_of_profile ?_ compatibility level more
    rintro rfl
    exact used rfl
  · rintro ⟨content, expected, found⟩
    have short := short_of_avc? found
    unfold AvcRecord.of? at expected
    split at expected
    · rename_i header' profile' compatibility' level' more' stripped
      cases expected
      refine ⟨short, ?_⟩
      cases (read short).symm.trans found
      rw [IsPlain, stripped, behind]
      rfl
    · cases expected
  · rintro ⟨short, plain⟩
    rw [IsPlain, behind] at plain
    refine ⟨_, ?_, read short⟩
    unfold AvcRecord.of?
    match stripped : strip sps with
    | header' :: profile' :: compatibility' :: level' :: more' =>
      rw [stripped] at plain
      cases plain
      rfl
    | [] | [_] | [_, _] | [_, _, _] => simp [stripped] at plain

/-- The H.265 record of some sets is read as what it should say exactly if the sets are short and the layers fit into
three bits. -/
lemma hevc_decodes (configured : Hevc.decoderConfiguration sets = .ok record) :
    ∃ vps sps pps content, sets.ordered .h265 = .ok [vps, sps, pps] ∧ HevcRecord.of? vps sps pps = some content ∧
      (hevc? record = some content ↔ (∀ nal ∈ [vps, sps, pps], nal.length < 0x10000) ∧ content.layers < 8) := by
  obtain ⟨h₀, h₁, ids, profile, c₀, c₁, c₂, c₃, k₀, k₁, k₂, k₃, k₄, k₅, level, more, vps, sps, pps, in_order, stripped,
    record_eq⟩ := hevc_laid configured
  refine ⟨vps, sps, pps, _, in_order, by rw [HevcRecord.of?, stripped], ?_, ?_⟩
  · intro found
    obtain ⟨short, few⟩ := fits_of_hevc? found
    refine ⟨?_, few⟩
    simpa using short
  · rintro ⟨short, few⟩
    obtain ⟨no_rate, layers, nested, size⟩ := packedLayers_fields few
    rw [record_eq, hevc?_written short, no_rate, layers, size, decide_eq_decide.mpr nested]

end ParameterSets

/-- A decoder configuration record says what the parameter sets say exactly if they fit into its layout: every NAL unit
is shorter than 64 KiB; an H.264 SPS has no emulation prevention byte where profile and level stand, as none has that
has a profile at all; an H.265 SPS has fewer than eight temporal layers. -/
theorem configuration_decodes (sets : ParameterSets) (record : Bytes) :
    (sets.decoderConfiguration .h264 = .ok record →
      ∃ sps pps, sets.ordered .h264 = .ok [sps, pps] ∧ (sps[1]? ≠ some 0 → IsPlain sps) ∧
        ((∃ content, AvcRecord.of? sps pps = some content ∧ avc? record = some content) ↔
          (∀ nal ∈ [sps, pps], nal.length < 0x10000) ∧ IsPlain sps)) ∧
    (sets.decoderConfiguration .h265 = .ok record →
      ∃ vps sps pps content, sets.ordered .h265 = .ok [vps, sps, pps] ∧
        HevcRecord.of? vps sps pps = some content ∧
        (hevc? record = some content ↔ (∀ nal ∈ [vps, sps, pps], nal.length < 0x10000) ∧ content.layers < 8)) :=
  ⟨ParameterSets.avc_decodes, ParameterSets.hevc_decodes⟩

/-- The most that an H.265 record can hold, seven layers, and an H.264 record of an SPS and a PPS. -/
theorem configuration_decodes_seven_layers :
    let sps := [0x42, 0x01, 0x0D, 0x01, 0x60, 0x00, 0x00, 0x03, 0x00, 0x90, 0x00, 0x00, 0x03, 0x00, 0x00, 0x03, 0x00,
      0x5D]
    let sets := ParameterSets.ofH265 [0x40, 0x01, 0x0C] sps [0x44, 0x01, 0xC1]
    let sets' := ParameterSets.ofH264 [0x67, 0x42, 0xC0, 0x1E, 0x95] [0x68, 0xEE]
    (∃ record content, sets.decoderConfiguration .h265 = .ok record ∧ hevc? record = some content ∧
      content.level = 0x5D ∧ content.layers = 7 ∧ content.constantRate = 0 ∧ content.isNested = true ∧
      content.arrays = [⟨true, 32, [[0x40, 0x01, 0x0C]]⟩, ⟨true, 33, [sps]⟩, ⟨true, 34, [[0x44, 0x01, 0xC1]]⟩]) ∧
    ∃ record, sets'.decoderConfiguration .h264 = .ok record ∧
      avc? record = some ⟨0x42, 0xC0, 0x1E, 4, [[0x67, 0x42, 0xC0, 0x1E, 0x95]], [[0x68, 0xEE]]⟩ := by
  intro sps sets sets'
  constructor
  · obtain ⟨_, _, _, content, in_order, expected, found⟩ := (configuration_decodes sets _).2 rfl
    cases in_order
    cases expected
    exact ⟨_, _, rfl, found.mpr (by decide), rfl, rfl, rfl, rfl, rfl⟩
  · obtain ⟨_, _, in_order, plain, found⟩ := (configuration_decodes sets' _).1 rfl
    cases in_order
    obtain ⟨_, expected, read⟩ := found.mpr ⟨by decide, plain (by decide)⟩
    cases expected
    exact ⟨_, rfl, read⟩

/-- Eight layers are read as none, and as a constant frame rate. A PPS of 64 KiB is not read at all. The level of an
SPS of profile zero is taken from its emulation prevention byte. -/
theorem configuration_overflows :
    (let vps := [0x40, 0x01, 0x0C]
      let sps := [0x42, 0x01, 0x0F, 0x01, 0x60, 0x00, 0x00, 0x03, 0x00, 0x90, 0x00, 0x00, 0x03, 0x00, 0x00, 0x03, 0x00,
        0x5D]
      let pps := [0x44, 0x01, 0xC1]
      ∃ record content read, (ParameterSets.ofH265 vps sps pps).decoderConfiguration .h265 = .ok record ∧
        HevcRecord.of? vps sps pps = some content ∧ content.layers = 8 ∧ content.constantRate = 0 ∧
        hevc? record = some read ∧ read.layers = 0 ∧ read.constantRate = 1) ∧
    (let sps := [0x67, 0x42, 0xC0, 0x1E, 0x95]
      let pps := 0x68 :: List.replicate 0xFFFF 0xEE
      ∃ record content, (ParameterSets.ofH264 sps pps).decoderConfiguration .h264 = .ok record ∧
        AvcRecord.of? sps pps = some content ∧ avc? record ≠ some content) ∧
    (let sps := [0x67, 0x00, 0x00, 0x03, 0x01, 0x95]
      let pps := [0x68, 0xEE]
      ∃ record content read, (ParameterSets.ofH264 sps pps).decoderConfiguration .h264 = .ok record ∧
        AvcRecord.of? sps pps = some content ∧ content.level = 1 ∧ avc? record = some read ∧ read.level = 3) := by
  refine ⟨⟨_, _, _, rfl, rfl, rfl, rfl, rfl, rfl, rfl⟩, ?_,
    ⟨_, _, _, rfl, rfl, rfl, avc?_written (by decide) (by decide) 0 0 3, rfl⟩⟩
  intro sps pps
  have complete : ∀ more, (ParameterSets.ofH264 sps (0x68 :: more)).missing? .h264 = none := fun _ => rfl
  have found : (ParameterSets.ofH264 sps pps).get? .sps = some sps := rfl
  obtain ⟨record, configured⟩ := ParameterSets.decoderConfiguration_of_reads (complete _) found rfl
  refine ⟨record, _, configured, rfl, fun read => ?_⟩
  have short := short_of_avc? read pps (by simp)
  rw [List.length_cons, List.length_replicate] at short
  exact absurd short (by decide)

end VideoCapture
