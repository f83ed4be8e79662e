import VideoCapture.Proofs.Bitstream.AnnexB
import VideoCapture.Proofs.Splitter

/-!
# Buffers that are cut in two

A capture buffer may be handed over in two parts if the second one begins with a start code that takes no byte from the
first. No start code then reaches across the cut, so the parts have the units of the whole, and whatever a splitter
makes of the whole it makes of the parts one after the other (`split_append`).
-/

namespace VideoCapture
open StartCode

/-- The two start codes in front of which a byte string may be cut. -/
lemma StartCode.severs_of_prefix {front back : Bytes}
    (cut : long <+: back ∨ short <+: back ∧ front.getLast? ≠ some 0) : Severs front back := by
  rcases cut with ⟨rest, rfl⟩ | ⟨⟨rest, rfl⟩, apart⟩
  · refine ⟨rfl, fun begins => ?_⟩
    -- the third byte of a long code is a zero
    cases List.isPrefixOf_iff_prefix.mpr begins
  · exact ⟨rfl, fun _ => apart⟩

/-- The access unit of the whole is that of both parts together. -/
lemma AccessUnit.ofBuffer_append (codec : Codec) {front back : Bytes} (severs : Severs front back) :
    ofBuffer codec (front ++ back) =
      ⟨(ofBuffer codec front).nals ++ (ofBuffer codec back).nals,
        (ofBuffer codec front).isKeyframe || (ofBuffer codec back).isKeyframe⟩ := by
  rw [ofBuffer, NalUnit.payloads_append severs, List.filter_append, List.any_append]
  exact rfl

namespace Splitter

/-- A splitter handles two parts of a buffer, one after the other, as it would handle the whole. The second part begins
with a long start code, or with a short one that has no zero byte in front of it. -/
theorem split_append (splitter : Splitter) {front back : Bytes}
    (cut : long <+: back ∨ short <+: back ∧ front.getLast? ≠ some 0) :
    let whole := splitter.split (front ++ back)
    let first := splitter.split front
    let second := first.2.split back
    whole.2.sets = second.2.sets ∧
      whole.1.units = first.1.units ++ second.1.units ∧
      whole.1.accessUnit.nals = first.1.accessUnit.nals ++ second.1.accessUnit.nals ∧
      whole.1.accessUnit.isKeyframe = (first.1.accessUnit.isKeyframe || second.1.accessUnit.isKeyframe) ∧
      whole.1.setsChanged = (first.1.setsChanged || second.1.setsChanged) := by
  intro whole first second
  have severs := severs_of_prefix cut
  obtain ⟨units, sets⟩ := splitUnits_append splitter.codec splitter.repeatSets splitter.sets
    (NalUnit.payloads front) (NalUnit.payloads back)
  have changed := splitUnits_setsChanged_append splitter.codec splitter.repeatSets splitter.sets
    (NalUnit.payloads front) (NalUnit.payloads back)
  have unit := AccessUnit.ofBuffer_append splitter.codec severs
  rw [← NalUnit.payloads_append severs] at units sets changed
  -- the second part is split with what the first one has left
  have left : first.2.sets = (splitUnits splitter.codec splitter.repeatSets splitter.sets (NalUnit.payloads front)).2 :=
    split_sets splitter front
  rw [← left] at units sets changed
  have second_frame : second.1 =
      (splitUnits splitter.codec splitter.repeatSets first.2.sets (NalUnit.payloads back)).1 := by
    rw [split_frame, split_codec, split_repeatSets]
  have second_sets : second.2.sets =
      (splitUnits splitter.codec splitter.repeatSets first.2.sets (NalUnit.payloads back)).2 := by
    rw [split_sets, split_codec, split_repeatSets]
  have second_unit : second.1.accessUnit = AccessUnit.ofBuffer splitter.codec back := by
    rw [split_accessUnit, split_codec]
  refine ⟨?_, ?_, ?_, ?_, ?_⟩
  · exact (split_sets splitter _).trans (sets.trans second_sets.symm)
  · rw [second_frame, split_frame, split_frame, units]
  · rw [second_unit, split_accessUnit, split_accessUnit, unit]
  · rw [second_unit, split_accessUnit, split_accessUnit, unit]
  · rw [second_frame, split_frame, split_frame, changed]

/-- The cut is in front of a short code. The sets of the first part are repeated in front of the key picture in the
second. -/
theorem split_append_key_picture :
    let sps : Bytes := [0x67, 0x64, 0x00, 0x28]
    let pps : Bytes := [0x68, 0xEE, 0x3C, 0x80]
    let key : Bytes := [0x65, 0x88, 0x84, 0x21]
    let splitter : Splitter := { codec := .h264, repeatSets := true }
    let front := NalUnit.annexB [sps, pps]
    let back := short ++ key
    (short <+: back ∧ front.getLast? ≠ some 0) ∧
      (splitter.split (front ++ back)).1.units = [sps, pps] ++ [sps, pps, key] ∧
      (splitter.split (front ++ back)).2.sets = .ofH264 sps pps := by
  intro sps pps key splitter front back
  have cut : short <+: back ∧ front.getLast? ≠ some 0 := ⟨List.prefix_append _ _, by decide +kernel⟩
  obtain ⟨sets, units, -⟩ := splitter.split_append (.inr cut)
  refine ⟨cut, units.trans ?_, sets.trans ?_⟩ <;> decide +kernel

-- a zero byte in front of a short code would be taken for a part of the code
example : NalUnit.payloads ([0, 0, 1, 0x68, 0] ++ [0, 0, 1, 0x65]) ≠
    NalUnit.payloads [0, 0, 1, 0x68, 0] ++ NalUnit.payloads [0, 0, 1, 0x65] := by
  decide +kernel

end Splitter

end VideoCapture
