import Mathlib.Tactic.Lemma
import VideoCapture.Disk.Content

/-!
# Overwriting

The algebra of `FileContent.overwrite`. A file that is written piece by piece, in order and then with
patches, is at every moment its old content with one region laid over it, and every write acts on that
region alone: this is `overwrite_overwrite`, with which all statements about written files begin.
-/

namespace VideoCapture.FileContent

/-- What stands in front of position `base`, with zero bytes for what the content lacks. -/
def leading (content : Bytes) (base : Nat) : Bytes :=
  content.take base ++ Bytes.zeros (base - content.length)

/-- What leads up to a position is as long as that position. -/
@[simp] lemma length_leading (content : Bytes) (base : Nat) : (leading content base).length = base := by
  simp only [leading, List.length_append, List.length_take, Bytes.length_zeros]
  omega

/-- What was overwritten is what leads up to the position, then the region, then what was there behind it. -/
lemma overwrite_eq (content : Bytes) (base : Nat) (region : Bytes) :
    overwrite content base region =
      leading content base ++ (region ++ content.drop (base + region.length)) := by
  simp only [overwrite, leading, List.append_assoc]

/-- A file that was overwritten reaches up to the end of the region, or farther if it did before. -/
lemma length_overwrite (content : Bytes) (base : Nat) (region : Bytes) :
    (overwrite content base region).length = max (base + region.length) content.length := by
  simp only [overwrite_eq, List.length_append, length_leading, List.length_drop]
  omega

/-- Nothing is written over an empty file but the region itself. -/
@[simp] lemma overwrite_nil_zero (region : Bytes) : overwrite [] 0 region = region := by
  simp [overwrite, Bytes.zeros]

/-- Writing behind the last byte appends. -/
lemma overwrite_at_end (region written : Bytes) :
    overwrite region region.length written = region ++ written := by
  simp [overwrite, Bytes.zeros]

/-- Writing into the midst replaces as many bytes as are written. -/
lemma overwrite_between {front middle written : Bytes} (back : Bytes)
    (same : middle.length = written.length) :
    overwrite (front ++ middle ++ back) front.length written = front ++ written ++ back := by
  have behind : front.length + written.length = (front ++ middle).length := by simp [same]
  have no_gap : front.length - (front ++ middle ++ back).length = 0 := by simp
  simp only [overwrite, no_gap, behind, List.drop_left]
  simp [Bytes.zeros]

/-- The region can be read back where it was written. -/
lemma slice_overwrite (content : Bytes) (base : Nat) (region : Bytes) :
    ((overwrite content base region).drop base).take region.length = region := by
  rw [overwrite_eq, List.drop_left' (length_leading content base), List.take_left]

/-- What stands in front of the end of a region does not depend on what is written behind it. -/
lemma take_overwrite (content : Bytes) (base : Nat) {region longer : Bytes} (grown : region <+: longer) :
    (overwrite content base longer).take (base + region.length) = leading content base ++ region := by
  obtain ⟨more, rfl⟩ := grown
  rw [overwrite_eq, List.append_assoc region, ← List.append_assoc (leading content base),
    List.take_left' (by simp)]

/-- A second write that begins inside the region, or right behind it, acts on the region alone. -/
lemma overwrite_overwrite (content : Bytes) (base : Nat) {region : Bytes} (written : Bytes) {at_ : Nat}
    (inside : at_ ≤ region.length) :
    overwrite (overwrite content base region) (base + at_) written =
      overwrite content base (overwrite region at_ written) := by
  have no_gap : base + at_ - (overwrite content base region).length = 0 := by
    rw [length_overwrite]
    omega
  have no_gap' : at_ - region.length = 0 := by omega
  have front : (overwrite content base region).take (base + at_) =
      leading content base ++ region.take at_ := by
    rw [overwrite_eq, List.take_append, length_leading, List.take_of_length_le (by simp),
      Nat.add_sub_cancel_left, List.take_append_of_le_length inside]
  have back : (overwrite content base region).drop (base + at_ + written.length) =
      region.drop (at_ + written.length) ++
        content.drop (base + (overwrite region at_ written).length) := by
    -- the second write may reach beyond the end of the region
    have reach : (overwrite region at_ written).length = max (at_ + written.length) region.length :=
      length_overwrite region at_ written
    rw [overwrite_eq, Nat.add_assoc, ← List.drop_drop, List.drop_left' (length_leading content base),
      List.drop_append, List.drop_drop, reach]
    congr 2
    omega
  rw [overwrite_eq content base (overwrite region at_ written)]
  rw [overwrite, no_gap, front, back]
  simp only [overwrite, no_gap', Bytes.zeros, List.replicate_zero, List.append_nil, List.append_assoc]

end VideoCapture.FileContent
