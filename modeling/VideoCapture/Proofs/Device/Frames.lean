import VideoCapture.Device.Frames
import VideoCapture.Proofs.Bitstream.NalUnit

/-!
# The frames of a byte stream

However a byte stream is grouped into access units, the frames lie one behind the other and reach from the
first unit to the end of the stream, and the units of the frames are the units of the stream
(`Frames.accessUnits_tile`). Each frame is scanned on its own here, and the stream as a whole there.
-/

namespace VideoCapture.Frames
open StartCode

variable {data : Bytes}

/-- What lies up to a position and what lies behind it make up what begins in front. -/
lemma slice_append_drop {begun position : Nat} (later : begun ≤ position) (data : Bytes) :
    (Span.mk begun position).slice data ++ data.drop position = data.drop begun := by
  have parted := List.take_append_drop (position - begun) (data.drop begun)
  rw [List.drop_drop, Nat.add_sub_cancel' later] at parted
  exact parted

/-- Frames that reach from a position to the end of a byte string, with the units that are found there. -/
structure Tile (data : Bytes) (position : Nat) (frames : List Bytes) : Prop where
  nonempty : ∀ frame ∈ frames, frame ≠ []
  flatten : frames.flatten = data.drop position
  units : frames.flatMap NalUnit.payloads = NalUnit.payloads (data.drop position)

/-- The rest of a byte string is one frame. -/
lemma Tile.rest {begun : Nat} (inside : begun < data.length) : Tile data begun [data.drop begun] where
  nonempty frame among := by
    rw [List.mem_singleton.mp among]
    exact List.ne_nil_of_length_pos (by rw [List.length_drop]; omega)
  flatten := List.flatten_singleton
  units := List.flatMap_singleton _ _

/-- The units in front of a cut and those behind it are the units of both. -/
lemma payloads_slice {begun position : Nat} (later : begun ≤ position)
    (severs : Severs (data.take position) (data.drop position)) :
    NalUnit.payloads (data.drop begun) =
      NalUnit.payloads ((Span.mk begun position).slice data) ++ NalUnit.payloads (data.drop position) := by
  have slice : (Span.mk begun position).slice data = (data.take position).drop begun := by
    rw [List.drop_take]
    rfl
  rw [← slice_append_drop later data, slice]
  exact NalUnit.payloads_append (severs.drop begun)

/-- A frame may end in front of any start code that takes no byte from it. -/
lemma Tile.cons {begun position : Nat} {frames : List Bytes} (tile : Tile data position frames)
    (later : begun < position) (severs : Severs (data.take position) (data.drop position)) :
    Tile data begun ((Span.mk begun position).slice data :: frames) := by
  have inside := severs.lt_length
  refine ⟨List.forall_mem_cons.mpr ⟨?_, tile.nonempty⟩, ?_, ?_⟩
  · refine List.ne_nil_of_length_pos ?_
    rw [Span.slice, Span.length, List.length_take, List.length_drop]
    dsimp only
    omega
  · rw [List.flatten_cons, tile.flatten, slice_append_drop (Nat.le_of_lt later)]
  · rw [List.flatMap_cons, tile.units, payloads_slice (Nat.le_of_lt later) severs]

/-- An access unit that has begun, and those that follow, reach to the end of the byte string. -/
lemma accessUnitsFrom_tile (codec : Codec) {begun : Nat} {hasSlice : Bool} {items : List (Nat × NalUnit)}
    (inside : begun < data.length) (later : ∀ item ∈ items, begun < item.1)
    (ordered : items.Pairwise fun one two => one.1 < two.1)
    (severs : ∀ item ∈ items, Severs (data.take item.1) (data.drop item.1)) :
    Tile data begun
      ((accessUnitsFrom codec data.length (some begun) hasSlice items).map fun span => span.slice data) := by
  induction items generalizing begun hasSlice with
  | nil =>
    have rest : (Span.mk begun data.length).slice data = data.drop begun := by
      rw [Span.slice, Span.length]
      exact List.take_of_length_le (Nat.le_of_eq List.length_drop)
    rw [accessUnitsFrom, Option.map_some, Option.toList_some, List.map_singleton, rest]
    exact .rest inside
  | cons item items ih =>
    obtain ⟨position, nal⟩ := item
    obtain ⟨behind, ordered⟩ := List.pairwise_cons.mp ordered
    have cut := severs _ List.mem_cons_self
    have here : begun < position := later _ List.mem_cons_self
    have others : ∀ item ∈ items, Severs (data.take item.1) (data.drop item.1) :=
      fun item among => severs item (List.mem_cons_of_mem _ among)
    unfold accessUnitsFrom
    dsimp only
    -- a boundary ends the access unit in front of the item, and otherwise the item belongs to it
    split
    · rename_i begun' _ same boundary
      cases same
      exact (ih cut.lt_length behind ordered others).cons here cut
    · exact ih inside (fun item among => later item (List.mem_cons_of_mem _ among)) ordered others

/-- The access units of a byte stream reach from its first unit to its end. Without a unit there are none. -/
lemma accessUnits_tile (codec : Codec) (data : Bytes) :
    (∃ first nal rest, NalUnit.locatedFrom 0 data = (first, nal) :: rest ∧
      NalUnit.payloads (data.drop first) = NalUnit.payloads data ∧
      Tile data first ((accessUnits codec data).map fun span => span.slice data)) ∨
    accessUnits codec data = [] := by
  rw [accessUnits]
  cases located : NalUnit.locatedFrom 0 data with
  | nil => exact .inr rfl
  | cons item items =>
    obtain ⟨first, nal⟩ := item
    -- units are only ever found at places where the stream may be cut
    have severs := NalUnit.located_severs [] data (.inl rfl)
    have ordered := (NalUnit.located_ordered 0 data).2
    rw [List.length_nil, List.nil_append, located] at severs
    rw [located] at ordered
    obtain ⟨later, ordered⟩ := List.pairwise_cons.mp ordered
    refine .inl ⟨first, nal, items, rfl, ?_, ?_⟩
    · have units := NalUnit.located_suffix [] data (first, nal) items
      rw [List.length_nil, located, List.nil_append] at units
      rw [units (List.suffix_refl _), ← located, NalUnit.located_payloads, NalUnit.payloads_eq]
    · have begins := (severs _ List.mem_cons_self).2
      unfold accessUnitsFrom
      exact accessUnitsFrom_tile codec begins.lt_length later ordered fun item among =>
        (severs item (List.mem_cons_of_mem _ among)).2

end VideoCapture.Frames
