import VideoCapture.Proofs.Mp4.Movie
import VideoCapture.Proofs.ParameterSets.Record

/-!
# Boxes inside boxes

A movie box consists of boxes inside boxes, down to the tables. At every level the size field of a box is its length,
and the boxes that stand in another one fill it to its end (`Demux.Tiled`). A reader that goes down from box to box
therefore gets to each table, and what the tables say there are the samples that the movie box was made from, wherever
these lie and whatever their sizes are (`sample_tables_decode`). Nothing is asked of the track but that it has a
decoder configuration.
-/

namespace VideoCapture

namespace Demux

/-- Where the boxes in the payload of a box begin, for the types that hold boxes: at its start, behind version, flags
and the number of entries, or behind the fixed fields of a sample entry. -/
def inside? (type : FourCC) : Option Nat :=
  if type ∈ [.ofChars 'm' 'o' 'o' 'v', .ofChars 't' 'r' 'a' 'k', .ofChars 'm' 'd' 'i' 'a', .ofChars 'm' 'i' 'n' 'f',
    .ofChars 'd' 'i' 'n' 'f', .ofChars 's' 't' 'b' 'l'] then some 0
  else if type ∈ [.ofChars 'd' 'r' 'e' 'f', .ofChars 's' 't' 's' 'd'] then some 8
  else if type ∈ [.ofChars 'a' 'v' 'c' '1', .ofChars 'h' 'v' 'c' '1'] then some 78
  else none

/-- Bytes that are boxes one behind the other up to the last byte. The size field of each box is its length, and what
stands in a box that holds boxes is tiled in turn. -/
inductive Tiled : Bytes → Prop
  | nil : Tiled []
  | cons {size payload rest : Bytes} {type : FourCC} (width : size.length = 4)
      (length : Bytes.toNat size = 8 + payload.length)
      (reach : ∀ n, inside? type = some n → n ≤ payload.length)
      (inner : ∀ n, inside? type = some n → Tiled (payload.drop n))
      (tail : Tiled rest) :
      Tiled (size ++ type.bytes ++ payload ++ rest)

/-- A payload that a box of the type can have if all bytes are to be tiled. -/
def Fills (type : FourCC) (payload : Bytes) : Prop :=
  ∀ n, inside? type = some n → n ≤ payload.length ∧ Tiled (payload.drop n)

/-- A box of a type that holds no boxes may have any payload. -/
lemma fills_of_leaf {type : FourCC} (leaf : inside? type = none) (payload : Bytes) : Fills type payload := by
  intro n holds
  rw [leaf] at holds
  cases holds

/-- A payload fills a box of a type if tiled bytes follow behind the fixed fields of that type. -/
lemma fills_of_tiled {type : FourCC} {fields inner : Bytes} (holds : inside? type = some fields.length)
    (tiled : Tiled inner) : Fills type (fields ++ inner) := by
  intro n same
  cases holds.symm.trans same
  refine ⟨by simp, ?_⟩
  rw [List.drop_left]
  exact tiled

/-- Tiled bytes fill a box of a type that holds boxes from the start of its payload. -/
lemma fills_of_boxes {type : FourCC} {payload : Bytes} (holds : inside? type = some 0) (tiled : Tiled payload) :
    Fills type payload :=
  @fills_of_tiled type [] payload holds tiled

/-- A box whose payload fills it is tiled, together with what is tiled behind it. -/
lemma Tiled.build {type : FourCC} {payload rest : Bytes} (small : payload.length + 8 < 0x100000000)
    (fills : Fills type payload) (tail : Tiled rest) : Tiled (Box.build type payload ++ rest) := by
  apply Tiled.cons (Bytes.length_be32 _)
  · rw [Bytes.toNat_be32, Box.headerSize, Nat.mod_eq_of_lt (by omega)]
  · exact fun n holds => (fills n holds).1
  · exact fun n holds => (fills n holds).2
  · exact tail

/-- Boxes whose payloads fill them are tiled one behind the other. -/
lemma tiled_concat {found : List (FourCC × Bytes)} (small : (concat found).length < 0x100000000)
    (fills : ∀ box ∈ found, Fills box.1 box.2) : Tiled (concat found) := by
  induction found with
  | nil => exact .nil
  | cons box rest ih =>
    have first := @length_le_concat (box :: rest) box List.mem_cons_self
    have behind : (concat rest).length ≤ (concat (box :: rest)).length := by
      rw [concat_cons, List.length_append]
      omega
    apply Tiled.build
    · omega
    · exact fills box List.mem_cons_self
    · exact ih (by omega) fun other among => fills other (List.mem_cons_of_mem _ among)

/-- The payload of the box that a path leads to, from each box to the first one of a type in it. -/
def descend? : List FourCC → Bytes → Option Bytes
  | [], data => some data
  | type :: path, data => (child? type data).bind (descend? path)

/-- The duration in a header box, which has other fields of the given width in front of it. -/
def headerDuration? (width : Nat) (header : Bytes) : Option Nat := do
  let (duration, _) ← number? 4 ((← fields? header).drop width)
  return duration

/-- A path leads on from the first box of a type among boxes one behind the other. -/
lemma descend?_concat {type : FourCC} {found : List (FourCC × Bytes)} {payload : Bytes}
    (small : (concat found).length < 0x100000000) (there : found.lookup type = some payload) (path : List FourCC) :
    descend? (type :: path) (concat found) = descend? path payload := by
  rw [descend?, child?_concat type small, there, Option.bind_some]

/-- The payload of a box stands behind its header. -/
lemma drop_build (type : FourCC) (payload : Bytes) : (Box.build type payload).drop Box.headerSize = payload :=
  List.drop_left' rfl

/-- The duration is read from a header box that has it at its place. -/
lemma headerDuration?_of_fields {header : Bytes} {duration : Nat} (front : Bytes) (narrow : duration < 0x100000000)
    (parted : ∃ flags rest, header = 0 :: 0 :: 0 :: flags :: (front ++ (Bytes.be32 duration ++ rest))) :
    headerDuration? front.length header = some duration := by
  obtain ⟨flags, rest, rfl⟩ := parted
  rw [headerDuration?, fields?_full, Option.bind_eq_bind, Option.bind_some, List.drop_left, number?_be32 narrow]
  rfl

end Demux

namespace Movie
open Demux

section
variable (track : Track) (configuration : Bytes) (samples : List Sample)

/-- The bytes of the sample table box are one of the boxes of a media information box, and so on: each level is
smaller than the one around it. -/
lemma length_levels :
    (concat (stblBoxes track configuration samples)).length + 8 ≤ (concat (minfBoxes track configuration samples)).length ∧
    (concat (minfBoxes track configuration samples)).length + 8 ≤ (concat (mdiaBoxes track configuration samples)).length ∧
    (concat (mdiaBoxes track configuration samples)).length + 8 ≤ (concat (trakBoxes track configuration samples)).length ∧
    (concat (trakBoxes track configuration samples)).length + 8 ≤ (concat (moovBoxes track configuration samples)).length := by
  refine ⟨?_, ?_, ?_, ?_⟩
  · exact @length_of_lookup (.ofChars 's' 't' 'b' 'l') _ _ rfl
  · exact @length_of_lookup (.ofChars 'm' 'i' 'n' 'f') _ _ rfl
  · exact @length_of_lookup (.ofChars 'm' 'd' 'i' 'a') _ _ rfl
  · exact @length_of_lookup (.ofChars 't' 'r' 'a' 'k') _ _ rfl

end

variable {track : Track} {configuration : Bytes} {samples : List Sample}

/-- The only entry of the sample description holds the decoder configuration behind its fixed fields. -/
lemma fills_description (small : (descriptionFields track configuration).length < 0x100000000) :
    Fills (.ofChars 's' 't' 's' 'd') (0 :: 0 :: 0 :: 0 :: descriptionFields track configuration) := by
  have fixed : (entryFields track).length = 78 := by
    simp only [entryFields, List.length_append, Bytes.length_zeros, Bytes.length_be16, Bytes.length_be32]
  have entry_holds : inside? (entryType track.codec) = some (entryFields track).length := by
    rw [fixed]
    cases track.codec <;> rfl
  have leaf : inside? (configurationType track.codec) = none := by
    cases track.codec <;> rfl
  rw [descriptionFields, List.length_append] at small
  have entry_small := length_le_concat (List.mem_singleton_self (entryType track.codec,
    entryFields track ++ concat [(configurationType track.codec, configuration)]))
  rw [List.length_append] at entry_small
  have nested : Tiled (concat [(configurationType track.codec, configuration)]) := by
    refine tiled_concat (by omega) ?_
    simpa using fills_of_leaf leaf configuration
  have entry : Tiled (concat [(entryType track.codec,
      entryFields track ++ concat [(configurationType track.codec, configuration)])]) := by
    refine tiled_concat (by omega) ?_
    simpa using fills_of_tiled entry_holds nested
  exact @fills_of_tiled _ (0 :: 0 :: 0 :: 0 :: Bytes.be32 1) _ rfl entry

/-- The tables of samples hold no boxes, so their payloads fill them. -/
lemma fills_tables : ∀ box ∈ SampleTable.tables samples, Fills box.1 box.2 := by
  have offsets : inside? (SampleTable.offsetsBox (Chunk.group samples)).1 = none := by
    rw [SampleTable.offsetsBox]
    split <;> rfl
  simp only [SampleTable.tables, List.forall_mem_cons]
  exact ⟨fills_of_leaf rfl _, fills_of_leaf rfl _, fills_of_leaf rfl _, fills_of_leaf offsets _,
    fills_of_leaf rfl _, List.forall_mem_nil _⟩

/-- The boxes of the sample table are tiled. -/
lemma tiled_stbl (small : (concat (stblBoxes track configuration samples)).length < 0x100000000) :
    Tiled (concat (stblBoxes track configuration samples)) := by
  refine tiled_concat small ?_
  have description := @length_of_lookup (.ofChars 's' 't' 's' 'd') (stblBoxes track configuration samples) _ rfl
  simp only [List.length_cons] at description
  rw [stblBoxes, List.forall_mem_cons]
  exact ⟨fills_description (by omega), fills_tables⟩

/-- The data reference box holds one entry, which says that the media data are in the same file. -/
lemma tiled_dinf : Tiled (dinf.drop Box.headerSize) := by
  have url : Tiled (Box.buildFull (.ofChars 'u' 'r' 'l' ' ') 1 [] ++ []) :=
    .build (by decide) (fills_of_leaf rfl _) .nil
  rw [List.append_nil] at url
  have entry : Fills (.ofChars 'd' 'r' 'e' 'f') ((0 :: 0 :: 0 :: 0 :: Bytes.be32 1) ++
      Box.buildFull (.ofChars 'u' 'r' 'l' ' ') 1 []) :=
    fills_of_tiled rfl url
  have dref := Tiled.build (by decide) entry .nil
  rw [List.append_nil] at dref
  rw [dinf, drop_build]
  exact dref

/-- The boxes of the media information are tiled. -/
lemma tiled_minf (small : (concat (minfBoxes track configuration samples)).length < 0x100000000) :
    Tiled (concat (minfBoxes track configuration samples)) := by
  obtain ⟨stbl_small, -⟩ := length_levels track configuration samples
  refine tiled_concat small ?_
  simp only [minfBoxes, List.forall_mem_cons]
  refine ⟨fills_of_leaf rfl _, ?_, ?_, List.forall_mem_nil _⟩
  · exact fills_of_boxes rfl tiled_dinf
  · exact fills_of_boxes rfl (tiled_stbl (by omega))

/-- The boxes of the media box are tiled. -/
lemma tiled_mdia (small : (concat (mdiaBoxes track configuration samples)).length < 0x100000000) :
    Tiled (concat (mdiaBoxes track configuration samples)) := by
  obtain ⟨-, minf_small, -⟩ := length_levels track configuration samples
  refine tiled_concat small ?_
  simp only [mdiaBoxes, List.forall_mem_cons]
  refine ⟨fills_of_leaf rfl _, fills_of_leaf rfl _, ?_, List.forall_mem_nil _⟩
  exact fills_of_boxes rfl (tiled_minf (by omega))

/-- The boxes of the track are tiled. -/
lemma tiled_trak (small : (concat (trakBoxes track configuration samples)).length < 0x100000000) :
    Tiled (concat (trakBoxes track configuration samples)) := by
  obtain ⟨-, -, mdia_small, -⟩ := length_levels track configuration samples
  refine tiled_concat small ?_
  simp only [trakBoxes, List.forall_mem_cons]
  refine ⟨fills_of_leaf rfl _, ?_, List.forall_mem_nil _⟩
  exact fills_of_boxes rfl (tiled_mdia (by omega))

/-- The boxes of the movie are tiled. -/
lemma tiled_moov (small : (concat (moovBoxes track configuration samples)).length < 0x100000000) :
    Tiled (concat (moovBoxes track configuration samples)) := by
  obtain ⟨-, -, -, trak_small⟩ := length_levels track configuration samples
  refine tiled_concat small ?_
  simp only [moovBoxes, List.forall_mem_cons]
  refine ⟨fills_of_leaf rfl _, ?_, List.forall_mem_nil _⟩
  exact fills_of_boxes rfl (tiled_trak (by omega))

/-- The headers that state a duration, by the paths to them, with the width of what stands in front of it. -/
def headers : List (List FourCC × Nat) :=
  [([.ofChars 'm' 'o' 'o' 'v', .ofChars 'm' 'v' 'h' 'd'], 12),
    ([.ofChars 'm' 'o' 'o' 'v', .ofChars 't' 'r' 'a' 'k', .ofChars 't' 'k' 'h' 'd'], 16),
    ([.ofChars 'm' 'o' 'o' 'v', .ofChars 't' 'r' 'a' 'k', .ofChars 'm' 'd' 'i' 'a', .ofChars 'm' 'd' 'h' 'd'], 12)]

/-- The duration in the movie header stands behind the times and the time scale. -/
lemma mvhd_parted (timescale duration : Nat) : ∃ flags rest, (mvhd timescale duration).drop Box.headerSize =
    0 :: 0 :: 0 :: flags :: (Bytes.zeros 8 ++ Bytes.be32 timescale ++ (Bytes.be32 duration ++ rest)) := by
  rw [mvhd, Box.buildFull, drop_build]
  simp only [List.append_assoc, List.cons_append, List.nil_append]
  exact ⟨_, _, rfl⟩

/-- The duration in the track header stands behind the times, the number of the track and a reserved field. -/
lemma tkhd_parted (track : Track) (duration : Nat) : ∃ flags rest, (tkhd track duration).drop Box.headerSize =
    0 :: 0 :: 0 :: flags :: (Bytes.zeros 8 ++ Bytes.be32 1 ++ Bytes.zeros 4 ++ (Bytes.be32 duration ++ rest)) := by
  rw [tkhd, Box.buildFull, drop_build]
  simp only [List.append_assoc, List.cons_append, List.nil_append]
  exact ⟨_, _, rfl⟩

/-- The duration in the media header stands behind the times and the time scale. -/
lemma mdhd_parted (timescale duration : Nat) : ∃ flags rest, (mdhd timescale duration).drop Box.headerSize =
    0 :: 0 :: 0 :: flags :: (Bytes.zeros 8 ++ Bytes.be32 timescale ++ (Bytes.be32 duration ++ rest)) := by
  rw [mdhd, Box.buildFull, drop_build]
  simp only [List.append_assoc, List.cons_append, List.nil_append]
  exact ⟨_, _, rfl⟩

end Movie

open Demux Movie

/-- A movie box is tiled at every level, and its tables lead back to the samples, which may lie anywhere in 64 bits and
overlap. Its headers agree on a duration of 1000 ticks for each sample, as far as 32 bits reach. -/
theorem sample_tables_decode {track : Track} {samples : List Sample} {movie : Bytes}
    (built : Movie.moov track samples = .ok movie) (small : movie.length < 0x100000000)
    (narrow : ∀ sample ∈ samples, sample.size < 0x100000000)
    (within : ∀ sample ∈ samples, sample.offset + sample.size < 0x10000000000000000) :
    Tiled movie ∧
    (∃ stbl, descend? [.ofChars 'm' 'o' 'o' 'v', .ofChars 't' 'r' 'a' 'k', .ofChars 'm' 'd' 'i' 'a',
        .ofChars 'm' 'i' 'n' 'f', .ofChars 's' 't' 'b' 'l'] movie = some stbl ∧
      samples? stbl = some samples ∧
      durations? stbl = some (List.replicate samples.length 1000)) ∧
    ∀ header ∈ headers, (descend? header.1 movie).bind (headerDuration? header.2) =
      some (min (1000 * samples.length) 0xFFFFFFFF) := by
  obtain ⟨configuration, -, laid⟩ := ParameterSets.of_bind_ok built
  cases laid
  have laid : moovWith track configuration samples =
      concat [(.ofChars 'm' 'o' 'o' 'v', concat (moovBoxes track configuration samples))] := by
    rw [moovWith_eq, concat_cons, concat_nil, List.append_nil]
  rw [laid] at small ⊢
  -- every level is smaller than the one around it
  have moov_small := length_le_concat (List.mem_singleton_self
    ((.ofChars 'm' 'o' 'o' 'v', concat (moovBoxes track configuration samples)) : FourCC × Bytes))
  obtain ⟨stbl_small, minf_small, mdia_small, trak_small⟩ := length_levels track configuration samples
  dsimp only at moov_small
  have moov : ∀ path, descend? (.ofChars 'm' 'o' 'o' 'v' :: path)
      (concat [(.ofChars 'm' 'o' 'o' 'v', concat (moovBoxes track configuration samples))]) =
        descend? path (concat (moovBoxes track configuration samples)) :=
    descend?_concat small rfl
  have trak : ∀ path, descend? (.ofChars 't' 'r' 'a' 'k' :: path)
      (concat (moovBoxes track configuration samples)) =
        descend? path (concat (trakBoxes track configuration samples)) :=
    descend?_concat (by omega) rfl
  have mdia : ∀ path, descend? (.ofChars 'm' 'd' 'i' 'a' :: path)
      (concat (trakBoxes track configuration samples)) =
        descend? path (concat (mdiaBoxes track configuration samples)) :=
    descend?_concat (by omega) rfl
  have minf : ∀ path, descend? (.ofChars 'm' 'i' 'n' 'f' :: path)
      (concat (mdiaBoxes track configuration samples)) =
        descend? path (concat (minfBoxes track configuration samples)) :=
    descend?_concat (by omega) rfl
  have stbl : ∀ path, descend? (.ofChars 's' 't' 'b' 'l' :: path)
      (concat (minfBoxes track configuration samples)) =
        descend? path (concat (stblBoxes track configuration samples)) :=
    descend?_concat (by omega) rfl
  refine ⟨?_, ⟨concat (stblBoxes track configuration samples), ?_, ?_, ?_⟩, ?_⟩
  · refine tiled_concat small ?_
    simp only [List.forall_mem_cons]
    exact ⟨fills_of_boxes rfl (tiled_moov (by omega)), List.forall_mem_nil _⟩
  · rw [moov, trak, mdia, minf, stbl, descend?]
  · exact SampleTable.samples?_tables rfl (by rw [← stblBoxes]; omega) narrow within
  · exact SampleTable.durations?_tables rfl (by rw [← stblBoxes]; omega)
  · have duration_eq : min (1000 * samples.length) 0xFFFFFFFF = duration samples.length := by
      rw [duration, Nat.mul_comm, Track.maxField, Track.sampleTicks]
    have duration_narrow : duration samples.length < 0x100000000 := by
      rw [duration, Track.maxField]
      omega
    rw [duration_eq]
    simp only [headers, List.forall_mem_cons]
    refine ⟨?_, ?_, ?_, List.forall_mem_nil _⟩
    · rw [moov, descend?_concat (by omega) rfl, descend?, Option.bind_some]
      exact headerDuration?_of_fields _ duration_narrow (mvhd_parted _ _)
    · rw [moov, trak, descend?_concat (by omega) rfl, descend?, Option.bind_some]
      exact headerDuration?_of_fields _ duration_narrow (tkhd_parted _ _)
    · rw [moov, trak, mdia, descend?_concat (by omega) rfl, descend?, Option.bind_some]
      exact headerDuration?_of_fields _ duration_narrow (mdhd_parted _ _)

/-- Samples beyond 32 bits, without bytes, and one over the other, of a track that no player could show. -/
theorem sample_tables_decode_scattered :
    let track : Track := ⟨.h264, .ofH264 [0x67, 0x42, 0x00, 0x1E] [0x68], 70000, 0, 0⟩
    let samples : List Sample :=
      [⟨0x100000028, 10, true⟩, ⟨0x100000032, 0, false⟩, ⟨16, 5, false⟩, ⟨18, 7, true⟩]
    ∃ movie stbl, Movie.moov track samples = .ok movie ∧ movie.length < 0x100000000 ∧
      (∀ sample ∈ samples, sample.size < 0x100000000) ∧
      (∀ sample ∈ samples, sample.offset + sample.size < 0x10000000000000000) ∧
      Tiled movie ∧
      descend? [.ofChars 'm' 'o' 'o' 'v', .ofChars 't' 'r' 'a' 'k', .ofChars 'm' 'd' 'i' 'a',
        .ofChars 'm' 'i' 'n' 'f', .ofChars 's' 't' 'b' 'l'] movie = some stbl ∧
      samples? stbl = some samples := by
  intro track samples
  obtain ⟨movie, built⟩ : ∃ movie, Movie.moov track samples = .ok movie := ⟨_, rfl⟩
  have small : movie.length < 0x100000000 := by
    cases built
    decide +kernel
  have narrow : ∀ sample ∈ samples, sample.size < 0x100000000 := by decide
  have within : ∀ sample ∈ samples, sample.offset + sample.size < 0x10000000000000000 := by decide
  obtain ⟨tiled, ⟨stbl, there, found, -⟩, -⟩ := sample_tables_decode built small narrow within
  exact ⟨movie, stbl, built, small, narrow, within, tiled, there, found⟩

end VideoCapture
