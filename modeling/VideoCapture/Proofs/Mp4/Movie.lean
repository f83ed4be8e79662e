import VideoCapture.Proofs.Mp4.SampleTable

/-!
# Movie boxes are read back

The boxes around the sample table, level by level, as lists of boxes that a reader finds in them. From the
outermost one down to the tables a movie box reads as the track and the samples it was made from
(`movie?_moovWith`).
-/

namespace VideoCapture

/-- What a valid track can be relied on for. -/
lemma Track.of_validate {track : Track} (valid : track.validate = .ok ()) :
    (0 < track.width ∧ track.width < 0x10000) ∧ (0 < track.height ∧ track.height < 0x10000) ∧ 0 < track.fps ∧
      track.sets.missing? track.codec = none := by
  unfold validate at valid
  split at valid
  · cases valid
  split at valid
  · cases valid
  split at valid
  · cases valid
  split at valid
  · cases valid
  · rename_i complete
    exact ⟨by omega, by omega, by omega, complete⟩

end VideoCapture

namespace VideoCapture.Movie
open Demux

section
variable (track : Track) (configuration : Bytes) (samples : List Sample)

/-- The entry of the sample description up to the decoder configuration. -/
def entryFields : Bytes :=
  Bytes.zeros 6 ++ Bytes.be16 1 ++ Bytes.zeros 16 ++ Bytes.be16 track.width ++ Bytes.be16 track.height ++
    Bytes.be32 0x480000 ++ Bytes.be32 0x480000 ++ Bytes.zeros 4 ++ Bytes.be16 1 ++ Bytes.zeros 32 ++
    Bytes.be16 0x18 ++ Bytes.be16 0xFFFF

/-- The fields of the sample description, of which its only entry is the last. -/
def descriptionFields : Bytes :=
  Bytes.be32 1 ++ concat [(entryType track.codec,
    entryFields track ++ concat [(configurationType track.codec, configuration)])]

/-- The boxes of a sample table box. -/
def stblBoxes : List (FourCC × Bytes) :=
  (.ofChars 's' 't' 's' 'd', 0 :: 0 :: 0 :: 0 :: descriptionFields track configuration) ::
    SampleTable.tables samples

/-- The boxes of a media information box. -/
def minfBoxes : List (FourCC × Bytes) :=
  [(.ofChars 'v' 'm' 'h' 'd', vmhd.drop Box.headerSize), (.ofChars 'd' 'i' 'n' 'f', dinf.drop Box.headerSize),
    (.ofChars 's' 't' 'b' 'l', concat (stblBoxes track configuration samples))]

/-- The boxes of a media box. -/
def mdiaBoxes : List (FourCC × Bytes) :=
  [(.ofChars 'm' 'd' 'h' 'd', (mdhd track.timescale (duration samples.length)).drop Box.headerSize),
    (.ofChars 'h' 'd' 'l' 'r', hdlr.drop Box.headerSize),
    (.ofChars 'm' 'i' 'n' 'f', concat (minfBoxes track configuration samples))]

/-- The boxes of a track box. -/
def trakBoxes : List (FourCC × Bytes) :=
  [(.ofChars 't' 'k' 'h' 'd', (tkhd track (duration samples.length)).drop Box.headerSize),
    (.ofChars 'm' 'd' 'i' 'a', concat (mdiaBoxes track configuration samples))]

/-- The boxes of a movie box. -/
def moovBoxes : List (FourCC × Bytes) :=
  [(.ofChars 'm' 'v' 'h' 'd', (mvhd track.timescale (duration samples.length)).drop Box.headerSize),
    (.ofChars 't' 'r' 'a' 'k', concat (trakBoxes track configuration samples))]

/-- The sample table box consists of its boxes one behind the other. -/
lemma stbl_eq : stbl track configuration samples =
    Box.build (.ofChars 's' 't' 'b' 'l') (concat (stblBoxes track configuration samples)) := by
  have stsd_eq : stsd track configuration = Box.build (.ofChars 's' 't' 's' 'd')
      (0 :: 0 :: 0 :: 0 :: descriptionFields track configuration) := by
    simp only [descriptionFields, concat_cons, concat_nil, List.append_nil]
    rfl
  rw [stblBoxes, concat_cons, SampleTable.concat_tables, ← stsd_eq]
  simp only [stbl, List.append_assoc]

/-- The media information box consists of its boxes one behind the other. -/
lemma minf_eq : minf track configuration samples =
    Box.build (.ofChars 'm' 'i' 'n' 'f') (concat (minfBoxes track configuration samples)) := by
  simp only [minf, stbl_eq, minfBoxes, concat_cons, concat_nil, List.append_nil, List.append_assoc]
  rfl

/-- The media box consists of its boxes one behind the other. -/
lemma mdia_eq : mdia track configuration samples =
    Box.build (.ofChars 'm' 'd' 'i' 'a') (concat (mdiaBoxes track configuration samples)) := by
  simp only [mdia, minf_eq, mdiaBoxes, concat_cons, concat_nil, List.append_nil, List.append_assoc]
  rfl

/-- The track box consists of its boxes one behind the other. -/
lemma trak_eq : trak track configuration samples =
    Box.build (.ofChars 't' 'r' 'a' 'k') (concat (trakBoxes track configuration samples)) := by
  simp only [trak, mdia_eq, trakBoxes, concat_cons, concat_nil, List.append_nil]
  rfl

/-- The movie box consists of its boxes one behind the other. -/
lemma moovWith_eq : moovWith track configuration samples =
    Box.build (.ofChars 'm' 'o' 'o' 'v') (concat (moovBoxes track configuration samples)) := by
  simp only [moovWith, trak_eq, moovBoxes, concat_cons, concat_nil, List.append_nil]
  rfl

end

variable {track : Track} {configuration : Bytes} {samples : List Sample}

/-- With a decoder configuration there is a movie box for any samples. -/
lemma moov_of_configured (configured : track.sets.decoderConfiguration track.codec = .ok configuration)
    (samples : List Sample) : moov track samples = .ok (moovWith track configuration samples) := by
  rw [moov, configured]
  rfl

/-- The type of a sample entry tells the codec. -/
lemma codecOf?_entryType (codec : Codec) : codecOf? (entryType codec) = some codec := by
  cases codec <;> rfl

/-- A reader looks for the configuration under the type that it is written with. -/
lemma configurationType_eq (codec : Codec) : Demux.configurationType codec = configurationType codec := by
  cases codec <;> rfl

/-- A reader finds codec, picture size and decoder configuration. -/
lemma description?_fields (small : (descriptionFields track configuration).length < 0x100000000)
    (width : track.width < 0x10000) (height : track.height < 0x10000) :
    description? (0 :: 0 :: 0 :: 0 :: descriptionFields track configuration) =
      some (track.codec, track.width, track.height, configuration) := by
  have entry_small : (concat [(entryType track.codec, entryFields track ++
      concat [(configurationType track.codec, configuration)])]).length < 0x100000000 := by
    rw [descriptionFields, List.length_append] at small
    omega
  have nested_small : (concat [(configurationType track.codec, configuration)]).length < 0x100000000 := by
    rw [concat_cons, List.length_append, Box.length_build, List.length_append] at entry_small
    omega
  have nested : child? (Demux.configurationType track.codec)
      (concat [(configurationType track.codec, configuration)]) = some configuration := by
    rw [child?_concat _ nested_small, configurationType_eq, List.lookup_cons, beq_self_eq_true]
  rw [descriptionFields]
  generalize concat [(configurationType track.codec, configuration)] = more at entry_small nested ⊢
  have from_width : ∃ rest, (entryFields track ++ more).drop 24 = Bytes.be16 track.width ++ rest :=
    ⟨_, rfl⟩
  have from_height : ∃ rest, (entryFields track ++ more).drop 26 = Bytes.be16 track.height ++ rest :=
    ⟨_, rfl⟩
  have behind : (entryFields track ++ more).drop 78 = more := List.drop_left' rfl
  obtain ⟨_, from_width⟩ := from_width
  obtain ⟨_, from_height⟩ := from_height
  simp only [description?, fields?_full, Option.bind_eq_bind, Option.bind_some,
    number?_be32 (by decide : 1 < 0x100000000), boxes?_concat entry_small, codecOf?_entryType, from_width,
    from_height, behind, nested, number?_be16 width, number?_be16 height, Option.pure_def]

/-- A movie box reads as the track and the samples it was made from. -/
lemma movie?_moovWith (small : (moovWith track configuration samples).length < 0x100000000)
    (width : track.width < 0x10000) (height : track.height < 0x10000)
    (narrow : ∀ sample ∈ samples, sample.size < 0x100000000)
    (within : ∀ sample ∈ samples, sample.offset + sample.size < 0x10000000000000000) :
    movie? (concat (moovBoxes track configuration samples)) = some {
      codec := track.codec
      width := track.width
      height := track.height
      configuration
      timescale := track.timescale
      durations := List.replicate samples.length Track.sampleTicks
      samples } := by
  -- every level is smaller than the one around it
  have moov_small : (concat (moovBoxes track configuration samples)).length < 0x100000000 := by
    rw [moovWith_eq, Box.length_build] at small
    omega
  have trak : (moovBoxes track configuration samples).lookup (.ofChars 't' 'r' 'a' 'k') =
      some (concat (trakBoxes track configuration samples)) := rfl
  have trak_small := length_of_lookup trak
  have mdia : (trakBoxes track configuration samples).lookup (.ofChars 'm' 'd' 'i' 'a') =
      some (concat (mdiaBoxes track configuration samples)) := rfl
  have mdia_small := length_of_lookup mdia
  have minf : (mdiaBoxes track configuration samples).lookup (.ofChars 'm' 'i' 'n' 'f') =
      some (concat (minfBoxes track configuration samples)) := rfl
  have minf_small := length_of_lookup minf
  have stbl : (minfBoxes track configuration samples).lookup (.ofChars 's' 't' 'b' 'l') =
      some (concat (stblBoxes track configuration samples)) := rfl
  have stbl_small := length_of_lookup stbl
  have stsd : (stblBoxes track configuration samples).lookup (.ofChars 's' 't' 's' 'd') =
      some (0 :: 0 :: 0 :: 0 :: descriptionFields track configuration) := rfl
  have stsd_small := length_of_lookup stsd
  simp only [List.length_cons] at stsd_small
  have mdhd : ∃ rest, (mdiaBoxes track configuration samples).lookup (.ofChars 'm' 'd' 'h' 'd') =
      some (0 :: 0 :: 0 :: 0 :: (Bytes.zeros 8 ++ (Bytes.be32 track.timescale ++ rest))) := ⟨_, rfl⟩
  obtain ⟨_, mdhd⟩ := mdhd
  have timescale : track.timescale < 0x100000000 := by
    rw [Track.timescale, Track.maxField]
    omega
  have description : ((.ofChars 's' 't' 's' 'd', 0 :: 0 :: 0 :: 0 :: descriptionFields track configuration) :
      FourCC × Bytes).1 = .ofChars 's' 't' 's' 'd' := rfl
  have tables := SampleTable.samples?_tables description (by rw [← stblBoxes]; omega) narrow within
  have durations := @SampleTable.durations?_tables _ samples description (by rw [← stblBoxes]; omega)
  rw [← stblBoxes] at tables durations
  have fields := @description?_fields track configuration (by omega) width height
  simp only [movie?, child?_concat _ moov_small, trak, Option.bind_eq_bind, Option.bind_some,
    child?_concat _ (by omega : (concat (trakBoxes track configuration samples)).length < 0x100000000), mdia,
    child?_concat _ (by omega : (concat (mdiaBoxes track configuration samples)).length < 0x100000000), mdhd, minf,
    child?_concat _ (by omega : (concat (minfBoxes track configuration samples)).length < 0x100000000), stbl,
    child?_concat _ (by omega : (concat (stblBoxes track configuration samples)).length < 0x100000000), stsd,
    fields?_full, List.drop_left' (Bytes.length_zeros 8), number?_be32 timescale, fields, tables, durations,
    Option.pure_def]

end VideoCapture.Movie
