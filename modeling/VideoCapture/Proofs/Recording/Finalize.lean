import VideoCapture.Proofs.Mp4.Movie
import VideoCapture.Proofs.Recording.Calls

/-!
# Finalizing a recording

A recording is closed by two kinds of patches: the size of the media data, and the movie box in the room
that was kept for it or behind the media data. `Streaming.Records.finalize` says what file that leaves, and
`film?_finished` that a reader makes of it the very access units that were recorded.
-/

namespace VideoCapture
open Recording FileContent Demux

namespace DiskFile

/-- A file that is open wherever, with a region laid over its content. -/
structure Lays (origin : Disk) (id base : Nat) (out : DiskFile) (region : Bytes) : Prop where
  handle : out.handle.id = some id
  shown : Disk.Shows origin id base region out.disk

variable {origin : Disk} {id base : Nat} {out : DiskFile} {region : Bytes}

/-- An open file that holds a region has it laid over its content. -/
lemma Holds.lays (holds : Holds origin id base out region) : Lays origin id base out region :=
  ⟨congrArg FileHandle.id holds.handle, holds.shown⟩

/-- A sync succeeds and leaves the region as it is. -/
lemma Lays.sync (lays : Lays origin id base out region) :
    ∃ after, out.sync = (.ok (), after) ∧ Lays origin id base after region := by
  refine ⟨⟨out.handle, out.disk.ticked⟩, ?_, lays.handle, lays.shown.ticked⟩
  rw [DiskFile.sync, Disk.sync_of_sound lays.shown.sound]

/-- Patches that begin inside the region act on the region, one after the other. -/
lemma Lays.patch_cons (lays : Lays origin id base out region) {at_ : Nat} (bytes : Bytes)
    (inside : at_ ≤ region.length) (rest : List (Nat × Bytes)) :
    ∃ after, out.patch ((base + at_, bytes) :: rest) = after.patch rest ∧
      Lays origin id base after (overwrite region at_ bytes) := by
  obtain ⟨⟨_, position⟩, disk⟩ := out
  obtain ⟨rfl, shown⟩ := lays
  obtain ⟨after, written, shown'⟩ := shown.write bytes inside
  refine ⟨⟨⟨some id, base + at_ + bytes.length⟩, after⟩, ?_, rfl, shown'⟩
  have write : Writer.write (⟨⟨some id, base + at_⟩, disk⟩ : DiskFile) bytes =
      (.ok (), ⟨⟨some id, base + at_ + bytes.length⟩, after⟩) :=
    congrArg (fun out => (out.1, (⟨out.2.1, out.2.2⟩ : DiskFile))) written
  rw [DiskFile.patch]
  dsimp only
  rw [write]

/-- A patch replaces as many bytes as it has. -/
lemma Lays.patch_between {front middle back bytes : Bytes} (same : middle.length = bytes.length)
    (lays : Lays origin id base out (front ++ middle ++ back)) (rest : List (Nat × Bytes)) :
    ∃ after, out.patch ((base + front.length, bytes) :: rest) = after.patch rest ∧
      Lays origin id base after (front ++ bytes ++ back) := by
  have inside : front.length ≤ (front ++ middle ++ back).length := by
    simp only [List.length_append]
    omega
  obtain ⟨after, patched, lays'⟩ := lays.patch_cons bytes inside rest
  rw [overwrite_between back same] at lays'
  exact ⟨after, patched, lays'⟩

end DiskFile

namespace Recording

/-- The movie box of a recording. -/
def moovBox (movie : Bytes) : Bytes :=
  Box.build (.ofChars 'm' 'o' 'o' 'v') movie

/-- What is left of the room when a movie box of this length has taken it. -/
def spare (length : Nat) : List (FourCC × Bytes) :=
  if length < moovRoom then
    [(.ofChars 'f' 'r' 'e' 'e', Bytes.zeros (moovRoom - length - Box.headerSize))]
  else []

/-- The boxes of a finished recording with the given movie. -/
def finishedBoxes (movie : Bytes) (units : List AccessUnit) : List (FourCC × Bytes) :=
  let ftyp := (.ofChars 'f' 't' 'y' 'p', Movie.ftyp.drop Box.headerSize)
  let moov := (.ofChars 'm' 'o' 'o' 'v', movie)
  let mdat := (.ofChars 'm' 'd' 'a' 't', mediaData units)
  if fitsRoom (moovBox movie).length then ftyp :: moov :: (spare (moovBox movie).length ++ [mdat])
  else [ftyp, (.ofChars 'f' 'r' 'e' 'e', Bytes.zeros (moovRoom - Box.headerSize)), mdat, moov]

/-- The bytes of a finished recording. -/
def finished (movie : Bytes) (units : List AccessUnit) : Bytes :=
  concat (finishedBoxes movie units)

/-- An unused box is a box of zero bytes. -/
lemma free_eq {size : Nat} (room : Box.headerSize ≤ size) :
    Box.free size = Box.build (.ofChars 'f' 'r' 'e' 'e') (Bytes.zeros (size - Box.headerSize)) := by
  rw [Box.free, Box.build, Bytes.length_zeros, Nat.add_sub_cancel' room]

/-- The opening and the media data, once the size of the media data is known. -/
def sized (units : List AccessUnit) : Bytes :=
  Movie.ftyp ++ Box.free moovRoom ++ Box.build (.ofChars 'm' 'd' 'a' 't') (mediaData units)

/-- A file whose media data were sized is as long as the opening and the samples. -/
lemma length_sized (units : List AccessUnit) :
    (sized units).length = opening.flatten.length + (mediaData units).length := by
  simp only [sized, length_opening, List.length_append, Box.length_build,
    @Box.length_free moovRoom (by decide), Nat.add_assoc]

end Recording

namespace DiskFile

variable {origin : Disk} {id base : Nat} {out : DiskFile} {units : List AccessUnit}

/-- The size of the media data is patched. -/
lemma Lays.patch_size (lays : Lays origin id base out (opening.flatten ++ mediaData units)) :
    ∃ after, out.patch [(mdatOffset base, Bytes.be32 (Box.headerSize + (mediaData units).length))] =
        (.ok (), after) ∧ Lays origin id base after (sized units) := by
  have front_length : (Movie.ftyp ++ Box.free moovRoom).length = Movie.ftyp.length + moovRoom := by
    rw [List.length_append, Box.length_free (by decide)]
  have parted : opening.flatten ++ mediaData units = (Movie.ftyp ++ Box.free moovRoom) ++
      Bytes.be32 openSize ++ ((FourCC.ofChars 'm' 'd' 'a' 't').bytes ++ mediaData units) := by
    simp only [opening, Box.mdatHeader, Box.header, List.flatten_cons, List.flatten_nil, List.append_nil,
      List.append_assoc]
  rw [parted] at lays
  have same : (Bytes.be32 openSize).length = (Bytes.be32 (Box.headerSize + (mediaData units).length)).length :=
    rfl
  obtain ⟨after, patched, lays'⟩ := lays.patch_between same []
  refine ⟨after, ?_, ?_⟩
  · rw [mdatOffset, moovOffset, Nat.add_assoc, ← front_length, patched]
    rfl
  · have again : sized units = (Movie.ftyp ++ Box.free moovRoom) ++
        Bytes.be32 (Box.headerSize + (mediaData units).length) ++
          ((FourCC.ofChars 'm' 'd' 'a' 't').bytes ++ mediaData units) := by
      simp only [sized, Box.build, Box.header, List.append_assoc]
    rw [again]
    exact lays'

/-- The movie box takes the room that was kept for it, and what is left of the room is unused. -/
lemma Lays.patch_in_place {movie : Bytes} (fits : fitsRoom (moovBox movie).length = true)
    (lays : Lays origin id base out (sized units)) (stop : Nat) :
    ∃ after, out.patch (placement base stop (moovBox movie)) = (.ok (), after) ∧
      Lays origin id base after (finished movie units) := by
  have room : (Box.free moovRoom).length = moovRoom := Box.length_free (by decide)
  have fits' := fits
  simp only [fitsRoom, decide_eq_true_eq, Bool.decide_or, Bool.or_eq_true] at fits'
  have within : (moovBox movie).length ≤ moovRoom := by
    rcases fits' with same | less
    · omega
    · omega
  have parted : sized units = Movie.ftyp ++ (Box.free moovRoom).take (moovBox movie).length ++
      ((Box.free moovRoom).drop (moovBox movie).length ++
        Box.build (.ofChars 'm' 'd' 'a' 't') (mediaData units)) := by
    rw [sized, List.append_assoc, List.append_assoc, ← List.append_assoc ((Box.free moovRoom).take _),
      List.take_append_drop]
  rw [parted] at lays
  have same : ((Box.free moovRoom).take (moovBox movie).length).length = (moovBox movie).length := by
    rw [List.length_take, room, Nat.min_eq_left within]
  rw [placement, if_pos fits, moovOffset]
  obtain ⟨placed, patched, lays'⟩ := lays.patch_between same _
  rw [patched]
  split
  · rename_i less
    have enough : Box.headerSize ≤ moovRoom - (moovBox movie).length := by omega
    -- what is left of the room is as long as the unused box that is written over it
    have left_over : ((Box.free moovRoom).drop (moovBox movie).length).length =
        (Box.free (moovRoom - (moovBox movie).length)).length := by
      rw [List.length_drop, room, Box.length_free enough]
    rw [← List.append_assoc] at lays'
    obtain ⟨after, filled, lays''⟩ := lays'.patch_between left_over []
    refine ⟨after, ?_, ?_⟩
    · rw [Nat.add_assoc, ← List.length_append, filled]
      rfl
    · have laid : finished movie units = Movie.ftyp ++ moovBox movie ++
          Box.free (moovRoom - (moovBox movie).length) ++
            Box.build (.ofChars 'm' 'd' 'a' 't') (mediaData units) := by
        rw [finished, finishedBoxes]
        simp only [if_pos fits, spare, if_pos less, free_eq enough, concat_cons, concat_nil,
          List.append_assoc, List.append_nil, List.cons_append, List.nil_append]
        rfl
      rw [laid]
      exact lays''
  · rename_i not_less
    have nothing : (Box.free moovRoom).drop (moovBox movie).length = [] := by
      rw [List.drop_eq_nil_iff, room]
      omega
    refine ⟨placed, rfl, ?_⟩
    have laid : finished movie units = Movie.ftyp ++ moovBox movie ++
        Box.build (.ofChars 'm' 'd' 'a' 't') (mediaData units) := by
      rw [finished, finishedBoxes]
      simp only [if_pos fits, spare, if_neg not_less, concat_cons, concat_nil, List.append_assoc,
        List.append_nil, List.nil_append]
      rfl
    rw [laid]
    rwa [nothing, List.nil_append] at lays'

/-- A movie box that has outgrown the room stands behind the media data. -/
lemma Lays.patch_behind {movie : Bytes} (large : fitsRoom (moovBox movie).length = false)
    (lays : Lays origin id base out (sized units)) {stop : Nat}
    (stop_eq : stop = mediaOffset base + (mediaData units).length) :
    ∃ after, out.patch (placement base stop (moovBox movie)) = (.ok (), after) ∧
      Lays origin id base after (finished movie units) := by
  have behind : stop = base + (sized units).length := by
    rw [stop_eq, mediaOffset_eq, length_sized, Nat.add_assoc]
  obtain ⟨after, patched, lays'⟩ := lays.patch_cons (moovBox movie) (Nat.le_refl _) []
  rw [overwrite_at_end] at lays'
  refine ⟨after, ?_, ?_⟩
  · rw [placement, if_neg (by simp [large]), behind, patched]
    rfl
  · have laid : finished movie units = sized units ++ moovBox movie := by
      rw [finished, finishedBoxes]
      simp only [large, Bool.false_eq_true, if_false, sized, @free_eq moovRoom (by decide), concat_cons,
        concat_nil, List.append_assoc, List.append_nil]
      rfl
    rw [laid]
    exact lays'

end DiskFile

namespace Streaming

variable {origin : Disk} {id base : Nat} {tuning : WriteTuning} {track : Track} {s : Streaming} {disk : Disk}
  {received : Bytes} {units : List AccessUnit}

/-- What finalizing a recording of these units comes to if the media data are not too large. -/
def summaryOf (movie : Bytes) (units : List AccessUnit) : RecordingSummary where
  frames := units.length
  keyframes := units.countP AccessUnit.isKeyframe
  mdatSize := Box.headerSize + (mediaData units).length
  inPlace := fitsRoom (moovBox movie).length

/-- Completing a recording whose bytes are all on the disk. -/
lemma Records.complete (records : s.Records origin id base tuning track disk received units)
    {movie : Bytes} (built : Movie.moov track (Sample.indexFrom (mediaOffset base) units) = .ok (moovBox movie))
    {out : DiskFile} (lays : out.Lays origin id base (opening.flatten ++ mediaData units)) :
    (Box.headerSize + (mediaData units).length ≤ Track.maxField →
      ∃ after, s.complete out = (.ok (summaryOf movie units), after) ∧
        after.Lays origin id base (finished movie units)) ∧
    (Track.maxField < Box.headerSize + (mediaData units).length →
      s.complete out = (.error (.tooLarge (Box.headerSize + (mediaData units).length)), out)) := by
  obtain ⟨base_eq, track_eq, -, samples_eq, stop_eq, keyframes_eq, -⟩ := records
  have start_eq : s.mdatStart = mdatOffset base := by rw [mdatStart, base_eq]
  have size_eq : s.stop - s.mdatStart = Box.headerSize + (mediaData units).length := by
    rw [stop_eq, start_eq, mediaOffset, Nat.add_assoc, Nat.add_sub_cancel_left]
  unfold Streaming.complete
  rw [size_eq, start_eq, base_eq, track_eq, samples_eq, built]
  dsimp only
  constructor
  · intro small
    rw [if_neg (Nat.not_lt.mpr small)]
    -- size, movie box and sync, of which each finds what the one before it has left
    obtain ⟨sized, patched, lays₁⟩ := lays.patch_size
    have placed : ∃ after, sized.patch (placement base s.stop (moovBox movie)) = (.ok (), after) ∧
        after.Lays origin id base (finished movie units) := by
      cases fits : fitsRoom (moovBox movie).length with
      | true => exact lays₁.patch_in_place fits s.stop
      | false => exact lays₁.patch_behind fits stop_eq
    obtain ⟨complete, placed, lays₂⟩ := placed
    obtain ⟨after, synced, lays₃⟩ := lays₂.sync
    refine ⟨after, ?_, lays₃⟩
    have frames : s.recorded.length = units.length := by
      have counted := congrArg List.length samples_eq
      rwa [samples, List.length_reverse, Sample.length_indexFrom] at counted
    simp only [patched, placed, synced, frames, keyframes_eq, summaryOf]
  · intro large
    rw [if_pos large]

/-- Finalizing is completing, once everything is on the disk. What completing does has a name of its own here,
so that nothing evaluates it in passing. -/
lemma finalize_of_flushed {now : Nat} {buffer : WriteBuffer} {out synced : DiskFile}
    {complete : DiskFile → Except CaptureError RecordingSummary × DiskFile} (named : s.complete = complete)
    (flushed : s.buffer.flush (⟨s.file, disk⟩ : DiskFile) now = (.ok (), buffer, out))
    (run : out.sync = (.ok (), synced)) :
    s.finalize disk now = ((complete synced).1, (complete synced).2.disk) := by
  rw [Streaming.finalize, named, flushed]
  dsimp only
  rw [run]

/-- Finalizing succeeds as long as the size of the media data fits into its field, and leaves the finished
recording. -/
lemma Records.finalize (records : s.Records origin id base tuning track disk received units)
    {movie : Bytes} (built : Movie.moov track (Sample.indexFrom (mediaOffset base) units) = .ok (moovBox movie))
    (now : Nat) :
    ∃ result after, s.finalize disk now = (result, after) ∧
      (Box.headerSize + (mediaData units).length ≤ Track.maxField →
        result = .ok (summaryOf movie units) ∧ Disk.Shows origin id base (finished movie units) after) ∧
      (Track.maxField < Box.headerSize + (mediaData units).length →
        result = .error (.tooLarge (Box.headerSize + (mediaData units).length))) := by
  obtain ⟨buffer, out, flushed, carries, -⟩ := records.carries.flush_succeeds (reliable origin id base) now
  obtain ⟨synced, run, lays⟩ := carries.reaches.lays.sync
  obtain ⟨small, large⟩ := records.complete built lays
  rcases completed : s.complete synced with ⟨result, after⟩
  rw [completed] at small large
  refine ⟨result, after.disk, ?_, ?_, ?_⟩
  · rw [finalize_of_flushed rfl flushed run, completed]
  · intro fits
    obtain ⟨_, same, lays'⟩ := small fits
    cases same
    exact ⟨rfl, lays'.shown⟩
  · intro exceeds
    cases large exceeds
    rfl

end Streaming

/-- A NAL unit with its length is no longer than its sample. -/
lemma length_nal_le {unit : AccessUnit} {nal : Bytes} (inside : nal ∈ unit.nals) :
    4 + nal.length ≤ unit.sampleSize := by
  obtain ⟨before, after, parted⟩ := List.append_of_mem inside
  rw [← AccessUnit.length_toSample, AccessUnit.toSample, parted, lengthPrefixed, List.flatMap_append,
    List.flatMap_cons, List.length_append, List.length_append, List.length_append, Bytes.length_be32]
  omega

/-- Access units are read from the samples that lie one behind the other in a file. -/
lemma mapM_unit? (before after : Bytes) {units : List AccessUnit} (small : (mediaData units).length < 0x100000000) :
    (Sample.indexFrom before.length units).mapM (unit? (before ++ mediaData units ++ after)) = some units := by
  induction units generalizing before with
  | nil => rfl
  | cons unit rest ih =>
    rw [mediaData_cons, List.length_append, AccessUnit.length_toSample] at small
    -- the samples read so far count as what stands in front of the others
    have next := ih (before ++ unit.toSample) (by omega)
    rw [List.length_append, AccessUnit.length_toSample, List.append_assoc before, ← mediaData_cons] at next
    have short : ∀ nal ∈ unit.nals, nal.length < 0x100000000 := by
      intro nal inside
      have part := length_nal_le inside
      omega
    have slice : bytes? (before ++ mediaData (unit :: rest) ++ after)
        ⟨before.length, unit.sampleSize % 0x100000000, unit.isKeyframe⟩ = some unit.toSample := by
      rw [bytes?, Nat.mod_eq_of_lt (by omega), if_pos]
      · rw [List.append_assoc, List.drop_left, mediaData_cons, List.append_assoc,
          List.take_left' (AccessUnit.length_toSample unit)]
      · dsimp only
        rw [List.length_append, List.length_append, mediaData_cons, List.length_append,
          AccessUnit.length_toSample]
        omega
    have first : unit? (before ++ mediaData (unit :: rest) ++ after)
        ⟨before.length, unit.sampleSize % 0x100000000, unit.isKeyframe⟩ = some unit := by
      rw [unit?, slice, Option.bind_eq_bind, Option.bind_some, AccessUnit.toSample,
        nals?_lengthPrefixed short]
      rfl
    rw [Sample.indexFrom, List.mapM_cons, first, next]
    rfl

namespace Recording

/-- What the spare room takes makes up for what the movie box does not take. -/
lemma length_concat_spare {length : Nat} (fits : fitsRoom length = true) :
    length + (concat (spare length)).length = moovRoom := by
  simp only [fitsRoom, decide_eq_true_eq, Bool.decide_or, Bool.or_eq_true] at fits
  rw [spare]
  split
  · rw [concat_cons, concat_nil, List.append_nil, Box.length_build, Bytes.length_zeros]
    omega
  · rw [concat_nil, List.length_nil]
    omega

/-- Wherever the movie box is, the media data begin as far behind the start as they did before. -/
lemma finished_parted (movie : Bytes) (units : List AccessUnit) :
    ∃ front back, finished movie units = front ++ mediaData units ++ back ∧
      front.length = opening.flatten.length := by
  let header := Box.header (Box.headerSize + (mediaData units).length) (.ofChars 'm' 'd' 'a' 't')
  have mdat : Box.build (.ofChars 'm' 'd' 'a' 't') (mediaData units) = header ++ mediaData units := rfl
  have ftyp : Box.build (.ofChars 'f' 't' 'y' 'p') (Movie.ftyp.drop Box.headerSize) = Movie.ftyp := rfl
  cases fits : fitsRoom (moovBox movie).length with
  | true =>
    refine ⟨Movie.ftyp ++ moovBox movie ++ concat (spare (moovBox movie).length) ++ header, [], ?_, ?_⟩
    · have parted : ∀ boxes box, concat (boxes ++ [box]) = concat boxes ++ Box.build box.1 box.2 := by
        intro boxes box
        rw [concat, List.flatMap_append, List.flatMap_singleton, ← concat]
      rw [finished, finishedBoxes, if_pos fits, concat_cons, concat_cons, parted, ftyp, mdat, ← moovBox]
      simp only [List.append_assoc, List.append_nil]
    · have all := length_concat_spare fits
      have eight : header.length = Box.headerSize := rfl
      rw [length_opening]
      simp only [List.length_append, eight]
      omega
  | false =>
    refine ⟨Movie.ftyp ++ Box.free moovRoom ++ header, moovBox movie, ?_, ?_⟩
    · rw [finished, finishedBoxes, if_neg (by simp [fits]), @free_eq moovRoom (by decide)]
      simp only [concat_cons, concat_nil, ftyp, mdat, List.append_assoc, List.append_nil]
      rfl
    · rw [length_opening, List.length_append, List.length_append, Box.length_free (by decide)]
      rfl

/-- No box of a finished recording is larger than its size field can tell. -/
lemma finishedBoxes_small {movie : Bytes} {units : List AccessUnit}
    (moov : (moovBox movie).length < 0x100000000)
    (mdat : Box.headerSize + (mediaData units).length ≤ Track.maxField) :
    ∀ box ∈ finishedBoxes movie units, box.2.length + 8 < 0x100000000 := by
  rw [moovBox, Box.length_build, Box.headerSize] at moov
  rw [Box.headerSize, Track.maxField] at mdat
  have ftyp : (Movie.ftyp.drop Box.headerSize).length = 24 := rfl
  intro box inside
  rw [finishedBoxes] at inside
  split at inside
  · simp only [spare, List.mem_cons, List.mem_append, List.not_mem_nil, or_false] at inside
    rcases inside with rfl | rfl | inside | rfl
    · dsimp only
      omega
    · dsimp only
      omega
    · split at inside
      · rcases List.mem_singleton.mp inside with rfl
        dsimp only
        rw [Bytes.length_zeros, moovRoom]
        omega
      · cases inside
    · dsimp only
      omega
  · simp only [List.mem_cons, List.not_mem_nil, or_false] at inside
    rcases inside with rfl | rfl | rfl | rfl
    · dsimp only
      omega
    · dsimp only
      rw [Bytes.length_zeros, moovRoom]
      omega
    · dsimp only
      omega
    · dsimp only
      omega

/-- The movie box of a finished file holds the movie. -/
lemma lookup_moov (movie : Bytes) (units : List AccessUnit) :
    (finishedBoxes movie units).lookup (.ofChars 'm' 'o' 'o' 'v') = some movie := by
  rw [finishedBoxes]
  split <;> rfl

/-- The media data box of a finished file holds the samples. -/
lemma lookup_mdat (movie : Bytes) (units : List AccessUnit) :
    (finishedBoxes movie units).lookup (.ofChars 'm' 'd' 'a' 't') = some (mediaData units) := by
  rw [finishedBoxes, spare]
  split
  · split <;> rfl
  · rfl

/-- The orders that the boxes of a recording can have. -/
def layouts : List (List FourCC) :=
  [[.ofChars 'f' 't' 'y' 'p', .ofChars 'm' 'o' 'o' 'v', .ofChars 'm' 'd' 'a' 't'],
    [.ofChars 'f' 't' 'y' 'p', .ofChars 'm' 'o' 'o' 'v', .ofChars 'f' 'r' 'e' 'e', .ofChars 'm' 'd' 'a' 't'],
    [.ofChars 'f' 't' 'y' 'p', .ofChars 'f' 'r' 'e' 'e', .ofChars 'm' 'd' 'a' 't', .ofChars 'm' 'o' 'o' 'v']]

/-- The boxes of a finished file come in one of the layouts. -/
lemma finishedBoxes_layout (movie : Bytes) (units : List AccessUnit) :
    (finishedBoxes movie units).map Prod.fst ∈ layouts := by
  rw [finishedBoxes, spare, layouts]
  split
  · split <;> simp
  · simp

/-- What a reader makes of the movie box of a recording. -/
def movieOf (base : Nat) (track : Track) (configuration : Bytes) (units : List AccessUnit) : Demux.Movie where
  codec := track.codec
  width := track.width
  height := track.height
  configuration
  timescale := track.timescale
  durations := List.replicate units.length Track.sampleTicks
  samples := Sample.indexFrom (mediaOffset base) units

/-- The payload of the movie box of a recording. -/
def moviePayload (base : Nat) (track : Track) (configuration : Bytes) (units : List AccessUnit) : Bytes :=
  concat (Movie.moovBoxes track configuration (Sample.indexFrom (mediaOffset base) units))

/-- The movie box that is placed is the movie box of the recorded samples. -/
lemma moovBox_moviePayload (base : Nat) (track : Track) (configuration : Bytes) (units : List AccessUnit) :
    moovBox (moviePayload base track configuration units) =
      Movie.moovWith track configuration (Sample.indexFrom (mediaOffset base) units) := by
  rw [moovBox, moviePayload, ← Movie.moovWith_eq]

/-- With a decoder configuration there is a movie box for the recorded samples. -/
lemma moov_recorded {base : Nat} {track : Track} {configuration : Bytes} {units : List AccessUnit}
    (configured : track.sets.decoderConfiguration track.codec = .ok configuration) :
    Movie.moov track (Sample.indexFrom (mediaOffset base) units) =
      .ok (moovBox (moviePayload base track configuration units)) := by
  rw [Movie.moov_of_configured configured, moovBox_moviePayload]

/-- Samples of a recording have sizes of 32 bits and lie where their positions can tell. -/
lemma indexFrom_within {position : Nat} {units : List AccessUnit} {sample : Sample}
    (inside : sample ∈ Sample.indexFrom position units) :
    sample.size < 0x100000000 ∧ sample.offset + sample.size ≤ position + (mediaData units).length := by
  induction units generalizing position with
  | nil => cases inside
  | cons unit rest ih =>
    rw [mediaData_cons, List.length_append, AccessUnit.length_toSample]
    rcases List.mem_cons.mp inside with rfl | inside
    · have modulo := Nat.mod_le unit.sampleSize (0x100000000)
      exact ⟨Nat.mod_lt _ (by decide), by dsimp only; omega⟩
    · obtain ⟨narrow, within⟩ := ih inside
      exact ⟨narrow, by omega⟩

/-- A reader makes of a finished recording the access units that were recorded. -/
lemma film?_finished {content : Bytes} {base : Nat} {track : Track} {configuration : Bytes}
    {units : List AccessUnit} (valid : track.validate = .ok ()) (position : base < 0x8000000000000000)
    (moov : (moovBox (moviePayload base track configuration units)).length < 0x100000000)
    (mdat : Box.headerSize + (mediaData units).length ≤ Track.maxField) :
    film? (overwrite content base (finished (moviePayload base track configuration units) units)) base
        (finished (moviePayload base track configuration units) units).length =
      some {
        boxes := finishedBoxes (moviePayload base track configuration units) units
        movie := movieOf base track configuration units
        units } := by
  have media_small : (mediaData units).length < 0x100000000 := by
    rw [Box.headerSize, Track.maxField] at mdat
    omega
  have offset_small : mediaOffset base < 0x8000000000000000 + 0x8000 := by
    rw [mediaOffset_eq, length_opening]
    have constant : Movie.ftyp.length + moovRoom + Box.headerSize < 0x8000 := by decide
    omega
  obtain ⟨⟨-, width⟩, ⟨-, height⟩, -⟩ := Track.of_validate valid
  have read : movie? (moviePayload base track configuration units) =
      some (movieOf base track configuration units) := by
    have movie := @Movie.movie?_moovWith track configuration (Sample.indexFrom (mediaOffset base) units)
      (by rw [Movie.moovWith_eq]; exact moov) width height (fun sample inside => (indexFrom_within inside).1)
      (fun sample inside => by
        have within := (indexFrom_within inside).2
        omega)
    rw [Sample.length_indexFrom] at movie
    exact movie
  obtain ⟨front, back, parted, front_length⟩ := finished_parted (moviePayload base track configuration units) units
  -- in the file as a whole, the media data stand where the index says
  have placed : ∃ before after,
      overwrite content base (finished (moviePayload base track configuration units) units) =
        before ++ mediaData units ++ after ∧ before.length = mediaOffset base := by
    refine ⟨leading content base ++ front,
      back ++ content.drop (base + (front ++ mediaData units ++ back).length), ?_, ?_⟩
    · rw [overwrite_eq, parted]
      simp only [List.append_assoc]
    · rw [List.length_append, length_leading, front_length, mediaOffset_eq]
  obtain ⟨before, after, laid, before_length⟩ := placed
  have units_read := mapM_unit? before after media_small
  rw [← laid, before_length] at units_read
  have boxes := boxes?_concat_of_each (finishedBoxes_small moov mdat)
  rw [film?, slice_overwrite, finished, boxes, Option.bind_eq_bind, Option.bind_some, lookup_moov]
  rw [Option.bind_eq_bind, Option.bind_some, read, Option.bind_eq_bind, Option.bind_some]
  rw [← finished, movieOf, units_read]
  rfl

end Recording

end VideoCapture
