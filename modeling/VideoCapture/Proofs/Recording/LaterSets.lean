import VideoCapture.Proofs.Recording.Session
import VideoCapture.Proofs.Splitter.History

/-!
# Parameter sets that come later

The decoder configuration of an MP4 file has the parameter sets that were held when the first keyframe was recorded, and
the samples have none at all. Sets that a camera sends later are held by the splitter and delivered, but they are not in
the file, which is the same as if they had never come. So what was held at a later sample is what the file says just as
long as no later set differed from the one in the configuration (`recorded_sets`).
-/

namespace VideoCapture
open Recording Demux

namespace ParameterSets

variable {sets held : ParameterSets} {codec : Codec} {required : List Bytes}

/-- Sets are given in order if each of them is there. -/
lemma mapM_require_iff (kinds : List ParameterSetKind) (nals : List Bytes) :
    kinds.mapM sets.require = .ok nals ↔ kinds.map sets.get? = nals.map some := by
  induction kinds generalizing nals with
  | nil => cases nals <;> simp [pure, Except.pure]
  | cons kind rest ih =>
    rw [List.mapM_cons, List.map_cons, require]
    cases there : sets.get? kind with
    | none => cases nals <;> simp [bind, Except.bind]
    | some nal =>
      constructor
      · intro run
        obtain ⟨_, ⟨⟩, run⟩ := of_bind_ok run
        obtain ⟨others, behind, ⟨⟩⟩ := of_bind_ok run
        rw [List.map_cons, (ih others).mp behind]
      · intro same
        cases nals with
        | nil => cases same
        | cons first others =>
          obtain ⟨⟨⟩, behind⟩ := List.cons_eq_cons.mp same
          have run := (ih others).mpr behind
          show (rest.mapM sets.require >>= _) = _
          rw [run]
          rfl

/-- The same sets are given by others if these have the same of each kind that is needed. -/
lemma ordered_eq_iff (in_order : sets.ordered codec = .ok required) :
    held.ordered codec = .ok required ↔ ∀ kind ∈ codec.requiredSets, held.get? kind = sets.get? kind := by
  rw [ordered, mapM_require_iff, ← (mapM_require_iff _ _).mp in_order]
  exact List.map_inj_left

/-- Sets that are all there are given in order. -/
lemma ordered_of_present (present : ∀ kind ∈ codec.requiredSets, (held.get? kind).isSome = true) :
    ∃ nals, held.ordered codec = .ok nals := by
  refine ⟨codec.requiredSets.filterMap held.get?, (mapM_require_iff _ _).mpr ?_⟩
  generalize codec.requiredSets = kinds at present
  induction kinds with
  | nil => rfl
  | cons kind rest ih =>
    obtain ⟨nal, there⟩ := Option.isSome_iff_exists.mp (present kind List.mem_cons_self)
    rw [List.map_cons, List.filterMap_cons_some there, List.map_cons, there,
      ih fun other inside => present other (List.mem_cons_of_mem _ inside)]

/-- Sets that are given in order are all there. -/
lemma present_of_ordered (in_order : sets.ordered codec = .ok required) :
    ∀ kind ∈ codec.requiredSets, (sets.get? kind).isSome = true := by
  intro kind inside
  have found : sets.get? kind ∈ required.map some :=
    (mapM_require_iff _ _).mp in_order ▸ List.mem_map_of_mem inside
  obtain ⟨nal, -, there⟩ := List.mem_map.mp found
  rw [← there, Option.isSome_some]

end ParameterSets

namespace RecordingSession

variable {codec : Codec} {repeatSets : Bool}

/-- The NAL units of capture buffers. -/
def unitsOf (buffers : List (Nat × Bytes)) : List Bytes :=
  buffers.flatMap fun buffer => NalUnit.payloads buffer.2

/-- Behind capture buffers a splitter holds the sets of their history. -/
lemma splitAll_sets (splitter : Splitter) (buffers : List (Nat × Bytes)) :
    (splitAll splitter buffers).sets = (unitsOf buffers).foldl (Splitter.remembered splitter.codec) splitter.sets := by
  induction buffers generalizing splitter with
  | nil => rfl
  | cons buffer rest ih =>
    refine (ih (splitter.split buffer.2).2).trans ?_
    rw [Splitter.split_codec, Splitter.split_sets, Splitter.splitUnits_sets, unitsOf, unitsOf, List.flatMap_cons,
      List.foldl_append]

/-- What is held of a kind behind later buffers is the last set among them, or what was held before. -/
lemma get?_splitAll_append (earlier later : List (Nat × Bytes)) (kind : ParameterSetKind) :
    (splitAll { codec, repeatSets } (earlier ++ later)).sets.get? kind =
      (codec.lastSet? kind (unitsOf later)).or ((splitAll { codec, repeatSets } earlier).sets.get? kind) := by
  have fit : ∀ buffers, ∀ nal ∈ unitsOf buffers, NalUnit.IsPayload nal := by
    intro buffers nal inside
    obtain ⟨buffer, -, there⟩ := List.mem_flatMap.mp inside
    exact NalUnit.isPayload_of_mem there
  have held : ∀ buffers, (splitAll { codec, repeatSets } buffers).sets = Splitter.storedBy codec (unitsOf buffers) :=
    fun buffers => splitAll_sets _ buffers
  rw [held, held, (Splitter.cached_storedBy (fit _)).get?_eq, (Splitter.cached_storedBy (fit _)).get?_eq, unitsOf,
    List.flatMap_append, Splitter.storedBy_append, Splitter.slot_foldl]
  rfl

/-- The sets that are held behind later buffers are all there, and are those from before exactly if the last one of
each kind among the later ones, if any, is that from before. -/
lemma held_later {earlier later : List (Nat × Bytes)} {sets : ParameterSets} {required : List Bytes}
    (sets_eq : (splitAll { codec, repeatSets } earlier).sets = sets) (in_order : sets.ordered codec = .ok required) :
    ∃ now, (splitAll { codec, repeatSets } (earlier ++ later)).sets.ordered codec = .ok now ∧
      (now = required ↔ ∀ kind ∈ codec.requiredSets, ∀ nal, codec.lastSet? kind (unitsOf later) = some nal →
        sets.get? kind = some nal) := by
  have held := @get?_splitAll_append codec repeatSets earlier later
  rw [sets_eq] at held
  generalize (splitAll { codec, repeatSets } (earlier ++ later)).sets = behind at held
  have still : ∀ kind ∈ codec.requiredSets, (behind.get? kind).isSome = true := by
    intro kind inside
    rw [held, Option.isSome_or, ParameterSets.present_of_ordered in_order kind inside, Bool.or_true]
  obtain ⟨now, in_order'⟩ := ParameterSets.ordered_of_present still
  refine ⟨now, in_order', ?_⟩
  have same : now = required ↔ behind.ordered codec = .ok required := by
    rw [in_order', Except.ok.injEq]
  rw [same, ParameterSets.ordered_eq_iff in_order]
  refine forall₂_congr fun kind _ => ?_
  rw [held]
  cases codec.lastSet? kind (unitsOf later) with
  | none => simp
  | some nal => simp [eq_comm]

/-- No parameter set is recorded. -/
lemma isSet_recordable {buffers : List (Nat × Bytes)} {unit : AccessUnit} (inside : unit ∈ recordable codec buffers)
    {nal : Bytes} (recorded : nal ∈ unit.nals) : codec.isSet nal = false := by
  obtain ⟨buffer, -, rfl⟩ := List.mem_map.mp (List.mem_filter.mp inside).1
  simpa using (List.mem_filter.mp recorded).2

section

variable {shape : PictureShape} {config : RecordingConfig} {host : Host}

/-- The file of a session, byte by byte. Of the parameter sets only those at the first keyframe matter. -/
lemma session_file (valid : shape.IsValid) (sound : host.disk.IsSound) (formed : host.disk.IsWellFormed)
    (fresh : host.registry.IsFresh) {before : List (Nat × Bytes)} {key : Nat × Bytes} (keyless : Keyless codec before)
    (is_key : (AccessUnit.ofBuffer codec key.2).isKeyframe = true) {sets : ParameterSets}
    (sets_eq : (splitAll { codec, repeatSets } (before ++ [key])).sets = sets) (complete : sets.missing? codec = none)
    {configuration : Bytes} (configured : sets.decoderConfiguration codec = .ok configuration) {id : Nat}
    {created : Disk} (creation : host.disk.create config.path = (.ok ⟨some id, 0⟩, created))
    {rest : List (Nat × Bytes)} {units : List AccessUnit} (units_eq : recordable codec (key :: rest) = units)
    (small : Box.headerSize + (mediaData units).length ≤ Track.maxField) (stop : Nat) :
    ∃ final, ((start codec repeatSets config host).run shape (before ++ key :: rest)).finish stop = (.ok (), final) ∧
      (final.disk.read config.path).1 = .ok (finished
        (moviePayload 0 ⟨codec, sets, shape.width, shape.height, shape.fps⟩ configuration units) units) := by
  obtain ⟨directory, name, made⟩ := Disk.created_of_sound sound formed creation
  obtain ⟨-, number, recorder, films⟩ :=
    start_run_films valid fresh keyless is_key sets_eq complete made.sound made.present creation rest
  rw [units_eq] at films
  obtain ⟨final, finish, shown⟩ := (films.later stop).finish configured small
  exact ⟨final, (finish_eq recorder).trans finish, made.read shown⟩

end

end RecordingSession

open RecordingSession

/-- A session is recorded into an MP4 file. The file has the parameter sets that were held at the first keyframe, in its
decoder configuration, and no others. At a later sample all the sets are held that a decoder needs, and they are those
of the file exactly if, of each kind, the last one that came since the first keyframe is that of the file. Whatever else
came since then, the file of the same access units is the same, byte for byte. -/
theorem recorded_sets {codec : Codec} {repeatSets : Bool} {shape : PictureShape} {config : RecordingConfig}
    {host : Host} (valid : shape.IsValid) (sound : host.disk.IsSound) (formed : host.disk.IsWellFormed)
    (fresh : host.registry.IsFresh) {before rest : List (Nat × Bytes)} {key : Nat × Bytes}
    (keyless : Keyless codec before) (is_key : (AccessUnit.ofBuffer codec key.2).isKeyframe = true)
    {sets : ParameterSets} (sets_eq : (splitAll { codec, repeatSets } (before ++ [key])).sets = sets)
    {required : List Bytes} (in_order : sets.ordered codec = .ok required)
    (short : ∀ nal ∈ required, nal.length < 0x10000)
    {configuration : Bytes} (configured : sets.decoderConfiguration codec = .ok configuration) {id : Nat}
    {created : Disk} (creation : host.disk.create config.path = (.ok ⟨some id, 0⟩, created)) {units : List AccessUnit}
    (units_eq : recordable codec (key :: rest) = units)
    (small : Box.headerSize + (mediaData units).length ≤ Track.maxField)
    (moov_small : (Movie.moovWith ⟨codec, sets, shape.width, shape.height, shape.fps⟩ configuration
      (Sample.indexFrom (mediaOffset 0) units)).length < 0x100000000) (stop : Nat) :
    ∃ final bytes film,
      ((start codec repeatSets config host).run shape (before ++ key :: rest)).finish stop = (.ok (), final) ∧
      (final.disk.read config.path).1 = .ok bytes ∧
      film? bytes 0 bytes.length = some film ∧
      film.units = units ∧
      parameterSets? codec film.movie.configuration = some required ∧
      (∀ unit ∈ film.units, ∀ nal ∈ unit.nals, codec.isSet nal = false) ∧
      (∀ taken more, rest = taken ++ more →
        ∃ held, (splitAll { codec, repeatSets } (before ++ key :: taken)).sets.ordered codec = .ok held ∧
          (held = required ↔ ∀ kind ∈ codec.requiredSets, ∀ nal, codec.lastSet? kind (unitsOf taken) = some nal →
            sets.get? kind = some nal)) ∧
      ∀ other stop', recordable codec (key :: other) = units →
        ∃ final', ((start codec repeatSets config host).run shape (before ++ key :: other)).finish stop' =
            (.ok (), final') ∧
          (final'.disk.read config.path).1 = .ok bytes := by
  have complete := ParameterSets.missing?_of_ordered in_order
  have file := fun {other : List (Nat × Bytes)} (same : recordable codec (key :: other) = units) stop =>
    session_file valid sound formed fresh keyless is_key sets_eq complete configured creation same small stop
  generalize track_eq : (⟨codec, sets, shape.width, shape.height, shape.fps⟩ : Track) = track at *
  have track_valid : track.validate = .ok () := by
    rw [← track_eq, Track.validate_of_shape valid, complete]
    rfl
  have read := @film?_finished [] 0 track configuration units track_valid (by decide)
    (by rw [moovBox, moviePayload, ← Movie.moovWith_eq]; exact moov_small) small
  rw [FileContent.overwrite_nil_zero] at read
  obtain ⟨final, finish, content⟩ := file units_eq stop
  refine ⟨final, _, _, finish, content, read, rfl, ?_, ?_, ?_, fun other stop' same => file same stop'⟩
  · exact ParameterSets.parameterSets?_decoderConfiguration configured in_order short
  · intro unit inside nal recorded
    rw [← units_eq] at inside
    exact isSet_recordable inside recorded
  · intro taken more _
    rw [List.append_cons]
    exact held_later sets_eq in_order

/-- Another PPS comes with the second keyframe. It is held when that is recorded, but the file has the first one, and is
the same as without the second. -/
theorem recorded_sets_second_pps :
    let shape : PictureShape := ⟨16, 16, 30⟩
    let sps : Bytes := [0x67, 0x42, 0x00, 0x1E]
    let start : RecordingSession := start .h264 false { path := "a.mp4" } {}
    let key : Nat × Bytes := (1, NalUnit.annexB [sps, [0x68], [0x65]])
    let later : Nat × Bytes := (2, NalUnit.annexB [[0x68, 1], [0x65]])
    ∃ final bytes film final',
      (start.run shape [key, later]).finish 3 = (.ok (), final) ∧
      (final.disk.read "a.mp4").1 = .ok bytes ∧
      film? bytes 0 bytes.length = some film ∧
      film.units = [⟨[[0x65]], true⟩, ⟨[[0x65]], true⟩] ∧
      parameterSets? .h264 film.movie.configuration = some [sps, [0x68]] ∧
      (splitAll { codec := .h264, repeatSets := false } [key, later]).sets.ordered .h264 ≠ .ok [sps, [0x68]] ∧
      (start.run shape [key, (2, NalUnit.annexB [[0x65]])]).finish 3 = (.ok (), final') ∧
      (final'.disk.read "a.mp4").1 = .ok bytes := by
  intro shape sps start key later
  have valid : shape.IsValid := ⟨by decide, by decide, by decide⟩
  have sound : ({} : Host).disk.IsSound := fun _ _ => rfl
  have formed : ({} : Host).disk.IsWellFormed := Disk.isWellFormed_empty _
  have fresh : ({} : Host).registry.IsFresh := fun _ inside => by cases inside
  have none_before : Keyless .h264 [] := fun _ inside => by cases inside
  have sets : (splitAll { codec := .h264, repeatSets := false } ([] ++ [key])).sets = .ofH264 sps [0x68] := by
    decide +kernel
  have units : recordable .h264 [key, later] = [⟨[[0x65]], true⟩, ⟨[[0x65]], true⟩] := by decide +kernel
  have units' : recordable .h264 [key, (2, NalUnit.annexB [[0x65]])] = [⟨[[0x65]], true⟩, ⟨[[0x65]], true⟩] := by
    decide +kernel
  have newer : Codec.h264.lastSet? .pps (unitsOf [later]) = some [0x68, 1] := by decide +kernel
  obtain ⟨created, creation⟩ : ∃ created, ({} : Disk).create "a.mp4" = (.ok ⟨some 0, 0⟩, created) := ⟨_, rfl⟩
  obtain ⟨final, bytes, film, finish, read, found, same, found_sets, -, held, others⟩ :=
    @recorded_sets .h264 false shape { path := "a.mp4" } {} valid sound formed fresh [] [later] key none_before
      (by decide +kernel) _ sets [sps, [0x68]] rfl (by decide) _ rfl 0 created creation _ units (by decide +kernel)
      (by decide +kernel) 3
  obtain ⟨now, in_order, agrees⟩ := held [later] [] rfl
  obtain ⟨final', finish', read'⟩ := others [(2, NalUnit.annexB [[0x65]])] 3 units'
  refine ⟨final, bytes, film, final', finish, read, found, same, found_sets, ?_, finish', read'⟩
  intro unchanged
  cases in_order.symm.trans unchanged
  cases agrees.mp rfl .pps (by decide) _ newer

/-- Nothing can tell from a finished file and the number of a sample which parameter sets were held when that sample was
recorded: another PPS with the second keyframe leaves the same file as none. -/
theorem later_sets_untraceable :
    let shape : PictureShape := ⟨16, 16, 30⟩
    let key : Nat × Bytes := (1, NalUnit.annexB [[0x67, 0x42, 0x00, 0x1E], [0x68], [0x65]])
    let file (rest : List (Nat × Bytes)) :=
      (((start .h264 false { path := "a.mp4" } {}).run shape (key :: rest)).finish 3).2.disk.read "a.mp4"
    let held (rest : List (Nat × Bytes)) :=
      (splitAll { codec := .h264, repeatSets := false } (key :: rest)).sets.ordered .h264
    ¬ ∃ recover : Bytes → Nat → List Bytes, ∀ taken buffer more bytes, (file (taken ++ buffer :: more)).1 = .ok bytes →
      (AccessUnit.ofBuffer .h264 buffer.2).isEmpty = false →
        held (taken ++ [buffer]) = .ok (recover bytes (recordable .h264 (key :: taken)).length) := by
  rintro shape key file held ⟨recover, recovers⟩
  let one : Nat × Bytes := (2, NalUnit.annexB [[0x68, 1], [0x65]])
  let two : Nat × Bytes := (2, NalUnit.annexB [[0x65]])
  have valid : shape.IsValid := ⟨by decide, by decide, by decide⟩
  have sound : ({} : Host).disk.IsSound := fun _ _ => rfl
  have formed : ({} : Host).disk.IsWellFormed := Disk.isWellFormed_empty _
  have fresh : ({} : Host).registry.IsFresh := fun _ inside => by cases inside
  have none_before : Keyless .h264 [] := fun _ inside => by cases inside
  have sets : (splitAll { codec := .h264, repeatSets := false } ([] ++ [key])).sets =
      .ofH264 [0x67, 0x42, 0x00, 0x1E] [0x68] := by decide +kernel
  have units : recordable .h264 [key, one] = [⟨[[0x65]], true⟩, ⟨[[0x65]], true⟩] := by decide +kernel
  have units' : recordable .h264 [key, two] = [⟨[[0x65]], true⟩, ⟨[[0x65]], true⟩] := by decide +kernel
  have key_frame : (AccessUnit.ofBuffer .h264 key.2).isKeyframe = true := by decide +kernel
  obtain ⟨created, creation⟩ : ∃ created, ({} : Disk).create "a.mp4" = (.ok ⟨some 0, 0⟩, created) := ⟨_, rfl⟩
  have leaves := fun {rest units} same small => @session_file .h264 false shape { path := "a.mp4" } {} valid sound
    formed fresh [] key none_before key_frame _ sets rfl _ rfl 0 created creation rest units same small 3
  obtain ⟨final, finish, read⟩ := leaves units (by decide +kernel)
  obtain ⟨final', finish', read'⟩ := leaves units' (by decide +kernel)
  have file_eq : (file [one]).1 = (final.disk.read "a.mp4").1 :=
    congrArg (fun came => (came.2.disk.read "a.mp4").1) finish
  have file_eq' : (file [two]).1 = (final'.disk.read "a.mp4").1 :=
    congrArg (fun came => (came.2.disk.read "a.mp4").1) finish'
  have first := recovers [] one [] _ (file_eq.trans read) (by decide +kernel)
  have second := recovers [] two [] _ (file_eq'.trans read') (by decide +kernel)
  have different : (held [one]).toOption ≠ (held [two]).toOption := by decide +kernel
  exact different (congrArg Except.toOption (first.trans second.symm))

end VideoCapture
