import Mathlib.Data.List.TakeWhile
import VideoCapture.Proofs.Recording.Diagram

/-!
# A recorder that is fed by one splitter

A recorder takes split buffers that were not made up but came from a splitter, on a disk on which nothing fails. It
waits for a keyframe, then has the access units from there on in its MP4 file or the buffers in its raw stream, unless
its file cannot be opened (`RecorderSite.Fed`). No buffer stops a recording that goes on
(`Filming.perform`, `Pouring.perform`). Together with the diagram this is the life of a recorder (`recorder_life`).
-/

namespace VideoCapture

/-- The access units to record: those from the first keyframe on that are not empty. -/
def fromKeyframe (units : List AccessUnit) : List AccessUnit :=
  (units.dropWhile fun unit => !unit.isKeyframe).filter fun unit => !unit.isEmpty

namespace RecorderCall

/-- The access unit that a call brings. -/
def unit? : RecorderCall → Option AccessUnit
  | frame _ _ _ split _ => some split.accessUnit
  | image _ | finish | drop | finalizeAll _ => none

/-- The access units that calls bring, in order. -/
def units (calls : List (Nat × RecorderCall)) : List AccessUnit :=
  calls.filterMap fun call => call.2.unit?

/-- All split buffers among some calls come from one splitter, and there is no emergency. -/
inductive FedBy : Splitter → List (Nat × RecorderCall) → Prop where
  | nil (splitter : Splitter) : FedBy splitter []
  | frame {splitter : Splitter} {calls : List (Nat × RecorderCall)} (now : Nat) (codec : Codec) (sets : ParameterSets)
      (shape : PictureShape) (buffer written : Bytes) (rest : FedBy (splitter.split buffer).2 calls) :
      FedBy splitter ((now, .frame codec sets shape (splitter.split buffer).1 written) :: calls)
  | image {splitter : Splitter} {calls : List (Nat × RecorderCall)} (now : Nat) (image : Bytes)
      (rest : FedBy splitter calls) : FedBy splitter ((now, .image image) :: calls)
  | finish {splitter : Splitter} {calls : List (Nat × RecorderCall)} (now : Nat) (rest : FedBy splitter calls) :
      FedBy splitter ((now, .finish) :: calls)
  | drop {splitter : Splitter} {calls : List (Nat × RecorderCall)} (now : Nat) (rest : FedBy splitter calls) :
      FedBy splitter ((now, .drop) :: calls)

/-- A call could come from a splitter: its access unit is that of a buffer. An emergency could not. -/
def IsGenuine : RecorderCall → Prop
  | frame _ _ _ split _ => ∃ codec buffer, split.accessUnit = AccessUnit.ofBuffer codec buffer
  | image _ | finish | drop => True
  | finalizeAll _ => False

/-- Calls that are fed by a splitter could come from one. -/
lemma FedBy.genuine {splitter : Splitter} {calls : List (Nat × RecorderCall)} (fed : FedBy splitter calls) :
    ∀ call ∈ calls, call.2.IsGenuine := by
  induction fed with
  | nil => exact List.forall_mem_nil _
  | @frame splitter _ _ _ _ _ buffer _ _ ih =>
    exact List.forall_mem_cons.mpr ⟨⟨splitter.codec, buffer, splitter.split_accessUnit buffer⟩, ih⟩
  | image _ _ _ ih => exact List.forall_mem_cons.mpr ⟨trivial, ih⟩
  | finish _ _ ih => exact List.forall_mem_cons.mpr ⟨trivial, ih⟩
  | drop _ _ ih => exact List.forall_mem_cons.mpr ⟨trivial, ih⟩

/-- The access units of calls are the one of the first call, if it brings one, and those of the others. -/
lemma units_cons (call : Nat × RecorderCall) (calls : List (Nat × RecorderCall)) :
    units (call :: calls) = call.2.unit?.toList ++ units calls := by
  rw [units, List.filterMap_cons]
  cases call.2.unit? <;> rfl

end RecorderCall

/-- Before the first keyframe nothing is to be recorded. -/
lemma fromKeyframe_of_keyless {units : List AccessUnit} (keyless : ∀ unit ∈ units, unit.isKeyframe = false)
    {key : AccessUnit} (is_key : key.isKeyframe = true) :
    fromKeyframe (units ++ [key]) = [key].filter fun unit => !unit.isEmpty := by
  have skipped : units.dropWhile (fun unit => !unit.isKeyframe) = [] := by
    rw [List.dropWhile_eq_nil_iff]
    intro unit inside
    rw [keyless unit inside, Bool.not_false]
  rw [fromKeyframe, List.dropWhile_append, skipped, List.isEmpty_nil, if_pos rfl, List.dropWhile_cons, is_key,
    Bool.not_true, if_neg Bool.false_ne_true]

/-- From the first keyframe on, everything that is not empty is to be recorded. -/
lemma fromKeyframe_append {units : List AccessUnit} (started : ∃ unit ∈ units, unit.isKeyframe = true)
    (more : List AccessUnit) :
    fromKeyframe (units ++ more) = fromKeyframe units ++ more.filter fun unit => !unit.isEmpty := by
  have kept : (units.dropWhile fun unit => !unit.isKeyframe).isEmpty = false := by
    obtain ⟨key, inside, is_key⟩ := started
    rw [List.isEmpty_eq_false_iff, ne_eq, List.dropWhile_eq_nil_iff]
    intro skipped
    have no_key := skipped key inside
    rw [is_key] at no_key
    cases no_key
  rw [fromKeyframe, List.dropWhile_append, kept, if_neg Bool.false_ne_true, List.filter_append, ← fromKeyframe]

/-- What is opened for a raw recording, be it of a video stream or of images, is not a device that is always full. -/
structure RecordingConfig.HasRoom (config : RecordingConfig) (disk : Disk) : Prop where
  stream : ∀ codec : Codec, (disk.create (Path.withExtension config.path codec.rawExtension)).1 ≠ .ok ⟨none, 0⟩
  images : (disk.create (Path.withExtension config.path Recorder.imageExtension)).1 ≠ .ok ⟨none, 0⟩

namespace Recorder

variable {host : Host}

/-- On a disk on which nothing fails, a raw stream is opened empty, unless its path leads to no file. -/
lemma openRaw_streams (sound : host.disk.IsSound) (formed : host.disk.IsWellFormed) {path : String}
    (roomy : (host.disk.create path).1 ≠ .ok ⟨none, 0⟩) :
    (openRaw host path).1 = .disabled ∨
      ∃ origin id, RecordingSession.Streams origin id (openRaw host path).1 (openRaw host path).2.disk [] := by
  rcases created : host.disk.create path with ⟨error | file, origin⟩
  · left
    rw [openRaw, created]
  · right
    obtain ⟨id?, position⟩ := file
    obtain rfl : position = 0 := Disk.position_of_create created
    rw [created] at roomy
    obtain ⟨id, rfl⟩ : ∃ id, id? = some id := by
      rw [← Option.ne_none_iff_exists']
      rintro rfl
      exact roomy rfl
    obtain ⟨directory, name, made⟩ := Disk.created_of_sound sound formed created
    refine ⟨origin, id, ?_⟩
    rw [openRaw, created]
    exact ⟨_, rfl, RawStream.carries_nil made.sound made.present⟩

/-- The first keyframe starts the recording, and is the first to be recorded. -/
lemma recordFrame_key {frame : SplitFrame} (key : frame.accessUnit.isKeyframe = true) (config : RecordingConfig)
    (host : Host) (codec : Codec) (sets : ParameterSets) (shape : PictureShape) (buffer : Bytes) :
    (pending config).recordFrame host codec sets shape frame buffer =
      let started := start config host ⟨codec, sets, shape.width, shape.height, shape.fps⟩
      started.1.append started.2 frame buffer := by
  unfold recordFrame
  dsimp only
  rw [if_pos key]

/-- A buffer without a keyframe leaves a recorder waiting. -/
lemma recordFrame_keyless {frame : SplitFrame} (keyless : frame.accessUnit.isKeyframe = false)
    (config : RecordingConfig) (host : Host) (codec : Codec) (sets : ParameterSets) (shape : PictureShape) (buffer : Bytes) :
    (pending config).recordFrame host codec sets shape frame buffer = (pending config, host) := by
  unfold recordFrame
  dsimp only
  rw [keyless, if_neg Bool.false_ne_true]

/-- The first image is the first one in the raw stream, if that can be opened. -/
lemma recordImage_raw {path : String} {config : RecordingConfig} {stream : RawStream} {after : Host}
    (path_eq : path = Path.withExtension config.path imageExtension)
    (opened : openRaw host path = (raw stream, after)) (image : Bytes) :
    (pending config).recordImage host image = recordRaw stream after image := by
  unfold recordImage
  dsimp only
  rw [← path_eq, opened]

/-- The first image disables the recorder if no raw stream can be opened. -/
lemma recordImage_disabled {path : String} {config : RecordingConfig} {after : Host}
    (path_eq : path = Path.withExtension config.path imageExtension)
    (refused : openRaw host path = (disabled, after)) (image : Bytes) :
    (pending config).recordImage host image = (disabled, after) := by
  unfold recordImage
  dsimp only
  rw [← path_eq, refused]

end Recorder

namespace RecorderSite

/-- The recorder writes an MP4 file, and its muxer has the given access units. -/
structure Filming (number : Nat) (recorded : List AccessUnit) (site : RecorderSite) : Prop where
  recorder : site.recorder = some (.mp4 number)
  muxer : ∃ origin id track muxer received, site.host.registry = .only number muxer ∧
    muxer.Records origin id 0 track site.host.disk received recorded

/-- The recorder writes a raw stream, and nothing of it is lost. -/
def Pouring (site : RecorderSite) : Prop :=
  ∃ recorder origin id content, site.recorder = some recorder ∧
    RecordingSession.Streams origin id recorder site.host.disk content

/-- What a recorder that was fed with access units has come to. -/
inductive Fed (config : RecordingConfig) (host : Host) (units : List AccessUnit) (site : RecorderSite) : Prop where
  | waits (keyless : ∀ unit ∈ units, unit.isKeyframe = false) (recorder : site.recorder = some (.pending config))
      (disk : site.host.disk = host.disk) (registry : site.host.registry = host.registry)
  | films {number : Nat} (started : ∃ unit ∈ units, unit.isKeyframe = true)
      (filming : site.Filming number (fromKeyframe units))
  | pours (pouring : site.Pouring)
  | off (recorder : site.recorder = none ∨ site.recorder = some .disabled)

variable {number : Nat} {recorded units : List AccessUnit} {site : RecorderSite} {config : RecordingConfig}
  {host : Host}

/-- A muxer takes the access unit of a buffer. -/
lemma Filming.record {codec : Codec} {buffer : Bytes} {unit : AccessUnit}
    (filming : Filming number recorded ⟨some (.mp4 number), host⟩)
    (genuine : unit = AccessUnit.ofBuffer codec buffer) :
    Filming number (recorded ++ [unit].filter fun unit => !unit.isEmpty)
      ⟨some (Recorder.recordMp4 number host unit).1, (Recorder.recordMp4 number host unit).2⟩ := by
  subst genuine
  obtain ⟨-, origin, id, track, muxer, received, registry, records⟩ := filming
  obtain ⟨after, muxer', received', run, registry', records'⟩ :=
    RecordingSession.record_only registry records codec buffer
  rw [run]
  exact ⟨rfl, origin, id, track, muxer', received', registry', records'⟩

/-- Until the recording is finished or given up, no call stops it. -/
lemma Filming.perform (filming : site.Filming number recorded) {call : Nat × RecorderCall}
    (genuine : call.2.IsGenuine) (goes_on : call.2 ≠ .finish ∧ call.2 ≠ .drop) :
    (site.perform call).Filming number (recorded ++ call.2.unit?.toList.filter fun unit => !unit.isEmpty) := by
  obtain ⟨recorder?, host⟩ := site
  obtain ⟨now, call⟩ := call
  obtain rfl : recorder? = some (.mp4 number) := filming.recorder
  have later : Filming number recorded ⟨some (.mp4 number), { host with now }⟩ := ⟨rfl, filming.muxer⟩
  cases call with
  | frame codec sets shape split buffer =>
    obtain ⟨codec', buffer', genuine⟩ := genuine
    exact later.record genuine
  | image image =>
    rw [RecorderCall.unit?, Option.toList_none, List.filter_nil, List.append_nil]
    exact later
  | finish => exact absurd rfl goes_on.1
  | drop => exact absurd rfl goes_on.2
  | finalizeAll locked => exact genuine.elim

/-- A raw stream takes every buffer. -/
lemma Pouring.append {stream : RawStream} (pouring : Pouring ⟨some (.raw stream), host⟩) (buffer : Bytes) :
    Pouring ⟨some (Recorder.recordRaw stream host buffer).1, (Recorder.recordRaw stream host buffer).2⟩ := by
  obtain ⟨recorder, origin, id, content, same, streams⟩ := pouring
  cases same
  obtain ⟨recorder', host', run, streams'⟩ := streams.append {} buffer
  rw [Recorder.append] at run
  rw [run]
  exact ⟨recorder', origin, id, _, rfl, streams'⟩

/-- A raw stream goes on with every call that could come from a splitter. -/
lemma Pouring.perform (pouring : site.Pouring) {call : Nat × RecorderCall} (genuine : call.2.IsGenuine)
    (goes_on : call.2 ≠ .finish ∧ call.2 ≠ .drop) : (site.perform call).Pouring := by
  obtain ⟨recorder?, host⟩ := site
  obtain ⟨now, call⟩ := call
  obtain ⟨recorder, origin, id, content, same, stream, rfl, carries⟩ := pouring
  cases same
  have later : Pouring ⟨some (.raw stream), { host with now }⟩ := ⟨_, origin, id, content, rfl, stream, rfl, carries⟩
  cases call with
  | frame codec sets shape split buffer => exact later.append buffer
  | image image => exact later.append image
  | finish => exact absurd rfl goes_on.1
  | drop => exact absurd rfl goes_on.2
  | finalizeAll locked => exact genuine.elim

/-- An MP4 file goes on with all calls that could come from a splitter. -/
lemma Filming.performAll (filming : site.Filming number recorded) {calls : List (Nat × RecorderCall)}
    (genuine : ∀ call ∈ calls, call.2.IsGenuine) (goes_on : ∀ call ∈ calls, call.2 ≠ .finish ∧ call.2 ≠ .drop) :
    ∃ more, (site.performAll calls).Filming number more := by
  induction calls generalizing site recorded with
  | nil => exact ⟨recorded, filming⟩
  | cons call rest ih =>
    obtain ⟨genuine, genuine'⟩ := List.forall_mem_cons.mp genuine
    obtain ⟨goes_on, goes_on'⟩ := List.forall_mem_cons.mp goes_on
    exact ih (filming.perform genuine goes_on) genuine' goes_on'

/-- A raw stream goes on with all calls that could come from a splitter. -/
lemma Pouring.performAll (pouring : site.Pouring) {calls : List (Nat × RecorderCall)}
    (genuine : ∀ call ∈ calls, call.2.IsGenuine) (goes_on : ∀ call ∈ calls, call.2 ≠ .finish ∧ call.2 ≠ .drop) :
    (site.performAll calls).Pouring := by
  induction calls generalizing site with
  | nil => exact pouring
  | cons call rest ih =>
    obtain ⟨genuine, genuine'⟩ := List.forall_mem_cons.mp genuine
    obtain ⟨goes_on, goes_on'⟩ := List.forall_mem_cons.mp goes_on
    exact ih (pouring.perform genuine goes_on) genuine' goes_on'

/-- A recording that starts with a keyframe has its access unit or its buffer, unless the file cannot be opened. -/
lemma Fed.start (sound : host.disk.IsSound) (formed : host.disk.IsWellFormed) (alone : host.registry.entries = [])
    (roomy : config.HasRoom host.disk) (keyless : ∀ unit ∈ units, unit.isKeyframe = false)
    {origin : Host} {frame : SplitFrame} {codec : Codec} {source : Bytes}
    (genuine : frame.accessUnit = AccessUnit.ofBuffer codec source) (key : frame.accessUnit.isKeyframe = true)
    (track : Track) (buffer : Bytes) :
    Fed config origin (units ++ [frame.accessUnit])
      ⟨some ((Recorder.start config host track).1.append (Recorder.start config host track).2 frame buffer).1,
        ((Recorder.start config host track).1.append (Recorder.start config host track).2 frame buffer).2⟩ := by
  rcases RecordingSession.start_cases sound formed alone track with raw | off | films
  · rw [raw]
    have room := roomy.stream track.codec
    generalize Path.withExtension config.path track.codec.rawExtension = path at room ⊢
    rcases Recorder.openRaw_streams sound formed room with off | ⟨disk, id, stream, opened, carries⟩
    · rw [off]
      exact .off (.inr rfl)
    · have pouring : Pouring ⟨some (.raw stream), (Recorder.openRaw host path).2⟩ :=
        ⟨_, disk, id, [], rfl, stream, rfl, carries⟩
      rw [opened]
      exact .pours (pouring.append buffer)
  · rw [off]
    exact .off (.inr rfl)
  · obtain ⟨disk, id, started, muxer, run, -, registry, records⟩ := films
    have filming : Filming host.registry.nextId [] ⟨some (.mp4 host.registry.nextId), started⟩ :=
      ⟨rfl, disk, id, track, muxer, [], registry, records⟩
    have first := filming.record genuine
    rw [List.nil_append, ← fromKeyframe_of_keyless keyless key] at first
    rw [run]
    exact .films ⟨frame.accessUnit, List.mem_append_right _ List.mem_cons_self, key⟩ first

/-- The first image starts a raw stream, unless the file cannot be opened. -/
lemma Fed.image (sound : host.disk.IsSound) (formed : host.disk.IsWellFormed)
    (roomy : config.HasRoom host.disk) {origin : Host} (image : Bytes) :
    Fed config origin units ⟨some ((Recorder.pending config).recordImage host image).1,
      ((Recorder.pending config).recordImage host image).2⟩ := by
  have room := roomy.images
  generalize path_eq : Path.withExtension config.path Recorder.imageExtension = path at room
  have opened := Recorder.openRaw_streams sound formed room
  rcases run : Recorder.openRaw host path with ⟨recorder, after⟩
  rw [run] at opened
  rcases opened with off | ⟨disk, id, stream, opened, carries⟩
  · obtain rfl : recorder = .disabled := off
    rw [Recorder.recordImage_disabled path_eq.symm run]
    exact .off (.inr rfl)
  · obtain rfl : recorder = .raw stream := opened
    have pouring : Pouring ⟨some (.raw stream), after⟩ := ⟨_, disk, id, [], rfl, stream, rfl, carries⟩
    rw [Recorder.recordImage_raw path_eq.symm run]
    exact .pours (pouring.append image)

/-- Every call that could come from a splitter keeps a recorder in one of its phases. -/
lemma Fed.perform (sound : host.disk.IsSound) (formed : host.disk.IsWellFormed) (alone : host.registry.entries = [])
    (roomy : config.HasRoom host.disk) (fed : site.Fed config host units)
    {call : Nat × RecorderCall} (genuine : call.2.IsGenuine) :
    (site.perform call).Fed config host (units ++ call.2.unit?.toList) := by
  by_cases goes_on : call.2 ≠ .finish ∧ call.2 ≠ .drop
  swap
  · rw [not_and_or, not_not, not_not] at goes_on
    exact .off (perform_ends site goes_on)
  cases fed with
  | films started filming =>
    have next := filming.perform genuine goes_on
    rw [← fromKeyframe_append started] at next
    obtain ⟨key, inside, is_key⟩ := started
    exact .films ⟨key, List.mem_append_left _ inside, is_key⟩ next
  | pours pouring => exact .pours (pouring.perform genuine goes_on)
  | off recorder => exact .off (perform_off recorder _)
  | waits keyless recorder disk registry =>
    obtain ⟨recorder?, origin⟩ := site
    obtain ⟨now, call⟩ := call
    dsimp only at recorder
    subst recorder
    -- the host differs by its clock only from the one that the recorder began with
    have same : ({ origin with now } : Host) = { host with now } := by
      show Host.mk origin.disk origin.registry now = _
      rw [disk, registry]
    cases call with
    | frame codec sets shape split buffer =>
      obtain ⟨codec', source, genuine⟩ := genuine
      rw [RecorderSite.perform]
      dsimp only
      rw [same]
      cases key : split.accessUnit.isKeyframe with
      | true =>
        rw [Recorder.recordFrame_key key]
        exact @Fed.start _ _ { host with now } sound formed alone roomy keyless host split codec' source genuine key _ _
      | false =>
        rw [Recorder.recordFrame_keyless key]
        exact .waits (List.forall_mem_append.mpr ⟨keyless, List.forall_mem_singleton.mpr key⟩) rfl rfl rfl
    | image image =>
      rw [RecorderSite.perform]
      dsimp only
      rw [same]
      exact @Fed.image _ _ { host with now } sound formed roomy host image
    | finish => exact absurd rfl goes_on.1
    | drop => exact absurd rfl goes_on.2
    | finalizeAll locked => exact genuine.elim

/-- All calls that could come from a splitter keep a recorder in one of its phases. -/
lemma Fed.performAll (sound : host.disk.IsSound) (formed : host.disk.IsWellFormed)
    (alone : host.registry.entries = []) (roomy : config.HasRoom host.disk)
    (fed : site.Fed config host units) {calls : List (Nat × RecorderCall)}
    (genuine : ∀ call ∈ calls, call.2.IsGenuine) :
    (site.performAll calls).Fed config host (units ++ RecorderCall.units calls) := by
  induction calls generalizing site units with
  | nil =>
    rw [RecorderCall.units, List.filterMap_nil, List.append_nil]
    exact fed
  | cons call rest ih =>
    obtain ⟨genuine, genuine'⟩ := List.forall_mem_cons.mp genuine
    have next := ih (fed.perform sound formed alone roomy genuine) genuine'
    rw [List.append_assoc, ← RecorderCall.units_cons] at next
    exact next

/-- The muxer that is registered streams, with one sample for each access unit. -/
lemma Filming.samples (filming : site.Filming number recorded) :
    ∃ muxer, site.host.registry.muxer? number = some muxer ∧ muxer.isStreaming = true ∧
      muxer.samples.length = recorded.length := by
  obtain ⟨-, origin, id, track, muxer, received, registry, s, phase, records⟩ := filming
  have streaming : muxer.streaming? = some s := by rw [Muxer.streaming?, phase]
  refine ⟨muxer, ?_, ?_, ?_⟩
  · rw [registry, Registry.muxer?_only]
  · rw [Muxer.isStreaming, streaming, Option.isSome_some]
  · rw [Muxer.samples, streaming]
    exact (congrArg List.length records.samples_eq).trans (Sample.length_indexFrom _ _)

/-- A recording that goes on keeps its file, and has everything from the first keyframe on. -/
lemma Fed.goes_on (fed : site.Fed config host units) {calls : List (Nat × RecorderCall)}
    (genuine : ∀ call ∈ calls, call.2.IsGenuine) (goes_on : ∀ call ∈ calls, call.2 ≠ .finish ∧ call.2 ≠ .drop) :
    (∀ number, site.recorder = some (.mp4 number) → (site.performAll calls).recorder = some (.mp4 number) ∧
      ∃ muxer, site.host.registry.muxer? number = some muxer ∧ muxer.isStreaming = true ∧
        muxer.samples.length = (fromKeyframe units).length) ∧
    (∀ stream, site.recorder = some (.raw stream) →
      ∃ grown, (site.performAll calls).recorder = some (.raw grown)) := by
  refine ⟨?_, ?_⟩
  · intro number present
    cases fed with
    | waits _ pending => cases pending.symm.trans present
    | films started filming =>
      cases filming.recorder.symm.trans present
      obtain ⟨more, still⟩ := filming.performAll genuine goes_on
      exact ⟨still.recorder, filming.samples⟩
    | pours pouring =>
      obtain ⟨recorder, -, -, -, held, stream, rfl, -⟩ := pouring
      cases held.symm.trans present
    | off gone => rcases gone with gone | gone <;> cases gone.symm.trans present
  · intro stream present
    cases fed with
    | waits _ pending => cases pending.symm.trans present
    | films started filming => cases filming.recorder.symm.trans present
    | pours pouring =>
      obtain ⟨recorder, -, -, -, held, grown, rfl, -⟩ := pouring.performAll genuine goes_on
      exact ⟨grown, held⟩
    | off gone => rcases gone with gone | gone <;> cases gone.symm.trans present

end RecorderSite

open RecorderCall in
/-- The life of a recorder that is alone on its host. Whatever it is called for and whatever fails, each call leads
along the diagram, the registry has its muxer if it writes an MP4 file and nothing otherwise, and a recorder that is
disabled leaves the disk alone. If its split buffers come from one splitter, nothing fails and there is no emergency,
then it goes on with its MP4 file or its raw stream until it is finished or given up, and its muxer has one sample for
each access unit from the first keyframe on that is not empty. -/
theorem recorder_life (config? : Option RecordingConfig) {host : Host} (alone : host.registry.entries = []) :
    let site : RecorderSite := ⟨some (.ofConfig? config?), host⟩
    (∀ calls, (∀ call ∈ calls, call.2 ≠ .drop) →
      let reached := site.performAll calls
      ∃ recorder, reached.recorder = some recorder ∧
        reached.host.registry.size = (if recorder.isMp4 then 1 else 0) ∧
        (∀ number, recorder = .mp4 number → ∃ muxer, reached.host.registry.entries = [⟨number, muxer, 1⟩]) ∧
        (∀ call, call.2 ≠ .drop → ∃ next, (reached.perform call).recorder = some next ∧
          recorder.state.Leads next.state) ∧
        (recorder = .disabled → ∀ later, (reached.performAll later).host.disk = reached.host.disk)) ∧
    (host.disk.IsSound → host.disk.IsWellFormed → (∀ config, config? = some config → config.HasRoom host.disk) →
      ∀ splitter one two, FedBy splitter (one ++ two) → (∀ call ∈ two, call.2 ≠ .finish ∧ call.2 ≠ .drop) →
        let reached := site.performAll one
        let later := reached.performAll two
        (∀ number, reached.recorder = some (.mp4 number) → later.recorder = some (.mp4 number) ∧
          ∃ muxer, reached.host.registry.muxer? number = some muxer ∧ muxer.isStreaming = true ∧
            muxer.samples.length = (fromKeyframe (units one)).length) ∧
        (∀ stream, reached.recorder = some (.raw stream) → ∃ grown, later.recorder = some (.raw grown))) := by
  intro site
  refine ⟨?_, ?_⟩
  · intro calls kept reached
    have accounts : (Recorder.ofConfig? config?).Accounts host.registry := by
      cases config? <;> exact alone
    obtain ⟨recorder, present, follows⟩ := @RecorderSite.performAll_follows site _ rfl accounts calls kept
    refine ⟨recorder, present, follows.accounts.size, ?_, ?_, ?_⟩
    · rintro number rfl
      obtain ⟨muxer, registry⟩ := follows.accounts
      exact ⟨muxer, congrArg Registry.entries registry⟩
    · intro call kept
      obtain ⟨next, present', follows'⟩ := RecorderSite.perform_follows present follows.accounts kept
      exact ⟨next, present', follows'.leads⟩
    · rintro rfl later
      have rests : reached.Rests reached.host.registry reached.host.disk := ⟨.inr present, rfl, rfl⟩
      exact (rests.performAll follows.accounts later).disk
  · intro sound formed roomy splitter one two fed goes_on reached later
    obtain ⟨genuine, genuine'⟩ := List.forall_mem_append.mp fed.genuine
    -- without a configuration the recorder is disabled from the start
    cases config? with
    | none =>
      have rests : site.Rests host.registry host.disk := ⟨.inr rfl, rfl, rfl⟩
      have off := (rests.performAll alone one).recorder
      refine ⟨?_, ?_⟩
      · intro number present
        rcases off with off | off <;> cases off.symm.trans present
      · intro stream present
        rcases off with off | off <;> cases off.symm.trans present
    | some config =>
      have start : site.Fed config host [] := .waits (List.forall_mem_nil _) rfl rfl rfl
      have phase := start.performAll sound formed alone (roomy config rfl) genuine
      rw [List.nil_append] at phase
      exact phase.goes_on genuine' goes_on

open RecorderCall in
/-- A recorder gets two buffers from a splitter, or is interrupted by an emergency between them. -/
theorem recorder_life_two_buffers :
    let shape : PictureShape := ⟨16, 16, 30⟩
    let key := NalUnit.annexB [[0x67, 0x42, 0x00, 0x1E], [0x68], [0x65]]
    let other := NalUnit.annexB [[0x41]]
    let first := ({ codec := .h264 } : Splitter).split key
    let second := first.2.split other
    let one := [(1, frame .h264 first.2.sets shape first.1 key)]
    let two := [(2, frame .h264 second.2.sets shape second.1 other)]
    let filming := RecorderSite.performAll ⟨some (.ofConfig? (some { path := "a.mp4" })), {}⟩ one
    let interrupted := RecorderSite.performAll ⟨some (.ofConfig? (some { path := "a.mp4" })), {}⟩
      (one ++ (2, finalizeAll []) :: two)
    (filming.performAll two).recorder = some (.mp4 1) ∧
    (∃ muxer, filming.host.registry.muxer? 1 = some muxer ∧ muxer.samples.length = 1) ∧
    interrupted.host.registry.size = 0 ∧
    (interrupted.performAll [(3, image [0xFF])]).host.disk = interrupted.host.disk := by
  intro shape key other first second one two filming interrupted
  have sound : ({} : Host).disk.IsSound := fun _ _ => rfl
  have roomy : ∀ place, ({} : Host).disk.lookup? place ≠ some .full := by
    intro place
    rw [Disk.lookup?]
    split <;> exact fun impossible => by cases impossible
  have fed : FedBy { codec := .h264 } (one ++ two) := .frame _ _ _ _ _ _ (.frame _ _ _ _ _ _ (.nil _))
  have recorder : filming.recorder = some (.mp4 1) := by decide +kernel
  have counted : (fromKeyframe (units one)).length = 1 := by decide +kernel
  have ended : interrupted.recorder = some .disabled := by decide +kernel
  obtain ⟨life, goes_on⟩ := @recorder_life (some { path := "a.mp4" }) {} rfl
  obtain ⟨filmed, -⟩ := goes_on sound (Disk.isWellFormed_empty _)
    (fun _ _ => ⟨fun _ => Disk.create_ne_full roomy _, Disk.create_ne_full roomy _⟩) _ one two fed
    (List.forall_mem_singleton.mpr ⟨RecorderCall.noConfusion, RecorderCall.noConfusion⟩)
  obtain ⟨still, muxer, registered, -, samples⟩ := filmed 1 recorder
  obtain ⟨recorder', present, size, -, -, rests⟩ := life (one ++ (2, finalizeAll []) :: two) (by
    intro call inside
    simp only [one, two, List.cons_append, List.nil_append, List.mem_cons, List.not_mem_nil, or_false] at inside
    rcases inside with rfl | rfl | rfl <;> exact RecorderCall.noConfusion)
  obtain rfl : recorder' = .disabled := Option.some.inj (present.symm.trans ended)
  exact ⟨still, ⟨muxer, registered, samples.trans counted⟩, size, rests rfl _⟩

end VideoCapture
