import VideoCapture.Proofs.Recording.Outcome
import VideoCapture.Proofs.Recording.Phases

/-!
# Closing a recording

A recording is closed by its recorder, by giving the recorder up, or in an emergency by the host. All of them leave
the same file, and nothing that happens afterwards changes it or starts another recording (`closings_agree`). After an
emergency the recorder still holds its muxer, until the next access unit tells it that the recording is over.
-/

namespace VideoCapture
open Recording

/-- What can be asked of a recorder and of its host. -/
inductive RecorderCall where
  | frame (codec : Codec) (sets : ParameterSets) (shape : PictureShape) (frame : SplitFrame) (buffer : Bytes)
  | image (image : Bytes)
  | finish
  | drop
  /-- An emergency: the recordings of all muxers that are not locked are completed. -/
  | finalizeAll (locked : List Nat)

namespace RecorderCall

/-- Whether the call closes the recording of the muxer with a number. -/
def closes (number : Nat) : RecorderCall → Bool
  | finish | drop => true
  | finalizeAll locked => number ∉ locked
  | frame .. | image _ => false

/-- Whether a recorder takes notice with this call that its recording is over. -/
def notices : RecorderCall → Bool
  | finish | drop => true
  | frame _ _ _ split _ => !split.accessUnit.isEmpty
  | image _ | finalizeAll _ => false

end RecorderCall

/-- A recorder on its host. Once it is given up, there is only the host. -/
structure RecorderSite where
  recorder : Option Recorder
  host : Host

namespace RecorderSite

/-- Makes a call, at the time that stands in front of it. A recorder that was given up cannot be called. -/
def perform (site : RecorderSite) (call : Nat × RecorderCall) : RecorderSite :=
  let host := { site.host with now := call.1 }
  match call.2, site.recorder with
  | .finalizeAll locked, recorder => ⟨recorder, (host.finalizeAll locked).2⟩
  | _, none => ⟨none, host⟩
  | .frame codec sets shape frame buffer, some recorder =>
    let (recorder, host) := recorder.recordFrame host codec sets shape frame buffer
    ⟨some recorder, host⟩
  | .image image, some recorder =>
    let (recorder, host) := recorder.recordImage host image
    ⟨some recorder, host⟩
  | .finish, some recorder => ⟨some .disabled, (recorder.finish host).2⟩
  | .drop, some recorder => ⟨none, recorder.drop host⟩

/-- Makes calls one after the other. -/
def performAll (site : RecorderSite) (calls : List (Nat × RecorderCall)) : RecorderSite :=
  calls.foldl perform site

/-- The recorder has closed its recording, or was given up, and its muxer is forgotten. -/
structure Over (disk : Disk) (number : Nat) (site : RecorderSite) : Prop where
  recorder : site.recorder = none ∨ site.recorder = some .disabled
  registry : site.host.registry = ⟨number + 1, []⟩
  disk : site.host.disk = disk

/-- The recording was closed by somebody else, and the recorder has not noticed yet. -/
structure Unnoticed (disk : Disk) (number : Nat) (site : RecorderSite) : Prop where
  recorder : site.recorder = some (.mp4 number)
  registry : ∃ muxer, muxer.phase = .finalized ∧ site.host.registry = .only number muxer
  disk : site.host.disk = disk

section

variable {number : Nat} {host : Host} {muxer : Muxer}

/-- A muxer that is finalized does not stream. -/
lemma streaming?_finalized (phase : muxer.phase = .finalized) : muxer.streaming? = none := by
  rw [Muxer.streaming?, phase]

/-- The last handle to the one muxer that is registered is given up. -/
lemma release_only (registry : host.registry = .only number muxer) :
    host.release number = { host with disk := muxer.drop host.disk host.now, registry := ⟨number + 1, []⟩ } := by
  rw [Host.release, registry, Registry.release_last Registry.find?_only (Nat.le_refl 1), Registry.remove_only]

/-- Giving up a muxer that is finalized leaves the disk alone, and forgets the muxer. -/
lemma release_finalized (registry : host.registry = .only number muxer) (phase : muxer.phase = .finalized) :
    host.release number = { host with registry := ⟨number + 1, []⟩ } := by
  rw [release_only registry, Muxer.drop, Muxer.finalize_idle (streaming?_finalized phase)]

/-- Whether a recorder finishes or is given up makes no difference to its host. -/
lemma finish_only (registry : host.registry = .only number muxer) :
    ((Recorder.mp4 number).finish host).2 = host.release number := by
  rw [Recorder.finish, registry, Registry.muxer?_only]
  dsimp only
  cases phase : muxer.phase with
  | uninitialized =>
    rw [Muxer.isStreaming, Muxer.streaming?, phase]
    rfl
  | finalized =>
    rw [Muxer.isStreaming, Muxer.streaming?, phase]
    rfl
  | streaming s =>
    have streaming : muxer.isStreaming = true := by
      rw [Muxer.isStreaming, Muxer.streaming?, phase, Option.isSome_some]
    have run := @Muxer.finalize_of_streaming muxer host.disk s _ rfl phase host.now
    generalize s.finalize host.disk host.now = closed at run
    obtain ⟨result, after⟩ := closed
    have finalized : host.withMuxer number (fun muxer disk now => muxer.finalize disk now) =
        (result, { host with disk := after, registry := .only number { muxer with phase := .finalized } }) := by
      rw [Host.withMuxer, registry, Registry.muxer?_only]
      dsimp only
      rw [run, Registry.setMuxer_only]
    -- whoever lets the muxer go finalizes it, but once it is finalized that does nothing
    have released : ({ host with
        disk := after, registry := .only number { muxer with phase := .finalized } } : Host).release number =
          host.release number := by
      rw [release_finalized rfl rfl, release_only registry, Muxer.drop, run]
    rw [streaming, if_pos rfl, finalized]
    cases result <;> exact released

/-- Where nobody is registered, an emergency changes nothing. -/
lemma finalizeAll_nobody (empty : host.registry.entries = []) (locked : List Nat) :
    (host.finalizeAll locked).2 = host := by
  have none_visited : host.registry.finalizeAll host.disk host.now locked = ({}, host.registry, host.disk) := by
    rw [Registry.finalizeAll, empty]
    rfl
  rw [Host.finalizeAll, none_visited]

/-- An emergency passes over a muxer that is locked. -/
lemma finalizeAll_locked (registry : host.registry = .only number muxer) {locked : List Nat} (held : number ∈ locked) :
    (host.finalizeAll locked).2 = host := by
  have skipped : host.registry.finalizeAll host.disk host.now locked = ({ skipped := 1 }, host.registry, host.disk) := by
    rw [registry]
    show Registry.shutDown locked host.now ({}, .only number muxer, host.disk) number = _
    unfold Registry.shutDown
    dsimp only
    rw [Registry.muxer?_only]
    dsimp only
    rw [if_pos held]
  rw [Host.finalizeAll, skipped]

/-- In an emergency the one muxer that is registered is finalized, and stays registered. -/
lemma finalizeAll_only (registry : host.registry = .only number muxer) {locked : List Nat} (free : number ∉ locked) :
    (host.finalizeAll locked).2 = { host with
      disk := (muxer.finalize host.disk host.now).2.2
      registry := .only number (muxer.finalize host.disk host.now).2.1 } := by
  have visited : (host.registry.finalizeAll host.disk host.now locked).2 =
      (.only number (muxer.finalize host.disk host.now).2.1, (muxer.finalize host.disk host.now).2.2) := by
    rw [registry]
    show (Registry.shutDown locked host.now ({}, .only number muxer, host.disk) number).2 = _
    unfold Registry.shutDown
    dsimp only
    rw [Registry.muxer?_only]
    dsimp only
    rw [if_neg free]
    split
    · rename_i idle
      rw [Muxer.finalize_idle (by simpa [Muxer.isStreaming] using idle)]
    · split <;> rename_i run <;> rw [run, Registry.setMuxer_only]
  show Host.mk (host.registry.finalizeAll host.disk host.now locked).2.2
    (host.registry.finalizeAll host.disk host.now locked).2.1 host.now = _
  rw [visited]

/-- The next access unit that is not empty tells a recorder that its muxer was finalized. -/
lemma recordMp4_finalized (registry : host.registry = .only number muxer) (phase : muxer.phase = .finalized)
    {unit : AccessUnit} (some_nal : unit.isEmpty = false) :
    Recorder.recordMp4 number host unit = (.disabled, host.release number) := by
  have refused : host.withMuxer number (fun muxer disk now => muxer.addAccessUnit disk now unit) =
      (.error .notStreaming, host) := by
    rw [Host.withMuxer, registry, Registry.muxer?_only]
    dsimp only
    rw [Muxer.addAccessUnit, Muxer.addSample, phase]
    dsimp only
    rw [Registry.setMuxer_only, ← registry]
  have finalized : (host.registry.muxer? number).any Muxer.isFinalized = true := by
    rw [registry, Registry.muxer?_only, Option.any_some, Muxer.isFinalized, phase]
  unfold Recorder.recordMp4
  rw [some_nal, refused]
  dsimp only
  rw [if_neg Bool.false_ne_true, if_pos ⟨rfl, finalized⟩]

/-- A recorder that is given up gives its muxer up. -/
lemma perform_drop (number : Nat) (host : Host) (now : Nat) :
    perform ⟨some (.mp4 number), host⟩ (now, .drop) = ⟨none, ({ host with now } : Host).release number⟩ := rfl

/-- A recorder that is finished gives its muxer up and is disabled. -/
lemma perform_finish (registry : host.registry = .only number muxer) (now : Nat) :
    perform ⟨some (.mp4 number), host⟩ (now, .finish) = ⟨some .disabled, ({ host with now } : Host).release number⟩ := by
  have later : ({ host with now } : Host).registry = .only number muxer := registry
  rw [← finish_only later]
  rfl

end

variable {disk : Disk} {number : Nat} {site : RecorderSite}

/-- To finish a recorder or to give it up ends what it records. -/
lemma perform_ends (site : RecorderSite) {call : Nat × RecorderCall} (ends : call.2 = .finish ∨ call.2 = .drop) :
    (site.perform call).recorder = none ∨ (site.perform call).recorder = some .disabled := by
  obtain ⟨recorder?, host⟩ := site
  obtain ⟨now, call⟩ := call
  rcases ends with rfl | rfl
  · cases recorder? with
    | none => exact .inl rfl
    | some recorder => exact .inr rfl
  · cases recorder? with
    | none => exact .inl rfl
    | some recorder => exact .inl rfl

/-- What is over stays over. -/
lemma perform_off (off : site.recorder = none ∨ site.recorder = some .disabled) (call : Nat × RecorderCall) :
    (site.perform call).recorder = none ∨ (site.perform call).recorder = some .disabled := by
  obtain ⟨recorder?, host⟩ := site
  obtain ⟨now, call⟩ := call
  cases call with
  | finalizeAll locked => exact off
  | finish => exact perform_ends _ (.inl rfl)
  | drop => exact perform_ends _ (.inr rfl)
  | frame | image => rcases off with rfl | rfl <;> first | exact .inl rfl | exact .inr rfl

/-- Nobody records any more, and nothing happens on the host but that time passes. -/
structure Rests (registry : Registry) (disk : Disk) (site : RecorderSite) : Prop where
  recorder : site.recorder = none ∨ site.recorder = some .disabled
  registry : site.host.registry = registry
  disk : site.host.disk = disk

/-- When nobody records, a call changes nothing but the time. -/
lemma Rests.perform {registry : Registry} (empty : registry.entries = []) (rests : site.Rests registry disk)
    (call : Nat × RecorderCall) : (site.perform call).Rests registry disk := by
  obtain ⟨recorder, rfl, rfl⟩ := rests
  have same : (site.perform call).host = { site.host with now := call.1 } := by
    obtain ⟨recorder?, host⟩ := site
    obtain ⟨now, call⟩ := call
    cases call with
    | finalizeAll locked => exact @finalizeAll_nobody { host with now } empty locked
    | _ => rcases recorder with rfl | rfl <;> exact rfl
  refine ⟨perform_off recorder call, ?_, ?_⟩ <;> rw [same]

/-- When nobody records, calls one after the other change nothing but the time. -/
lemma Rests.performAll {registry : Registry} (empty : registry.entries = []) (rests : site.Rests registry disk)
    (calls : List (Nat × RecorderCall)) : (site.performAll calls).Rests registry disk := by
  induction calls generalizing site with
  | nil => exact rests
  | cons call rest ih => exact ih (rests.perform empty call)

/-- When a recording is over, no call changes anything but the time. -/
lemma Over.perform (ended : site.Over disk number) (call : Nat × RecorderCall) :
    (site.perform call).Over disk number := by
  have rests : site.Rests ⟨number + 1, []⟩ disk := ⟨ended.recorder, ended.registry, ended.disk⟩
  obtain ⟨recorder, registry, disk⟩ := rests.perform rfl call
  exact ⟨recorder, registry, disk⟩

/-- A recording that is over stays over, whatever is called for. -/
lemma Over.performAll (ended : site.Over disk number) (calls : List (Nat × RecorderCall)) :
    (site.performAll calls).Over disk number := by
  induction calls generalizing site with
  | nil => exact ended
  | cons call rest ih => exact ih (ended.perform call)

/-- A recorder that does not notice that its recording is over leaves everything as it is. -/
lemma Unnoticed.perform (unnoticed : site.Unnoticed disk number) {call : Nat × RecorderCall}
    (unaware : call.2.notices = false) : (site.perform call).Unnoticed disk number := by
  obtain ⟨recorder?, host⟩ := site
  obtain ⟨rfl, ⟨muxer, phase, registry⟩, rfl⟩ := unnoticed
  obtain ⟨now, call⟩ := call
  dsimp only at registry
  suffices same : RecorderSite.perform ⟨some (.mp4 number), host⟩ (now, call) =
      ⟨some (.mp4 number), { host with now }⟩ by
    rw [same]
    exact ⟨rfl, ⟨muxer, phase, registry⟩, rfl⟩
  cases call with
  | finish => cases unaware
  | drop => cases unaware
  | image image => rfl
  | frame codec sets shape split buffer =>
    have empty : split.accessUnit.isEmpty = true := by simpa [RecorderCall.notices] using unaware
    have nothing : Recorder.recordMp4 number { host with now } split.accessUnit = (.mp4 number, { host with now }) := by
      rw [Recorder.recordMp4, if_pos empty]
    rw [RecorderSite.perform]
    dsimp only [Recorder.recordFrame, Recorder.append]
    rw [nothing]
  | finalizeAll locked =>
    have kept : (({ host with now } : Host).finalizeAll locked).2 = { host with now } := by
      by_cases held : number ∈ locked
      · exact @finalizeAll_locked number { host with now } muxer registry _ held
      · rw [@finalizeAll_only number { host with now } muxer registry _ held,
          Muxer.finalize_idle (streaming?_finalized phase), ← registry]
    rw [RecorderSite.perform]
    dsimp only
    rw [kept]

/-- A recorder that notices that its recording is over lets its muxer go. -/
lemma Unnoticed.notice (unnoticed : site.Unnoticed disk number) {call : Nat × RecorderCall}
    (aware : call.2.notices = true) : (site.perform call).Over disk number := by
  obtain ⟨recorder?, host⟩ := site
  obtain ⟨rfl, ⟨muxer, phase, registry⟩, rfl⟩ := unnoticed
  obtain ⟨now, call⟩ := call
  have later : ({ host with now } : Host).registry = .only number muxer := registry
  have released := release_finalized later phase
  cases call with
  | image image => cases aware
  | finalizeAll locked => cases aware
  | drop =>
    rw [perform_drop, released]
    exact ⟨.inl rfl, rfl, rfl⟩
  | finish =>
    rw [perform_finish registry, released]
    exact ⟨.inr rfl, rfl, rfl⟩
  | frame codec sets shape split buffer =>
    have some_nal : split.accessUnit.isEmpty = false := by simpa [RecorderCall.notices] using aware
    have same : RecorderSite.perform ⟨some (.mp4 number), host⟩ (now, .frame codec sets shape split buffer) =
        ⟨some .disabled, ({ host with now } : Host).release number⟩ := by
      rw [RecorderSite.perform]
      dsimp only [Recorder.recordFrame, Recorder.append]
      rw [recordMp4_finalized later phase some_nal]
    rw [same, released]
    exact ⟨.inr rfl, rfl, rfl⟩

/-- The recording is closed, whether or not its recorder has noticed. -/
def Closed (disk : Disk) (number : Nat) (site : RecorderSite) : Prop :=
  site.Unnoticed disk number ∨ site.Over disk number

/-- A recording that is closed stays closed, whatever is called for. -/
lemma Closed.performAll (closed : site.Closed disk number) (calls : List (Nat × RecorderCall)) :
    (site.performAll calls).Closed disk number := by
  induction calls generalizing site with
  | nil => exact closed
  | cons call rest ih =>
    rcases closed with unnoticed | ended
    · cases aware : call.2.notices with
      | false => exact ih (.inl (unnoticed.perform aware))
      | true => exact ih (.inr (unnoticed.notice aware))
    · exact ih (.inr (ended.perform call))

/-- A recording that is closed leaves the disk as it is. -/
lemma Closed.disk_eq (closed : site.Closed disk number) : site.host.disk = disk :=
  closed.elim Unnoticed.disk Over.disk

/-- The number of a closed recording is not given again. -/
lemma Closed.nextId (closed : site.Closed disk number) : site.host.registry.nextId = number + 1 := by
  rcases closed with unnoticed | ended
  · obtain ⟨muxer, -, registry⟩ := unnoticed.registry
    rw [registry, Registry.only]
  · rw [ended.registry]

/-- The recorder of a closed recording has not noticed yet, or it is given up or disabled. -/
lemma Closed.recorder (closed : site.Closed disk number) :
    site.recorder = some (.mp4 number) ∨ site.recorder = none ∨ site.recorder = some .disabled :=
  closed.imp Unnoticed.recorder Over.recorder

/-- A recording that is closed is over at the latest when a recorder would notice. -/
lemma Closed.ended (closed : site.Closed disk number) {calls : List (Nat × RecorderCall)}
    (aware : ∃ call ∈ calls, call.2.notices = true) : (site.performAll calls).Over disk number := by
  induction calls generalizing site with
  | nil =>
    obtain ⟨call, inside, -⟩ := aware
    cases inside
  | cons call rest ih =>
    rcases closed with unnoticed | ended
    · cases noticed : call.2.notices with
      | true => exact (unnoticed.notice noticed).performAll rest
      | false =>
        refine ih (.inl (unnoticed.perform noticed)) ?_
        obtain ⟨other, inside, aware⟩ := aware
        rcases List.mem_cons.mp inside with rfl | inside
        · cases noticed.symm.trans aware
        · exact ⟨other, inside, aware⟩
    · exact (ended.perform call).performAll rest

/-- Every way to close a recording leaves the outcome of its access units in the file. -/
lemma closes_outcome {origin : Disk} {id : Nat} {track : Track} {muxer : Muxer} {received : Bytes}
    {units : List AccessUnit} (recorder : site.recorder = some (.mp4 number))
    (registry : site.host.registry = .only number muxer)
    (records : muxer.Records origin id 0 track site.host.disk received units) (now : Nat) {closing : RecorderCall}
    (closes : closing.closes number = true) :
    ∃ after, Disk.Shows origin id 0 (outcome 0 track units).2 after ∧
      (site.perform (now, closing)).Closed after number ∧
      (closing.notices = true → (site.perform (now, closing)).Over after number) := by
  obtain ⟨recorder?, host⟩ := site
  dsimp only at recorder registry records
  subst recorder
  obtain ⟨after, run, shown⟩ := records.finalize_outcome now
  have later : ({ host with now } : Host).registry = .only number muxer := registry
  have released : ({ host with now } : Host).release number =
      { host with disk := after, now, registry := ⟨number + 1, []⟩ } := by
    rw [release_only later, Muxer.drop, run]
  refine ⟨after, shown, ?_⟩
  -- the muxer is finalized in each case, and let go by all but the emergency
  cases closing with
  | frame => cases closes
  | image => cases closes
  | drop =>
    have ended : (RecorderSite.perform ⟨some (.mp4 number), host⟩ (now, .drop)).Over after number := by
      rw [perform_drop, released]
      exact ⟨.inl rfl, rfl, rfl⟩
    exact ⟨.inr ended, fun _ => ended⟩
  | finish =>
    have ended : (RecorderSite.perform ⟨some (.mp4 number), host⟩ (now, .finish)).Over after number := by
      rw [perform_finish registry, released]
      exact ⟨.inr rfl, rfl, rfl⟩
    exact ⟨.inr ended, fun _ => ended⟩
  | finalizeAll locked =>
    have free : number ∉ locked := by simpa [RecorderCall.closes] using closes
    have same : RecorderSite.perform ⟨some (.mp4 number), host⟩ (now, .finalizeAll locked) =
        ⟨some (.mp4 number), { host with
          disk := after, now, registry := .only number { muxer with phase := .finalized } }⟩ := by
      rw [RecorderSite.perform]
      dsimp only
      rw [finalizeAll_only later free, run]
    rw [same]
    exact ⟨.inl ⟨rfl, ⟨_, rfl, rfl⟩, rfl⟩, fun impossible => by cases impossible⟩

/-- The recorder of a session. -/
def ofSession (session : RecordingSession) : RecorderSite :=
  ⟨some session.recorder, session.host⟩

/-- Capture buffers that a session takes are calls to its recorder. -/
lemma ofSession_run (shape : PictureShape) (session : RecordingSession) (buffers : List (Nat × Bytes)) :
    ∃ calls, ofSession (session.run shape buffers) = (ofSession session).performAll calls := by
  induction buffers generalizing session with
  | nil => exact ⟨[], rfl⟩
  | cons buffer rest ih =>
    obtain ⟨calls, same⟩ := ih (session.take shape buffer)
    rcases split : session.splitter.split buffer.2 with ⟨frame, splitter⟩
    refine ⟨(buffer.1, .frame splitter.codec splitter.sets shape frame buffer.2) :: calls, ?_⟩
    have taken : ofSession (session.take shape buffer) =
        (ofSession session).perform (buffer.1, .frame splitter.codec splitter.sets shape frame buffer.2) := by
      rw [ofSession, RecordingSession.take, split]
      rfl
    exact same.trans (congrArg (performAll · calls) taken)

end RecorderSite

open RecorderSite RecordingSession in
/-- The recorder of a session has started an MP4 file, on a host without other recordings. However and whenever the
recording is closed, the file has the bytes that the access units from the first keyframe on come to, and no later calls
change the disk or start a recording. The recorder is disabled or gone and the registry empty at the latest with the
next call by which it notices. An emergency between two buffers leaves the file of the session that ended there,
although the session goes on. -/
theorem closings_agree {codec : Codec} {repeatSets : Bool} {shape : PictureShape} {config : RecordingConfig}
    {host : Host} (sound : host.disk.IsSound) (formed : host.disk.IsWellFormed) (alone : host.registry.entries = [])
    {buffers : List (Nat × Bytes)} {session : RecordingSession} {number : Nat}
    (taken : (RecordingSession.start codec repeatSets config host).run shape buffers = session)
    (filming : session.recorder = .mp4 number) :
    ∃ before key rest bytes,
      buffers = before ++ key :: rest ∧ Keyless codec before ∧
      (AccessUnit.ofBuffer codec key.2).isKeyframe = true ∧
      bytes = (outcome 0 (trackBehind codec repeatSets shape (before ++ [key])) (recordable codec (key :: rest))).2 ∧
      (∀ now closing, closing.closes number = true →
        let closed := (ofSession session).perform (now, closing)
        (closed.host.disk.read config.path).1 = .ok bytes ∧
        ∀ later,
          let final := closed.performAll later
          final.host.disk = closed.host.disk ∧
          final.host.registry.nextId = session.host.registry.nextId ∧
          (final.recorder = some (.mp4 number) ∨ final.recorder = none ∨ final.recorder = some .disabled) ∧
          ((∃ call ∈ (now, closing) :: later, call.2.notices = true) →
            (final.recorder = none ∨ final.recorder = some .disabled) ∧ final.host.registry.entries = [])) ∧
      ∀ now locked more stop, number ∉ locked →
        let interrupted := { session with host := ({ session.host with now }.finalizeAll locked).2 }
        (((interrupted.run shape more).finish stop).2.disk.read config.path).1 = .ok bytes := by
  have reached := @phase_run codec shape config host repeatSets sound formed alone buffers
  rw [taken] at reached
  cases reached with
  | waits _ waits => cases waits.recorder.symm.trans filming
  | off off =>
    rw [filming] at off
    rcases off with off | off <;> cases off
  | @films origin id before rest key muxer received parted keyless is_key recorder created registry records =>
    cases recorder.symm.trans filming
    obtain ⟨directory, name, made⟩ := Disk.created_of_sound sound formed created
    have held : (ofSession session).recorder = some (.mp4 host.registry.nextId) := congrArg some recorder
    refine ⟨before, key, rest, _, parted, keyless, is_key, rfl, ?_, ?_⟩
    · intro now closing closes closed
      obtain ⟨after, shown, is_closed, ended⟩ := closes_outcome held registry records now closes
      refine ⟨?_, ?_⟩
      · rw [is_closed.disk_eq]
        exact made.read shown
      intro later final
      have still_closed := is_closed.performAll later
      refine ⟨still_closed.disk_eq.trans is_closed.disk_eq.symm, ?_, still_closed.recorder, ?_⟩
      · rw [registry]
        exact still_closed.nextId
      · rintro ⟨call, inside, aware⟩
        have at_last : final.Over after host.registry.nextId := by
          rcases List.mem_cons.mp inside with rfl | inside
          · exact (ended aware).performAll later
          · exact is_closed.ended ⟨call, inside, aware⟩
        exact ⟨at_last.recorder, congrArg Registry.entries at_last.registry⟩
    · intro now locked more stop free interrupted
      have closes : (RecorderCall.finalizeAll locked).closes host.registry.nextId = true := decide_eq_true free
      obtain ⟨after, shown, is_closed, -⟩ := closes_outcome held registry records now closes
      obtain ⟨calls, same⟩ := ofSession_run shape interrupted more
      -- the rest of the session is a list of calls, and its end is one more
      have ended : ((interrupted.run shape more).finish stop).2 =
          ((ofSession (interrupted.run shape more)).perform (stop, .finish)).host := rfl
      have at_last := (is_closed.performAll calls).performAll [(stop, .finish)]
      rw [ended, same]
      exact at_last.disk_eq ▸ made.read shown

open RecorderSite in
/-- A session of two buffers is ended, given up, and closed in an emergency before it goes on. -/
theorem closings_agree_two_buffers :
    let shape : PictureShape := ⟨16, 16, 30⟩
    let key := NalUnit.annexB [[0x67, 0x42, 0x00, 0x1E], [0x68], [0x65]]
    let session := (RecordingSession.start .h264 false { path := "a.mp4" } {}).run shape [(1, key), (2, [0, 0, 1, 0x41])]
    let interrupted := { session with host := ({ session.host with now := 3 }.finalizeAll []).2 }
    let dropped := (ofSession session).performAll [(3, .finalizeAll []), (4, .image [0xFF]), (5, .drop)]
    ∃ bytes,
      ((session.finish 3).2.disk.read "a.mp4").1 = .ok bytes ∧
      ((session.recorder.drop { session.host with now := 3 }).disk.read "a.mp4").1 = .ok bytes ∧
      (((interrupted.run shape [(6, key)]).finish 7).2.disk.read "a.mp4").1 = .ok bytes ∧
      (dropped.host.disk.read "a.mp4").1 = .ok bytes ∧
      dropped.host.registry.entries = [] := by
  intro shape key session interrupted dropped
  have sound : ({} : Host).disk.IsSound := fun _ _ => rfl
  have filming : session.recorder = .mp4 1 := by decide +kernel
  have taken : (RecordingSession.start .h264 false { path := "a.mp4" } {}).run shape [(1, key), (2, [0, 0, 1, 0x41])] =
    session := rfl
  have agree := closings_agree sound (Disk.isWellFormed_empty _) rfl taken filming
  -- the session is left as a name, so that nothing evaluates it
  clear_value session
  obtain ⟨-, -, -, bytes, -, -, -, -, closings, interruptions⟩ := agree
  obtain ⟨finished, -⟩ := closings 3 .finish rfl
  obtain ⟨given_up, -⟩ := closings 3 .drop rfl
  obtain ⟨emergency, later⟩ := closings 3 (.finalizeAll []) rfl
  obtain ⟨disk, -, -, ended⟩ := later [(4, .image [0xFF]), (5, .drop)]
  have resumed := interruptions 3 [] [(6, key)] 7 List.not_mem_nil
  refine ⟨bytes, finished, given_up, resumed, ?_, ?_⟩
  · exact (congrArg (fun disk => (Disk.read disk "a.mp4").1) disk).trans emergency
  · exact (ended ⟨(5, .drop), by simp, rfl⟩).2

end VideoCapture
