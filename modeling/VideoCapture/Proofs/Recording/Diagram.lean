import Mathlib.Logic.Relation
import VideoCapture.Proofs.Recording.Closing

/-!
# The state diagram of a recorder

A recorder that is alone on its host follows its diagram, whatever it is asked for and whatever becomes of its files.
The registry has its muxer while it writes an MP4 file, and is empty otherwise. Every operation of a recorder keeps to
that (`Recorder.Follows`), hence every call does (`RecorderSite.perform_follows`) and every sequence of calls
(`RecorderSite.performAll_follows`).
-/

namespace VideoCapture

namespace Recorder

/-- The state of a recorder, without what belongs to it. -/
inductive State where
  | pending
  | mp4
  | raw
  | disabled
  deriving DecidableEq, Repr

/-- The arrows of the diagram. -/
inductive State.Arrow : State → State → Prop where
  | film : Arrow pending mp4
  | openRaw : Arrow pending raw
  | refuse : Arrow pending disabled
  | closeMp4 : Arrow mp4 disabled
  | closeRaw : Arrow raw disabled

/-- A path in the diagram leads from one state to another. -/
def State.Leads : State → State → Prop :=
  Relation.ReflTransGen State.Arrow

/-- The state of a recorder in the diagram. -/
def state : Recorder → State
  | pending _ => .pending
  | mp4 _ => .mp4
  | raw _ => .raw
  | disabled => .disabled

/-- A recorder that writes an MP4 file has the one muxer that is registered, and holds it once. Any other recorder
leaves the registry empty. -/
def Accounts (recorder : Recorder) (registry : Registry) : Prop :=
  match recorder with
  | mp4 number => ∃ muxer, registry = .only number muxer
  | pending _ | raw _ | disabled => registry.entries = []

/-- An operation has led along the diagram, and left the registry in accord with the recorder. -/
structure Follows (before : State) (after : Recorder × Host) : Prop where
  leads : before.Leads after.1.state
  accounts : after.1.Accounts after.2.registry

namespace State

/-- Every state leads to itself. -/
lemma Leads.refl (state : State) : state.Leads state :=
  Relation.ReflTransGen.refl

/-- A path can be followed by another path. -/
lemma Leads.trans {one two three : State} (first : one.Leads two) (second : two.Leads three) : one.Leads three :=
  Relation.ReflTransGen.trans first second

/-- An arrow is a path. -/
lemma Arrow.leads {one two : State} (arrow : one.Arrow two) : one.Leads two :=
  Relation.ReflTransGen.single arrow

/-- Every recording can come to its end. -/
lemma leads_disabled (state : State) : state.Leads disabled := by
  cases state with
  | pending => exact Arrow.refuse.leads
  | mp4 => exact Arrow.closeMp4.leads
  | raw => exact Arrow.closeRaw.leads
  | disabled => exact .refl _

end State

/-- A path in front of an operation that follows the diagram follows it as well. -/
lemma Follows.trans {one two : State} {after : Recorder × Host} (first : one.Leads two) (second : Follows two after) :
    Follows one after :=
  ⟨first.trans second.leads, second.accounts⟩

variable {host : Host} {recorder : Recorder}

/-- A recorder that is switched off accounts for an empty registry. -/
lemma follows_disabled (state : State) (empty : host.registry.entries = []) : Follows state (disabled, host) :=
  ⟨state.leads_disabled, empty⟩

/-- A raw stream is opened, or the recorder is disabled. -/
lemma openRaw_follows (empty : host.registry.entries = []) (path : String) :
    Follows .pending (openRaw host path) := by
  unfold openRaw
  split
  · exact ⟨State.Arrow.openRaw.leads, empty⟩
  · exact follows_disabled _ empty

/-- A recording starts as an MP4 file or as a raw stream, or the recorder is disabled. -/
lemma start_follows (empty : host.registry.entries = []) (config : RecordingConfig) (track : Track) :
    Follows .pending (start config host track) := by
  unfold start
  split
  · exact openRaw_follows empty _
  · split
    · exact follows_disabled _ empty
    · exact ⟨State.Arrow.film.leads, _, Registry.register_only empty _⟩

/-- However a recording is finished, its muxer is let go. -/
lemma finish_empties (accounts : recorder.Accounts host.registry) :
    (recorder.finish host).2.registry.entries = [] := by
  cases recorder with
  | mp4 number =>
    obtain ⟨muxer, registry⟩ := accounts
    rw [RecorderSite.finish_only registry, RecorderSite.release_only registry]
  | raw stream =>
    unfold finish
    dsimp only
    split <;> exact accounts
  | pending config => exact accounts
  | disabled => exact accounts

/-- A recorder that fails is disabled, and its muxer is let go. -/
lemma fail_follows (accounts : recorder.Accounts host.registry) (state : State) : Follows state (recorder.fail host) :=
  follows_disabled state (finish_empties accounts)

/-- Adding to the MP4 file goes on with it, or disables the recorder. -/
lemma recordMp4_follows {number : Nat} (accounts : (mp4 number).Accounts host.registry) (unit : AccessUnit) :
    Follows .mp4 (recordMp4 number host unit) := by
  obtain ⟨muxer, registry⟩ := accounts
  obtain ⟨other, registry'⟩ :=
    Host.withMuxer_only registry fun muxer disk now => muxer.addAccessUnit disk now unit
  unfold recordMp4
  split
  · exact ⟨.refl _, muxer, registry⟩
  split
  · rename_i run
    rw [run] at registry'
    exact ⟨.refl _, other, registry'⟩
  · rename_i run
    rw [run] at registry'
    split
    · refine follows_disabled _ ?_
      rw [RecorderSite.release_only registry']
    · have still : (mp4 number).Accounts _ := ⟨other, registry'⟩
      exact fail_follows still _

/-- Adding to the raw stream goes on with it, or disables the recorder. -/
lemma recordRaw_follows (empty : host.registry.entries = []) (stream : RawStream) (buffer : Bytes) :
    Follows .raw (recordRaw stream host buffer) := by
  unfold recordRaw
  split
  · exact ⟨.refl _, empty⟩
  · rename_i error left disk _
    exact @fail_follows { host with disk } (raw left) empty _

/-- Adding to what is recorded goes on with it, or disables the recorder. -/
lemma append_follows (accounts : recorder.Accounts host.registry) (frame : SplitFrame) (buffer : Bytes) :
    Follows recorder.state (recorder.append host frame buffer) := by
  cases recorder with
  | pending config => exact ⟨.refl _, accounts⟩
  | mp4 number => exact recordMp4_follows accounts _
  | raw stream => exact recordRaw_follows accounts stream buffer
  | disabled => exact ⟨.refl _, accounts⟩

/-- Recording a split buffer follows the diagram. -/
lemma recordFrame_follows (accounts : recorder.Accounts host.registry) (codec : Codec) (sets : ParameterSets)
    (shape : PictureShape) (frame : SplitFrame) (buffer : Bytes) :
    Follows recorder.state (recorder.recordFrame host codec sets shape frame buffer) := by
  cases recorder with
  | pending config =>
    unfold recordFrame
    dsimp only
    split
    -- a keyframe starts the recording and is the first to be recorded, so two arrows may be taken
    · have started := start_follows accounts config ⟨codec, sets, shape.width, shape.height, shape.fps⟩
      exact .trans started.leads (append_follows started.accounts frame buffer)
    · exact ⟨.refl _, accounts⟩
  | mp4 number => exact append_follows accounts frame buffer
  | raw stream => exact append_follows accounts frame buffer
  | disabled => exact append_follows accounts frame buffer

/-- Recording an image follows the diagram. -/
lemma recordImage_follows (accounts : recorder.Accounts host.registry) (image : Bytes) :
    Follows recorder.state (recorder.recordImage host image) := by
  cases recorder with
  | pending config =>
    have opened := openRaw_follows accounts (Path.withExtension config.path imageExtension)
    unfold recordImage
    dsimp only
    split
    · rename_i run
      rw [run] at opened
      exact .trans opened.leads (recordRaw_follows opened.accounts _ image)
    · exact opened
  | mp4 number => exact ⟨.refl _, accounts⟩
  | raw stream => exact recordRaw_follows accounts stream image
  | disabled => exact ⟨.refl _, accounts⟩

/-- An emergency does not change who is registered. -/
lemma finalizeAll_accounts (accounts : recorder.Accounts host.registry) (locked : List Nat) :
    recorder.Accounts (host.finalizeAll locked).2.registry := by
  cases recorder with
  | mp4 number =>
    obtain ⟨muxer, registry⟩ := accounts
    by_cases held : number ∈ locked
    · rw [RecorderSite.finalizeAll_locked registry held]
      exact ⟨muxer, registry⟩
    · rw [RecorderSite.finalizeAll_only registry held]
      exact ⟨_, rfl⟩
  | pending config =>
    rw [RecorderSite.finalizeAll_nobody accounts]
    exact accounts
  | raw stream =>
    rw [RecorderSite.finalizeAll_nobody accounts]
    exact accounts
  | disabled =>
    rw [RecorderSite.finalizeAll_nobody accounts]
    exact accounts

/-- The size of a registry tells what its recorder does. -/
lemma Accounts.size {registry : Registry} (accounts : recorder.Accounts registry) :
    registry.size = if recorder.isMp4 then 1 else 0 := by
  cases recorder with
  | mp4 number =>
    obtain ⟨muxer, rfl⟩ := accounts
    rfl
  | pending config => exact congrArg List.length accounts
  | raw stream => exact congrArg List.length accounts
  | disabled => exact congrArg List.length accounts

end Recorder

namespace RecorderSite

variable {site : RecorderSite} {recorder : Recorder}

/-- Every call that does not give the recorder up follows the diagram. -/
lemma perform_follows (present : site.recorder = some recorder) (accounts : recorder.Accounts site.host.registry)
    {call : Nat × RecorderCall} (kept : call.2 ≠ .drop) :
    ∃ next, (site.perform call).recorder = some next ∧
      Recorder.Follows recorder.state (next, (site.perform call).host) := by
  obtain ⟨recorder?, host⟩ := site
  dsimp only at present accounts
  subst present
  obtain ⟨now, call⟩ := call
  have later : recorder.Accounts ({ host with now } : Host).registry := accounts
  cases call with
  | frame codec sets shape frame buffer =>
    exact ⟨_, rfl, Recorder.recordFrame_follows later codec sets shape frame buffer⟩
  | image image => exact ⟨_, rfl, Recorder.recordImage_follows later image⟩
  | finish => exact ⟨_, rfl, Recorder.follows_disabled _ (Recorder.finish_empties later)⟩
  | drop => exact absurd rfl kept
  | finalizeAll locked => exact ⟨_, rfl, .refl _, Recorder.finalizeAll_accounts later locked⟩

/-- Calls one after the other follow the diagram as well. -/
lemma performAll_follows (present : site.recorder = some recorder) (accounts : recorder.Accounts site.host.registry)
    {calls : List (Nat × RecorderCall)} (kept : ∀ call ∈ calls, call.2 ≠ .drop) :
    ∃ next, (site.performAll calls).recorder = some next ∧
      Recorder.Follows recorder.state (next, (site.performAll calls).host) := by
  induction calls generalizing site recorder with
  | nil => exact ⟨recorder, present, .refl _, accounts⟩
  | cons call rest ih =>
    obtain ⟨one, present₁, follows₁⟩ := perform_follows present accounts (kept call List.mem_cons_self)
    obtain ⟨two, present₂, follows₂⟩ :=
      ih present₁ follows₁.accounts fun other inside => kept other (List.mem_cons_of_mem _ inside)
    exact ⟨two, present₂, .trans follows₁.leads follows₂⟩

end RecorderSite

end VideoCapture
