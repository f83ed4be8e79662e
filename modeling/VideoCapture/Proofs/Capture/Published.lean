import VideoCapture.Device.Script
import VideoCapture.Proofs.Capture.Replay
import VideoCapture.Proofs.ParameterSets.Configuration
import VideoCapture.Proofs.Splitter.Keyframe

/-!
# What a session publishes

A session publishes format parameters only when a buffer has changed a parameter set, and a keyframe only when a buffer
has one. All the same, what is published is never out of date: after every step it is what the splitter of the session
has by then (`published_current`).
-/

namespace VideoCapture

/-- A set that is seen again changes nothing. -/
lemma ParameterSets.put_of_unchanged {sets : ParameterSets} {kind : ParameterSetKind} {nal : Bytes}
    (same : sets.changedBy kind nal = false) : sets.put kind nal = sets := by
  have stored : sets.slot kind = some nal := by simpa [changedBy] using same
  apply eq_of_slot
  intro other
  by_cases here : other = kind
  · rw [here, stored]
    exact slot_setSlot_self _ _ _
  · exact slot_setSlot_of_ne _ here _

namespace Splitter

/-- Units that do not count as a change leave the same sets behind, even if they bring some. -/
lemma splitUnits_unchanged {codec : Codec} {repeatSets : Bool} {sets : ParameterSets} {nals : List Bytes}
    (quiet : (splitUnits codec repeatSets sets nals).1.setsChanged = false) :
    (splitUnits codec repeatSets sets nals).2 = sets := by
  induction nals with
  | nil => exact rfl
  | cons nal rest ih =>
    rw [splitUnits] at quiet ⊢
    cases kind : codec.kindOf nal with
    | parameterSet which =>
      rw [kind] at quiet
      obtain ⟨same, quiet⟩ := Bool.or_eq_false_iff.mp quiet
      have kept := ParameterSets.put_of_unchanged same
      rw [kept] at quiet
      dsimp only
      rw [kept]
      exact ih quiet
    | refresh | slice | other =>
      rw [kind] at quiet
      exact ih quiet

/-- A splitter keeps its parameter sets if no change of them is announced. -/
lemma split_unchanged {splitter : Splitter} {buffer : Bytes}
    (quiet : (splitter.split buffer).1.setsChanged = false) : (splitter.split buffer).2.sets = splitter.sets := by
  rw [split_frame] at quiet
  rw [split_sets]
  exact splitUnits_unchanged quiet

end Splitter

/-- What can happen to a session: it is polled, it reads its device, or its recording is closed; or somebody else uses
the host, which can then be in any state. -/
inductive CaptureCall where
  | poll (timeout : Nat)
  | read
  | finish
  | elsewhere (host : Host)

namespace Capture

variable {δ : Type}

/-- The session after a call. -/
def perform [Device δ] (capture : Capture δ) : CaptureCall → Capture δ
  | .poll timeout => (capture.poll timeout).2
  | .read => capture.readOnce.2
  | .finish => capture.finish.2
  | .elsewhere host => { capture with host }

/-- The session after calls, one after the other. -/
def performAll [Device δ] (capture : Capture δ) (calls : List CaptureCall) : Capture δ :=
  calls.foldl perform capture

/-- What a session publishes is what its splitter has. -/
def IsCurrent (codec : Codec) (capture : Capture δ) : Prop :=
  ∃ splitter, capture.splitter = some splitter ∧ splitter.codec = codec ∧
    capture.feed.source.parameters = splitter.formatParameters? ∧
    capture.feed.source.lastKeyframe = splitter.lastKeyframe

variable {codec : Codec} {capture : Capture δ}

/-- Whatever else has changed, the view is current if the splitter and the source are the same. -/
lemma IsCurrent.of_same {other : Capture δ} (current : capture.IsCurrent codec)
    (splitter : other.splitter = capture.splitter) (source : other.feed.source = capture.feed.source) :
    other.IsCurrent codec := by
  unfold IsCurrent
  rw [splitter, source]
  exact current

/-- What is published after a buffer is what the splitter has after it. -/
lemma publish_current {source : VideoSource} {splitter : Splitter} {buffer : Bytes}
    (parameters : source.parameters = splitter.formatParameters?)
    (keyframe : source.lastKeyframe = splitter.lastKeyframe) :
    let split := splitter.split buffer
    let published := publish source split.2 split.1
    published.parameters = split.2.formatParameters? ∧ published.lastKeyframe = split.2.lastKeyframe := by
  intro split published
  constructor
  · cases changed : split.1.setsChanged with
    | true => exact if_pos changed
    | false =>
      have kept : published.parameters = source.parameters := if_neg (by rw [changed]; exact Bool.false_ne_true)
      rw [kept, parameters, Splitter.formatParameters?, Splitter.formatParameters?, Splitter.split_unchanged changed,
        Splitter.split_codec]
  · have kept := splitter.split_lastKeyframe buffer
    have key_eq := splitter.split_accessUnit buffer
    rw [← key_eq] at kept
    cases is_key : split.1.accessUnit.isKeyframe with
    | true =>
      rw [if_pos is_key] at kept
      have new : published.lastKeyframe = split.2.lastKeyframe.or source.lastKeyframe := if_pos is_key
      rw [new, kept]
      exact rfl
    | false =>
      have unkeyed : ¬ split.1.accessUnit.isKeyframe = true := by rw [is_key]; exact Bool.false_ne_true
      rw [if_neg unkeyed] at kept
      have old : published.lastKeyframe = source.lastKeyframe := if_neg unkeyed
      rw [old, keyframe, kept]

/-- Saving a still does not change what is published. -/
lemma saveStill_source (capture : Capture δ) : capture.saveStill.feed.source = capture.feed.source := by
  unfold saveStill
  split <;> exact rfl

/-- What is published stays current when a buffer is processed. -/
lemma IsCurrent.process (current : capture.IsCurrent codec) (buffer : Bytes) :
    (capture.process buffer).IsCurrent codec := by
  obtain ⟨splitter, stream, rfl, parameters, keyframe⟩ := current
  obtain ⟨parameters', keyframe'⟩ := @publish_current capture.feed.source splitter buffer parameters keyframe
  have source : (capture.process buffer).feed.source =
      publish capture.feed.source (splitter.split buffer).2 (splitter.split buffer).1 := by
    rw [Capture.process, saveStill_source]
    dsimp only
    rw [stream]
    exact rfl
  obtain ⟨-, splitter', -, -⟩ := process_stream capture stream buffer
  refine ⟨_, splitter', splitter.split_codec buffer, ?_, ?_⟩
  · rw [source, parameters']
  · rw [source, keyframe']

variable [Device δ]

/-- What is published stays current when the device is read. -/
lemma IsCurrent.readOnce (current : capture.IsCurrent codec) : capture.readOnce.2.IsCurrent codec := by
  unfold Capture.readOnce
  rcases Device.read capture.device capture.room with ⟨answer, device⟩
  have same : ({ capture with device } : Capture δ).IsCurrent codec := current.of_same rfl rfl
  dsimp only
  split
  · unfold fault
    split <;> exact same.of_same rfl rfl
  · split <;> exact same.of_same rfl rfl
  · exact same.process _

/-- What is published stays current when the session is polled. -/
lemma IsCurrent.poll (current : capture.IsCurrent codec) (timeout : Nat) :
    (capture.poll timeout).2.IsCurrent codec := by
  unfold Capture.poll
  split
  · exact current
  · rcases Device.wait capture.device capture.host.now timeout with ⟨answer, now, device⟩
    have same : ({ capture with device, host := { capture.host with now } } : Capture δ).IsCurrent codec :=
      current.of_same rfl rfl
    dsimp only
    split
    · unfold fault
      split <;> exact same.of_same rfl rfl
    · exact same.readOnce
    · exact same

/-- What is published stays current through every call. -/
lemma IsCurrent.perform (current : capture.IsCurrent codec) (call : CaptureCall) :
    (capture.perform call).IsCurrent codec := by
  cases call with
  | poll timeout => exact current.poll timeout
  | read => exact current.readOnce
  | finish => exact current.of_same rfl rfl
  | elsewhere host => exact current.of_same rfl rfl

/-- What is published stays current through calls one after the other. -/
lemma IsCurrent.performAll (current : capture.IsCurrent codec) (calls : List CaptureCall) :
    (capture.performAll calls).IsCurrent codec := by
  induction calls generalizing capture with
  | nil => exact current
  | cons call rest ih => exact ih (current.perform call)

/-- A session that has just started publishes nothing, and its splitter has nothing. -/
lemma start_current {device : δ} (video : (Device.format device).pixelFormat = .video codec) (config : CaptureConfig)
    (host : Host) : (start device config host).IsCurrent codec := by
  refine ⟨{ codec, repeatSets := config.repeatSets }, ?_, rfl, ?_, rfl⟩
  · show Option.map _ (Device.format device).pixelFormat.codec? = _
    rw [video]
    exact rfl
  · cases codec <;> exact rfl

end Capture

open Capture

/-- Whatever happens to a session on a video device, it publishes the format parameters that the remembered sets have
by then, which are none as long as a set is missing or an H.264 SPS ends before its profile does, and the keyframe that
its splitter keeps. -/
theorem published_current {δ : Type} [Device δ] {device : δ} {codec : Codec}
    (video : (Device.format device).pixelFormat = .video codec) (config : CaptureConfig) (host : Host)
    (calls : List CaptureCall) :
    let capture := (Capture.start device config host).performAll calls
    ∃ splitter, capture.splitter = some splitter ∧ splitter.codec = codec ∧
      capture.feed.source.parameters = (splitter.sets.formatParameters codec).toOption ∧
      (capture.feed.source.parameters = none ↔ splitter.sets.isComplete codec = false ∨
        codec = .h264 ∧ ∃ sps, splitter.sets.get? .sps = some sps ∧ sps.length < 4) ∧
      capture.feed.source.lastKeyframe = splitter.lastKeyframe := by
  intro capture
  obtain ⟨splitter, stream, rfl, parameters, keyframe⟩ := (start_current video config host).performAll calls
  refine ⟨splitter, stream, rfl, parameters, ?_, keyframe⟩
  exact (iff_of_eq (congrArg (· = none) parameters)).trans (ParameterSets.formatParameters_eq_none_iff _ _)

/-- A session reads a key picture with its sets, finds the host in another state, and then reads an SPS that cannot be
described. It goes on publishing the keyframe, but no format parameters. -/
theorem published_current_short_sps :
    let device : Script := {
      format := ⟨16, 16, 30, .video .h264⟩
      bufferSize := 4096
      reads := [.ok (NalUnit.annexB [[0x67, 0x42, 0x00, 0x1E], [0x68], [0x65]]), .ok (NalUnit.annexB [[0x67, 0x42]])] }
    let before := (Capture.start device {} {}).performAll [.poll 5]
    let after := (Capture.start device {} {}).performAll [.poll 5, .elsewhere { now := 7 }, .read]
    before.feed.source.parameters.isSome = true ∧
      after.feed.source.parameters = none ∧
      after.feed.source.lastKeyframe = some (NalUnit.annexB [[0x67, 0x42, 0x00, 0x1E], [0x68], [0x65]]) := by
  intro device before after
  obtain ⟨first, stream, -, -, described, -⟩ := @published_current Script _ device .h264 rfl {} {} [.poll 5]
  obtain ⟨last, stream', -, -, described', keyframe⟩ := @published_current Script _ device .h264 rfl {} {}
    [.poll 5, .elsewhere { now := 7 }, .read]
  have sets : before.splitter.map Splitter.sets = some (.ofH264 [0x67, 0x42, 0x00, 0x1E] [0x68]) := by decide +kernel
  have sets' : after.splitter.map Splitter.sets = some (.ofH264 [0x67, 0x42] [0x68]) := by decide +kernel
  have kept : after.splitter.map Splitter.lastKeyframe =
      some (some (NalUnit.annexB [[0x67, 0x42, 0x00, 0x1E], [0x68], [0x65]])) := by decide +kernel
  rw [stream, Option.map_some, Option.some.injEq] at sets
  rw [stream', Option.map_some, Option.some.injEq] at sets' kept
  rw [sets] at described
  rw [sets'] at described'
  refine ⟨?_, described'.mpr (.inr ⟨rfl, [0x67, 0x42], rfl, by decide⟩), keyframe.trans kept⟩
  apply Option.isSome_iff_ne_none.mpr
  intro nothing
  rcases described.mp nothing with incomplete | ⟨-, sps, found, short⟩
  · cases incomplete
  · cases found
    exact absurd short (by decide)

end VideoCapture
