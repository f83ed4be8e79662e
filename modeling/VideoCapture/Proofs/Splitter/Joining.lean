import Mathlib.Tactic.SplitIfs
import VideoCapture.Proofs.Bitstream.AnnexB
import VideoCapture.Proofs.ParameterSets.Configuration
import VideoCapture.Proofs.Splitter

/-!
# Joining a stream later

A splitter that repeats parameter sets delivers a stream that another splitter can be fed with from any buffer on.
What was delivered reads back as it was, the parameter sets in it make no difference to the access units, and a
refresh unit with all sets in front of it leaves the second splitter with the sets of the first one
(`joiner_follows`).
-/

namespace VideoCapture

/-- A unit can only be a parameter set that its codec needs. -/
lemma Codec.mem_requiredSets {codec : Codec} {nal : Bytes} {kind : ParameterSetKind}
    (is_set : codec.kindOf nal = .parameterSet kind) : kind ∈ codec.requiredSets := by
  cases codec
  all_goals
    unfold kindOf classify at is_set
    dsimp only at is_set
    split_ifs at is_set <;> cases is_set <;> decide

namespace ParameterSets

variable {codec : Codec} {sets other : ParameterSets}

/-- Sets with the same slots are the same. -/
lemma eq_of_slot (same : ∀ kind, sets.slot kind = other.slot kind) : sets = other := by
  obtain ⟨vps, sps, pps⟩ := sets
  cases same .vps
  cases same .sps
  cases same .pps
  exact rfl

/-- A set that can be had is in its slot. -/
lemma slot_of_get? {kind : ParameterSetKind} {nal : Bytes} (there : sets.get? kind = some nal) :
    sets.slot kind = some nal :=
  (Option.filter_eq_some_iff.mp there).1

/-- The stored sets are units that were taken from a stream, each stored under its own kind. -/
def Cached (codec : Codec) (sets : ParameterSets) : Prop :=
  ∀ kind nal, sets.slot kind = some nal →
    codec.kindOf nal = .parameterSet kind ∧ NalUnit.IsPayload nal

/-- No sets are cached sets. -/
lemma cached_empty (codec : Codec) : Cached codec {} := by
  intro kind nal there
  cases kind <;> cases there

/-- A set that is stored under its own kind keeps the sets cached. -/
lemma Cached.put (cached : Cached codec sets) {kind : ParameterSetKind} {nal : Bytes}
    (is_set : codec.kindOf nal = .parameterSet kind) (fits : NalUnit.IsPayload nal) :
    Cached codec (sets.put kind nal) := by
  intro which stored there
  by_cases same : which = kind
  · subst same
    cases (slot_setSlot_self sets which (some nal)).symm.trans there
    exact ⟨is_set, fits⟩
  · rw [ParameterSets.put, slot_setSlot_of_ne sets same] at there
    exact cached which stored there

/-- Nothing is stored under a kind that the codec does not need. -/
lemma Cached.slot_eq_none (cached : Cached codec sets) {kind : ParameterSetKind}
    (unneeded : kind ∉ codec.requiredSets) : sets.slot kind = none := by
  apply Option.eq_none_iff_forall_not_mem.mpr
  intro nal there
  exact unneeded (Codec.mem_requiredSets (cached kind nal there).1)

/-- Sets that are all there can be required together. -/
lemma mapM_require {kinds : List ParameterSetKind} (there : ∀ kind ∈ kinds, ∃ nal, sets.get? kind = some nal) :
    kinds.mapM sets.require = .ok (kinds.filterMap sets.get?) := by
  induction kinds with
  | nil => exact rfl
  | cons kind rest ih =>
    obtain ⟨⟨nal, first⟩, others⟩ := List.forall_mem_cons.mp there
    rw [List.mapM_cons, require_of_get? first, ih others, List.filterMap_cons_some first]
    exact rfl

end ParameterSets

namespace Splitter

variable {codec : Codec} {sets other : ParameterSets} {nal : Bytes} {nals : List Bytes}

/-- Complete sets are repeated all together, and others not at all. -/
lemma repeatedSets_eq (codec : Codec) (sets : ParameterSets) : repeatedSets codec true sets =
    if sets.isComplete codec then codec.requiredSets.filterMap sets.get? else [] := by
  unfold repeatedSets ParameterSets.isComplete
  cases missing : sets.missing? codec with
  | none =>
    have in_order : sets.ordered codec = .ok (codec.requiredSets.filterMap sets.get?) :=
      ParameterSets.mapM_require fun kind required => ParameterSets.get?_of_complete missing required
    rw [in_order]
    exact rfl
  | some kind =>
    cases in_order : sets.ordered codec with
    | ok required => cases missing.symm.trans (ParameterSets.missing?_of_ordered in_order)
    | error error => exact rfl

/-- A set that is repeated is a payload, and a set of some kind. -/
lemma of_mem_repeatedSets (cached : sets.Cached codec) (inside : nal ∈ repeatedSets codec true sets) :
    ∃ kind, codec.kindOf nal = .parameterSet kind ∧ NalUnit.IsPayload nal := by
  rw [repeatedSets_eq] at inside
  split at inside
  · obtain ⟨kind, -, there⟩ := List.mem_filterMap.mp inside
    exact ⟨kind, cached kind nal (ParameterSets.slot_of_get? there)⟩
  · cases inside

/-- A parameter set is remembered under its kind. -/
lemma remembered_of_set {kind : ParameterSetKind} (is_set : codec.kindOf nal = .parameterSet kind)
    (sets : ParameterSets) : remembered codec sets nal = sets.put kind nal := by
  rw [remembered, is_set]

/-- A NAL unit that refreshes the decoder leaves the sets alone. -/
lemma remembered_of_refresh (refreshing : codec.refreshes nal = true) (sets : ParameterSets) :
    remembered codec sets nal = sets := by
  rw [remembered, of_decide_eq_true refreshing]

/-- What is remembered behind some units. -/
lemma splitUnits_sets (codec : Codec) (repeatSets : Bool) (sets : ParameterSets) (nals : List Bytes) :
    (splitUnits codec repeatSets sets nals).2 = nals.foldl (remembered codec) sets := by
  induction nals generalizing sets with
  | nil => exact rfl
  | cons nal rest ih =>
    obtain ⟨-, -, after⟩ := splitUnits_cons codec repeatSets sets nal rest
    exact after.trans (ih _)

/-- Sets stay cached behind one more payload. -/
lemma cached_remembered (cached : sets.Cached codec) (fits : NalUnit.IsPayload nal) :
    (remembered codec sets nal).Cached codec := by
  unfold remembered
  split
  · rename_i kind is_set
    exact cached.put is_set fits
  · exact cached

/-- Sets stay cached behind any payloads. -/
lemma cached_foldl (cached : sets.Cached codec) (fit : ∀ nal ∈ nals, NalUnit.IsPayload nal) :
    (nals.foldl (remembered codec) sets).Cached codec := by
  induction nals generalizing sets with
  | nil => exact cached
  | cons nal rest ih =>
    obtain ⟨fits, fit⟩ := List.forall_mem_cons.mp fit
    exact ih (cached_remembered cached fits) fit

/-- Stored sets that are seen again replace whatever was stored under their kinds. -/
lemma slot_foldl_sets (cached : sets.Cached codec) {kinds : List ParameterSetKind}
    (there : ∀ kind ∈ kinds, ∃ nal, sets.get? kind = some nal) (kind : ParameterSetKind) :
    ((kinds.filterMap sets.get?).foldl (remembered codec) other).slot kind =
      if kind ∈ kinds then sets.slot kind else other.slot kind := by
  induction kinds generalizing other with
  | nil => exact rfl
  | cons first rest ih =>
    obtain ⟨⟨nal, found⟩, there⟩ := List.forall_mem_cons.mp there
    have stored := ParameterSets.slot_of_get? found
    rw [List.filterMap_cons_some found, List.foldl_cons, remembered_of_set (cached first nal stored).1, ih there]
    by_cases later : kind ∈ rest
    · rw [if_pos later, if_pos (List.mem_cons_of_mem _ later)]
    · rw [if_neg later]
      by_cases same : kind = first
      · subst same
        rw [if_pos List.mem_cons_self, stored]
        exact ParameterSets.slot_setSlot_self _ _ _
      · rw [if_neg (List.not_mem_cons_of_ne_of_not_mem same later)]
        exact ParameterSets.slot_setSlot_of_ne _ same _

/-- Who sees complete sets again remembers just these. -/
lemma foldl_repeatedSets (cached : sets.Cached codec) (others : other.Cached codec)
    (complete : sets.isComplete codec = true) :
    (repeatedSets codec true sets).foldl (remembered codec) other = sets := by
  rw [repeatedSets_eq, if_pos complete]
  apply ParameterSets.eq_of_slot
  intro kind
  rw [slot_foldl_sets cached fun kind required =>
    ParameterSets.get?_of_complete (Option.isNone_iff_eq_none.mp complete) required]
  split
  · exact rfl
  · rename_i unneeded
    rw [cached.slot_eq_none unneeded, others.slot_eq_none unneeded]

/-- Delivered units `out` say the same as the units `nals` of a stream to all that remember `sets`. -/
structure Conveys (codec : Codec) (sets : ParameterSets) (nals out : List Bytes) : Prop where
  fit : ∀ nal ∈ out, NalUnit.IsPayload nal
  pictures : (out.filter fun nal => !codec.isSet nal) = nals.filter fun nal => !codec.isSet nal
  refreshing : out.any codec.refreshes = nals.any codec.refreshes
  sets : out.foldl (remembered codec) sets = nals.foldl (remembered codec) sets

/-- Units that are conveyed one after the other are conveyed together. -/
lemma Conveys.append {one two out more : List Bytes} (first : Conveys codec sets one out)
    (second : Conveys codec (one.foldl (remembered codec) sets) two more) :
    Conveys codec sets (one ++ two) (out ++ more) where
  fit nal inside := (List.mem_append.mp inside).elim (first.fit nal) (second.fit nal)
  pictures := by rw [List.filter_append, first.pictures, second.pictures, List.filter_append]
  refreshing := by rw [List.any_append, first.refreshing, second.refreshing, List.any_append]
  sets := by rw [List.foldl_append, first.sets, second.sets, List.foldl_append]

/-- Repeated sets are no news to who remembers them. -/
lemma conveys_repeatedSets (cached : sets.Cached codec) : Conveys codec sets [] (repeatedSets codec true sets) where
  fit nal inside := by
    obtain ⟨kind, -, fits⟩ := of_mem_repeatedSets cached inside
    exact fits
  pictures := by
    apply List.filter_eq_nil_iff.mpr
    intro nal inside
    obtain ⟨kind, is_set, -⟩ := of_mem_repeatedSets cached inside
    rw [Codec.isSet, is_set]
    exact Bool.false_ne_true
  refreshing := by
    apply List.any_eq_false.mpr
    intro nal inside
    obtain ⟨kind, is_set, -⟩ := of_mem_repeatedSets cached inside
    rw [Codec.refreshes, is_set]
    exact Bool.false_ne_true
  sets := by
    cases complete : sets.isComplete codec with
    | true => exact foldl_repeatedSets cached cached complete
    | false =>
      rw [repeatedSets_eq, complete]
      exact rfl

/-- What is delivered for a NAL unit conveys it. -/
lemma conveys_delivered (cached : sets.Cached codec) (fits : NalUnit.IsPayload nal) :
    Conveys codec sets [nal] (delivered codec true sets nal) := by
  have alone : Conveys codec sets [nal] [nal] := ⟨List.forall_mem_singleton.mpr fits, rfl, rfl, rfl⟩
  unfold delivered
  split
  · exact (conveys_repeatedSets cached).append alone
  · exact alone

/-- What is delivered for all NAL units of a buffer conveys them. -/
lemma conveys_units (cached : sets.Cached codec) (fit : ∀ nal ∈ nals, NalUnit.IsPayload nal) :
    Conveys codec sets nals (splitUnits codec true sets nals).1.units := by
  induction nals generalizing sets with
  | nil => exact ⟨List.forall_mem_nil _, rfl, rfl, rfl⟩
  | cons nal rest ih =>
    obtain ⟨fits, fit⟩ := List.forall_mem_cons.mp fit
    obtain ⟨units, -, -⟩ := splitUnits_cons codec true sets nal rest
    rw [units]
    exact (conveys_delivered cached fits).append (ih (cached_remembered cached fits) fit)

/-- A refresh behind complete sets leaves nothing of what was remembered before. -/
lemma foldl_units_of_refresh (cached : sets.Cached codec) (others : other.Cached codec) {before behind : List Bytes}
    (fit : ∀ unit ∈ before ++ nal :: behind, NalUnit.IsPayload unit)
    (refreshing : codec.refreshes nal = true) (complete : (splitUnits codec true sets before).2.isComplete codec) :
    (splitUnits codec true sets (before ++ nal :: behind)).1.units.foldl (remembered codec) other =
      (splitUnits codec true sets (before ++ nal :: behind)).2 := by
  obtain ⟨fit_before, fit⟩ := List.forall_mem_append.mp fit
  obtain ⟨-, fit_behind⟩ := List.forall_mem_cons.mp fit
  obtain ⟨units, after⟩ := splitUnits_append codec true sets before (nal :: behind)
  have cached_there := cached_foldl cached fit_before
  have others_there := cached_foldl others (conveys_units cached fit_before).fit
  rw [← splitUnits_sets codec true] at cached_there
  -- what comes first leaves any sets behind in `other`, and the repeated sets replace all of them
  generalize (splitUnits codec true sets before).2 = there at *
  obtain ⟨units', -, after'⟩ := splitUnits_cons codec true there nal behind
  rw [remembered_of_refresh refreshing] at units' after'
  have repeated : delivered codec true there nal = repeatedSets codec true there ++ [nal] := if_pos refreshing
  rw [after, after', splitUnits_sets, units, units', repeated, List.foldl_append, List.foldl_append, List.foldl_append,
    foldl_repeatedSets cached_there others_there complete, List.foldl_cons, List.foldl_nil,
    remembered_of_refresh refreshing]
  exact (conveys_units cached_there fit_behind).sets

/-- Splits capture buffers one after the other. -/
def run : Splitter → List Bytes → List SplitFrame × Splitter
  | splitter, [] => ([], splitter)
  | splitter, buffer :: rest =>
    let (frame, next) := splitter.split buffer
    let (frames, last) := run next rest
    (frame :: frames, last)

/-- What is delivered for each capture buffer, as a byte stream. -/
def relay (splitter : Splitter) (buffers : List Bytes) : List Bytes :=
  (splitter.run buffers).1.map fun frame => NalUnit.annexB frame.units

/-- All sets that the codec needs are remembered when some refresh unit of a buffer is reached. -/
def RefreshesComplete (splitter : Splitter) (buffer : Bytes) : Prop :=
  ∃ before nal behind, NalUnit.payloads buffer = before ++ nal :: behind ∧ splitter.codec.refreshes nal = true ∧
    (splitUnits splitter.codec splitter.repeatSets splitter.sets before).2.isComplete splitter.codec

/-- One splitter repeats sets, and another one of the same codec takes what is delivered. -/
structure Joined (codec : Codec) (sender joiner : Splitter) : Prop where
  sender_codec : sender.codec = codec
  joiner_codec : joiner.codec = codec
  repeats : sender.repeatSets = true
  sent : sender.sets.Cached codec
  joined : joiner.sets.Cached codec

variable {sender joiner : Splitter}

/-- Buffers can be split in two runs, and what is delivered for the second follows on the first. -/
lemma run_append (splitter : Splitter) (one two : List Bytes) :
    (splitter.run (one ++ two)).2 = ((splitter.run one).2.run two).2 ∧
      splitter.relay (one ++ two) = splitter.relay one ++ (splitter.run one).2.relay two := by
  induction one generalizing splitter with
  | nil => exact ⟨rfl, rfl⟩
  | cons buffer rest ih =>
    obtain ⟨last, relayed⟩ := ih (splitter.split buffer).2
    exact ⟨last, congrArg (List.cons _) relayed⟩

/-- What is delivered for the first buffers does not depend on those behind them. -/
lemma relay_take (splitter : Splitter) (buffers : List Bytes) (n : Nat) :
    (splitter.relay buffers).take n = splitter.relay (buffers.take n) := by
  induction buffers generalizing splitter n with
  | nil => rw [List.take_nil]; exact List.take_nil
  | cons buffer rest ih =>
    cases n with
    | zero => exact rfl
    | succ n => exact congrArg (List.cons _) (ih (splitter.split buffer).2 n)

/-- One buffer: what was delivered for it has the same access unit, and the sets of both splitters are the same
behind it if they were before or if the buffer brings them all. -/
lemma Joined.split (joined : Joined codec sender joiner) (buffer : Bytes) :
    let sent := sender.split buffer
    let got := joiner.split (NalUnit.annexB sent.1.units)
    Joined codec sent.2 got.2 ∧ got.1.accessUnit = sent.1.accessUnit ∧
      (joiner.sets = sender.sets ∨ sender.RefreshesComplete buffer → got.2.sets = sent.2.sets) := by
  intro sent got
  obtain ⟨rfl, joiner_codec, repeats, cached, others⟩ := joined
  have fit : ∀ nal ∈ NalUnit.payloads buffer, NalUnit.IsPayload nal := fun _ => NalUnit.isPayload_of_mem
  have conveyed := conveys_units cached fit
  have units : (splitUnits sender.codec true sender.sets (NalUnit.payloads buffer)).1.units = sent.1.units := by
    rw [split_frame, repeats]
  have sent_sets : sent.2.sets = (splitUnits sender.codec true sender.sets (NalUnit.payloads buffer)).2 := by
    rw [split_sets, repeats]
  rw [units] at conveyed
  have payloads : NalUnit.payloads (NalUnit.annexB sent.1.units) = sent.1.units := NalUnit.payloads_annexB conveyed.fit
  have got_sets : got.2.sets = sent.1.units.foldl (remembered sender.codec) joiner.sets := by
    rw [split_sets, splitUnits_sets, payloads, joiner_codec]
  refine ⟨?_, ?_, ?_⟩
  · constructor
    · exact sender.split_codec buffer
    · exact (joiner.split_codec _).trans joiner_codec
    · exact (sender.split_repeatSets buffer).trans repeats
    · rw [sent_sets, splitUnits_sets]
      exact cached_foldl cached fit
    · rw [got_sets]
      exact cached_foldl others conveyed.fit
  · rw [split_accessUnit, split_accessUnit, joiner_codec, AccessUnit.ofBuffer, AccessUnit.ofBuffer, payloads,
      conveyed.pictures, conveyed.refreshing]
  · rintro (same | ⟨before, nal, behind, parted, refreshing, complete⟩)
    · rw [got_sets, same, conveyed.sets, sent_sets, splitUnits_sets]
    · rw [repeats] at complete
      rw [parted] at fit units sent_sets
      rw [got_sets, sent_sets, ← units]
      exact foldl_units_of_refresh cached others fit refreshing complete

/-- Two splitters stay joined over all buffers, and group the same access units. -/
lemma Joined.run (joined : Joined codec sender joiner) (buffers : List Bytes) :
    let sent := sender.run buffers
    let got := joiner.run (sender.relay buffers)
    Joined codec sent.2 got.2 ∧ got.1.map SplitFrame.accessUnit = sent.1.map SplitFrame.accessUnit ∧
      (joiner.sets = sender.sets → got.2.sets = sent.2.sets) := by
  induction buffers generalizing sender joiner with
  | nil => exact ⟨joined, rfl, id⟩
  | cons buffer rest ih =>
    obtain ⟨joined, unit, sets⟩ := joined.split buffer
    obtain ⟨joined, units, sets'⟩ := ih joined
    refine ⟨joined, ?_, fun same => sets' (sets (.inl same))⟩
    exact (congrArg (· :: _) unit).trans (congrArg (_ :: ·) units)

/-- A buffer that refreshes the decoder with complete sets in front makes the sets of both splitters the same from
there on. -/
lemma Joined.sets_eq (joined : Joined codec sender joiner) (front : List Bytes) {buffer : Bytes}
    (refreshes : (sender.run front).2.RefreshesComplete buffer) (behind : List Bytes) :
    (joiner.run (sender.relay (front ++ buffer :: behind))).2.sets =
      (sender.run (front ++ buffer :: behind)).2.sets := by
  obtain ⟨sender_last, relayed⟩ := run_append sender front (buffer :: behind)
  obtain ⟨joiner_last, -⟩ := run_append joiner (sender.relay front) ((sender.run front).2.relay (buffer :: behind))
  rw [relayed, joiner_last, sender_last]
  obtain ⟨joined, -, -⟩ := joined.run front
  obtain ⟨joined, -, sets⟩ := joined.split buffer
  obtain ⟨-, -, later⟩ := joined.run behind
  exact later (sets (.inr refreshes))

/-- A splitter that only ever took what a stream holds is joined by one that did not take anything yet. -/
lemma run_joined (codec : Codec) (buffers : List Bytes) :
    Joined codec (run { codec, repeatSets := true } buffers).2 { codec } := by
  have cached := ParameterSets.cached_empty codec
  have fresh : Joined codec { codec, repeatSets := true } { codec, repeatSets := true } :=
    ⟨rfl, rfl, rfl, cached, cached⟩
  obtain ⟨⟨sender_codec, -, repeats, sent, -⟩, -, -⟩ := fresh.run buffers
  exact ⟨sender_codec, rfl, repeats, sent, cached⟩

end Splitter

open Splitter

/-- A splitter that repeats sets takes capture buffers, and from the `j`-th of them on a fresh one takes what the first
delivers. The second sees the access units of the first. From any buffer on that has a refresh unit behind complete
sets, it also remembers the sets of the first. -/
theorem joiner_follows (codec : Codec) (buffers : List Bytes) (j : Nat) :
    let sender := (Splitter.run { codec, repeatSets := true } (buffers.take j)).2
    let joiner : Splitter := { codec }
    let later := buffers.drop j
    (joiner.run (sender.relay later)).1.map SplitFrame.accessUnit =
        (sender.run later).1.map SplitFrame.accessUnit ∧
      ∀ front buffer rest, later = front ++ buffer :: rest → (sender.run front).2.RefreshesComplete buffer →
        ∀ n, front.length < n →
          (joiner.run ((sender.relay later).take n)).2.sets = (sender.run (later.take n)).2.sets := by
  intro sender joiner later
  have joined : Joined codec sender joiner := run_joined codec (buffers.take j)
  refine ⟨(joined.run later).2.1, ?_⟩
  intro front buffer rest parted refreshes n inside
  obtain ⟨more, rfl⟩ := Nat.exists_eq_add_of_lt inside
  have reached : later.take (front.length + more + 1) = front ++ buffer :: rest.take more := by
    rw [parted, Nat.add_assoc, List.take_length_add_append, List.take_succ_cons]
  rw [relay_take, reached]
  exact joined.sets_eq front refreshes (rest.take more)

/-- The second splitter joins behind the sets and the first key picture, and has the sets behind the next one. -/
theorem joiner_follows_two_buffers :
    let sps : Bytes := [0x67, 0x64, 0x00, 0x28]
    let pps : Bytes := [0x68, 0xEE, 0x3C, 0x80]
    let key : Bytes := [0x65, 0x88, 0x84, 0x21]
    let slice := NalUnit.annexB [[0x41, 0x9A, 0x02]]
    let sender := (Splitter.run { codec := .h264, repeatSets := true } [NalUnit.annexB [sps, pps, key]]).2
    let delivered := sender.relay [slice, NalUnit.annexB [key]]
    delivered = [slice, NalUnit.annexB [sps, pps, key]] ∧
      (Splitter.run { codec := .h264 } (delivered.take 1)).2.sets = {} ∧
      (Splitter.run { codec := .h264 } (delivered.take 2)).2.sets = .ofH264 sps pps := by
  intro sps pps key slice sender delivered
  obtain ⟨-, sets⟩ := joiner_follows .h264 [NalUnit.annexB [sps, pps, key], slice, NalUnit.annexB [key]] 1
  have refreshes : (sender.run [slice]).2.RefreshesComplete (NalUnit.annexB [key]) :=
    ⟨[], key, [], by decide +kernel, by decide +kernel, by decide +kernel⟩
  have same := sets [slice] (NalUnit.annexB [key]) [] rfl refreshes 2 (by decide)
  refine ⟨by decide +kernel, by decide +kernel, same.trans ?_⟩
  decide +kernel

end VideoCapture
