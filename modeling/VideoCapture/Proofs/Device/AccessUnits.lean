import Mathlib.Data.List.SplitBy
import VideoCapture.Device.Replay
import VideoCapture.Proofs.Bitstream.Grammar
import VideoCapture.Proofs.Device.Frames

/-!
# Units grouped into access units

How the NAL units of a replayed stream are to be grouped (`Frames.IsGrouping`) leaves no choice: a group ends
exactly where a unit does not continue the one in front of it (`Frames.isGrouping_iff`). The access units that a
stream is cut into hold the groups of that kind (`accessUnits_group`).
-/

namespace VideoCapture

namespace Codec

/-- Whether a NAL unit carries picture data. -/
def isSlice (codec : Codec) (nal : Bytes) : Bool :=
  codec.carriesPicture (nal.headD 0)

/-- Whether a NAL unit stays in the access unit of the one in front of it. Picture data is followed by more slices
of the same picture only, and anything may follow what comes before the picture data. -/
def continues (codec : Codec) (before nal : Bytes) : Bool :=
  !codec.isSlice before || (codec.isSlice nal && !codec.startsPicture nal)

end Codec

namespace Frames
open StartCode

variable {codec : Codec} {data : Bytes} {group nals : List Bytes} {groups : List (List Bytes)}

/-- What accompanies a picture, then its first slice, then more slices of the same picture. -/
def IsAccessUnit (codec : Codec) (group : List Bytes) : Prop :=
  ∃ before slice slices, group = before ++ slice :: slices ∧ (∀ nal ∈ before, codec.isSlice nal = false) ∧
    codec.isSlice slice = true ∧ ∀ nal ∈ slices, codec.isSlice nal = true ∧ codec.startsPicture nal = false

/-- NAL units grouped into access units. Only the last group may lack a picture, and every group but the first
begins with something that cannot belong to the picture in front of it. -/
structure IsGrouping (codec : Codec) (nals : List Bytes) (groups : List (List Bytes)) : Prop where
  none_iff : groups = [] ↔ nals = []
  flatten : groups.flatten = nals
  complete : ∀ group ∈ groups.dropLast, IsAccessUnit codec group
  last : ∀ group ∈ groups.getLast?, IsAccessUnit codec group ∨ ∀ nal ∈ group, codec.isSlice nal = false
  begins : ∀ group ∈ groups.tail, ∃ nal rest, group = nal :: rest ∧
    (codec.isSlice nal = false ∨ codec.startsPicture nal = true)

/-- Within an access unit each NAL unit continues the one in front of it. -/
lemma IsAccessUnit.isChain (unit : IsAccessUnit codec group) :
    group.IsChain fun one two => codec.continues one two := by
  obtain ⟨before, slice, slices, rfl, accompanies, -, same⟩ := unit
  apply List.Pairwise.isChain
  have more : ∀ one, ∀ two ∈ slices, codec.continues one two = true := by
    intro one two inside
    obtain ⟨picture, later⟩ := same two inside
    rw [Codec.continues, picture, later, Bool.not_false, Bool.and_true, Bool.or_true]
  have free : ∀ one ∈ before, ∀ two, codec.continues one two = true := by
    intro one inside two
    rw [Codec.continues, accompanies one inside, Bool.not_false, Bool.true_or]
  apply List.pairwise_append.mpr
  refine ⟨?_, List.pairwise_cons.mpr ⟨more slice, ?_⟩, fun one inside two _ => free one inside two⟩
  · exact List.pairwise_of_forall_mem_list fun one inside two _ => free one inside two
  · exact List.pairwise_of_forall_mem_list fun one _ two inside => more one two inside

/-- An access unit ends with a slice. -/
lemma IsAccessUnit.getLast (unit : IsAccessUnit codec group) :
    ∃ nonempty, codec.isSlice (group.getLast nonempty) = true := by
  obtain ⟨before, slice, slices, rfl, -, picture, same⟩ := unit
  refine ⟨List.append_ne_nil_of_right_ne_nil _ (List.cons_ne_nil _ _), ?_⟩
  rw [List.getLast_append_of_ne_nil _ (List.cons_ne_nil slice slices)]
  cases List.mem_cons.mp (List.getLast_mem (List.cons_ne_nil slice slices)) with
  | inl first => rw [first, picture]
  | inr later => exact (same _ later).1

/-- What accompanies a picture continues what stands in front of it. -/
lemma isChain_of_accompanies (accompanies : ∀ nal ∈ group, codec.isSlice nal = false) :
    group.IsChain fun one two => codec.continues one two := by
  apply List.Pairwise.isChain
  apply List.pairwise_of_forall_mem_list
  intro one inside two _
  rw [Codec.continues, accompanies one inside, Bool.not_false, Bool.true_or]

/-- Behind picture data there is only more of the same picture. -/
lemma slices_of_isChain {nal : Bytes} (chain : (nal :: group).IsChain fun one two => codec.continues one two)
    (picture : codec.isSlice nal = true) :
    ∀ later ∈ group, codec.isSlice later = true ∧ codec.startsPicture later = false := by
  induction group generalizing nal with
  | nil => exact List.forall_mem_nil _
  | cons next rest ih =>
    obtain ⟨continues, chain⟩ := List.isChain_cons_cons.mp chain
    rw [Codec.continues, picture, Bool.not_true, Bool.false_or, Bool.and_eq_true, Bool.not_eq_true'] at continues
    exact List.forall_mem_cons.mpr ⟨continues, ih chain continues.1⟩

/-- Units that continue each other are an access unit, or have no picture among them. -/
lemma of_isChain (chain : group.IsChain fun one two => codec.continues one two) :
    IsAccessUnit codec group ∨ ∀ nal ∈ group, codec.isSlice nal = false := by
  induction group with
  | nil => exact .inr (List.forall_mem_nil _)
  | cons nal rest ih =>
    cases picture : codec.isSlice nal with
    | true => exact .inl ⟨[], nal, rest, rfl, List.forall_mem_nil _, picture, slices_of_isChain chain picture⟩
    | false =>
      rcases ih chain.tail with ⟨before, slice, slices, rfl, accompanies, slice_picture, same⟩ | accompanies
      · exact .inl ⟨nal :: before, slice, slices, rfl, List.forall_mem_cons.mpr ⟨picture, accompanies⟩, slice_picture,
          same⟩
      · exact .inr (List.forall_mem_cons.mpr ⟨picture, accompanies⟩)

/-- Items that are related in pairs have each a partner on the other side. -/
lemma partners {α β : Type} {related : α → β → Prop} {one : List α} {two : List β}
    (all : List.Forall₂ related one two) : (∀ a ∈ one, ∃ b, related a b) ∧ ∀ b ∈ two, ∃ a, related a b := by
  induction all with
  | nil => exact ⟨List.forall_mem_nil _, List.forall_mem_nil _⟩
  | cons both _ ih => exact ⟨List.forall_mem_cons.mpr ⟨⟨_, both⟩, ih.1⟩, List.forall_mem_cons.mpr ⟨⟨_, both⟩, ih.2⟩⟩

/-- Two units belong to different access units exactly if the first one is picture data and the second one is none, or
is the beginning of another picture. -/
lemma continues_eq_false_iff {one two : Bytes} : codec.continues one two = false ↔
    codec.isSlice one = true ∧ (codec.isSlice two = false ∨ codec.startsPicture two = true) := by
  rw [Codec.continues, Bool.or_eq_false_iff, Bool.not_eq_false', Bool.and_eq_false_iff, Bool.not_eq_false']

/-- There is one way to group NAL units: a new group begins where a unit does not continue the one before. -/
lemma isGrouping_iff : IsGrouping codec nals groups ↔ groups = nals.splitBy codec.continues := by
  rw [eq_comm, List.splitBy_eq_iff, List.isChain_iff_forall₂]
  constructor
  · rintro ⟨none_iff, flatten, complete, last, begins⟩
    refine ⟨flatten.symm, ?_, ?_, ?_⟩
    · intro empty
      cases empty with
      | head rest =>
        cases rest with
        | nil => exact List.cons_ne_nil _ _ (none_iff.mpr flatten.symm)
        | cons second more =>
          obtain ⟨nonempty, -⟩ := (complete [] List.mem_cons_self).getLast
          exact nonempty rfl
      | tail _ later =>
        obtain ⟨nal, rest, impossible, -⟩ := begins [] later
        cases impossible
    · intro group inside
      rcases List.eq_nil_or_concat' groups with rfl | ⟨front, final, rfl⟩
      · cases inside
      · rcases List.mem_append.mp inside with among | among
        · exact (complete group (List.dropLast_concat.symm ▸ among)).isChain
        · have ending : group ∈ (front ++ [final]).getLast? := by
            rw [List.getLast?_concat, List.mem_singleton.mp among]
            exact rfl
          exact (last group ending).elim IsAccessUnit.isChain isChain_of_accompanies
    · refine List.forall₂_iff_zip.mpr ⟨by rw [List.length_dropLast, List.length_tail], fun {one two} inside => ?_⟩
      obtain ⟨among, later⟩ := List.of_mem_zip inside
      obtain ⟨nonempty, picture⟩ := (complete one among).getLast
      obtain ⟨nal, rest, rfl, free⟩ := begins two later
      exact ⟨nonempty, List.cons_ne_nil _ _, continues_eq_false_iff.mpr ⟨picture, free⟩⟩
  · rintro ⟨flatten, nonempty, chains, apart⟩
    obtain ⟨ends, begins⟩ := partners apart
    refine ⟨?_, flatten.symm, ?_, ?_, ?_⟩
    · rw [flatten, List.flatten_eq_nil_iff]
      constructor
      · rintro rfl
        exact List.forall_mem_nil _
      · intro empty
        cases groups with
        | nil => rfl
        | cons first rest => exact absurd (empty first List.mem_cons_self ▸ List.mem_cons_self) nonempty
    · intro group inside
      obtain ⟨next, some_unit, _, apart⟩ := ends group inside
      rcases of_isChain (chains group ((List.dropLast_prefix groups).subset inside)) with unit | accompanies
      · exact unit
      · have picture := (continues_eq_false_iff.mp apart).1
        rw [accompanies _ (List.getLast_mem some_unit)] at picture
        cases picture
    · intro group inside
      exact of_isChain (chains group (List.mem_of_getLast? inside))
    · intro group inside
      obtain ⟨front, _, some_unit, apart⟩ := begins group inside
      obtain ⟨nal, rest, rfl⟩ := List.exists_cons_of_ne_nil some_unit
      exact ⟨nal, rest, rfl, (continues_eq_false_iff.mp apart).2⟩

/-- Spans that lie one behind the other, from a position on, if there is one, up to another. -/
structure Adjoins (begun : Option Nat) (stop : Nat) (spans : List Span) : Prop where
  first : spans.head?.map Span.start = begun
  last : ∀ span ∈ spans.getLast?, span.stop = stop
  chain : spans.IsChain fun one two => one.stop = two.start
  proper : ∀ span ∈ spans, span.start < span.stop ∧ span.stop ≤ stop

/-- A span in front of spans that adjoin leaves no gap if it ends where they begin. -/
lemma Adjoins.cons {begun position stop : Nat} {spans : List Span} (adjoins : Adjoins (some position) stop spans)
    (later : begun < position) (inside : position ≤ stop) : Adjoins (some begun) stop (⟨begun, position⟩ :: spans) := by
  obtain ⟨first, last, chain, proper⟩ := adjoins
  cases spans with
  | nil => cases first
  | cons next rest =>
    refine ⟨rfl, last, .cons_cons ?_ chain, List.forall_mem_cons.mpr ⟨⟨later, inside⟩, proper⟩⟩
    exact (Option.some.inj first).symm

/-- The spans of access units adjoin from where the first one has begun up to the end. -/
lemma accessUnitsFrom_adjoins (codec : Codec) {stop begun : Nat} {hasSlice : Bool} {items : List (Nat × NalUnit)}
    (inside : begun < stop) (later : ∀ item ∈ items, begun < item.1 ∧ item.1 < stop)
    (ordered : items.Pairwise fun one two => one.1 < two.1) :
    Adjoins (some begun) stop (accessUnitsFrom codec stop (some begun) hasSlice items) := by
  induction items generalizing begun hasSlice with
  | nil =>
    refine ⟨rfl, ?_, .singleton _, List.forall_mem_singleton.mpr ⟨inside, Nat.le_refl stop⟩⟩
    rintro _ ⟨⟩
    exact rfl
  | cons item items ih =>
    obtain ⟨position, nal⟩ := item
    obtain ⟨behind, ordered⟩ := List.pairwise_cons.mp ordered
    obtain ⟨⟨here, within⟩, later⟩ := List.forall_mem_cons.mp later
    unfold accessUnitsFrom
    dsimp only
    split
    · rename_i begun' _ same boundary
      cases same
      have next : ∀ item ∈ items, position < item.1 ∧ item.1 < stop :=
        fun item among => ⟨behind item among, (later item among).2⟩
      exact (ih within next ordered).cons here (Nat.le_of_lt within)
    · exact ih inside later ordered

/-- A NAL unit that continues the one in front of it stays in the span that has begun, and any other one begins a new
span. -/
lemma accessUnitsFrom_cons (codec : Codec) (stop begun position : Nat) (nal : Bytes) (next : NalUnit)
    (rest : List (Nat × NalUnit)) :
    accessUnitsFrom codec stop (some begun) (codec.isSlice nal) ((position, next) :: rest) =
      if codec.continues nal next.payload then
        accessUnitsFrom codec stop (some begun) (codec.isSlice next.payload) rest
      else ⟨begun, position⟩ :: accessUnitsFrom codec stop (some position) (codec.isSlice next.payload) rest := by
  have picture : codec.carriesPicture next.header = codec.isSlice next.payload := rfl
  conv_lhs => unfold accessUnitsFrom
  dsimp only
  rw [Codec.continues, picture]
  cases codec.isSlice nal <;> cases codec.isSlice next.payload <;> cases codec.startsPicture next.payload <;> rfl

/-- With the units of the open access unit known, the access units hold the groups of these and all later units. -/
lemma accessUnitsFrom_groups (codec : Codec) {begun : Nat} {front : List Bytes} {nal : Bytes}
    {items : List (Nat × NalUnit)} (begins : ∀ item ∈ items, begun < item.1)
    (ordered : items.Pairwise fun one two => one.1 < two.1)
    (severs : ∀ item ∈ items, Severs (data.take item.1) (data.drop item.1))
    (units : ∀ item rest, item :: rest <:+ items →
      NalUnit.payloads (data.drop item.1) = (item :: rest).map fun item => item.2.payload)
    (opened : NalUnit.payloads (data.drop begun) = front ++ [nal] ++ items.map fun item => item.2.payload)
    (chain : (front ++ [nal]).IsChain fun one two => codec.continues one two) :
    ((accessUnitsFrom codec data.length (some begun) (codec.isSlice nal) items).map fun span =>
      NalUnit.payloads (span.slice data)) =
        (front ++ [nal] ++ items.map fun item => item.2.payload).splitBy codec.continues := by
  have nonempty : front ++ [nal] ≠ [] := List.append_ne_nil_of_right_ne_nil _ (List.cons_ne_nil _ _)
  induction items generalizing begun front nal with
  | nil =>
    have rest : (Span.mk begun data.length).slice data = data.drop begun := by
      rw [Span.slice, Span.length]
      exact List.take_of_length_le (Nat.le_of_eq List.length_drop)
    rw [List.map_nil, List.append_nil] at opened ⊢
    rw [List.splitBy_of_isChain nonempty chain, accessUnitsFrom, Option.map_some, Option.toList_some,
      List.map_singleton, rest, opened]
  | cons item items ih =>
    obtain ⟨position, next⟩ := item
    obtain ⟨behind, ordered⟩ := List.pairwise_cons.mp ordered
    obtain ⟨here, begins⟩ := List.forall_mem_cons.mp begins
    obtain ⟨cut, severs⟩ := List.forall_mem_cons.mp severs
    have later := units (position, next) items (List.suffix_refl _)
    have units : ∀ item rest, item :: rest <:+ items →
        NalUnit.payloads (data.drop item.1) = (item :: rest).map fun item => item.2.payload :=
      fun item rest suffix => units item rest (suffix.trans (List.suffix_cons _ _))
    rw [accessUnitsFrom_cons, List.map_cons]
    cases continues : codec.continues nal next.payload with
    | true =>
      have chain : (front ++ [nal] ++ [next.payload]).IsChain fun one two => codec.continues one two := by
        refine List.isChain_append.mpr ⟨chain, .singleton _, ?_⟩
        rw [List.getLast?_concat]
        rintro _ ⟨⟩ _ ⟨⟩
        exact continues
      rw [if_pos rfl, List.append_cons]
      apply ih begins ordered severs units _ chain (List.append_ne_nil_of_right_ne_nil _ (List.cons_ne_nil _ _))
      rw [opened, List.map_cons, List.append_cons]
    | false =>
      have group : NalUnit.payloads ((Span.mk begun position).slice data) = front ++ [nal] := by
        rw [payloads_slice (Nat.le_of_lt here) cut, later] at opened
        exact List.append_cancel_right opened
      have apart : ∀ one ∈ (front ++ [nal]).getLast?, codec.continues one next.payload = false := by
        rw [List.getLast?_concat]
        rintro _ ⟨⟩
        exact continues
      rw [if_neg Bool.false_ne_true, List.map_cons, group, List.splitBy_append_cons _ apart,
        List.splitBy_of_isChain nonempty chain, List.singleton_append]
      congr 1
      exact @ih position [] next.payload behind ordered severs units later (.singleton _) (List.cons_ne_nil _ _)

/-- The access units of a byte stream lie one behind the other, from its first unit to its end, and hold its units in
the one possible grouping. -/
lemma accessUnits_groups (codec : Codec) (data : Bytes) :
    Adjoins ((NalPlace.all data).head?.map fun place => place.marker.start) data.length (accessUnits codec data) ∧
      ((accessUnits codec data).map fun span => NalUnit.payloads (span.slice data)) =
        (NalUnit.payloads data).splitBy codec.continues := by
  have located := NalUnit.located_eq 0 data
  have payloads := NalUnit.located_payloads 0 data
  rw [← NalUnit.payloads_eq] at payloads
  rw [accessUnits]
  cases places : NalPlace.all data with
  | nil =>
    rw [places, List.map_nil] at located
    rw [located] at payloads ⊢
    rw [← payloads]
    exact ⟨⟨rfl, fun _ impossible => (by cases impossible), .nil, List.forall_mem_nil _⟩, rfl⟩
  | cons place rest =>
    -- units are only ever found at places where the stream may be cut
    have severs := NalUnit.located_severs [] data (.inl rfl)
    have units := NalUnit.located_suffix [] data
    have ordered := (NalUnit.located_ordered 0 data).2
    rw [places, List.map_cons, Nat.zero_add] at located
    rw [List.length_nil, List.nil_append, located] at severs
    rw [List.length_nil, List.nil_append, located] at units
    rw [located] at ordered payloads ⊢
    generalize (rest.map fun place => (0 + place.marker.start, place.unit data)) = items at *
    obtain ⟨later, ordered⟩ := List.pairwise_cons.mp ordered
    obtain ⟨⟨-, cut⟩, severs⟩ := List.forall_mem_cons.mp severs
    have opened := units _ items (List.suffix_refl _)
    have first : accessUnitsFrom codec data.length none false ((place.marker.start, place.unit data) :: items) =
        accessUnitsFrom codec data.length (some place.marker.start)
          (codec.isSlice (place.unit data).payload) items := by
      conv_lhs => unfold accessUnitsFrom
      exact rfl
    rw [first]
    refine ⟨?_, ?_⟩
    · exact accessUnitsFrom_adjoins codec cut.lt_length
        (fun item among => ⟨later item among, (severs item among).2.lt_length⟩) ordered
    · rw [← payloads]
      exact @accessUnitsFrom_groups data codec place.marker.start [] (place.unit data).payload items later ordered
        (fun item among => (severs item among).2)
        (fun item rest suffix => units item rest (suffix.trans (List.suffix_cons _ _))) opened (.singleton _)

end Frames

/-- The frames of a byte stream lie one behind the other, from the start code of its first unit to its end, and there
are none exactly if there is no unit. Read one by one they hold the units of the stream, grouped into access units:
what accompanies a picture, its first slice and more slices of it. Only the last one may lack a picture, each but the
first begins with a unit that cannot belong to the picture in front, and no other grouping is like that. -/
theorem accessUnits_group (codec : Codec) (data : Bytes) :
    let spans := Frames.accessUnits codec data
    let groups := spans.map fun span => NalUnit.payloads (span.slice data)
    Replay.framesOf (.video codec) data = spans.map (fun span => span.slice data) ∧
      (spans = [] ↔ NalUnit.payloads data = []) ∧
      spans.head?.map Span.start = (NalPlace.all data).head?.map (fun place => place.marker.start) ∧
      spans.IsChain (fun one two => one.stop = two.start) ∧
      (∀ span ∈ spans.getLast?, span.stop = data.length) ∧
      (∀ span ∈ spans, span.start < span.stop) ∧
      groups.flatten = NalUnit.payloads data ∧
      ∀ others, Frames.IsGrouping codec (NalUnit.payloads data) others ↔ others = groups := by
  intro spans groups
  obtain ⟨⟨first, last, chain, proper⟩, groups_eq⟩ := Frames.accessUnits_groups codec data
  have flatten : groups.flatten = NalUnit.payloads data :=
    (congrArg List.flatten groups_eq).trans (List.flatten_splitBy _ _)
  have none_iff : spans = [] ↔ NalUnit.payloads data = [] := by
    rw [← @List.splitBy_eq_nil _ codec.continues, ← groups_eq, List.map_eq_nil_iff]
  have grouping : ∀ others, Frames.IsGrouping codec (NalUnit.payloads data) others ↔ others = groups := by
    intro others
    rw [Frames.isGrouping_iff, ← groups_eq]
  exact ⟨Span.slices_eq_map _ data, none_iff, first, chain, last, fun span inside => (proper span inside).1, flatten,
    grouping⟩

/-- Two pictures, the first one of two slices and with a parameter set, and a marker with nothing behind it. -/
theorem accessUnits_group_two_pictures :
    let data : Bytes := [0xAB, 0, 0, 0, 1, 0x67, 0x42, 0, 0, 1, 0x65, 0x80, 0, 0, 1, 0x65, 0x40, 0, 0, 1,
      0, 0, 1, 0x41, 0x80]
    let spans := Frames.accessUnits .h264 data
    spans = [⟨1, 20⟩, ⟨20, 25⟩] ∧ (⟨20, 25⟩ ∈ spans.getLast? ∧ 25 = data.length) ∧
      Frames.IsGrouping .h264 [[0x67, 0x42], [0x65, 0x80], [0x65, 0x40], [0x41, 0x80]]
        [[[0x67, 0x42], [0x65, 0x80], [0x65, 0x40]], [[0x41, 0x80]]] := by
  intro data spans
  have cut : spans = [⟨1, 20⟩, ⟨20, 25⟩] := by decide +kernel
  have final : ⟨20, 25⟩ ∈ spans.getLast? := cut ▸ rfl
  have units : NalUnit.payloads data = [[0x67, 0x42], [0x65, 0x80], [0x65, 0x40], [0x41, 0x80]] := by decide +kernel
  have groups : spans.map (fun span => NalUnit.payloads (span.slice data)) =
      [[[0x67, 0x42], [0x65, 0x80], [0x65, 0x40]], [[0x41, 0x80]]] := by decide +kernel
  obtain ⟨-, -, -, -, last, -, -, grouping⟩ := accessUnits_group .h264 data
  exact ⟨cut, ⟨final, last ⟨20, 25⟩ final⟩, units ▸ (grouping _).mpr groups.symm⟩

end VideoCapture
