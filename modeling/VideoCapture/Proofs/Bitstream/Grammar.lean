import Mathlib.Data.List.Chain
import VideoCapture.Mp4.Box
import VideoCapture.Proofs.Bitstream.AnnexB

/-!
# The grammar of a byte stream

A byte stream read without any scanning: every occurrence of `00 00 01` ends a marker, which has one more zero byte
in front if there is one (`StartCode.markers`), and between two markers, or behind the last one, lies a gap. The
units are the gaps that are not empty (`NalPlace.all`). A reader that is asked again and again answers with these
units and with nothing else (`reader_follows_grammar`).
-/

namespace VideoCapture
open StartCode

namespace Span

/-- The span as it stands behind `n` more bytes. -/
def shift (n : Nat) (span : Span) : Span :=
  ⟨span.start + n, span.stop + n⟩

/-- A shifted span cuts from some data what the span itself cuts from the data without their first bytes. -/
lemma slice_shift (span : Span) (n : Nat) (data : Bytes) : (span.shift n).slice data = span.slice (data.drop n) := by
  rw [slice, slice, length, length, shift, Nat.add_sub_add_right, List.drop_drop, Nat.add_comm n]

/-- Two spans that meet make up one. -/
lemma slice_append {a b c : Nat} (first : a ≤ b) (second : b ≤ c) (data : Bytes) :
    (Span.mk a b).slice data ++ (Span.mk b c).slice data = (Span.mk a c).slice data := by
  have whole : c - a = (b - a) + (c - b) := by omega
  have middle : b = a + (b - a) := by omega
  rw [slice, slice, slice, length, length, length]
  dsimp only
  rw [whole, List.take_add, List.drop_drop, ← middle]

end Span

namespace StartCode

/-- The positions of the short start code, wherever it occurs. -/
def occurrences (data : Bytes) : List Nat :=
  (List.range data.length).filter fun p => short.isPrefixOf (data.drop p)

/-- The marker that ends with the short start code at a position. A zero byte in front of the code belongs to it. -/
def markerAt (data : Bytes) (p : Nat) : Span :=
  ⟨if 0 < p ∧ data[p - 1]? = some 0 then p - 1 else p, p + 3⟩

/-- The markers of a byte string, in order. -/
def markers (data : Bytes) : List Span :=
  (occurrences data).map (markerAt data)

end StartCode

/-- A marker and the gap behind it. -/
structure NalPlace where
  marker : Span
  gap : Span
  deriving DecidableEq, Repr

namespace NalPlace

/-- Where the first of some markers starts, or else `stop`. -/
def firstStart (stop : Nat) (markers : List Span) : Nat :=
  (markers.head?.map Span.start).getD stop

/-- Each of some markers with the gap up to the next one, the last one with the gap up to `stop`. -/
def between (stop : Nat) : List Span → List NalPlace
  | [] => []
  | marker :: rest => ⟨marker, ⟨marker.stop, firstStart stop rest⟩⟩ :: between stop rest

/-- All markers of a byte string with the gaps behind them. -/
def marked (data : Bytes) : List NalPlace :=
  between data.length (markers data)

/-- The markers that have a unit behind them, with that unit. -/
def all (data : Bytes) : List NalPlace :=
  (marked data).filter fun place => place.gap.start < place.gap.stop

/-- The unit at a place. -/
def unit (data : Bytes) (place : NalPlace) : NalUnit :=
  ⟨place.marker.slice data, place.gap.slice data⟩

/-- The place as it stands behind `n` more bytes. -/
def shift (n : Nat) (place : NalPlace) : NalPlace :=
  ⟨place.marker.shift n, place.gap.shift n⟩

end NalPlace

/-- Asks a reader for a unit a number of times. Each answer stands with the number of bytes that remain behind it. -/
def NalReader.answers : Nat → NalReader → List (Option NalUnit × Nat)
  | 0, _ => []
  | calls + 1, reader =>
    let (answer, reader) := reader.next
    (answer, reader.remaining.length) :: reader.answers calls

namespace StartCode

variable {data front back rest : Bytes} {b : UInt8} {n p : Nat}

/-- The short start code occurs where it begins and nowhere else. -/
lemma mem_occurrences : p ∈ occurrences data ↔ p < data.length ∧ short <+: data.drop p := by
  rw [occurrences, List.mem_filter, List.mem_range, List.isPrefixOf_iff_prefix]

/-- Where the short start code occurs, there is room for it. -/
lemma le_of_mem_occurrences (inside : p ∈ occurrences data) : p + 3 ≤ data.length := by
  have fits := (mem_occurrences.mp inside).2.length_le
  rw [List.length_drop] at fits
  simp only [short, List.length_cons, List.length_nil] at fits
  omega

/-- Without a short start code there is no occurrence. -/
lemma occurrences_of_free (free : ¬short <:+: data) : occurrences data = [] := by
  apply List.eq_nil_iff_forall_not_mem.mpr
  intro p inside
  exact free ((mem_occurrences.mp inside).2.isInfix.trans (List.drop_suffix p data).isInfix)

/-- A further byte in front shifts all occurrences, and may begin one of its own. -/
lemma occurrences_cons (b : UInt8) (rest : Bytes) : occurrences (b :: rest) =
    (if short.isPrefixOf (b :: rest) then [0] else []) ++ (occurrences rest).map (· + 1) := by
  rw [occurrences, List.length_cons, List.range_succ_eq_map, List.filter_cons, List.filter_map, List.drop_zero]
  split <;> rfl

/-- A short start code is found exactly where it occurs. -/
lemma isPrefixOf_short_iff : short.isPrefixOf data ↔ lengthAt? data = some 3 := by
  rw [List.isPrefixOf_iff_prefix]
  constructor
  · rintro ⟨rest, rfl⟩
    exact lengthAt?_short rest
  · intro found
    obtain ⟨rest, ⟨-, impossible⟩ | ⟨laid, -⟩⟩ := of_lengthAt? found
    · cases impossible
    · exact ⟨rest, laid.symm⟩

/-- At a cut the occurrences fall apart, those behind it shifted. -/
lemma occurrences_append (severs : Severs front back) :
    occurrences (front ++ back) = occurrences front ++ (occurrences back).map (· + front.length) := by
  induction front with
  | nil => exact (List.map_id _).symm
  | cons b front ih =>
    have same : short.isPrefixOf (b :: (front ++ back)) = short.isPrefixOf (b :: front) := by
      apply Bool.eq_iff_iff.mpr
      rw [isPrefixOf_short_iff, isPrefixOf_short_iff, ← List.cons_append, severs.lengthAt?]
    rw [List.cons_append, occurrences_cons, same, occurrences_cons, ih severs.of_cons, List.map_append, List.map_map,
      List.append_assoc]
    rfl

/-- A marker keeps its place behind anything that does not end in a zero byte that would belong to it. -/
lemma markerAt_append (apart : p = 0 → front.getLast? ≠ some 0) (rest : Bytes) :
    markerAt (front ++ rest) (p + front.length) = (markerAt rest p).shift front.length := by
  have same : (0 < p + front.length ∧ (front ++ rest)[p + front.length - 1]? = some 0) ↔
      (0 < p ∧ rest[p - 1]? = some 0) := by
    cases p with
    | zero =>
      rw [Nat.zero_add]
      constructor
      · rintro ⟨some_byte, zero⟩
        rw [List.getElem?_append_left (Nat.sub_one_lt_of_lt some_byte), ← List.getLast?_eq_getElem?] at zero
        exact absurd zero (apart rfl)
      · rintro ⟨impossible, -⟩
        cases impossible
    | succ p =>
      rw [Nat.add_right_comm, Nat.add_sub_cancel, List.getElem?_append_right (Nat.le_add_left _ _), Nat.add_sub_cancel,
        Nat.add_sub_cancel]
      exact ⟨fun zero => ⟨Nat.succ_pos p, zero.2⟩, fun zero => ⟨Nat.succ_pos _, zero.2⟩⟩
  rw [markerAt, markerAt, Span.shift, Nat.add_right_comm]
  by_cases joined : 0 < p ∧ rest[p - 1]? = some 0
  · rw [if_pos (same.mpr joined), if_pos joined, Nat.sub_add_comm joined.1]
  · rw [if_neg (mt same.mp joined), if_neg joined]

/-- The markers behind a cut are what they are without the bytes in front of it, only shifted. -/
lemma markers_behind (apart : short <+: rest → front.getLast? ≠ some 0) :
    ((occurrences rest).map (· + front.length)).map (markerAt (front ++ rest)) =
      (markers rest).map (Span.shift front.length) := by
  rw [markers, List.map_map, List.map_map]
  apply List.map_congr_left
  intro p inside
  apply markerAt_append
  rintro rfl
  exact apart (mem_occurrences.mp inside).2

/-- Data that begin with a start code have a marker there, and those behind it. -/
lemma markers_of_code (found : lengthAt? data = some n) :
    markers data = ⟨0, n⟩ :: (markers (data.drop n)).map (Span.shift n) := by
  obtain ⟨rest, ⟨rfl, rfl⟩ | ⟨rfl, rfl⟩⟩ := of_lengthAt? found
  · have parted : occurrences (long ++ rest) = 1 :: (occurrences rest).map (· + long.length) := by
      simp [long, short, occurrences_cons]
    rw [markers, parted, List.map_cons, markers_behind fun _ => by decide]
    rfl
  · have parted : occurrences (short ++ rest) = 0 :: (occurrences rest).map (· + short.length) := by
      simp [short, occurrences_cons]
    rw [markers, parted, List.map_cons, markers_behind fun _ => by decide]
    rfl

/-- A byte in front of which no start code begins shifts all markers. -/
lemma markers_of_byte (no_code : lengthAt? (b :: rest) = none) :
    markers (b :: rest) = (markers rest).map (Span.shift 1) := by
  have not_here : ¬short.isPrefixOf (b :: rest) := by
    rw [isPrefixOf_short_iff, no_code]
    rintro ⟨⟩
  have apart : short <+: rest → [b].getLast? ≠ some 0 := by
    rintro ⟨others, rfl⟩ zero
    -- a zero byte in front of the short code would have been the beginning of a long one
    cases zero
    cases (lengthAt?_long others).symm.trans no_code
  rw [markers, occurrences_cons, if_neg not_here, List.nil_append]
  exact markers_behind apart

/-- At a cut the markers fall apart, those behind it shifted. -/
lemma markers_append (severs : Severs front back) :
    markers (front ++ back) = markers front ++ (markers back).map (Span.shift front.length) := by
  rw [markers, occurrences_append severs, List.map_append, markers_behind severs.apart]
  congr 1
  apply List.map_congr_left
  intro p inside
  have within := le_of_mem_occurrences inside
  have before : p - 1 < front.length := by omega
  rw [markerAt, markerAt, List.getElem?_append_left before]

end StartCode

namespace NalPlace

variable {data front back : Bytes}

/-- The first marker of shifted ones is the first one shifted. -/
lemma firstStart_shift (stop n : Nat) (markers : List Span) :
    firstStart (stop + n) (markers.map (Span.shift n)) = firstStart stop markers + n := by
  cases markers <;> rfl

/-- Shifted markers have shifted gaps between them. -/
lemma between_shift (stop n : Nat) (markers : List Span) :
    between (stop + n) (markers.map (Span.shift n)) = (between stop markers).map (shift n) := by
  induction markers with
  | nil => rfl
  | cons marker rest ih =>
    rw [List.map_cons, between, ih, firstStart_shift]
    rfl

/-- Markers in two parts have the gaps of the parts, where the first part ends at the second one. -/
lemma between_append (stop : Nat) (one two : List Span) :
    between stop (one ++ two) = between (firstStart stop two) one ++ between stop two := by
  induction one with
  | nil => rfl
  | cons marker rest ih =>
    rw [List.cons_append, between, between, ih]
    cases rest <;> rfl

/-- At a cut the markers with their gaps fall apart, those behind it shifted. -/
lemma marked_append (severs : Severs front back) :
    marked (front ++ back) = marked front ++ (marked back).map (shift front.length) := by
  obtain ⟨n, found⟩ := Option.isSome_iff_exists.mp severs.code
  have next : firstStart (front ++ back).length ((markers back).map (Span.shift front.length)) = front.length := by
    rw [markers_of_code found]
    exact Nat.zero_add _
  rw [marked, markers_append severs, between_append, next, List.length_append, Nat.add_comm, between_shift]
  rfl

/-- Data that begin with a start code have a place there, with the gap up to the next marker, and those behind it. -/
lemma marked_of_code {n : Nat} (found : lengthAt? data = some n) :
    marked data = ⟨⟨0, n⟩, ⟨n, firstStart (data.drop n).length (markers (data.drop n)) + n⟩⟩ ::
      (marked (data.drop n)).map (shift n) := by
  have inside := lengthAt?_pos found
  have size : data.length = (data.drop n).length + n := by
    rw [List.length_drop, Nat.sub_add_cancel inside.2]
  rw [marked, markers_of_code found, size, between, firstStart_shift, between_shift]
  rfl

/-- Shifted places have the gaps that the places have in the data without their first bytes. -/
lemma map_gap_shift (places : List NalPlace) (n : Nat) (data : Bytes) :
    ((places.map (shift n)).map fun place => place.gap.slice data) =
      places.map fun place => place.gap.slice (data.drop n) := by
  rw [List.map_map]
  exact List.map_congr_left fun place _ => place.gap.slice_shift n data

/-- The gaps behind markers are the pieces into which a byte string is cut at its start codes. -/
lemma gaps_eq (data : Bytes) : gaps data = data.take (firstStart data.length (markers data)) ::
    (marked data).map fun place => place.gap.slice data := by
  induction data using gaps.induct with
  | case1 => exact gaps_nil
  | case2 b rest n found ih =>
    have first : ∀ stop, (Span.mk n (stop + n)).slice (b :: rest) = ((b :: rest).drop n).take stop := by
      intro stop
      rw [Span.slice, Span.length, Nat.add_sub_cancel]
    rw [gaps_of_code found, ih, marked_of_code found, markers_of_code found, List.map_cons, first, map_gap_shift]
    rfl
  | case3 b rest no_code ih =>
    have markers_eq := markers_of_byte no_code
    have marked_eq : marked (b :: rest) = (marked rest).map (shift 1) := by
      rw [marked, markers_eq, List.length_cons, between_shift]
      rfl
    rw [gaps_of_byte no_code, ih, marked_eq, markers_eq, List.length_cons, firstStart_shift, List.modifyHead_cons,
      List.take_succ_cons, map_gap_shift]
    rfl

/-- A place has one of the markers, and its gap begins where the marker ends. -/
lemma of_mem_between {stop : Nat} {markers : List Span} {place : NalPlace} (inside : place ∈ between stop markers) :
    place.marker ∈ markers ∧ place.gap.start = place.marker.stop := by
  induction markers with
  | nil => cases inside
  | cons marker rest ih =>
    cases inside with
    | head => exact ⟨List.mem_cons_self, rfl⟩
    | tail _ inside => exact ⟨List.mem_cons_of_mem _ (ih inside).1, (ih inside).2⟩

/-- No gap goes beyond the end when no marker begins beyond it. -/
lemma stop_le_of_between {stop : Nat} {markers : List Span} (bound : ∀ marker ∈ markers, marker.start ≤ stop) :
    ∀ place ∈ between stop markers, place.gap.stop ≤ stop := by
  induction markers with
  | nil => exact List.forall_mem_nil _
  | cons marker rest ih =>
    obtain ⟨-, bound⟩ := List.forall_mem_cons.mp bound
    refine List.forall_mem_cons.mpr ⟨?_, ih bound⟩
    cases rest with
    | nil => exact Nat.le_refl stop
    | cons next _ => exact bound next List.mem_cons_self

/-- No gap goes beyond the end of the data. -/
lemma stop_le_length : ∀ place ∈ marked data, place.gap.stop ≤ data.length := by
  apply stop_le_of_between
  intro marker inside
  obtain ⟨p, occurs, rfl⟩ := List.mem_map.mp inside
  have within := le_of_mem_occurrences occurs
  rw [markerAt]
  dsimp only
  split <;> omega

/-- A marker and the unit behind it are one stretch of the byte string. -/
lemma bytes_of_mem {place : NalPlace} (inside : place ∈ all data) (keepMarker : Bool) :
    (place.unit data).bytes keepMarker =
      (Span.mk (if keepMarker then place.marker.start else place.gap.start) place.gap.stop).slice data := by
  obtain ⟨among, some_byte⟩ := List.mem_filter.mp inside
  obtain ⟨marked, adjacent⟩ := of_mem_between among
  obtain ⟨p, -, marker_eq⟩ := List.mem_map.mp marked
  obtain ⟨⟨start, stop⟩, ⟨_, next⟩⟩ := place
  cases adjacent
  have begins : start ≤ stop := by
    cases marker_eq
    split <;> omega
  have filled : stop < next := of_decide_eq_true some_byte
  cases keepMarker with
  | false => rfl
  | true => exact Span.slice_append begins (Nat.le_of_lt filled) data

/-- Where no piece behind a start code is filled, there is no unit. -/
lemma all_of_not_filled (nothing : filled data = []) : all data = [] := by
  rw [filled, gaps_eq, List.tail_cons] at nothing
  apply List.filter_eq_nil_iff.mpr
  intro place inside some_byte
  have within := stop_le_length place inside
  have begins : place.gap.start < place.gap.stop := of_decide_eq_true some_byte
  have empty := List.filter_eq_nil_iff.mp nothing _ (List.mem_map_of_mem inside)
  have none_taken : place.gap.slice data = [] := by simpa using empty
  have size := congrArg List.length none_taken
  rw [Span.slice, Span.length, List.length_take, List.length_drop, List.length_nil] at size
  omega

/-- At a cut the places of units fall apart, those behind it shifted. -/
lemma all_append (severs : Severs front back) :
    all (front ++ back) = all front ++ (all back).map (shift front.length) := by
  rw [all, marked_append severs, List.filter_append, List.filter_map]
  congr 2
  apply List.filter_congr
  intro place _
  exact decide_eq_decide.mpr (Nat.add_lt_add_iff_right)

/-- Where a unit lies in a byte string that begins with it. -/
def first (nal : NalUnit) : NalPlace :=
  ⟨⟨0, nal.marker.length⟩, ⟨nal.marker.length, nal.payload.length + nal.marker.length⟩⟩

/-- A whole unit by itself has one place, which is the first. -/
lemma all_whole {nal : NalUnit} (whole : nal.IsWhole) : all (nal.marker ++ nal.payload) = [first nal] := by
  obtain ⟨some_byte, free⟩ := whole.payload
  rw [all, marked_of_code (whole.code _), List.drop_left, marked, markers, occurrences_of_free free]
  exact List.filter_cons_of_pos (decide_eq_true (Nat.lt_add_of_pos_left (List.length_pos_iff.mpr some_byte)))

/-- A shifted place has the unit that the place has in the data without their first bytes. -/
lemma unit_shift (place : NalPlace) (n : Nat) (data : Bytes) :
    (place.shift n).unit data = place.unit (data.drop n) := by
  rw [unit, unit, shift, Span.slice_shift, Span.slice_shift]

/-- At the first place of data that begin with a unit there is that unit. -/
lemma unit_first (nal : NalUnit) (rest : Bytes) : (first nal).unit (nal.marker ++ (nal.payload ++ rest)) = nal := by
  rw [unit, first, Span.slice, Span.slice, Span.length, Span.length, List.drop_zero, Nat.sub_zero, List.take_left,
    List.drop_left, Nat.add_sub_cancel, List.take_left]

/-- Shifting twice is shifting by the sum. -/
lemma shift_shift (place : NalPlace) (m n : Nat) : (place.shift m).shift n = place.shift (m + n) := by
  simp only [shift, Span.shift, Nat.add_assoc]

end NalPlace

namespace NalUnit

variable {data : Bytes} {cut : NalCut}

/-- The first unit of a byte string, with nothing that counts in front of it. -/
structure Leads (front : Bytes) (cut : NalCut) : Prop where
  position : cut.position = front.length
  whole : cut.nal.IsWhole
  skipped : filled front = []
  begins : Severs front (cut.nal.marker ++ (cut.nal.payload ++ cut.rest))
  ends : cut.rest = [] ∨ Severs (cut.nal.marker ++ cut.nal.payload) cut.rest

/-- A cut that is found leads the data: what stands in front of it does not count, and the rest comes behind it. -/
lemma next?_leads (found : next? data = some cut) :
    ∃ front, data = front ++ (cut.nal.marker ++ (cut.nal.payload ++ cut.rest)) ∧ Leads front cut := by
  obtain ⟨whole, laid⟩ := next?_whole found
  have parts := parts_of_next? found
  have inside := parts.inside
  rw [NalCut.consumed] at inside
  have parted := List.take_append_drop cut.position data
  refine ⟨data.take cut.position, ?_, ?_, whole, ?_, ?_, ?_⟩
  · rw [← laid, parted]
  · rw [List.length_take, Nat.min_eq_left (by omega)]
  · have units := payloads_append parts.begins
    rw [parted, payloads_eq, payloads_eq, payloads_eq, parts.skips] at units
    exact List.self_eq_append_left.mp units
  · exact laid ▸ parts.begins
  · refine parts.ends.imp id fun ends => ?_
    have behind := ends.drop cut.position
    have span : cut.consumed - cut.position = (cut.nal.marker ++ cut.nal.payload).length := by
      rw [NalCut.consumed, List.length_append]
      omega
    rw [List.drop_take, laid, span, ← List.append_assoc, List.take_left] at behind
    exact behind

/-- The first unit is found at the first place, and the others at the places behind it. -/
lemma all_of_next? (found : next? data = some cut) : NalPlace.all data =
    (NalPlace.first cut.nal).shift cut.position :: (NalPlace.all cut.rest).map (NalPlace.shift cut.consumed) := by
  obtain ⟨front, laid, position, whole, skipped, begins, ends⟩ := next?_leads found
  have behind : NalPlace.all (cut.nal.marker ++ (cut.nal.payload ++ cut.rest)) = NalPlace.first cut.nal ::
      (NalPlace.all cut.rest).map (NalPlace.shift (cut.nal.marker ++ cut.nal.payload).length) := by
    rw [← List.append_assoc]
    rcases ends with nothing | severs
    · rw [nothing, List.append_nil, NalPlace.all_whole whole]
      rfl
    · rw [NalPlace.all_append severs, NalPlace.all_whole whole, List.singleton_append]
  have consumed : cut.consumed = (cut.nal.marker ++ cut.nal.payload).length + front.length := by
    rw [NalCut.consumed, position, List.length_append, Nat.add_assoc, Nat.add_comm]
  rw [laid, NalPlace.all_append begins, NalPlace.all_of_not_filled skipped, behind, List.nil_append, List.map_cons,
    List.map_map, position, consumed]
  congr 1
  exact List.map_congr_left fun place _ => place.shift_shift _ _

/-- Where nothing is found, no unit has a place. -/
lemma all_of_none (none_found : next? data = none) : NalPlace.all data = [] :=
  NalPlace.all_of_not_filled (filled_of_none none_found)

/-- The unit of a cut that is found stands at its place, and the rest of the data behind it. -/
lemma unit_of_next? (found : next? data = some cut) :
    ((NalPlace.first cut.nal).shift cut.position).unit data = cut.nal ∧ cut.rest = data.drop cut.consumed ∧
      cut.consumed ≤ data.length := by
  have parts := parts_of_next? found
  refine ⟨?_, parts.rest_eq, parts.inside⟩
  rw [NalPlace.unit_shift, (next?_whole found).2, NalPlace.unit_first]

/-- Units are found one after the other at the places of the grammar. -/
lemma located_eq (start : Nat) (data : Bytes) : locatedFrom start data =
    (NalPlace.all data).map fun place => (start + place.marker.start, place.unit data) := by
  induction start, data using locatedFrom.induct with
  | case1 start data none_found => rw [locatedFrom_of_none none_found, all_of_none none_found, List.map_nil]
  | case2 start data cut found _ ih =>
    obtain ⟨unit, rest_eq, -⟩ := unit_of_next? found
    rw [locatedFrom_of_next? found, ih, all_of_next? found, List.map_cons, List.map_map, unit]
    have head : ((NalPlace.first cut.nal).shift cut.position).marker.start = cut.position := Nat.zero_add _
    rw [head]
    congr 1
    apply List.map_congr_left
    intro place _
    have moved : start + (place.shift cut.consumed).marker.start = start + cut.consumed + place.marker.start := by
      rw [Nat.add_assoc, Nat.add_comm cut.consumed]
      rfl
    rw [Function.comp_apply, moved, NalPlace.unit_shift, ← rest_eq]

/-- The units of some data are those at their places. -/
lemma all_eq (data : Bytes) : all data = (NalPlace.all data).map fun place => place.unit data := by
  rw [all, located_eq, List.map_map]
  rfl

end NalUnit

namespace NalReader

/-- What a reader answers that comes to a place. -/
def answerAt (data : Bytes) (place : NalPlace) : Option NalUnit × Nat :=
  (some (place.unit data), data.length - place.gap.stop)

/-- Behind the first unit the answers are those of a reader of the rest. -/
lemma map_answerAt {data : Bytes} {cut : NalCut} (found : NalUnit.next? data = some cut) :
    (NalPlace.all data).map (answerAt data) =
      (some cut.nal, cut.rest.length) :: (NalPlace.all cut.rest).map (answerAt cut.rest) := by
  obtain ⟨unit, rest_eq, inside⟩ := NalUnit.unit_of_next? found
  have left : ∀ stop, data.length - (stop + cut.consumed) = cut.rest.length - stop := by
    intro stop
    rw [rest_eq, List.length_drop]
    omega
  have first : answerAt data ((NalPlace.first cut.nal).shift cut.position) = (some cut.nal, cut.rest.length) := by
    have stop : ((NalPlace.first cut.nal).shift cut.position).gap.stop = 0 + cut.consumed := by
      rw [NalCut.consumed, Nat.zero_add, Nat.add_assoc, Nat.add_comm, Nat.add_comm cut.nal.marker.length]
      rfl
    rw [answerAt, unit, stop, left, Nat.sub_zero]
  have others : ∀ place : NalPlace, answerAt data (place.shift cut.consumed) = answerAt cut.rest place := by
    intro place
    rw [answerAt, answerAt, NalPlace.unit_shift, ← rest_eq, ← left]
    rfl
  rw [NalUnit.all_of_next? found, List.map_cons, first, List.map_map]
  congr 1
  exact List.map_congr_left fun place _ => others place

/-- A reader answers with the units one by one, and with nothing ever after. -/
lemma answers_eq (calls : Nat) (data : Bytes) : answers calls ⟨data⟩ =
    ((NalPlace.all data).map (answerAt data)).take calls ++
      List.replicate (calls - (NalPlace.all data).length) (none, 0) := by
  induction calls generalizing data with
  | zero => rw [Nat.zero_sub]; rfl
  | succ calls ih =>
    rw [answers, next]
    cases found : NalUnit.next? data with
    | none =>
      dsimp only
      have nothing : NalPlace.all [] = [] := rfl
      rw [ih, nothing, NalUnit.all_of_none found, List.map_nil, List.map_nil, List.take_nil, List.take_nil]
      rfl
    | some cut =>
      dsimp only
      rw [ih, map_answerAt found, NalUnit.all_of_next? found, List.length_cons, List.length_map, Nat.add_sub_add_right]
      rfl

/-- Every unit leaves fewer bytes than there were. -/
lemma remaining_decreases (data : Bytes) :
    List.IsChain (· > ·) (data.length :: ((NalPlace.all data).map (answerAt data)).map Prod.snd) := by
  refine NalUnit.locatedFrom.induct (motive := fun _ data =>
    List.IsChain (· > ·) (data.length :: ((NalPlace.all data).map (answerAt data)).map Prod.snd)) ?_ ?_ 0 data
  · intro _ data none_found
    rw [NalUnit.all_of_none none_found]
    exact .singleton _
  · intro _ data cut found fewer ih
    rw [map_answerAt found, List.map_cons]
    exact .cons_cons fewer ih

end NalReader

/-- A reader of a byte string answers with one unit for each marker that has a gap behind it which is not empty,
in order, and with nothing else. Behind each unit what remains are the bytes behind its gap, which get fewer and
fewer, and when the units are used up nothing remains. Whether the marker is kept matters for the bytes of a unit
only, and from these bytes, with the marker kept, a reader takes that unit and no other. -/
theorem reader_follows_grammar (data : Bytes) :
    let places := NalPlace.all data
    (∀ calls, NalReader.answers calls ⟨data⟩ =
      (places.map fun place => (some (place.unit data), data.length - place.gap.stop)).take calls ++
        List.replicate (calls - places.length) (none, 0)) ∧
      NalUnit.all data = places.map (fun place => place.unit data) ∧
      List.IsChain (· > ·) (data.length :: places.map fun place => data.length - place.gap.stop) ∧
      ∀ place ∈ places,
        (∀ keepMarker, (place.unit data).bytes keepMarker =
          (Span.mk (if keepMarker then place.marker.start else place.gap.start) place.gap.stop).slice data) ∧
        ∀ calls, NalReader.answers calls ⟨(place.unit data).bytes true⟩ =
          [(some (place.unit data), 0)].take calls ++ List.replicate (calls - 1) (none, 0) := by
  intro places
  refine ⟨fun calls => NalReader.answers_eq calls data, NalUnit.all_eq data, ?_, ?_⟩
  · have fewer := NalReader.remaining_decreases data
    rw [List.map_map] at fewer
    exact fewer
  · intro place among
    have whole : (place.unit data).IsWhole := by
      apply NalUnit.located_whole 0 data (0 + place.marker.start, place.unit data)
      rw [NalUnit.located_eq]
      exact List.mem_map_of_mem among
    refine ⟨NalPlace.bytes_of_mem among, fun calls => ?_⟩
    generalize place.unit data = nal at whole
    have alone : NalPlace.all (nal.bytes true) = [NalPlace.first nal] := NalPlace.all_whole whole
    have answer : NalReader.answerAt (nal.bytes true) (NalPlace.first nal) = (some nal, 0) := by
      have again := NalPlace.unit_first nal []
      have size : (nal.bytes true).length = (NalPlace.first nal).gap.stop :=
        List.length_append.trans (Nat.add_comm _ _)
      rw [List.append_nil] at again
      rw [NalReader.answerAt, size, Nat.sub_self]
      exact congrArg (fun nal => (some nal, 0)) again
    rw [NalReader.answers_eq, alone, List.map_singleton, answer, List.length_singleton]

/-- Two units among bytes that belong to none: a byte in front, and a marker with nothing behind it. -/
theorem reader_follows_grammar_two_units :
    let data : Bytes := [0xAB, 0, 0, 0, 1, 0x65, 0x88, 0, 0, 0, 1, 0, 0, 1, 0x41, 0, 0]
    let place : NalPlace := ⟨⟨11, 14⟩, ⟨14, 17⟩⟩
    place ∈ NalPlace.all data ∧
      NalReader.answers 3 ⟨data⟩ =
        [(some ⟨[0, 0, 0, 1], [0x65, 0x88]⟩, 10), (some ⟨[0, 0, 1], [0x41, 0, 0]⟩, 0), (none, 0)] ∧
      (place.unit data).bytes true = [0, 0, 1, 0x41, 0, 0] ∧
      NalReader.answers 2 ⟨[0, 0, 1, 0x41, 0, 0]⟩ = [(some ⟨[0, 0, 1], [0x41, 0, 0]⟩, 0), (none, 0)] := by
  intro data place
  obtain ⟨answers, -, -, units⟩ := reader_follows_grammar data
  have among : place ∈ NalPlace.all data := by decide
  obtain ⟨bytes, alone⟩ := units place among
  exact ⟨among, answers 3, bytes true, alone 2⟩

end VideoCapture
