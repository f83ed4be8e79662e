import VideoCapture.Proofs.Bitstream.Gaps

/-!
# The NAL units of a byte stream

The units that a reader takes from a byte stream one after the other are its filled gaps
(`NalUnit.payloads_eq`), so they do not depend on where the stream is cut, as long as each cut is in front
of a start code (`NalUnit.payloads_append`). The positions at which units are found are such places
(`NalUnit.cuts_of_located`).
-/

namespace VideoCapture

open StartCode

namespace NalCut

/-- The first unit of a byte string, and how the string falls apart there. -/
structure Parts (data : Bytes) (cut : NalCut) : Prop where
  payload_ne : cut.nal.payload ≠ []
  marker_pos : 0 < cut.nal.marker.length
  inside : cut.consumed ≤ data.length
  rest_eq : cut.rest = data.drop cut.consumed
  begins : Severs (data.take cut.position) (data.drop cut.position)
  ends : cut.rest = [] ∨ Severs (data.take cut.consumed) cut.rest
  units : filled data = cut.nal.payload :: filled cut.rest
  /-- There is no unit in what is skipped. -/
  skips : filled (data.drop cut.position) = filled data

end NalCut

namespace NalUnit

/-- An opening of the data is a cut that takes them apart. -/
lemma parts_of_opening {data : Bytes} {k n : Nat} (opening : Opening data k n) :
    NalCut.Parts data {
      position := k
      nal := ⟨(data.drop k).take n, (data.drop (k + n)).take (gapLength (data.drop (k + n)))⟩
      rest := (data.drop (k + n)).drop (gapLength (data.drop (k + n))) } := by
  have code := lengthAt?_pos opening.code
  rw [List.length_drop] at code
  have within := gapLength_le (data.drop (k + n))
  have gap := gaps_gapLength (data.drop (k + n))
  have cut := gapLength_severs (data.drop (k + n))
  have units := opening.units
  have opens := opening.opens
  generalize body_eq : data.drop (k + n) = body at *
  generalize stop_eq : gapLength body = stop at *
  have body_length : body.length = data.length - (k + n) := by rw [← body_eq, List.length_drop]
  have marker_length : ((data.drop k).take n).length = n := by
    rw [List.length_take, List.length_drop]
    omega
  have consumed : k + ((data.drop k).take n).length + (body.take stop).length = k + n + stop := by
    rw [marker_length, List.length_take, Nat.min_eq_left within]
  -- the unit begins with a byte that is not in a start code, so its gap is not empty
  have some_byte : body.take stop ≠ [] := by
    cases body with
    | nil => cases opens
    | cons b rest =>
      have no_code : lengthAt? (b :: rest) = none := by simpa [opensUnit] using opens
      obtain ⟨first, others, parted⟩ := gaps_cons rest
      rw [gaps_of_byte no_code, parted, List.modifyHead_cons] at gap
      rw [← (List.cons.inj gap).1]
      exact List.cons_ne_nil _ _
  refine ⟨some_byte, ?_, ?_, ?_, opening.severs, ?_, ?_, ?_⟩
  · rw [marker_length]
    exact code.1
  · rw [NalCut.consumed, consumed]
    omega
  · rw [NalCut.consumed, consumed, ← List.drop_drop, body_eq]
  · rw [NalCut.consumed, consumed, List.take_add, body_eq]
    rcases cut with nothing | severs
    · exact .inl nothing
    · exact .inr (severs.append_left some_byte _)
  · rw [units, gap, List.filter_cons_of_pos (by simpa using some_byte)]
    rfl
  · rw [filled, gaps_of_code opening.code, List.tail_cons, List.drop_drop, body_eq, units]

/-- There is a first unit, or no gap is filled. -/
lemma next?_parts (data : Bytes) :
    (∃ cut, next? data = some cut ∧ cut.Parts data) ∨ next? data = none ∧ filled data = [] := by
  unfold next?
  rcases opening_of_openingFrom 0 data with ⟨k, n, found, opening⟩ | ⟨none_found, nothing⟩
  · rw [Nat.zero_add] at found
    rw [found]
    exact .inl ⟨_, rfl, parts_of_opening opening⟩
  · rw [none_found]
    exact .inr ⟨rfl, nothing⟩

/-- A cut that is found takes the data apart. -/
lemma parts_of_next? {data : Bytes} {cut : NalCut} (found : next? data = some cut) : cut.Parts data := by
  rcases next?_parts data with ⟨cut', found', parts⟩ | ⟨none_found, -⟩
  · cases found.symm.trans found'
    exact parts
  · cases none_found.symm.trans found

/-- Where nothing is found, no gap behind a start code is filled. -/
lemma filled_of_none {data : Bytes} (none_found : next? data = none) : filled data = [] := by
  rcases next?_parts data with ⟨cut, found, -⟩ | ⟨-, nothing⟩
  · cases none_found.symm.trans found
  · exact nothing

/-- A cut that is found is the first unit, and the others are found in the rest. -/
lemma locatedFrom_of_next? {data : Bytes} {cut : NalCut} (found : next? data = some cut) (start : Nat) :
    locatedFrom start data = (start + cut.position, cut.nal) :: locatedFrom (start + cut.consumed) cut.rest := by
  rw [locatedFrom]
  split
  · rename_i none_found
    cases found.symm.trans none_found
  · rename_i other found'
    cases found.symm.trans found'
    rfl

/-- Where nothing is found, no unit is located. -/
lemma locatedFrom_of_none {data : Bytes} (none_found : next? data = none) (start : Nat) :
    locatedFrom start data = [] := by
  rw [locatedFrom]
  split
  · rfl
  · rename_i other found
    cases none_found.symm.trans found

/-- Wherever a byte string stands, the units in it are its filled gaps. -/
lemma located_payloads (start : Nat) (data : Bytes) :
    (locatedFrom start data).map (fun item => item.2.payload) = filled data := by
  induction start, data using locatedFrom.induct with
  | case1 start data none_found => rw [locatedFrom_of_none none_found, filled_of_none none_found, List.map_nil]
  | case2 start data cut found _ ih =>
    rw [locatedFrom_of_next? found, List.map_cons, ih, (parts_of_next? found).units]

/-- The units of a byte string are its filled gaps. -/
lemma payloads_eq (data : Bytes) : payloads data = filled data := by
  rw [payloads, all, List.map_map, ← located_payloads 0 data]
  rfl

/-- No unit is empty. -/
lemma ne_nil_of_mem_payloads {data nal : Bytes} (inside : nal ∈ payloads data) : nal ≠ [] := by
  rw [payloads_eq] at inside
  simpa using (List.mem_filter.mp inside).2

/-- A byte string may be cut in front of any start code that takes no byte from what precedes it. -/
lemma payloads_append {front back : Bytes} (severs : Severs front back) :
    payloads (front ++ back) = payloads front ++ payloads back := by
  obtain ⟨first, others, parted⟩ := gaps_cons front
  simp only [payloads_eq, filled, gaps_append severs, parted, List.cons_append, List.tail_cons,
    List.filter_append]

/-- The places at which units are found, in a byte string with something in front of it. -/
lemma located_severs (before data : Bytes) (apart : before = [] ∨ data = [] ∨ Severs before data) :
    ∀ item ∈ locatedFrom before.length data, before.length ≤ item.1 ∧
      Severs ((before ++ data).take item.1) ((before ++ data).drop item.1) := by
  generalize start_eq : before.length = start
  induction start, data using locatedFrom.induct generalizing before with
  | case1 start data none_found =>
    rw [locatedFrom_of_none none_found]
    exact List.forall_mem_nil _
  | case2 start data cut found _ ih =>
    have parts := parts_of_next? found
    subst start_eq
    intro item inside
    rw [locatedFrom_of_next? found] at inside
    rcases List.mem_cons.mp inside with rfl | inside
    · refine ⟨Nat.le_add_right _ _, ?_⟩
      rw [List.take_length_add_append, List.drop_length_add_append]
      -- a code at the very front has to be apart from what stands in front of the string
      by_cases first : data.take cut.position = []
      · have code := parts.begins
        rw [first] at code ⊢
        rw [List.append_nil]
        have whole := List.take_append_drop cut.position data
        rw [first, List.nil_append] at whole
        rw [whole] at code ⊢
        rcases apart with rfl | rfl | severs
        · exact code
        · cases code.code
        · exact severs
      · exact parts.begins.append_left first before
    · have consumed : (before ++ data.take cut.consumed).length = before.length + cut.consumed := by
        rw [List.length_append, List.length_take, Nat.min_eq_left parts.inside]
      have whole : before ++ data.take cut.consumed ++ cut.rest = before ++ data := by
        rw [parts.rest_eq, List.append_assoc, List.take_append_drop]
      have nonempty : data.take cut.consumed ≠ [] := by
        intro empty
        have marker := parts.marker_pos
        have length := congrArg List.length empty
        rw [List.length_take, Nat.min_eq_left parts.inside, NalCut.consumed, List.length_nil] at length
        omega
      have next := ih (before ++ data.take cut.consumed)
        (.inr (parts.ends.imp id fun severs => severs.append_left nonempty before)) consumed item inside
      rw [whole] at next
      exact ⟨by omega, next.2⟩

/-- From the place on at which a unit is found, the units are that unit and those found after it. -/
lemma located_suffix (before data : Bytes) (item : Nat × NalUnit) (rest : List (Nat × NalUnit))
    (suffix : item :: rest <:+ locatedFrom before.length data) :
    payloads ((before ++ data).drop item.1) = (item :: rest).map fun item => item.2.payload := by
  generalize start_eq : before.length = start at suffix
  induction start, data using locatedFrom.induct generalizing before with
  | case1 start data none_found =>
    rw [locatedFrom_of_none none_found] at suffix
    cases List.suffix_nil.mp suffix
  | case2 start data cut found _ ih =>
    have parts := parts_of_next? found
    subst start_eq
    rcases List.suffix_cons_iff.mp (locatedFrom_of_next? found before.length ▸ suffix) with same | later
    · rw [same, ← locatedFrom_of_next? found before.length, located_payloads, ← parts.skips, ← payloads_eq,
        (List.cons.inj same).1, List.drop_length_add_append]
    · have whole : before ++ data.take cut.consumed ++ cut.rest = before ++ data := by
        rw [parts.rest_eq, List.append_assoc, List.take_append_drop]
      rw [← whole]
      apply ih _ _ later
      rw [List.length_append, List.length_take, Nat.min_eq_left parts.inside]

/-- Units are found one behind the other. -/
lemma located_ordered (start : Nat) (data : Bytes) :
    (∀ item ∈ locatedFrom start data, start ≤ item.1) ∧
      (locatedFrom start data).Pairwise fun one two => one.1 < two.1 := by
  induction start, data using locatedFrom.induct with
  | case1 start data none_found =>
    rw [locatedFrom_of_none none_found]
    exact ⟨List.forall_mem_nil _, .nil⟩
  | case2 start data cut found _ ih =>
    have marker := (parts_of_next? found).marker_pos
    obtain ⟨later, ordered⟩ := ih
    rw [locatedFrom_of_next? found]
    refine ⟨?_, List.pairwise_cons.mpr ⟨?_, ordered⟩⟩
    · intro item inside
      rcases List.mem_cons.mp inside with rfl | inside
      · exact Nat.le_add_right _ _
      · have behind := later item inside
        omega
    · intro item inside
      have behind := later item inside
      rw [NalCut.consumed] at behind
      dsimp only
      omega

end NalUnit

end VideoCapture
