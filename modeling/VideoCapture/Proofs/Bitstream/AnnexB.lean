import VideoCapture.Proofs.Bitstream.NalUnit

/-!
# Units that are written and read back

Whatever a reader takes from a byte stream has a start code in front of it, is not empty, and has no start code
inside (`NalUnit.IsWhole`). Units of that kind come back unchanged when they are written one behind the other, and
no others do (`annexB_round_trip`).
-/

namespace VideoCapture
open StartCode

namespace StartCode

variable {data : Bytes}

/-- There is a start code where the short one begins. -/
lemma lengthAt?_of_short (begins : short <+: data) : (lengthAt? data).isSome := by
  obtain ⟨rest, rfl⟩ := begins
  exact rfl

/-- There is one gap and no more exactly if no start code is among the bytes. -/
lemma gaps_eq_singleton_iff : gaps data = [data] ↔ ¬short <:+: data := by
  induction data using gaps.induct with
  | case1 =>
    exact ⟨fun _ inside => absurd (List.infix_nil.mp inside) (List.cons_ne_nil _ _), fun _ => gaps_nil⟩
  | case2 b rest n found _ =>
    have parted := gaps_of_code found
    obtain ⟨first, others, more⟩ := gaps_cons ((b :: rest).drop n)
    have inside : short <:+: b :: rest := by
      obtain ⟨behind, ⟨laid, -⟩ | ⟨laid, -⟩⟩ := of_lengthAt? found
      · exact laid ▸ ⟨[0], behind, rfl⟩
      · exact laid ▸ ⟨[], behind, rfl⟩
    refine ⟨fun single => ?_, fun free => absurd inside free⟩
    cases single.symm.trans parted
  | case3 b rest no_code ih =>
    have not_here : ¬short <+: b :: rest := by
      intro begins
      have code := lengthAt?_of_short begins
      rw [no_code] at code
      cases code
    obtain ⟨first, others, parted⟩ := gaps_cons rest
    have same : gaps (b :: rest) = [b :: rest] ↔ gaps rest = [rest] := by
      rw [gaps_of_byte no_code, parted, List.modifyHead_cons]
      constructor
      · intro single
        cases single
        rfl
      · intro single
        cases single
        rfl
    rw [same, ih, List.infix_cons_iff]
    exact ⟨fun free => not_or.mpr ⟨not_here, free⟩, fun free => (not_or.mp free).2⟩

/-- There is no start code in front of the first start code. -/
lemma not_infix_take_gapLength (data : Bytes) : ¬short <:+: data.take (gapLength data) := by
  apply gaps_eq_singleton_iff.mp
  unfold gapLength find?
  rcases findFrom_severs 0 data with ⟨k, n, found, -, gap⟩ | ⟨none_found, gap⟩
  · rw [List.drop_zero, found]
    simpa using gap
  · rw [List.drop_zero, none_found]
    simpa using gap

end StartCode

namespace NalUnit

/-- Bytes that can stand behind a start code: there are some, and no start code is among them. -/
def IsPayload (bytes : Bytes) : Prop :=
  bytes ≠ [] ∧ ¬short <:+: bytes

/-- A unit behind one of the start codes, with a payload in it. -/
structure IsWhole (nal : NalUnit) : Prop where
  marker : nal.marker = long ∨ nal.marker = short
  payload : IsPayload nal.payload

/-- The marker of a whole unit is the start code that stands in front of it. -/
lemma IsWhole.code {nal : NalUnit} (whole : nal.IsWhole) (rest : Bytes) :
    lengthAt? (nal.marker ++ rest) = some nal.marker.length := by
  rcases whole.marker with marker | marker
  · exact marker ▸ lengthAt?_long rest
  · exact marker ▸ lengthAt?_short rest

/-- The unit that is found first is whole, and it lies where it is said to lie. -/
lemma next?_whole {data : Bytes} {cut : NalCut} (found : next? data = some cut) :
    cut.nal.IsWhole ∧ data.drop cut.position = cut.nal.marker ++ (cut.nal.payload ++ cut.rest) := by
  unfold next? at found
  rcases opening_of_openingFrom 0 data with ⟨k, n, opening_found, opening⟩ | ⟨none_found, -⟩
  · rw [Nat.zero_add] at opening_found
    rw [opening_found] at found
    cases found
    refine ⟨⟨?_, (parts_of_opening opening).payload_ne, not_infix_take_gapLength _⟩, ?_⟩
    · obtain ⟨rest, ⟨laid, rfl⟩ | ⟨laid, rfl⟩⟩ := of_lengthAt? opening.code
      · exact .inl (laid ▸ rfl)
      · exact .inr (laid ▸ rfl)
    · dsimp only
      rw [List.take_append_drop, ← List.drop_drop, List.take_append_drop]
  · rw [none_found] at found
    cases found

/-- Every unit that is found is whole. -/
lemma located_whole (start : Nat) (data : Bytes) : ∀ item ∈ locatedFrom start data, item.2.IsWhole := by
  induction start, data using locatedFrom.induct with
  | case1 start data none_found =>
    rw [locatedFrom_of_none none_found]
    exact List.forall_mem_nil _
  | case2 start data cut found _ ih =>
    rw [locatedFrom_of_next? found]
    exact List.forall_mem_cons.mpr ⟨(next?_whole found).1, ih⟩

/-- Every payload that is found can stand behind a start code. -/
lemma isPayload_of_mem {data nal : Bytes} (inside : nal ∈ payloads data) : IsPayload nal := by
  rw [payloads_eq, ← located_payloads 0 data] at inside
  obtain ⟨item, among, rfl⟩ := List.mem_map.mp inside
  exact (located_whole 0 data item among).payload

/-- A whole unit is read as that unit. -/
lemma IsWhole.payloads {nal : NalUnit} (whole : nal.IsWhole) :
    payloads (nal.marker ++ nal.payload) = [nal.payload] := by
  obtain ⟨some_byte, free⟩ := whole.payload
  rw [payloads_eq, filled, gaps_of_code (whole.code _), List.tail_cons, List.drop_left,
    gaps_eq_singleton_iff.mpr free, List.filter_cons_of_pos (by simpa using some_byte), List.filter_nil]

/-- Payloads that are written behind start codes are found again. -/
lemma payloads_annexB {nals : List Bytes} (fit : ∀ nal ∈ nals, IsPayload nal) :
    payloads (annexB nals) = nals := by
  induction nals with
  | nil => exact (payloads_eq []).trans (congrArg (fun gaps => (List.tail gaps).filter _) gaps_nil)
  | cons nal rest ih =>
    obtain ⟨fits, fit⟩ := List.forall_mem_cons.mp fit
    have whole : IsWhole ⟨long, nal⟩ := ⟨.inl rfl, fits⟩
    have alone : payloads (long ++ nal) = [nal] := whole.payloads
    have laid : annexB (nal :: rest) = long ++ nal ++ annexB rest := List.flatMap_cons
    cases rest with
    | nil => rw [laid, annexB, List.flatMap_nil, List.append_nil, alone]
    | cons next others =>
      -- a long code takes no byte from what stands in front of it
      have severs : Severs (long ++ nal) (annexB (next :: others)) := by
        refine ⟨rfl, fun begins => ?_⟩
        cases List.prefix_cons_iff.mp begins with
        | inl empty => cases empty
        | inr shorter => cases List.isPrefixOf_iff_prefix.mpr begins
      rw [laid, payloads_append severs, alone, ih fit, List.singleton_append]

end NalUnit

/-- Units that are written each behind a long start code are read back as they were exactly if each of them has
some byte and no start code in it. -/
theorem annexB_round_trip (nals : List Bytes) :
    NalUnit.payloads (NalUnit.annexB nals) = nals ↔ ∀ nal ∈ nals, nal ≠ [] ∧ ¬StartCode.short <:+: nal := by
  constructor
  · intro same nal among
    rw [← same] at among
    exact NalUnit.isPayload_of_mem among
  · exact NalUnit.payloads_annexB

-- zero bytes at either end of a unit stay with it
example : NalUnit.payloads (NalUnit.annexB [[0x65, 0, 0], [0, 0, 0x41, 0]]) = [[0x65, 0, 0], [0, 0, 0x41, 0]] := by
  decide +kernel

end VideoCapture
