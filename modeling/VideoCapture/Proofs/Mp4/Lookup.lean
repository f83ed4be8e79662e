import VideoCapture.Proofs.Mp4.Demux

/-!
# Looking up a box

A box is looked up by going from box to box, as far as the size fields lead. The walk ends in every byte string, with the
first box of the type that can be reached over boxes of other types, and with nothing if a byte string that does not
begin with a box is reached before (`box_found_iff`). What stands inside of a box or behind the one that is found does
not matter, so of boxes that were laid out one behind the other the first one of the type is found.
-/

namespace VideoCapture

/-- A type is known by its bytes. -/
lemma FourCC.eq_of_bytes {one two : FourCC} (same : one.bytes = two.bytes) : one = two := by
  obtain ⟨c₀, c₁, c₂, c₃⟩ := one
  cases same
  rfl

namespace Box

/-- A box in a byte string: a field with the size of the whole box, a type, and a payload. -/
structure Stored where
  size : Bytes
  type : FourCC
  payload : Bytes
  width : size.length = 4
  fits : Bytes.toNat size = headerSize + payload.length

namespace Stored

/-- The bytes of a box: its header and its payload. -/
def bytes (box : Stored) : Bytes :=
  box.size ++ (box.type.bytes ++ box.payload)

/-- A stored box is as long as its header and its payload. -/
lemma length_bytes (box : Stored) : box.bytes.length = headerSize + box.payload.length := by
  rw [bytes, List.length_append, List.length_append, box.width, FourCC.length_bytes, headerSize]
  omega

/-- Where the payload stands, if the box stands at `start`. -/
def payloadSpan (box : Stored) (start : Nat) : Span :=
  ⟨start + headerSize, start + box.bytes.length⟩

/-- The payload, known by what stands in front of the box. -/
lemma slice_payloadSpan (box : Stored) (front rest : Bytes) :
    (box.payloadSpan front.length).slice (front ++ (box.bytes ++ rest)) = box.payload := by
  have header : front.length + headerSize = (front ++ (box.size ++ box.type.bytes)).length := by
    rw [List.length_append, List.length_append, box.width, FourCC.length_bytes, headerSize]
  have parts : front ++ (box.bytes ++ rest) = front ++ (box.size ++ box.type.bytes) ++ (box.payload ++ rest) := by
    simp only [bytes, List.append_assoc]
  rw [payloadSpan, length_bytes, ← Nat.add_assoc, header, parts]
  exact Span.slice_between _ box.payload rest

/-- The size field of a box holds the size of the whole box, if the payload is not too long for it. -/
lemma toNat_size {payload : Bytes} (small : payload.length < 0x100000000 - headerSize) :
    Bytes.toNat (Bytes.be32 (headerSize + payload.length)) = headerSize + payload.length := by
  rw [Bytes.toNat_be32, Nat.mod_eq_of_lt]
  exact Nat.add_lt_of_lt_sub' small

/-- A box with the given payload. -/
def ofPayload (type : FourCC) (payload : Bytes) (small : payload.length < 0x100000000 - headerSize) : Stored where
  size := Bytes.be32 (headerSize + payload.length)
  type
  payload
  width := Bytes.length_be32 _
  fits := toNat_size small

/-- A box that is stored for a payload has the bytes of the box that is built of it. -/
lemma bytes_ofPayload (type : FourCC) {payload : Bytes} (small : payload.length < 0x100000000 - headerSize) :
    (ofPayload type payload small).bytes = build type payload :=
  (List.append_assoc _ _ _).symm

end Stored

/-- The walk from box to box in what is left from a position on, with what it finds. -/
inductive Walk (type : FourCC) : (start : Nat) → (left : Bytes) → Option Span → Prop
  /-- There is no box here. -/
  | stopped {start : Nat} {left : Bytes} : (∀ box : Stored, ¬ box.bytes <+: left) → Walk type start left none
  /-- Here is a box of the type. -/
  | here {start : Nat} {box : Stored} {rest : Bytes} :
    box.type = type → Walk type start (box.bytes ++ rest) (some (box.payloadSpan start))
  /-- Here is another box, and the walk goes on behind it. -/
  | past {start : Nat} {box : Stored} {rest : Bytes} {answer : Option Span} : box.type ≠ type →
    Walk type (start + box.bytes.length) rest answer → Walk type start (box.bytes ++ rest) answer

variable {type : FourCC} {start : Nat} {data : Bytes} {answer : Option Span}

/-- Where the size field counts the header and does not lead beyond the end, there is a box. -/
lemma exists_stored (header : headerSize ≤ data.length) (least : headerSize ≤ Bytes.toNat (data.take 4))
    (inside : Bytes.toNat (data.take 4) ≤ data.length) : ∃ box : Stored, box.bytes <+: data := by
  match data, header with
  | s₀ :: s₁ :: s₂ :: s₃ :: c₀ :: c₁ :: c₂ :: c₃ :: rest, _ =>
    let size := Bytes.toNat [s₀, s₁, s₂, s₃]
    have least : headerSize ≤ size := least
    have inside : size ≤ rest.length + 8 := inside
    have fits : size = headerSize + (rest.take (size - headerSize)).length := by
      rw [List.length_take]
      rw [headerSize] at least ⊢
      omega
    refine ⟨⟨[s₀, s₁, s₂, s₃], ⟨c₀, c₁, c₂, c₃⟩, rest.take (size - headerSize), rfl, fits⟩,
      rest.drop (size - headerSize), ?_⟩
    show s₀ :: s₁ :: s₂ :: s₃ :: c₀ :: c₁ :: c₂ :: c₃ :: (rest.take _ ++ rest.drop _) = _
    rw [List.take_append_drop]

/-- Without a box there is nothing to find. -/
lemma findFrom_stopped (none_here : ∀ box : Stored, ¬ box.bytes <+: data) (start : Nat) :
    findFrom start data.length type data = none := by
  rw [findFrom]
  split
  · rfl
  · rename_i header
    dsimp only
    split
    · rfl
    · rename_i sized
      obtain ⟨least, inside⟩ := not_or.mp sized
      obtain ⟨box, here⟩ := exists_stored (Nat.not_lt.mp header) (Nat.not_lt.mp least) (Nat.not_lt.mp inside)
      exact absurd here (none_here box)

/-- A box is found or passed over as a whole. -/
lemma findFrom_stored (box : Stored) (rest : Bytes) (start : Nat) :
    findFrom start (box.bytes ++ rest).length type (box.bytes ++ rest) =
      if box.type = type then some (box.payloadSpan start)
      else findFrom (start + box.bytes.length) rest.length type rest := by
  have length : (box.bytes ++ rest).length = box.bytes.length + rest.length := List.length_append
  have size : Bytes.toNat ((box.bytes ++ rest).take 4) = box.bytes.length := by
    rw [Stored.bytes, List.append_assoc, List.take_left' box.width, box.fits]
    exact box.length_bytes.symm
  have typed : ((box.bytes ++ rest).drop 4).take 4 = box.type.bytes := by
    rw [Stored.bytes, List.append_assoc, List.drop_left' box.width, List.append_assoc]
    exact List.take_left' (FourCC.length_bytes _)
  have same : box.type.bytes = type.bytes ↔ box.type = type := ⟨FourCC.eq_of_bytes, congrArg _⟩
  have least := box.length_bytes
  rw [findFrom, if_neg (by omega)]
  dsimp only
  rw [size, typed, if_neg (by omega), length, Nat.add_sub_cancel_left, List.drop_left]
  simp only [same]
  rfl

/-- The walk ends, whatever it is in. -/
lemma walk_findFrom (type : FourCC) (start : Nat) (data : Bytes) :
    Walk type start data (findFrom start data.length type data) := by
  induction shorter : data.length using Nat.strongRecOn generalizing start data with
  | _ n ih =>
    rw [← shorter]
    by_cases some_here : ∃ box : Stored, box.bytes <+: data
    · obtain ⟨box, rest, rfl⟩ := some_here
      rw [findFrom_stored]
      have least := box.length_bytes
      rw [List.length_append] at shorter
      split
      · rename_i typed
        exact .here typed
      · rename_i other
        exact .past other (ih rest.length (by rw [headerSize] at least; omega) _ rest rfl)
    · have none_here : ∀ box : Stored, ¬ box.bytes <+: data := fun box here => some_here ⟨box, here⟩
      rw [findFrom_stopped none_here]
      exact .stopped none_here

namespace Walk

/-- The walk has one outcome. -/
lemma eq_findFrom (walk : Walk type start data answer) : answer = findFrom start data.length type data := by
  induction walk with
  | stopped none_here => exact (findFrom_stopped none_here _).symm
  | here typed => rw [findFrom_stored, if_pos typed]
  | past other _ ih => rw [findFrom_stored, if_neg other, ih]

/-- A box is found behind boxes of other types. -/
lemma found (walk : Walk type start data answer) {span : Span} (found : answer = some span) :
    ∃ (passed : List Stored) (box : Stored) (rest : Bytes),
      data = passed.flatMap Stored.bytes ++ (box.bytes ++ rest) ∧ (∀ other ∈ passed, other.type ≠ type) ∧
      box.type = type ∧ span = box.payloadSpan (start + (passed.flatMap Stored.bytes).length) := by
  induction walk with
  | stopped => cases found
  | @here start box rest typed =>
    cases found
    exact ⟨[], box, rest, rfl, List.forall_mem_nil _, typed, rfl⟩
  | @past start other _ _ different _ ih =>
    obtain ⟨passed, box, rest, rfl, others, typed, rfl⟩ := ih found
    refine ⟨other :: passed, box, rest, ?_, List.forall_mem_cons.mpr ⟨different, others⟩, typed, ?_⟩
    · rw [List.flatMap_cons, List.append_assoc]
    · rw [List.flatMap_cons, List.length_append, Nat.add_assoc]

/-- Boxes of other types are passed over. -/
lemma over_passed {passed : List Stored} (others : ∀ other ∈ passed, other.type ≠ type) (start : Nat)
    (walk : Walk type (start + (passed.flatMap Stored.bytes).length) data answer) :
    Walk type start (passed.flatMap Stored.bytes ++ data) answer := by
  induction passed generalizing start with
  | nil => exact walk
  | cons other passed ih =>
    obtain ⟨different, others⟩ := List.forall_mem_cons.mp others
    rw [List.flatMap_cons, List.length_append, ← Nat.add_assoc] at walk
    rw [List.flatMap_cons, List.append_assoc]
    exact .past different (ih others _ walk)

end Walk

/-- Of boxes that were laid out one behind the other, the walk finds the first one of the type. -/
lemma walk_concat {boxes : List (FourCC × Bytes)}
    (small : ∀ box ∈ boxes, box.2.length < 0x100000000 - headerSize) (there : type ∈ boxes.map Prod.fst)
    (start : Nat) (rest : Bytes) :
    ∃ before payload after, boxes = before ++ (type, payload) :: after ∧ (∀ box ∈ before, box.1 ≠ type) ∧
      ∃ box : Stored, box.bytes = build type payload ∧ box.payload = payload ∧
        Walk type start (Demux.concat boxes ++ rest) (some (box.payloadSpan (start + (Demux.concat before).length))) := by
  induction boxes generalizing start with
  | nil => cases there
  | cons first boxes ih =>
    obtain ⟨kind, content⟩ := first
    obtain ⟨fits, small⟩ := List.forall_mem_cons.mp small
    have laid := Stored.bytes_ofPayload kind fits
    rw [Demux.concat_cons, List.append_assoc, ← laid]
    by_cases typed : kind = type
    · subst typed
      exact ⟨[], content, boxes, rfl, List.forall_mem_nil _, .ofPayload kind content fits, laid, rfl, .here rfl⟩
    · have later : type ∈ boxes.map Prod.fst := (List.mem_cons.mp there).resolve_left fun same => typed same.symm
      obtain ⟨before, payload, after, rfl, others, box, bytes, same, walk⟩ :=
        ih small later (start + (Stored.ofPayload kind content fits).bytes.length)
      refine ⟨(kind, content) :: before, payload, after, rfl, List.forall_mem_cons.mpr ⟨typed, others⟩, box, bytes,
        same, ?_⟩
      rw [Demux.concat_cons, List.length_append, ← Nat.add_assoc, ← laid]
      exact .past typed walk

/-- A box is found exactly if the data begin with boxes of other types, which may be none, and go on with a box of the
type, and what is found is where the payload of that box stands. The walk from box to box ends in whatever data and has
one outcome. Of boxes that were laid out one behind the other with payloads that are not too long for the size field,
and followed by anything, the first one of a type is found if there is one. -/
theorem box_found_iff :
    (∀ (data : Bytes) (type : FourCC) (span : Span), find? data type = some span ↔
      ∃ (passed : List Stored) (box : Stored) (rest : Bytes),
        data = passed.flatMap Stored.bytes ++ (box.bytes ++ rest) ∧ (∀ other ∈ passed, other.type ≠ type) ∧
        box.type = type ∧ span = box.payloadSpan (passed.flatMap Stored.bytes).length ∧
        span.slice data = box.payload) ∧
    (∀ (data : Bytes) (type : FourCC) (answer : Option Span), Walk type 0 data answer ↔ answer = find? data type) ∧
    ∀ (boxes : List (FourCC × Bytes)) (type : FourCC) (rest : Bytes),
      (∀ box ∈ boxes, box.2.length < 0x100000000 - headerSize) → type ∈ boxes.map Prod.fst →
      ∃ before payload after span, boxes = before ++ (type, payload) :: after ∧ (∀ box ∈ before, box.1 ≠ type) ∧
        find? (Demux.concat boxes ++ rest) type = some span ∧
        span.start = (Demux.concat before).length + headerSize ∧ span.stop = span.start + payload.length ∧
        span.slice (Demux.concat boxes ++ rest) = payload := by
  refine ⟨fun data type span => ⟨fun found => ?_, ?_⟩, fun data type answer => ⟨Walk.eq_findFrom, ?_⟩, ?_⟩
  · obtain ⟨passed, box, rest, rfl, others, typed, rfl⟩ := (walk_findFrom type 0 data).found found
    rw [Nat.zero_add]
    exact ⟨passed, box, rest, rfl, others, typed, rfl, box.slice_payloadSpan _ rest⟩
  · rintro ⟨passed, box, rest, rfl, others, typed, rfl, -⟩
    have here : Walk type (0 + (passed.flatMap Stored.bytes).length) (box.bytes ++ rest) _ := .here typed
    have walk := here.over_passed others
    rw [Nat.zero_add] at walk
    exact walk.eq_findFrom.symm
  · rintro rfl
    exact walk_findFrom type 0 data
  · intro boxes type rest small there
    obtain ⟨before, payload, after, rfl, others, box, bytes, same, walk⟩ := walk_concat small there 0 rest
    have length := box.length_bytes
    rw [same] at length
    refine ⟨before, payload, after, _, rfl, others, walk.eq_findFrom.symm, ?_, ?_, ?_⟩
    · rw [Stored.payloadSpan, Nat.zero_add]
    · simp only [Stored.payloadSpan, length, Nat.add_assoc]
    · have parts : Demux.concat (before ++ (type, payload) :: after) ++ rest =
          Demux.concat before ++ (box.bytes ++ (Demux.concat after ++ rest)) := by
        simp only [Demux.concat, List.flatMap_append, List.flatMap_cons, List.append_assoc, bytes]
      rw [parts, Nat.zero_add, box.slice_payloadSpan, same]

/-- A box whose payload spells the type that is looked for, two boxes of that type, and half a header. -/
theorem box_found_iff_spelled :
    let moov : FourCC := .ofChars 'm' 'o' 'o' 'v'
    let boxes : List (FourCC × Bytes) := [(.ofChars 'f' 'r' 'e' 'e', build moov []), (moov, [1, 2]), (moov, [3])]
    let rest : Bytes := [0, 0, 0, 9]
    (∀ box ∈ boxes, box.2.length < 0x100000000 - headerSize) ∧ moov ∈ boxes.map Prod.fst ∧
      find? (Demux.concat boxes ++ rest) moov = some ⟨24, 26⟩ ∧
      ∃ before after, boxes = before ++ (moov, [1, 2]) :: after ∧ ∀ box ∈ before, box.1 ≠ moov := by
  intro moov boxes rest
  have small : ∀ box ∈ boxes, box.2.length < 0x100000000 - headerSize := by decide
  have there : moov ∈ boxes.map Prod.fst := by decide
  obtain ⟨before, payload, after, span, parts, others, found, -, -, slice⟩ := box_found_iff.2.2 boxes moov rest small there
  have place : find? (Demux.concat boxes ++ rest) moov = some ⟨24, 26⟩ := by decide +kernel
  cases place.symm.trans found
  have same : [1, 2] = payload := slice
  subst same
  exact ⟨small, there, found, before, after, parts, others⟩

end Box

end VideoCapture
