import VideoCapture.Bitstream.StartCode

/-!
# NAL units of a byte stream

Reading: a byte stream is cut at its start codes, and each non-empty gap behind a start code is a NAL
unit. What stands before the first start code is skipped, and so are start codes with nothing behind
them. Writing: every NAL unit is put behind a long start code.
-/

namespace VideoCapture

/-- A NAL unit together with the start code in front of it. -/
structure NalUnit where
  marker : Bytes
  payload : Bytes
  deriving DecidableEq, Repr

namespace NalUnit

/-- The first byte of the payload, which tells the type. -/
def header (nal : NalUnit) : UInt8 :=
  nal.payload.headD 0

/-- The unit with or without its start code. -/
def bytes (nal : NalUnit) (keepMarker : Bool) : Bytes :=
  if keepMarker then nal.marker ++ nal.payload else nal.payload

end NalUnit

/-- The first NAL unit of a byte string, the position of its start code, and what follows the unit. -/
structure NalCut where
  position : Nat
  nal : NalUnit
  rest : Bytes
  deriving DecidableEq, Repr

namespace NalCut

/-- The number of bytes up to what follows the unit. -/
def consumed (cut : NalCut) : Nat :=
  cut.position + cut.nal.marker.length + cut.nal.payload.length

end NalCut

namespace NalUnit

/-- The first NAL unit, or nothing when no start code has a payload behind it. -/
def next? (data : Bytes) : Option NalCut :=
  match StartCode.openingFrom 0 data with
  | none => none
  | some code =>
    let body := data.drop (code.position + code.length)
    let stop := StartCode.gapLength body
    some {
      position := code.position
      nal := ⟨(data.drop code.position).take code.length, body.take stop⟩
      rest := body.drop stop }

end NalUnit

namespace StartCode

/-- A start code has some bytes, and they are there. -/
theorem lengthAt?_pos {bytes : Bytes} {n : Nat} (h : lengthAt? bytes = some n) :
    0 < n ∧ n ≤ bytes.length := by
  unfold lengthAt? at h
  split at h
  · rename_i long_code
    have := (List.isPrefixOf_iff_prefix.mp long_code).length_le
    simp only [Option.some.injEq, long, List.length_cons, List.length_nil] at h this
    omega
  · split at h
    · rename_i short_code
      have := (List.isPrefixOf_iff_prefix.mp short_code).length_le
      simp only [Option.some.injEq, short, List.length_cons, List.length_nil] at h this
      omega
    · cases h

/-- A start code with a unit behind it lies inside the byte string. -/
theorem openingFrom_inside {i : Nat} {bytes : Bytes} {code : StartCode}
    (h : openingFrom i bytes = some code) :
    i ≤ code.position ∧ 0 < code.length ∧ code.position + code.length ≤ i + bytes.length := by
  induction bytes generalizing i with
  | nil => simp [openingFrom] at h
  | cons b rest ih =>
    unfold openingFrom at h
    split at h
    · rename_i n at_head
      have inside := lengthAt?_pos at_head
      split at h
      · cases h
        simp only [List.length_cons] at inside ⊢
        omega
      · have := ih h
        simp only [List.length_cons]
        omega
    · have := ih h
      simp only [List.length_cons]
      omega

end StartCode

namespace NalUnit

/-- What follows a unit is shorter than what the unit was found in. -/
theorem next?_rest_lt {data : Bytes} {cut : NalCut} (h : next? data = some cut) :
    cut.rest.length < data.length := by
  unfold next? at h
  split at h
  · cases h
  · rename_i code opening
    have inside := StartCode.openingFrom_inside opening
    cases h
    simp only [List.length_drop]
    omega

/-- The NAL units of a byte string that stands at position `start` of a larger one, each with the
position of its start code. -/
def locatedFrom (start : Nat) (data : Bytes) : List (Nat × NalUnit) :=
  match h : next? data with
  | none => []
  | some cut =>
    have := next?_rest_lt h
    (start + cut.position, cut.nal) :: locatedFrom (start + cut.consumed) cut.rest
termination_by data.length

/-- The NAL units of a byte string, in order. -/
def all (data : Bytes) : List NalUnit :=
  (locatedFrom 0 data).map Prod.snd

/-- The payloads of the NAL units of a byte string, in order. -/
def payloads (data : Bytes) : List Bytes :=
  (all data).map NalUnit.payload

/-- NAL units as a byte stream, each behind a long start code. -/
def annexB (nals : List Bytes) : Bytes :=
  nals.flatMap fun nal => StartCode.long ++ nal

end NalUnit

/-- A reader that takes one NAL unit after the other from a byte string. -/
structure NalReader where
  remaining : Bytes
  deriving DecidableEq, Repr

namespace NalReader

/-- Takes the next unit. When there is none, the reader drops whatever is left. -/
def next (reader : NalReader) : Option NalUnit × NalReader :=
  match NalUnit.next? reader.remaining with
  | some cut => (some cut.nal, ⟨cut.rest⟩)
  | none => (none, ⟨[]⟩)

end NalReader

end VideoCapture
