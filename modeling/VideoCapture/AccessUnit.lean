import VideoCapture.Bitstream.NalUnit

/-!
# Access units

The NAL units that make up one picture and what accompanies it. An access unit becomes one sample of an
MP4 track, where each NAL unit stands behind its 32-bit length, or a stretch of byte stream, where each
stands behind a start code.
-/

namespace VideoCapture

/-- NAL units behind their 32-bit lengths. -/
def lengthPrefixed (nals : List Bytes) : Bytes :=
  nals.flatMap fun nal => Bytes.be32 nal.length ++ nal

/-- The NAL units of one picture, and whether the picture refreshes the decoder. -/
structure AccessUnit where
  nals : List Bytes := []
  isKeyframe : Bool := false
  deriving DecidableEq, Repr

namespace AccessUnit

/-- Whether there is no NAL unit at all. -/
def isEmpty (unit : AccessUnit) : Bool :=
  unit.nals.isEmpty

/-- The number of bytes of the unit as an MP4 sample. -/
def sampleSize (unit : AccessUnit) : Nat :=
  unit.nals.foldr (fun nal size => 4 + nal.length + size) 0

/-- The unit as an MP4 sample. -/
def toSample (unit : AccessUnit) : Bytes :=
  lengthPrefixed unit.nals

/-- The unit as a byte stream. -/
def toAnnexB (unit : AccessUnit) : Bytes :=
  NalUnit.annexB unit.nals

/-- The size of a sample is known before the sample is laid out. -/
theorem length_toSample (unit : AccessUnit) : unit.toSample.length = unit.sampleSize := by
  obtain ⟨nals, isKeyframe⟩ := unit
  simp only [toSample, sampleSize]
  induction nals with
  | nil => rfl
  | cons nal rest ih =>
    rw [lengthPrefixed, List.flatMap_cons, List.length_append, ← lengthPrefixed, ih, List.foldr_cons,
      List.length_append, Bytes.length_be32]

end AccessUnit

end VideoCapture
