import VideoCapture.Bytes

/-!
# Boxes

An MP4 file is a sequence of boxes. A box is its 32-bit size, header included, a four-character type, and
its payload, which for many types is again a sequence of boxes.
-/

namespace VideoCapture

/-- A four-character box type. -/
structure FourCC where
  (c₀ c₁ c₂ c₃ : UInt8)
  deriving DecidableEq, Repr

namespace FourCC

/-- The type that is spelled with four ASCII characters. -/
def ofChars (a b c d : Char) : FourCC :=
  ⟨UInt8.ofNat a.toNat, UInt8.ofNat b.toNat, UInt8.ofNat c.toNat, UInt8.ofNat d.toNat⟩

/-- The type as it stands in a file. -/
def bytes (type : FourCC) : Bytes :=
  [type.c₀, type.c₁, type.c₂, type.c₃]

/-- A type has four bytes. -/
@[simp] theorem length_bytes (type : FourCC) : type.bytes.length = 4 := rfl

end FourCC

/-- A stretch of a byte string, from `start` up to `stop`. -/
structure Span where
  start : Nat
  stop : Nat
  deriving DecidableEq, Repr

namespace Span

/-- The number of bytes in a span. -/
def length (span : Span) : Nat :=
  span.stop - span.start

/-- The bytes of a span. -/
def slice (span : Span) (data : Bytes) : Bytes :=
  (data.drop span.start).take span.length

/-- The bytes of spans in `whole`, of which `rest` is what stands from `position` on. As long as no span
begins in front of the one before it, `whole` is gone through only once. -/
def slicesFrom (whole : Bytes) (position : Nat) (rest : Bytes) : List Span → List Bytes
  | [] => []
  | span :: spans =>
    if span.start < position then span.slice whole :: slicesFrom whole position rest spans
    else
      let rest := rest.drop (span.start - position)
      rest.take span.length :: slicesFrom whole span.start rest spans

/-- The bytes of each of some spans. -/
def slices (spans : List Span) (data : Bytes) : List Bytes :=
  slicesFrom data 0 data spans

/-- Slices that are cut one behind the other from a position on are those of the whole. -/
theorem slicesFrom_eq_map (whole : Bytes) (position : Nat) (spans : List Span) :
    slicesFrom whole position (whole.drop position) spans = spans.map fun span => span.slice whole := by
  induction spans generalizing position with
  | nil => rfl
  | cons span spans ih =>
    simp only [slicesFrom, List.map_cons]
    split
    · rw [ih]
    · have reach : position + (span.start - position) = span.start := by omega
      rw [List.drop_drop, reach, ih, slice]

/-- Slices that are cut one behind the other are those that are cut one by one. -/
theorem slices_eq_map (spans : List Span) (data : Bytes) :
    slices spans data = spans.map fun span => span.slice data :=
  slicesFrom_eq_map data 0 spans

/-- A span is known by what stands in front of its bytes. -/
theorem slice_between (front middle behind : Bytes) :
    (Span.mk front.length (front.length + middle.length)).slice (front ++ (middle ++ behind)) = middle := by
  rw [slice, length, Nat.add_sub_cancel_left, List.drop_left, List.take_left]

end Span

namespace Box

/-- The number of bytes in a box header. -/
def headerSize : Nat := 8

/-- A box header. -/
def header (size : Nat) (type : FourCC) : Bytes :=
  Bytes.be32 size ++ type.bytes

/-- A box with the given payload. -/
def build (type : FourCC) (payload : Bytes) : Bytes :=
  header (headerSize + payload.length) type ++ payload

/-- A box whose payload begins with a version, which is zero here, and 24 bits of flags. -/
def buildFull (type : FourCC) (flags : UInt8) (payload : Bytes) : Bytes :=
  build type ([0, 0, 0, flags] ++ payload)

/-- An unused box of `size` bytes, header included. -/
def free (size : Nat) : Bytes :=
  header size (.ofChars 'f' 'r' 'e' 'e') ++ Bytes.zeros (size - headerSize)

/-- The header of a media data box. -/
def mdatHeader (size : Nat) : Bytes :=
  header size (.ofChars 'm' 'd' 'a' 't')

/-- A header has its size. -/
@[simp] theorem length_header (size : Nat) (type : FourCC) : (header size type).length = headerSize :=
  rfl

/-- A box is longer than its payload by its header. -/
@[simp] theorem length_build (type : FourCC) (payload : Bytes) :
    (build type payload).length = headerSize + payload.length := by
  simp [build]

/-- A full box is longer than its payload by its header, its version and its flags. -/
@[simp] theorem length_buildFull (type : FourCC) (flags : UInt8) (payload : Bytes) :
    (buildFull type flags payload).length = headerSize + 4 + payload.length := by
  simp only [buildFull, length_build, List.length_append, List.length_cons, List.length_nil]
  omega

/-- The header of the media data is an ordinary header. -/
@[simp] theorem length_mdatHeader (size : Nat) : (mdatHeader size).length = headerSize := rfl

/-- An unused box takes exactly the bytes it was asked to take. -/
theorem length_free {size : Nat} (room : headerSize ≤ size) : (free size).length = size := by
  simp only [free, List.length_append, length_header, Bytes.length_zeros]
  omega

/-- Walks the boxes of `data`, which has `left` bytes and stands at position `start` of a larger byte
string, up to the first box of a type. A box that does not fit ends the walk. -/
def findFrom (start left : Nat) (type : FourCC) (data : Bytes) : Option Span :=
  if left < headerSize then none
  else
    let size := Bytes.toNat (data.take 4)
    if size < headerSize ∨ left < size then none
    else if (data.drop 4).take 4 = type.bytes then some ⟨start + headerSize, start + size⟩
    else findFrom (start + size) (left - size) type (data.drop size)
termination_by left
decreasing_by
  simp only [headerSize] at *
  omega

/-- The payload of the first box of a type in a sequence of boxes. -/
def find? (data : Bytes) (type : FourCC) : Option Span :=
  findFrom 0 data.length type data

end Box

end VideoCapture
