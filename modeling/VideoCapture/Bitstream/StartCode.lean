import VideoCapture.Bytes

/-!
# Start codes

In a byte stream each NAL unit stands behind a start code, `00 00 01` or `00 00 00 01`. At one position
the long code wins over the short one, and of two positions the earlier one wins, so a zero byte in front
of a short code always belongs to the code.
-/

namespace VideoCapture

/-- A start code found in a byte string. -/
structure StartCode where
  position : Nat
  length : Nat
  deriving DecidableEq, Repr

namespace StartCode

/-- The long start code. -/
def long : Bytes := [0, 0, 0, 1]

/-- The short start code. -/
def short : Bytes := [0, 0, 1]

/-- The length of the start code with which a byte string begins, if it begins with one. -/
def lengthAt? (bytes : Bytes) : Option Nat :=
  if long.isPrefixOf bytes then some 4
  else if short.isPrefixOf bytes then some 3
  else none

/-- The first start code of a byte string that stands at position `i` of a larger one. -/
def findFrom (i : Nat) : Bytes → Option StartCode
  | [] => none
  | b :: rest =>
    match lengthAt? (b :: rest) with
    | some n => some ⟨i, n⟩
    | none => findFrom (i + 1) rest

/-- The first start code at or behind position `start`. -/
def find? (bytes : Bytes) (start : Nat) : Option StartCode :=
  findFrom start (bytes.drop start)

/-- Where the bytes before the first start code end: at that code, or else at the end. -/
def gapLength (bytes : Bytes) : Nat :=
  match find? bytes 0 with
  | some code => code.position
  | none => bytes.length

/-- Whether the byte string behind a start code begins a NAL unit, rather than being empty or the next
start code. -/
def opensUnit (bytes : Bytes) : Bool :=
  !bytes.isEmpty && (lengthAt? bytes).isNone

/-- The first start code, counted from position `i`, that has a NAL unit behind it. -/
def openingFrom (i : Nat) : Bytes → Option StartCode
  | [] => none
  | b :: rest =>
    match lengthAt? (b :: rest) with
    | some n => if opensUnit ((b :: rest).drop n) then some ⟨i, n⟩ else openingFrom (i + 1) rest
    | none => openingFrom (i + 1) rest

end StartCode

end VideoCapture
