import VideoCapture.Bytes.Log

/-!
# The content of a file

The bytes of a file in pieces, parted at the place up to which it was written last. Writing on from there
takes as long as what is written, at the end of a file as well as in the midst of it. For a write somewhere
else the pieces in between change sides. What a file holds is `toBytes`, and a write is described by what it
does to that.
-/

namespace VideoCapture

/-- The content of a file. -/
structure FileContent where
  /-- The bytes up to the end of the last write. -/
  front : ByteLog
  /-- The pieces behind it, in their order. -/
  back : List Bytes
  deriving DecidableEq, Repr

namespace FileContent

/-- The content of a new file. -/
def empty : FileContent :=
  ⟨.empty, []⟩

/-- The bytes of the file. -/
def toBytes (content : FileContent) : Bytes :=
  content.front.toBytes ++ content.back.flatten

/-- The bytes after `written` was put at a position, over what was there. A gap in front of it is filled
with zero bytes. -/
def overwrite (bytes : Bytes) (position : Nat) (written : Bytes) : Bytes :=
  bytes.take position ++ Bytes.zeros (position - bytes.length) ++ written ++
    bytes.drop (position + written.length)

/-- Moves the last `excess` bytes of what is in front to the back. The pieces in front come last one first. -/
def retreat : (excess : Nat) → (front back : List Bytes) → List Bytes × List Bytes
  | _, [], back => ([], back)
  | excess, piece :: front, back =>
    if excess = 0 then (piece :: front, back)
    else if piece.length ≤ excess then retreat (excess - piece.length) front (piece :: back)
    else
      let kept := piece.length - excess
      (piece.take kept :: front, piece.drop kept :: back)

/-- Moves the first `missing` bytes from the back to the front. What the back lacks is made up for with zero
bytes. -/
def advance : (missing : Nat) → (front : ByteLog) → (back : List Bytes) → FileContent
  | missing, front, [] => ⟨front.append (Bytes.zeros missing), []⟩
  | missing, front, piece :: back =>
    let rest := piece.drop missing
    if rest.isEmpty then advance (missing - piece.length) (front.append piece) back
    else ⟨front.append (piece.take missing), rest :: back⟩

/-- Pieces without their first `count` bytes. -/
def dropBytes : (count : Nat) → List Bytes → List Bytes
  | _, [] => []
  | count, piece :: pieces =>
    let rest := piece.drop count
    if rest.isEmpty then dropBytes (count - piece.length) pieces else rest :: pieces

/-- All bytes are still there when some have moved to the back. -/
theorem flatten_retreat (excess : Nat) (front back : List Bytes) :
    (retreat excess front back).1.reverse.flatten ++ (retreat excess front back).2.flatten =
      front.reverse.flatten ++ back.flatten := by
  induction front generalizing excess back with
  | nil => simp [retreat]
  | cons piece front ih =>
    rw [retreat]
    split
    · rfl
    · split
      · simp [ih]
      · simp only [List.reverse_cons, List.flatten_append, List.flatten_cons, List.flatten_nil,
          List.append_nil, List.append_assoc]
        rw [← List.append_assoc (List.take _ piece), List.take_append_drop]

/-- The front gets shorter by what has moved. -/
theorem length_retreat (excess : Nat) (front back : List Bytes) :
    (retreat excess front back).1.reverse.flatten.length = front.reverse.flatten.length - excess := by
  induction front generalizing excess back with
  | nil => simp [retreat]
  | cons piece front ih =>
    rw [retreat]
    split
    · simp_all
    · split
      · rw [ih]
        simp only [List.reverse_cons, List.flatten_append, List.length_append, List.flatten_cons,
          List.flatten_nil, List.append_nil]
        omega
      · simp only [List.reverse_cons, List.flatten_append, List.length_append, List.flatten_cons,
          List.flatten_nil, List.append_nil, List.length_take]
        omega

/-- The content parted at a position. If the file ends before it, zero bytes lead up to it. -/
def partAt (content : FileContent) (position : Nat) : FileContent :=
  if content.front.size < position then
    advance (position - content.front.size) content.front content.back
  else
    let moved := retreat (content.front.size - position) content.front.pieces content.back
    { front := ⟨moved.1, content.front.size - (content.front.size - position), by
        rw [length_retreat, ← content.front.size_eq_length]⟩
      back := moved.2 }

/-- The content after bytes were written at a position. -/
def write (content : FileContent) (position : Nat) (written : Bytes) : FileContent :=
  let parted := content.partAt position
  { front := parted.front.append written, back := dropBytes written.length parted.back }

/-- A new file has no bytes. -/
@[simp] theorem toBytes_empty : empty.toBytes = [] := rfl

/-- Dropping bytes piece by piece drops them from the whole. -/
@[simp] theorem flatten_dropBytes (count : Nat) (pieces : List Bytes) :
    (dropBytes count pieces).flatten = pieces.flatten.drop count := by
  induction pieces generalizing count with
  | nil => simp [dropBytes]
  | cons piece pieces ih =>
    rw [dropBytes]
    split
    · rename_i used
      rw [ih, List.flatten_cons, List.drop_append, List.isEmpty_iff.mp used, List.nil_append]
    · rename_i left
      have short : count - piece.length = 0 := by
        simp only [List.isEmpty_iff, List.drop_eq_nil_iff] at left
        omega
      rw [List.flatten_cons, List.flatten_cons, List.drop_append, short, List.drop_zero]

/-- The front grows by what was missing. -/
theorem size_advance (missing : Nat) (front : ByteLog) (back : List Bytes) :
    (advance missing front back).front.size = front.size + missing := by
  induction back generalizing missing front with
  | nil => simp [advance]
  | cons piece back ih =>
    rw [advance]
    split
    · rename_i used
      simp only [List.isEmpty_iff, List.drop_eq_nil_iff] at used
      rw [ih, ByteLog.size_append]
      omega
    · rename_i left
      simp only [List.isEmpty_iff, List.drop_eq_nil_iff] at left
      rw [ByteLog.size_append, List.length_take]
      omega

/-- All bytes are still there when some have moved to the front, and zero bytes only where there were too
few. -/
theorem toBytes_advance (missing : Nat) (front : ByteLog) (back : List Bytes) :
    (advance missing front back).toBytes =
      front.toBytes ++ back.flatten ++ Bytes.zeros (missing - back.flatten.length) := by
  induction back generalizing missing front with
  | nil => simp [advance, toBytes]
  | cons piece back ih =>
    rw [advance]
    split
    · rw [ih]
      simp [Nat.sub_sub]
    · rename_i left
      simp only [List.isEmpty_iff, List.drop_eq_nil_iff] at left
      have none_missing : missing - (piece :: back).flatten.length = 0 := by
        rw [List.flatten_cons, List.length_append]
        omega
      rw [none_missing]
      simp only [toBytes, ByteLog.toBytes_append, Bytes.zeros, List.replicate_zero, List.append_nil,
        List.flatten_cons, List.append_assoc]
      rw [← List.append_assoc (List.take _ piece), List.take_append_drop]

/-- The front of a parted content ends at the position. -/
@[simp] theorem size_partAt (content : FileContent) (position : Nat) :
    (content.partAt position).front.size = position := by
  unfold partAt
  split
  · rw [size_advance]
    omega
  · simp only
    omega

/-- Parting keeps the bytes of the file, and makes it reach up to the position. -/
theorem toBytes_partAt (content : FileContent) (position : Nat) :
    (content.partAt position).toBytes =
      content.toBytes ++ Bytes.zeros (position - content.toBytes.length) := by
  unfold partAt
  split
  · rw [toBytes_advance]
    simp [toBytes, Nat.sub_sub]
  · rename_i inside
    have long_enough : position - content.toBytes.length = 0 := by
      rw [toBytes, List.length_append, ByteLog.length_toBytes]
      omega
    rw [long_enough]
    simp only [toBytes, ByteLog.toBytes, Bytes.zeros, List.replicate_zero, List.append_nil]
    exact flatten_retreat _ _ _

/-- A write is the overwriting of the bytes of the file. -/
@[simp] theorem toBytes_write (content : FileContent) (position : Nat) (written : Bytes) :
    (content.write position written).toBytes = overwrite content.toBytes position written := by
  have parted := content.toBytes_partAt position
  have at_position : (content.partAt position).front.toBytes.length = position := by simp
  have front : (content.partAt position).front.toBytes =
      content.toBytes.take position ++ Bytes.zeros (position - content.toBytes.length) := by
    have whole := congrArg (List.take position) parted
    rw [toBytes, List.take_append, at_position, List.take_of_length_le (Nat.le_of_eq at_position)] at whole
    simpa [List.take_append, Bytes.zeros] using whole
  have back : (content.partAt position).back.flatten.drop written.length =
      content.toBytes.drop (position + written.length) := by
    have whole := congrArg (List.drop (position + written.length)) parted
    have before : (content.partAt position).front.toBytes.drop (position + written.length) = [] :=
      List.drop_of_length_le (by omega)
    have no_gap :
        position - content.toBytes.length - (position + written.length - content.toBytes.length) = 0 := by
      omega
    rw [toBytes, List.drop_append, at_position, before] at whole
    simpa [List.drop_append, Bytes.zeros, no_gap] using whole
  simp only [write, overwrite]
  rw [toBytes, ByteLog.toBytes_append, flatten_dropBytes, front, back]

end FileContent

end VideoCapture
