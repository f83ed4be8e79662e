/-!
# Bytes

Byte strings, and numbers in them as big-endian fields of fixed width. A number that is too large for
its field loses its high bits, so a field never spills into its neighbour.
-/

namespace VideoCapture

/-- A byte string. -/
abbrev Bytes := List UInt8

namespace Bytes

/-- The 16-bit field that holds `n`. -/
def be16 (n : Nat) : Bytes :=
  [UInt8.ofNat (n / 0x100), UInt8.ofNat n]

/-- The 32-bit field that holds `n`. -/
def be32 (n : Nat) : Bytes :=
  [UInt8.ofNat (n / 0x1000000), UInt8.ofNat (n / 0x10000), UInt8.ofNat (n / 0x100), UInt8.ofNat n]

/-- The 64-bit field that holds `n`. -/
def be64 (n : Nat) : Bytes :=
  be32 (n / 0x100000000) ++ be32 n

/-- The number that a big-endian field holds. -/
def toNat (field : Bytes) : Nat :=
  field.foldl (fun n b => n * 256 + b.toNat) 0

/-- A field of `n` zero bytes. -/
def zeros (n : Nat) : Bytes :=
  List.replicate n 0

/-- The bytes of ASCII characters. -/
def ofChars (cs : List Char) : Bytes :=
  cs.map fun c => UInt8.ofNat c.toNat

/-- A field holds its number as far as its width reaches. -/
theorem toNat_be16 (n : Nat) : toNat (be16 n) = n % 0x10000 := by
  simp only [toNat, be16, List.foldl, UInt8.toNat_ofNat']
  omega

@[inherit_doc toNat_be16]
theorem toNat_be32 (n : Nat) : toNat (be32 n) = n % 0x100000000 := by
  simp only [toNat, be32, List.foldl, UInt8.toNat_ofNat']
  omega

/-- Reading goes on behind what has been read. -/
theorem toNat_append (a b : Bytes) :
    toNat (a ++ b) = b.foldl (fun n b => n * 256 + b.toNat) (toNat a) :=
  List.foldl_append

@[inherit_doc toNat_be16]
theorem toNat_be64 (n : Nat) : toNat (be64 n) = n % 0x10000000000000000 := by
  rw [be64, toNat_append, toNat_be32]
  simp only [be32, List.foldl, UInt8.toNat_ofNat']
  omega

/-- A 16-bit field has two bytes. -/
@[simp] theorem length_be16 (n : Nat) : (be16 n).length = 2 := rfl

/-- A 32-bit field has four bytes. -/
@[simp] theorem length_be32 (n : Nat) : (be32 n).length = 4 := rfl

/-- A field of zero bytes has the length that is asked for. -/
@[simp] theorem length_zeros (n : Nat) : (zeros n).length = n := List.length_replicate

end Bytes

end VideoCapture
