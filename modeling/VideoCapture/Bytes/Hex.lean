import VideoCapture.Bytes

/-!
# Hexadecimal text

Bytes as text: two lowercase hexadecimal digits for each byte, the high half first.
-/

namespace VideoCapture.Bytes.Hex

/-- The digit for a half byte. -/
def digit (n : Nat) : Char :=
  if n < 10 then Char.ofNat ('0'.toNat + n) else Char.ofNat ('a'.toNat + (n - 10))

/-- The two digits of each byte, in order. -/
def chars (bytes : Bytes) : List Char :=
  bytes.flatMap fun b => [digit (b.toNat / 16), digit (b.toNat % 16)]

/-- The hexadecimal text of a byte string. -/
def text (bytes : Bytes) : String :=
  String.ofList (chars bytes)

end VideoCapture.Bytes.Hex
