import VideoCapture.Bytes

/-!
# Base64 text

The standard padded alphabet: three bytes become four characters, and a last group of one or two bytes
is filled up with `=`.
-/

namespace VideoCapture.Bytes.Base64

/-- The character that stands for a six-bit value. -/
def digit (n : Nat) : Char :=
  if n < 26 then Char.ofNat ('A'.toNat + n)
  else if n < 52 then Char.ofNat ('a'.toNat + (n - 26))
  else if n < 62 then Char.ofNat ('0'.toNat + (n - 52))
  else if n = 62 then '+'
  else '/'

/-- The characters for a byte string, group by group. -/
def chars : Bytes → List Char
  | [] => []
  | [a] =>
    let n := a.toNat * 0x10000
    [digit (n / 0x40000), digit (n / 0x1000 % 64), '=', '=']
  | [a, b] =>
    let n := a.toNat * 0x10000 + b.toNat * 0x100
    [digit (n / 0x40000), digit (n / 0x1000 % 64), digit (n / 0x40 % 64), '=']
  | a :: b :: c :: rest =>
    let n := a.toNat * 0x10000 + b.toNat * 0x100 + c.toNat
    digit (n / 0x40000) :: digit (n / 0x1000 % 64) :: digit (n / 0x40 % 64) :: digit (n % 64) ::
      chars rest

/-- The base64 text of a byte string. -/
def text (bytes : Bytes) : String :=
  String.ofList (chars bytes)

end VideoCapture.Bytes.Base64
