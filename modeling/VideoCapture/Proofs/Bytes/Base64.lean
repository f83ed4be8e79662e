import Mathlib.Tactic.Lemma
import VideoCapture.Bytes.Base64

/-!
# Base64 text is read back

A reader of base64 text (`bytes?`) that is as strict as the standard allows: the text comes in groups of four
characters, padding is at its end only, and the bits that padding leaves over are zero. It reads in the text of a byte
string that byte string (`bytes?_chars`). No other characters occur in such a text than those that stand for six bits
and the one that pads.
-/

namespace VideoCapture.Bytes.Base64

/-- The six-bit value that a character stands for. -/
def value? (c : Char) : Option Nat :=
  if 'A' ≤ c ∧ c ≤ 'Z' then some (c.toNat - 'A'.toNat)
  else if 'a' ≤ c ∧ c ≤ 'z' then some (c.toNat - 'a'.toNat + 26)
  else if '0' ≤ c ∧ c ≤ '9' then some (c.toNat - '0'.toNat + 52)
  else if c = '+' then some 62
  else if c = '/' then some 63
  else none

/-- The number that some characters make up, six bits each. -/
def number? (cs : List Char) : Option Nat := do
  let values ← cs.mapM value?
  return values.foldl (· * 64 + ·) 0

/-- The bytes of a padded group, given without the last padding. -/
def lastGroup? (a b c : Char) : Option Bytes :=
  if c = '=' then do
    let n ← number? [a, b]
    if n % 16 = 0 then some [UInt8.ofNat (n / 16)] else none
  else do
    let n ← number? [a, b, c]
    if n % 4 = 0 then some [UInt8.ofNat (n / 1024), UInt8.ofNat (n / 4)] else none

/-- The byte string that a text stands for. -/
def bytes? : List Char → Option Bytes
  | [] => some []
  | a :: b :: c :: d :: rest =>
    if d = '=' then
      if rest = [] then lastGroup? a b c else none
    else do
      let n ← number? [a, b, c, d]
      let others ← bytes? rest
      return UInt8.ofNat (n / 0x10000) :: UInt8.ofNat (n / 0x100) :: UInt8.ofNat n :: others
  | _ => none

/-- Whether a character may occur in base64 text. -/
def IsText (c : Char) : Prop :=
  (value? c).isSome ∨ c = '='

/-- Whether a character is base64 text can be found out. -/
instance (c : Char) : Decidable (IsText c) :=
  inferInstanceAs (Decidable (_ ∨ _))

/-- A digit has the value that it was made of. -/
lemma value?_digit {n : Nat} (small : n < 64) : value? (digit n) = some n := by
  have all : ∀ n < 64, value? (digit n) = some n := by decide
  exact all n small

/-- No digit is the padding. -/
lemma digit_ne_pad {n : Nat} (small : n < 64) : digit n ≠ '=' := by
  intro same
  have value := value?_digit small
  rw [same] at value
  cases value

/-- Digits make up the number that they were made of, the first one counting most. -/
lemma number?_digits {ns : List Nat} (small : ∀ n ∈ ns, n < 64) :
    number? (ns.map digit) = some (ns.foldl (· * 64 + ·) 0) := by
  have values : (ns.map digit).mapM value? = some ns := by
    induction ns with
    | nil => rfl
    | cons n rest ih =>
      obtain ⟨first, others⟩ := List.forall_mem_cons.mp small
      rw [List.map_cons, List.mapM_cons, value?_digit first, ih others]
      rfl
  rw [number?, values]
  rfl

/-- The characters of a group make up its number, as far as they go. -/
lemma number?_group {n : Nat} (small : n < 0x1000000) :
    number? [digit (n / 0x40000), digit (n / 0x1000 % 64)] = some (n / 0x1000) ∧
      number? [digit (n / 0x40000), digit (n / 0x1000 % 64), digit (n / 0x40 % 64)] = some (n / 0x40) ∧
      number? [digit (n / 0x40000), digit (n / 0x1000 % 64), digit (n / 0x40 % 64), digit (n % 64)] = some n := by
  have first : n / 0x40000 < 64 := by omega
  have others : ∀ k, k % 64 < 64 := fun k => Nat.mod_lt k (by decide)
  refine ⟨?_, ?_, ?_⟩
  · refine (@number?_digits [n / 0x40000, n / 0x1000 % 64] (by simp [first, others])).trans (congrArg some ?_)
    simp only [List.foldl_cons, List.foldl_nil]
    omega
  · refine (@number?_digits [n / 0x40000, n / 0x1000 % 64, n / 0x40 % 64] (by simp [first, others])).trans
      (congrArg some ?_)
    simp only [List.foldl_cons, List.foldl_nil]
    omega
  · refine (@number?_digits [n / 0x40000, n / 0x1000 % 64, n / 0x40 % 64, n % 64] (by simp [first, others])).trans
      (congrArg some ?_)
    simp only [List.foldl_cons, List.foldl_nil]
    omega

/-- Only the last eight bits of a number make up a byte. -/
lemma ofNat_eq {n : Nat} {b : UInt8} (last : n % 0x100 = b.toNat) : UInt8.ofNat n = b := by
  apply UInt8.toNat_inj.mp
  rw [UInt8.toNat_ofNat', last]

/-- The text of a byte string reads as that byte string. -/
lemma bytes?_chars (data : Bytes) : bytes? (chars data) = some data := by
  have unpadded : ∀ k, digit (k % 64) ≠ '=' := fun k => digit_ne_pad (Nat.mod_lt k (by decide))
  induction data using chars.induct with
  | case1 => rfl
  | case2 a =>
    have byte := a.toNat_lt
    obtain ⟨number, -, -⟩ := @number?_group (a.toNat * 0x10000) (by omega)
    rw [chars, bytes?, if_pos rfl, if_pos rfl, lastGroup?, if_pos rfl, number, Option.bind_eq_bind, Option.bind_some,
      if_pos (by omega), ofNat_eq (b := a) (by omega)]
  | case3 a b =>
    have byte := a.toNat_lt
    have byte' := b.toNat_lt
    obtain ⟨-, number, -⟩ := @number?_group (a.toNat * 0x10000 + b.toNat * 0x100) (by omega)
    rw [chars, bytes?, if_pos rfl, if_pos rfl, lastGroup?, if_neg (unpadded _), number, Option.bind_eq_bind,
      Option.bind_some, if_pos (by omega), ofNat_eq (b := a) (by omega), ofNat_eq (b := b) (by omega)]
  | case4 a b c rest ih =>
    have byte := a.toNat_lt
    have byte' := b.toNat_lt
    have byte'' := c.toNat_lt
    obtain ⟨-, -, number⟩ := @number?_group (a.toNat * 0x10000 + b.toNat * 0x100 + c.toNat) (by omega)
    rw [chars, bytes?, if_neg (unpadded _), number, ih, Option.bind_eq_bind, Option.bind_eq_bind, Option.bind_some,
      Option.bind_some, ofNat_eq (b := a) (by omega), ofNat_eq (b := b) (by omega), ofNat_eq (b := c) (by omega)]
    rfl

/-- Every digit is a character of the text. -/
lemma isText_digit {n : Nat} (small : n < 64) : IsText (digit n) :=
  .inl (by rw [value?_digit small]; rfl)

/-- The text of a byte string consists of characters that may occur in such a text. -/
lemma isText_chars (data : Bytes) : ∀ c ∈ chars data, IsText c := by
  have first : ∀ n < 0x1000000, IsText (digit (n / 0x40000)) := fun n small => isText_digit (by omega)
  have others : ∀ k, IsText (digit (k % 64)) := fun k => isText_digit (Nat.mod_lt k (by decide))
  have pad : IsText '=' := .inr rfl
  induction data using chars.induct with
  | case1 => exact List.forall_mem_nil _
  | case2 a =>
    have byte := a.toNat_lt
    rw [chars, List.forall_mem_cons]
    exact ⟨first _ (by omega), by simp [others, pad]⟩
  | case3 a b =>
    have byte := a.toNat_lt
    have byte' := b.toNat_lt
    rw [chars, List.forall_mem_cons]
    exact ⟨first _ (by omega), by simp [others, pad]⟩
  | case4 a b c rest ih =>
    have byte := a.toNat_lt
    have byte' := b.toNat_lt
    have byte'' := c.toNat_lt
    rw [chars, List.forall_mem_cons]
    exact ⟨first _ (by omega), by simpa [others] using ih⟩

end VideoCapture.Bytes.Base64
