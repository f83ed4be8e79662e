import Mathlib.Tactic.Lemma
import VideoCapture.AccessUnit
import VideoCapture.Mp4.Movie

/-!
# Reading MP4 files

A reader of MP4 files that shares nothing with the code that writes them but the names of the boxes. It
takes a file apart into boxes that have to make it up to the last byte, goes down to the sample table,
combines the tables there into a list of samples, and follows the offsets of the samples into the file.
What it cannot make sense of it does not read at all.
-/

namespace VideoCapture.Demux

/-- The boxes that make up a byte string, each with its type and its payload. -/
def boxes? : Bytes → Option (List (FourCC × Bytes))
  | [] => some []
  | s₀ :: s₁ :: s₂ :: s₃ :: c₀ :: c₁ :: c₂ :: c₃ :: rest =>
    let size := Bytes.toNat [s₀, s₁, s₂, s₃]
    if size < 8 ∨ rest.length < size - 8 then none
    else (boxes? (rest.drop (size - 8))).map fun others =>
      (⟨c₀, c₁, c₂, c₃⟩, rest.take (size - 8)) :: others
  | _ => none
termination_by data => data.length
decreasing_by
  simp only [List.length_drop, List.length_cons]
  omega

/-- The payload of the first box of a type. -/
def child? (type : FourCC) (data : Bytes) : Option Bytes :=
  (boxes? data).bind fun found => found.lookup type

/-- The number in a field at the front, and what follows the field. -/
def number? (width : Nat) (data : Bytes) : Option (Nat × Bytes) :=
  if width ≤ data.length then some (Bytes.toNat (data.take width), data.drop width) else none

/-- What follows the version and the flags in a payload of version zero. -/
def fields? : Bytes → Option Bytes
  | version :: _ :: _ :: _ :: fields => if version = 0 then some fields else none
  | _ => none

/-- The first `count` rows of a table. -/
def rows (width : Nat) : (count : Nat) → Bytes → List Bytes
  | 0, _ => []
  | count + 1, data => data.take width :: rows width count (data.drop width)

/-- A table that begins with the number of its rows and ends with the last of them. -/
def table? (width : Nat) (data : Bytes) : Option (List Bytes) := do
  let (count, data) ← number? 4 data
  if data.length = count * width then some (rows width count data) else none

/-- A table of numbers. -/
def numbers? (width : Nat) (data : Bytes) : Option (List Nat) :=
  (table? width data).map fun found => found.map Bytes.toNat

/-- A table of pairs of numbers. The second number may be followed by others. -/
def pairs? (width : Nat) (data : Bytes) : Option (List (Nat × Nat)) :=
  (table? width data).map fun found =>
    found.map fun row => (Bytes.toNat (row.take 4), Bytes.toNat ((row.drop 4).take 4))

/-- The sizes of the samples, which are given together if they are all the same. -/
def sizes? (fields : Bytes) : Option (List Nat) := do
  let (shared, fields) ← number? 4 fields
  if shared = 0 then numbers? 4 fields
  else
    let (count, _) ← number? 4 fields
    some (List.replicate count shared)

/-- The positions of the chunks, in 32 or in 64 bits. -/
def chunkOffsets? (stbl : Bytes) : Option (List Nat) :=
  match child? (.ofChars 's' 't' 'c' 'o') stbl with
  | some payload => (fields? payload).bind (numbers? 4)
  | none => do numbers? 8 (← fields? (← child? (.ofChars 'c' 'o' '6' '4') stbl))

/-- The number of samples of each chunk in front of number `stop`. A run begins with the number of its first
chunk and goes up to the next run. -/
def expand (stop : Nat) : List (Nat × Nat) → List Nat
  | [] => []
  | (first, count) :: rest =>
    let next := (rest.head?.map Prod.fst).getD stop
    List.replicate (next - first) count ++ expand stop rest

/-- Sizes with the positions of bytes that lie one behind the other. -/
def layOut (offset : Nat) : List Nat → List (Nat × Nat)
  | [] => []
  | size :: rest => (offset, size) :: layOut (offset + size) rest

/-- Distributes sizes over chunks, none of which may be left over. -/
def distribute : List (Nat × Nat) → List Nat → Option (List (Nat × Nat))
  | [], sizes => if sizes = [] then some [] else none
  | (offset, count) :: chunks, sizes =>
    if sizes.length < count then none
    else (distribute chunks (sizes.drop count)).map fun others =>
      layOut offset (sizes.take count) ++ others

/-- Samples at the given places, numbered from `number` on, of which some refresh the decoder. -/
def mark (sync : List Nat) (number : Nat) : List (Nat × Nat) → List Sample
  | [] => []
  | (offset, size) :: rest => ⟨offset, size, sync.contains number⟩ :: mark sync (number + 1) rest

/-- The samples of a sample table box. -/
def samples? (stbl : Bytes) : Option (List Sample) := do
  let sizes ← sizes? (← fields? (← child? (.ofChars 's' 't' 's' 'z') stbl))
  let runs ← pairs? 12 (← fields? (← child? (.ofChars 's' 't' 's' 'c') stbl))
  let offsets ← chunkOffsets? stbl
  let sync ← numbers? 4 (← fields? (← child? (.ofChars 's' 't' 's' 's') stbl))
  let places ← distribute (offsets.zip (expand (offsets.length + 1) runs)) sizes
  return mark sync 1 places

/-- How long each sample of a sample table box lasts. -/
def durations? (stbl : Bytes) : Option (List Nat) := do
  let runs ← pairs? 8 (← fields? (← child? (.ofChars 's' 't' 't' 's') stbl))
  return runs.flatMap fun run => List.replicate run.1 run.2

/-- What a movie box says about its video track. -/
structure Movie where
  codec : Codec
  width : Nat
  height : Nat
  configuration : Bytes
  timescale : Nat
  durations : List Nat
  samples : List Sample
  deriving DecidableEq, Repr

/-- The codec that an entry of a sample description is for. -/
def codecOf? (type : FourCC) : Option Codec :=
  if type = .ofChars 'a' 'v' 'c' '1' then some .h264
  else if type = .ofChars 'h' 'v' 'c' '1' then some .h265
  else none

/-- The type of the box with the decoder configuration. -/
def configurationType : Codec → FourCC
  | .h264 => .ofChars 'a' 'v' 'c' 'C'
  | .h265 => .ofChars 'h' 'v' 'c' 'C'

/-- Codec, picture size and decoder configuration of a sample description with a single entry. -/
def description? (stsd : Bytes) : Option (Codec × Nat × Nat × Bytes) := do
  let (count, data) ← number? 4 (← fields? stsd)
  match count, ← boxes? data with
  | 1, [(type, entry)] =>
    let codec ← codecOf? type
    let (width, _) ← number? 2 (entry.drop 24)
    let (height, _) ← number? 2 (entry.drop 26)
    let configuration ← child? (configurationType codec) (entry.drop 78)
    return (codec, width, height, configuration)
  | _, _ => none

/-- Reads the payload of a movie box with a single track. -/
def movie? (moov : Bytes) : Option Movie := do
  let mdia ← child? (.ofChars 'm' 'd' 'i' 'a') (← child? (.ofChars 't' 'r' 'a' 'k') moov)
  let (timescale, _) ← number? 4 ((← fields? (← child? (.ofChars 'm' 'd' 'h' 'd') mdia)).drop 8)
  let minf ← child? (.ofChars 'm' 'i' 'n' 'f') mdia
  let stbl ← child? (.ofChars 's' 't' 'b' 'l') minf
  let (codec, width, height, configuration) ← description? (← child? (.ofChars 's' 't' 's' 'd') stbl)
  let durations ← durations? stbl
  let samples ← samples? stbl
  return { codec, width, height, configuration, timescale, durations, samples }

/-- The NAL units of a sample, each of which stands behind its 32-bit length. -/
def nals? : Bytes → Option (List Bytes)
  | [] => some []
  | l₀ :: l₁ :: l₂ :: l₃ :: rest =>
    let length := Bytes.toNat [l₀, l₁, l₂, l₃]
    if rest.length < length then none
    else (nals? (rest.drop length)).map fun others => rest.take length :: others
  | _ => none
termination_by data => data.length
decreasing_by
  simp only [List.length_drop, List.length_cons]
  omega

/-- The bytes of a sample, if the file has them all. -/
def bytes? (file : Bytes) (sample : Sample) : Option Bytes :=
  if sample.offset + sample.size ≤ file.length then
    some ((file.drop sample.offset).take sample.size)
  else none

/-- The access unit that a sample holds. -/
def unit? (file : Bytes) (sample : Sample) : Option AccessUnit := do
  let nals ← nals? (← bytes? file sample)
  return ⟨nals, sample.isKeyframe⟩

/-- An MP4 file with what a player makes of it. -/
structure Film where
  /-- The boxes that make up the file, each with its payload. -/
  boxes : List (FourCC × Bytes)
  movie : Movie
  /-- What the samples hold, in order. -/
  units : List AccessUnit
  deriving DecidableEq, Repr

/-- The types of the boxes that make up the file. -/
def Film.layout (film : Film) : List FourCC :=
  film.boxes.map Prod.fst

/-- Reads the MP4 file that begins at position `base` of a byte string and takes `length` bytes. -/
def film? (file : Bytes) (base length : Nat) : Option Film := do
  let boxes ← boxes? ((file.drop base).take length)
  let movie ← movie? (← boxes.lookup (.ofChars 'm' 'o' 'o' 'v'))
  let units ← movie.samples.mapM (unit? file)
  return { boxes, movie, units }

/-- A box is read as it was laid out, and so is what follows it. -/
lemma boxes?_build {type : FourCC} {payload : Bytes} (rest : Bytes) (small : payload.length + 8 < 0x100000000) :
    boxes? (Box.build type payload ++ rest) =
      (boxes? rest).map fun others => (type, payload) :: others := by
  obtain ⟨c₀, c₁, c₂, c₃⟩ := type
  have size := Bytes.toNat_be32 (Box.headerSize + payload.length)
  rw [Nat.mod_eq_of_lt (by rw [Box.headerSize]; omega), Box.headerSize] at size
  -- the four bytes of the size have to be seen one by one
  have field : ∃ s₀ s₁ s₂ s₃, Bytes.be32 (8 + payload.length) = [s₀, s₁, s₂, s₃] := ⟨_, _, _, _, rfl⟩
  obtain ⟨s₀, s₁, s₂, s₃, field⟩ := field
  rw [field] at size
  rw [Box.build, Box.header, Box.headerSize, field]
  simp only [FourCC.bytes, List.cons_append, List.nil_append]
  have inside : 8 + payload.length - 8 = payload.length := Nat.add_sub_cancel_left ..
  rw [boxes?, size, inside, List.drop_left, List.take_left, if_neg]
  rw [List.length_append]
  omega

/-- No bytes are no boxes. -/
@[simp] lemma boxes?_nil : boxes? [] = some [] := by
  rw [boxes?]

/-- The fields of a full box stand behind its version, which is zero, and its flags. -/
@[simp] lemma fields?_full (flags : UInt8) (payload : Bytes) :
    fields? (0 :: 0 :: 0 :: flags :: payload) = some payload := rfl

/-- Boxes that are laid out one behind the other. -/
def concat (found : List (FourCC × Bytes)) : Bytes :=
  found.flatMap fun box => Box.build box.1 box.2

/-- No boxes have no bytes. -/
@[simp] lemma concat_nil : concat [] = [] := rfl

/-- The bytes of a box come in front of those of the boxes behind it. -/
@[simp] lemma concat_cons (box : FourCC × Bytes) (rest : List (FourCC × Bytes)) :
    concat (box :: rest) = Box.build box.1 box.2 ++ concat rest := rfl

/-- Boxes are read as they were laid out. -/
lemma boxes?_concat_of_each {found : List (FourCC × Bytes)}
    (small : ∀ box ∈ found, box.2.length + 8 < 0x100000000) : boxes? (concat found) = some found := by
  induction found with
  | nil => exact boxes?_nil
  | cons box rest ih =>
    rw [concat_cons, boxes?_build _ (small box List.mem_cons_self),
      ih fun other inside => small other (List.mem_cons_of_mem _ inside)]
    rfl

/-- Boxes one behind the other are at least as long as one of them. -/
lemma length_le_concat {found : List (FourCC × Bytes)} {box : FourCC × Bytes} (inside : box ∈ found) :
    box.2.length + 8 ≤ (concat found).length := by
  induction found with
  | nil => cases inside
  | cons first rest ih =>
    rw [concat_cons, List.length_append, Box.length_build, Box.headerSize]
    rcases List.mem_cons.mp inside with rfl | inside
    · omega
    · have later := ih inside
      omega

/-- Boxes that are written one behind the other are read again. -/
lemma boxes?_concat {found : List (FourCC × Bytes)} (small : (concat found).length < 0x100000000) :
    boxes? (concat found) = some found :=
  boxes?_concat_of_each fun _ inside => Nat.lt_of_le_of_lt (length_le_concat inside) small

/-- The first box of a type is found among boxes that are written one behind the other. -/
lemma child?_concat (type : FourCC) {found : List (FourCC × Bytes)}
    (small : (concat found).length < 0x100000000) : child? type (concat found) = found.lookup type := by
  rw [child?, boxes?_concat small, Option.bind_some]

/-- What stands in a box is shorter than all boxes together. -/
lemma length_of_lookup {type : FourCC} {found : List (FourCC × Bytes)} {payload : Bytes}
    (there : found.lookup type = some payload) : payload.length + 8 ≤ (concat found).length := by
  induction found with
  | nil => cases there
  | cons box rest ih =>
    rw [List.lookup_cons] at there
    split at there
    · cases there
      exact length_le_concat List.mem_cons_self
    · have later := ih there
      rw [concat_cons, List.length_append]
      omega

/-- A number of the right width is read from the front. -/
lemma number?_append {field : Bytes} {width : Nat} (exact_ : field.length = width) (rest : Bytes) :
    number? width (field ++ rest) = some (Bytes.toNat field, rest) := by
  subst exact_
  rw [number?, if_pos (by simp), List.take_left, List.drop_left]

/-- A 32-bit number that was written is read again. -/
lemma number?_be32 {n : Nat} (narrow : n < 0x100000000) (rest : Bytes) :
    number? 4 (Bytes.be32 n ++ rest) = some (n, rest) := by
  rw [number?_append (Bytes.length_be32 n), Bytes.toNat_be32, Nat.mod_eq_of_lt narrow]

/-- A 16-bit number that was written is read again. -/
lemma number?_be16 {n : Nat} (narrow : n < 0x10000) (rest : Bytes) :
    number? 2 (Bytes.be16 n ++ rest) = some (n, rest) := by
  rw [number?_append (Bytes.length_be16 n), Bytes.toNat_be16, Nat.mod_eq_of_lt narrow]

/-- Rows of one width that are written one behind the other are read again. -/
lemma rows_flatten {width : Nat} {items : List Bytes} (same : ∀ item ∈ items, item.length = width) :
    rows width items.length items.flatten = items := by
  induction items with
  | nil => rfl
  | cons item rest ih =>
    have first := same item List.mem_cons_self
    rw [List.length_cons, List.flatten_cons, rows, List.take_left' first, List.drop_left' first,
      ih fun other inside => same other (List.mem_cons_of_mem _ inside)]

/-- Rows of one width are as long as their number times that width. -/
lemma length_flatten_of_rows {width : Nat} {items : List Bytes}
    (same : ∀ item ∈ items, item.length = width) : items.flatten.length = items.length * width := by
  induction items with
  | nil => simp
  | cons item rest ih =>
    rw [List.flatten_cons, List.length_append, same item List.mem_cons_self,
      ih fun other inside => same other (List.mem_cons_of_mem _ inside), List.length_cons, Nat.succ_mul,
      Nat.add_comm]

/-- A table is read row by row. -/
lemma table?_entries {width : Nat} {items : List Bytes} (same : ∀ item ∈ items, item.length = width)
    (few : items.length < 0x100000000) : table? width (SampleTable.entries items) = some items := by
  simp only [table?, SampleTable.entries, number?_be32 few, Option.bind_eq_bind, Option.bind_some]
  rw [if_pos (length_flatten_of_rows same), rows_flatten same]

/-- A table of numbers is read if every field holds its number. -/
lemma numbers?_entries {α : Type} {width : Nat} {items : List α} {field : α → Bytes} {value : α → Nat}
    (same : ∀ item ∈ items, (field item).length = width)
    (holds : ∀ item ∈ items, Bytes.toNat (field item) = value item) (few : items.length < 0x100000000) :
    numbers? width (SampleTable.entries (items.map field)) = some (items.map value) := by
  have table := @table?_entries width (items.map field) (by simpa using same) (by simpa using few)
  rw [numbers?, table, Option.map_some, List.map_map]
  congr 1
  exact List.map_congr_left holds

/-- A table of pairs is read if every row holds its pair. -/
lemma pairs?_entries {α : Type} {width : Nat} {items : List α} {row : α → Bytes} {pair : α → Nat × Nat}
    (same : ∀ item ∈ items, (row item).length = width)
    (holds : ∀ item ∈ items,
      (Bytes.toNat ((row item).take 4), Bytes.toNat (((row item).drop 4).take 4)) = pair item)
    (few : items.length < 0x100000000) :
    pairs? width (SampleTable.entries (items.map row)) = some (items.map pair) := by
  have table := @table?_entries width (items.map row) (by simpa using same) (by simpa using few)
  rw [pairs?, table, Option.map_some, List.map_map]
  congr 1
  exact List.map_congr_left holds

/-- The NAL units of a sample are read as they were laid out. -/
lemma nals?_lengthPrefixed {units : List Bytes} (short : ∀ nal ∈ units, nal.length < 0x100000000) :
    nals? (lengthPrefixed units) = some units := by
  induction units with
  | nil => exact nals?.eq_1
  | cons nal rest ih =>
    have length := Bytes.toNat_be32 nal.length
    rw [Nat.mod_eq_of_lt (short nal List.mem_cons_self)] at length
    have field : ∃ l₀ l₁ l₂ l₃, Bytes.be32 nal.length = [l₀, l₁, l₂, l₃] := ⟨_, _, _, _, rfl⟩
    obtain ⟨l₀, l₁, l₂, l₃, field⟩ := field
    rw [field] at length
    have laid : lengthPrefixed (nal :: rest) = l₀ :: l₁ :: l₂ :: l₃ :: (nal ++ lengthPrefixed rest) := by
      rw [lengthPrefixed, List.flatMap_cons, field]
      rfl
    rw [laid, nals?, length, List.drop_left, List.take_left, if_neg (by simp),
      ih fun other inside => short other (List.mem_cons_of_mem _ inside)]
    rfl

end VideoCapture.Demux
