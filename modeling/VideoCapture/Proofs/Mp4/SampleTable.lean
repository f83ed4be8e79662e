import VideoCapture.Proofs.Mp4.Demux

/-!
# Sample tables are read back

Grouping samples into chunks, chunks into runs, and keyframes into a list of numbers loses nothing: each of
these steps is undone by a step of the reader (`distribute_group`, `expand_group`, `mark_syncNumbers`), for
samples at any positions. A sample table box with these tables therefore reads as the samples it was made
from (`samples?_stbl`).
-/

namespace VideoCapture
open Demux

namespace Chunk

/-- There are no more chunks than samples, and no chunk has more samples than there are. -/
lemma group_few (samples : List Sample) :
    (group samples).length ≤ samples.length ∧ ∀ chunk ∈ group samples, chunk.count ≤ samples.length := by
  induction samples with
  | nil => exact ⟨Nat.le_refl _, nofun⟩
  | cons sample rest ih =>
    obtain ⟨few, short⟩ := ih
    rw [group]
    split
    · simp
    · rename_i chunk chunks grouped
      rw [grouped] at few short
      have first := short chunk List.mem_cons_self
      simp only [List.length_cons] at few ⊢
      split
      · refine ⟨by simp only [List.length_cons]; omega, ?_⟩
        intro other inside
        rcases List.mem_cons.mp inside with rfl | inside
        · exact Nat.succ_le_succ first
        · exact Nat.le_succ_of_le (short other (List.mem_cons_of_mem _ inside))
      · refine ⟨by simp only [List.length_cons]; omega, ?_⟩
        intro other inside
        rcases List.mem_cons.mp inside with rfl | inside
        · exact Nat.succ_le_succ (Nat.zero_le _)
        · exact Nat.le_succ_of_le (short other inside)

/-- A chunk begins where one of its samples does. -/
lemma offset_of_mem_group {samples : List Sample} {chunk : Chunk} (inside : chunk ∈ group samples) :
    ∃ sample ∈ samples, chunk.offset = sample.offset := by
  induction samples generalizing chunk with
  | nil => cases inside
  | cons sample rest ih =>
    rw [group] at inside
    have later : ∀ {chunk}, chunk ∈ group rest → ∃ other ∈ sample :: rest, chunk.offset = other.offset := by
      intro chunk inside
      obtain ⟨other, among, same⟩ := ih inside
      exact ⟨other, List.mem_cons_of_mem _ among, same⟩
    split at inside
    · rcases List.mem_singleton.mp inside with rfl
      exact ⟨sample, List.mem_cons_self, rfl⟩
    · rename_i first chunks grouped
      rw [grouped] at later
      split at inside <;> rcases List.mem_cons.mp inside with rfl | inside
      · exact ⟨sample, List.mem_cons_self, rfl⟩
      · exact later (List.mem_cons_of_mem _ inside)
      · exact ⟨sample, List.mem_cons_self, rfl⟩
      · exact later inside

end Chunk

/-- A chunk of one sample takes one size. -/
lemma distribute_single (offset size : Nat) (chunks : List (Nat × Nat)) (sizes : List Nat) :
    distribute ((offset, 1) :: chunks) (size :: sizes) =
      (distribute chunks sizes).map fun others => (offset, size) :: others := by
  rw [distribute, if_neg (by simp)]
  rfl

/-- A chunk that begins one sample earlier takes one size more. -/
lemma distribute_extend {offset size count : Nat} {chunks : List (Nat × Nat)} {sizes : List Nat}
    {places : List (Nat × Nat)}
    (distributed : distribute ((offset + size, count) :: chunks) sizes = some places) :
    distribute ((offset, count + 1) :: chunks) (size :: sizes) = some ((offset, size) :: places) := by
  rw [distribute] at distributed
  split at distributed
  · cases distributed
  rename_i enough
  obtain ⟨others, rest, laid⟩ := Option.map_eq_some_iff.mp distributed
  rw [distribute, if_neg (by simpa using enough), List.drop_succ_cons, rest, List.take_succ_cons, layOut,
    ← laid]
  rfl

/-- A reader that distributes the sizes over the chunks finds the samples where they are, with gaps between
them or without. -/
lemma distribute_group {samples : List Sample}
    (within : ∀ sample ∈ samples, sample.offset + sample.size < 0x10000000000000000) :
    distribute ((Chunk.group samples).map fun chunk => (chunk.offset, chunk.count))
      (samples.map Sample.size) = some (samples.map fun sample => (sample.offset, sample.size)) := by
  induction samples with
  | nil => rfl
  | cons sample rest ih =>
    have ih := ih fun other inside => within other (List.mem_cons_of_mem _ inside)
    have stop : sample.stop = sample.offset + sample.size :=
      Nat.mod_eq_of_lt (within sample List.mem_cons_self)
    rw [Chunk.group]
    split
    · rename_i no_chunks
      rw [no_chunks] at ih
      rw [List.map_cons, List.map_cons, distribute_single, ih]
      rfl
    · rename_i chunk chunks grouped
      rw [grouped] at ih
      split
      · -- the sample is put in front of the chunk that begins where it ends
        rename_i adjacent
        rw [List.map_cons, ← adjacent, stop] at ih
        exact distribute_extend ih
      · have single := distribute_single sample.offset sample.size
          ((chunk :: chunks).map fun chunk => (chunk.offset, chunk.count)) (rest.map Sample.size)
        rw [ih] at single
        exact single

namespace ChunkRun

/-- What a reader makes of a run. -/
def pair (run : ChunkRun) : Nat × Nat :=
  (run.first, run.count)

/-- There are no more runs than chunks, and a run tells the number and the size of one of them. -/
lemma groupFrom_few (number : Nat) (previous : Option Nat) (chunks : List Chunk) :
    (groupFrom number previous chunks).length ≤ chunks.length ∧
      ∀ run ∈ groupFrom number previous chunks,
        run.first < number + chunks.length ∧ ∃ chunk ∈ chunks, run.count = chunk.count := by
  induction chunks generalizing number previous with
  | nil => exact ⟨Nat.le_refl _, nofun⟩
  | cons chunk rest ih =>
    obtain ⟨few, inside⟩ := ih (number + 1) (some chunk.count)
    have later : ∀ run ∈ groupFrom (number + 1) (some chunk.count) rest,
        run.first < number + (rest.length + 1) ∧ ∃ other ∈ chunk :: rest, run.count = other.count := by
      intro run among
      obtain ⟨below, other, there, same⟩ := inside run among
      exact ⟨by omega, other, List.mem_cons_of_mem _ there, same⟩
    rw [groupFrom, List.length_cons]
    split
    · exact ⟨Nat.le_succ_of_le few, later⟩
    · refine ⟨Nat.succ_le_succ few, ?_⟩
      intro run among
      rcases List.mem_cons.mp among with rfl | among
      · exact ⟨Nat.lt_add_of_pos_right (Nat.succ_pos _), chunk, List.mem_cons_self, rfl⟩
      · exact later run among

/-- The number of the first chunk that runs are about. -/
def start (stop : Nat) (runs : List ChunkRun) : Nat :=
  (runs.head?.map ChunkRun.first).getD stop

/-- A run reaches up to the one behind it. -/
lemma expand_cons (stop : Nat) (run : ChunkRun) (runs : List ChunkRun) :
    expand stop ((run :: runs).map pair) =
      List.replicate (start stop runs - run.first) run.count ++ expand stop (runs.map pair) := by
  cases runs <;> rfl

/-- Runs tell the size of every chunk, given the size of those in front of the first run. -/
lemma expand_groupFrom (number count : Nat) (chunks : List Chunk) :
    number ≤ start (number + chunks.length) (groupFrom number (some count) chunks) ∧
      List.replicate (start (number + chunks.length) (groupFrom number (some count) chunks) - number) count ++
          expand (number + chunks.length) ((groupFrom number (some count) chunks).map pair) =
        chunks.map Chunk.count := by
  induction chunks generalizing number count with
  | nil => simp [groupFrom, start, expand]
  | cons chunk rest ih =>
    obtain ⟨above, expanded⟩ := ih (number + 1) chunk.count
    rw [Nat.add_assoc, Nat.add_comm 1] at above expanded
    rw [groupFrom, List.length_cons]
    generalize groupFrom (number + 1) (some chunk.count) rest = runs at above expanded
    generalize number + (rest.length + 1) = stop at above expanded
    -- the chunk itself is one more than those the runs behind it leave out
    have one_more : start stop runs - number = start stop runs - (number + 1) + 1 := by omega
    split
    · rename_i same
      cases same
      refine ⟨by omega, ?_⟩
      rw [one_more, List.replicate_succ, List.cons_append, expanded, List.map_cons]
    · refine ⟨Nat.le_refl _, ?_⟩
      have begins : start stop (⟨number, chunk.count⟩ :: runs) = number := rfl
      rw [begins, Nat.sub_self, List.replicate_zero, List.nil_append, expand_cons, one_more,
        List.replicate_succ, List.cons_append, expanded, List.map_cons]

/-- A reader that expands the runs finds the size of every chunk. -/
lemma expand_group (chunks : List Chunk) :
    expand (chunks.length + 1) ((group chunks).map pair) = chunks.map Chunk.count := by
  cases chunks with
  | nil => rfl
  | cons chunk rest =>
    obtain ⟨above, expanded⟩ := expand_groupFrom 2 chunk.count rest
    have grouped : group (chunk :: rest) = ⟨1, chunk.count⟩ :: groupFrom 2 (some chunk.count) rest := rfl
    have stop : (chunk :: rest).length + 1 = 2 + rest.length := by
      rw [List.length_cons]
      omega
    -- the first chunk always begins a run
    rw [grouped, expand_cons, stop]
    generalize groupFrom 2 (some chunk.count) rest = runs at above expanded
    have one_more : start (2 + rest.length) runs - 1 = start (2 + rest.length) runs - 2 + 1 := by omega
    rw [one_more, List.replicate_succ, List.cons_append, expanded, List.map_cons]

end ChunkRun

namespace SampleTable

/-- The number of a keyframe is the number of one of the samples. -/
lemma mem_syncNumbers {samples : List Sample} {number n : Nat} (inside : n ∈ syncNumbers number samples) :
    number ≤ n ∧ n < number + samples.length := by
  induction samples generalizing number with
  | nil => cases inside
  | cons sample rest ih =>
    have later : n ∈ syncNumbers (number + 1) rest → number ≤ n ∧ n < number + (rest.length + 1) := by
      intro inside
      obtain ⟨above, below⟩ := ih inside
      exact ⟨by omega, by omega⟩
    rw [syncNumbers] at inside
    split at inside
    · rcases List.mem_cons.mp inside with rfl | inside
      · exact ⟨Nat.le_refl _, by rw [List.length_cons]; omega⟩
      · exact later inside
    · exact later inside

/-- There are no more keyframes than samples. -/
lemma length_syncNumbers (number : Nat) (samples : List Sample) :
    (syncNumbers number samples).length ≤ samples.length := by
  induction samples generalizing number with
  | nil => exact Nat.le_refl _
  | cons sample rest ih =>
    rw [syncNumbers]
    split
    · exact Nat.succ_le_succ (ih _)
    · exact Nat.le_succ_of_le (ih _)

/-- Numbers that agree with the sync numbers as far as there are samples mark the samples. -/
lemma mark_of_agree {sync : List Nat} {number : Nat} {samples : List Sample}
    (agree : ∀ n, number ≤ n → (n ∈ sync ↔ n ∈ syncNumbers number samples)) :
    mark sync number (samples.map fun sample => (sample.offset, sample.size)) = samples := by
  induction samples generalizing number with
  | nil => rfl
  | cons sample rest ih =>
    -- the numbers behind the first sample are all larger than its own
    have not_later : number ∉ syncNumbers (number + 1) rest := by
      intro inside
      have above := (mem_syncNumbers inside).1
      omega
    have later : ∀ n, number + 1 ≤ n → (n ∈ sync ↔ n ∈ syncNumbers (number + 1) rest) := by
      intro n above
      rw [agree n (by omega), syncNumbers]
      split
      · rw [List.mem_cons]
        exact or_iff_right (by omega)
      · rfl
    have here : sync.contains number = sample.isKeyframe := by
      have at_number := agree number (Nat.le_refl _)
      rw [syncNumbers] at at_number
      cases key : sample.isKeyframe with
      | true => simp [at_number, key]
      | false => simp [at_number, key, not_later]
    rw [List.map_cons, mark, ih later, here]

/-- A reader that looks the samples' numbers up knows the ones that refresh the decoder. -/
lemma mark_syncNumbers (samples : List Sample) :
    mark (syncNumbers 1 samples) 1 (samples.map fun sample => (sample.offset, sample.size)) = samples :=
  mark_of_agree fun _ _ => Iff.rfl

/-- The box with the positions of the chunks. -/
def offsetsBox (chunks : List Chunk) : FourCC × Bytes :=
  if needsWideOffsets chunks then
    (.ofChars 'c' 'o' '6' '4', 0 :: 0 :: 0 :: 0 :: entries (chunks.map fun chunk => Bytes.be64 chunk.offset))
  else
    (.ofChars 's' 't' 'c' 'o', 0 :: 0 :: 0 :: 0 :: entries (chunks.map fun chunk => Bytes.be32 chunk.offset))

/-- The offsets of chunks are one box, whatever the width of its entries. -/
lemma chunkOffsets_eq (chunks : List Chunk) :
    chunkOffsets chunks = Box.build (offsetsBox chunks).1 (offsetsBox chunks).2 := by
  rw [chunkOffsets, offsetsBox]
  split <;> rfl

/-- The boxes of a sample table behind the sample description. -/
def tables (samples : List Sample) : List (FourCC × Bytes) :=
  let chunks := Chunk.group samples
  [(.ofChars 's' 't' 't' 's', 0 :: 0 :: 0 :: 0 :: entries
      (if samples.length = 0 then [] else [Bytes.be32 samples.length ++ Bytes.be32 Track.sampleTicks])),
    (.ofChars 's' 't' 's' 'c', 0 :: 0 :: 0 :: 0 :: entries ((ChunkRun.group chunks).map fun run =>
      Bytes.be32 run.first ++ Bytes.be32 run.count ++ Bytes.be32 1)),
    (.ofChars 's' 't' 's' 'z', 0 :: 0 :: 0 :: 0 ::
      (Bytes.be32 0 ++ entries (samples.map fun sample => Bytes.be32 sample.size))),
    offsetsBox chunks,
    (.ofChars 's' 't' 's' 's', 0 :: 0 :: 0 :: 0 :: entries ((syncNumbers 1 samples).map Bytes.be32))]

/-- The tables of samples come in their order, the one of keyframes last. -/
lemma concat_tables (samples : List Sample) :
    concat (tables samples) = stts samples.length ++ stsc (Chunk.group samples) ++ stsz samples ++
      chunkOffsets (Chunk.group samples) ++ stss samples := by
  simp only [tables, concat_cons, concat_nil, List.append_nil, chunkOffsets_eq, stts, stsc, stsz, stss,
    Box.buildFull, List.cons_append, List.nil_append, List.append_assoc]

/-- There is room for every sample's size. -/
lemma length_le_concat_tables (samples : List Sample) :
    4 * samples.length ≤ (concat (tables samples)).length := by
  have sizes : (entries (samples.map fun sample => Bytes.be32 sample.size)).length =
      4 + 4 * samples.length := by
    rw [entries, List.length_append, Bytes.length_be32, @length_flatten_of_rows 4 _ (by simp),
      List.length_map, Nat.mul_comm]
  simp only [concat_tables, stsz, List.length_append, Box.length_buildFull, sizes]
  omega

variable {first : FourCC × Bytes} {samples : List Sample}

/-- A sample table box whose first box has another type. -/
lemma child?_tables {type : FourCC} (other : (type == first.1) = false)
    (small : (concat (first :: tables samples)).length < 0x100000000) :
    child? type (concat (first :: tables samples)) = (tables samples).lookup type := by
  rw [child?_concat type small, List.lookup_cons, other]

/-- A reader finds the positions of the chunks, be they narrow or wide. -/
lemma chunkOffsets?_tables (description : first.1 = .ofChars 's' 't' 's' 'd')
    (small : (concat (first :: tables samples)).length < 0x100000000)
    (within : ∀ sample ∈ samples, sample.offset + sample.size < 0x10000000000000000) :
    chunkOffsets? (concat (first :: tables samples)) =
      some ((Chunk.group samples).map Chunk.offset) := by
  have few : (Chunk.group samples).length < 0x100000000 := by
    have all := length_le_concat_tables samples
    have some_ := (Chunk.group_few samples).1
    rw [concat_cons, List.length_append] at small
    omega
  have narrow := @child?_tables first samples (.ofChars 's' 't' 'c' 'o') (by rw [description]; rfl) small
  have wide := @child?_tables first samples (.ofChars 'c' 'o' '6' '4') (by rw [description]; rfl) small
  -- only one of the two boxes is there
  rw [chunkOffsets?, narrow, wide]
  cases needed : needsWideOffsets (Chunk.group samples) with
  | false =>
    have found : (tables samples).lookup (.ofChars 's' 't' 'c' 'o') = some (0 :: 0 :: 0 :: 0 ::
        entries ((Chunk.group samples).map fun chunk => Bytes.be32 chunk.offset)) := by
      simp only [tables, offsetsBox, needed]
      rfl
    rw [found]
    dsimp only
    rw [fields?_full, Option.bind_some]
    refine numbers?_entries (fun _ _ => rfl) ?_ few
    intro chunk inside
    rw [needsWideOffsets, List.any_eq_false] at needed
    have below : ¬ Track.maxField < chunk.offset := by simpa using needed chunk inside
    rw [Track.maxField] at below
    rw [Bytes.toNat_be32, Nat.mod_eq_of_lt (by omega)]
  | true =>
    have found : (tables samples).lookup (.ofChars 'c' 'o' '6' '4') = some (0 :: 0 :: 0 :: 0 ::
        entries ((Chunk.group samples).map fun chunk => Bytes.be64 chunk.offset)) := by
      simp only [tables, offsetsBox, needed]
      rfl
    have missing : (tables samples).lookup (.ofChars 's' 't' 'c' 'o') = none := by
      simp only [tables, offsetsBox, needed]
      rfl
    rw [found, missing]
    dsimp only
    rw [Option.bind_eq_bind, Option.bind_some, fields?_full, Option.bind_some]
    refine numbers?_entries (fun _ _ => rfl) ?_ few
    intro chunk inside
    obtain ⟨sample, among, same⟩ := Chunk.offset_of_mem_group inside
    have below := within sample among
    rw [Bytes.toNat_be64, Nat.mod_eq_of_lt (by omega)]

/-- A reader finds the size of each sample. -/
lemma sizes?_samples (few : samples.length < 0x40000000) (narrow : ∀ sample ∈ samples, sample.size < 0x100000000) :
    sizes? (Bytes.be32 0 ++ entries (samples.map fun sample => Bytes.be32 sample.size)) =
      some (samples.map Sample.size) := by
  have holds : ∀ sample ∈ samples, Bytes.toNat (Bytes.be32 sample.size) = sample.size := by
    intro sample inside
    rw [Bytes.toNat_be32, Nat.mod_eq_of_lt (narrow sample inside)]
  rw [sizes?, number?_be32 (by decide)]
  exact numbers?_entries (fun _ _ => rfl) holds (by omega)

/-- A reader finds the runs of chunks. -/
lemma pairs?_runs (few : samples.length < 0x40000000) :
    pairs? 12 (entries ((ChunkRun.group (Chunk.group samples)).map fun run =>
      Bytes.be32 run.first ++ Bytes.be32 run.count ++ Bytes.be32 1)) =
        some ((ChunkRun.group (Chunk.group samples)).map ChunkRun.pair) := by
  obtain ⟨few_chunks, short⟩ := Chunk.group_few samples
  obtain ⟨few_runs, inside⟩ := ChunkRun.groupFrom_few 1 none (Chunk.group samples)
  refine pairs?_entries (fun _ _ => rfl) ?_ (by rw [ChunkRun.group]; omega)
  intro run among
  obtain ⟨below, chunk, there, same⟩ := inside run among
  have at_most := short chunk there
  rw [List.append_assoc, List.take_left' (Bytes.length_be32 _), List.drop_left' (Bytes.length_be32 _),
    List.take_left' (Bytes.length_be32 _), Bytes.toNat_be32, Bytes.toNat_be32,
    Nat.mod_eq_of_lt (by omega), Nat.mod_eq_of_lt (by omega), ChunkRun.pair]

/-- A reader finds the numbers of the samples that refresh the decoder. -/
lemma numbers?_syncNumbers (few : samples.length < 0x40000000) :
    numbers? 4 (entries ((syncNumbers 1 samples).map Bytes.be32)) = some (syncNumbers 1 samples) := by
  have fewer := length_syncNumbers 1 samples
  have holds : ∀ n ∈ syncNumbers 1 samples, Bytes.toNat (Bytes.be32 n) = id n := by
    intro n inside
    have below := (mem_syncNumbers inside).2
    rw [Bytes.toNat_be32, Nat.mod_eq_of_lt (by omega), id]
  have table := @numbers?_entries Nat 4 (syncNumbers 1 samples) Bytes.be32 id (fun _ _ => rfl) holds (by omega)
  rw [table, List.map_id]

/-- A reader finds the samples that the tables were made from, wherever they lie. -/
lemma samples?_tables (description : first.1 = .ofChars 's' 't' 's' 'd')
    (small : (concat (first :: tables samples)).length < 0x100000000)
    (narrow : ∀ sample ∈ samples, sample.size < 0x100000000)
    (within : ∀ sample ∈ samples, sample.offset + sample.size < 0x10000000000000000) :
    samples? (concat (first :: tables samples)) = some samples := by
  have few : samples.length < 0x40000000 := by
    have all := length_le_concat_tables samples
    rw [concat_cons, List.length_append] at small
    omega
  have stsz : child? (.ofChars 's' 't' 's' 'z') (concat (first :: tables samples)) = some (0 :: 0 :: 0 :: 0 ::
      (Bytes.be32 0 ++ entries (samples.map fun sample => Bytes.be32 sample.size))) :=
    child?_tables (by rw [description]; rfl) small
  have stsc : child? (.ofChars 's' 't' 's' 'c') (concat (first :: tables samples)) = some (0 :: 0 :: 0 :: 0 ::
      entries ((ChunkRun.group (Chunk.group samples)).map fun run =>
        Bytes.be32 run.first ++ Bytes.be32 run.count ++ Bytes.be32 1)) :=
    child?_tables (by rw [description]; rfl) small
  have stss : child? (.ofChars 's' 't' 's' 's') (concat (first :: tables samples)) = some (0 :: 0 :: 0 :: 0 ::
      entries ((syncNumbers 1 samples).map Bytes.be32)) := by
    rw [child?_tables (by rw [description]; rfl) small]
    cases needed : needsWideOffsets (Chunk.group samples) <;> simp only [tables, offsetsBox, needed] <;> rfl
  have places : ((Chunk.group samples).map Chunk.offset).zip
      (expand (((Chunk.group samples).map Chunk.offset).length + 1)
        ((ChunkRun.group (Chunk.group samples)).map ChunkRun.pair)) =
      (Chunk.group samples).map fun chunk => (chunk.offset, chunk.count) := by
    rw [List.length_map, ChunkRun.expand_group, List.zip_map']
  simp only [samples?, stsz, stsc, stss, Option.bind_eq_bind, Option.bind_some, fields?_full,
    sizes?_samples few narrow, pairs?_runs few, chunkOffsets?_tables description small within,
    numbers?_syncNumbers few, places, distribute_group within, Option.pure_def, mark_syncNumbers]

/-- A reader finds that all samples last equally long. -/
lemma durations?_tables (description : first.1 = .ofChars 's' 't' 's' 'd')
    (small : (concat (first :: tables samples)).length < 0x100000000) :
    durations? (concat (first :: tables samples)) =
      some (List.replicate samples.length Track.sampleTicks) := by
  have few : samples.length < 0x40000000 := by
    have all := length_le_concat_tables samples
    rw [concat_cons, List.length_append] at small
    omega
  have stts : child? (.ofChars 's' 't' 't' 's') (concat (first :: tables samples)) = some (0 :: 0 :: 0 :: 0 ::
      entries (if samples.length = 0 then []
        else [Bytes.be32 samples.length ++ Bytes.be32 Track.sampleTicks])) :=
    child?_tables (by rw [description]; rfl) small
  have pairs : pairs? 8 (entries (if samples.length = 0 then []
      else [Bytes.be32 samples.length ++ Bytes.be32 Track.sampleTicks])) =
        some (if samples.length = 0 then [] else [(samples.length, Track.sampleTicks)]) := by
    let row (n : Nat) : Bytes := Bytes.be32 n ++ Bytes.be32 Track.sampleTicks
    let pair (n : Nat) : Nat × Nat := (n, Track.sampleTicks)
    split
    · exact @pairs?_entries Nat 8 [] row pair nofun nofun (by decide)
    · refine @pairs?_entries Nat 8 [samples.length] row pair (fun _ _ => rfl) ?_ (by decide : 1 < 0x100000000)
      intro n inside
      rcases List.mem_singleton.mp inside with rfl
      dsimp only [row, pair]
      rw [List.take_left' (Bytes.length_be32 _), List.drop_left' (Bytes.length_be32 _), Bytes.toNat_be32,
        Nat.mod_eq_of_lt (by omega)]
      rfl
  simp only [durations?, stts, pairs, Option.bind_eq_bind, Option.bind_some, fields?_full, Option.pure_def]
  split
  · rename_i none_
    rw [none_]
    rfl
  · simp

end SampleTable

end VideoCapture
