import Mathlib.Tactic.Lemma
import VideoCapture.Bitstream.NalUnit

/-!
# NAL units as gaps

A byte stream cut at its start codes in one go (`StartCode.gaps`), with no unit looked for in particular. The
NAL units are the gaps behind the first code that are not empty (`NalUnit.payloads_eq`). It follows that a
stream can be cut in front of any start code that takes no byte from what precedes it
(`NalUnit.payloads_append`).
-/

namespace VideoCapture

namespace StartCode

/-- What stands in front of the first start code, and then what stands behind each start code. -/
def gaps : Bytes → List Bytes
  | [] => [[]]
  | b :: rest =>
    match _found : lengthAt? (b :: rest) with
    | some n => [] :: gaps ((b :: rest).drop n)
    | none => (gaps rest).modifyHead (b :: ·)
termination_by data => data.length
decreasing_by
  · have inside := lengthAt?_pos _found
    rw [List.length_drop]
    omega
  · exact Nat.lt_succ_self _

variable {data front back rest : Bytes} {b : UInt8} {n : Nat}

/-- Nothing at all is one empty gap. -/
@[simp] lemma gaps_nil : gaps [] = [[]] := by
  rw [gaps]

/-- The long start code has four bytes. -/
lemma lengthAt?_long (rest : Bytes) : lengthAt? (long ++ rest) = some 4 := rfl

/-- The short start code has three bytes. -/
lemma lengthAt?_short (rest : Bytes) : lengthAt? (short ++ rest) = some 3 := rfl

/-- There are two start codes. -/
lemma of_lengthAt? (found : lengthAt? data = some n) :
    ∃ rest, data = long ++ rest ∧ n = 4 ∨ data = short ++ rest ∧ n = 3 := by
  unfold lengthAt? at found
  split at found
  · rename_i begins
    cases found
    obtain ⟨rest, rfl⟩ := List.isPrefixOf_iff_prefix.mp begins
    exact ⟨rest, .inl ⟨rfl, rfl⟩⟩
  · split at found
    · rename_i begins
      cases found
      obtain ⟨rest, rfl⟩ := List.isPrefixOf_iff_prefix.mp begins
      exact ⟨rest, .inr ⟨rfl, rfl⟩⟩
    · cases found

/-- A start code ends an empty gap, and the other gaps follow behind it. -/
lemma gaps_of_code (found : lengthAt? data = some n) : gaps data = [] :: gaps (data.drop n) := by
  cases data with
  | nil => cases found
  | cons b rest =>
    rw [gaps]
    split
    · rename_i m found'
      cases found.symm.trans found'
      rfl
    · rename_i none_found
      cases found.symm.trans none_found

/-- A byte in front of which no start code begins belongs to the first gap. -/
lemma gaps_of_byte (no_code : lengthAt? (b :: rest) = none) :
    gaps (b :: rest) = (gaps rest).modifyHead (b :: ·) := by
  rw [gaps]
  split
  · rename_i m found
    cases no_code.symm.trans found
  · rfl

/-- There is always a first gap. -/
lemma gaps_cons (data : Bytes) : ∃ first others, gaps data = first :: others := by
  induction data with
  | nil => exact ⟨[], [], gaps_nil⟩
  | cons b rest ih =>
    cases found : lengthAt? (b :: rest) with
    | some n => exact ⟨_, _, gaps_of_code found⟩
    | none =>
      obtain ⟨first, others, parted⟩ := ih
      refine ⟨b :: first, others, ?_⟩
      rw [gaps_of_byte found, parted, List.modifyHead_cons]

/-- What follows begins with a start code, and no byte in front of it belongs to that code. -/
structure Severs (front back : Bytes) : Prop where
  code : (lengthAt? back).isSome
  /-- A zero byte in front of a short code would belong to it. -/
  apart : short <+: back → front.getLast? ≠ some 0

/-- A cut stays one when the first byte is taken away. -/
lemma Severs.of_cons (severs : Severs (b :: front) back) : Severs front back where
  code := severs.code
  apart begins zero := by
    apply severs.apart begins
    cases front with
    | nil => cases zero
    | cons c others =>
      rw [List.getLast?_cons_cons]
      exact zero

/-- A cut stays one when bytes in front of it are taken away. -/
lemma Severs.drop (severs : Severs front back) (n : Nat) : Severs (front.drop n) back := by
  induction n generalizing front with
  | zero => exact severs
  | succ n ih =>
    cases front with
    | nil => exact severs
    | cons b others => exact ih severs.of_cons

/-- Start codes are the same whether or not something follows behind the cut. -/
lemma Severs.lengthAt? (severs : Severs (b :: front) back) :
    lengthAt? (b :: front ++ back) = lengthAt? (b :: front) := by
  obtain ⟨n, found⟩ := Option.isSome_iff_exists.mp severs.code
  -- a start code has four bytes at most, so the first three in front of the cut decide
  obtain ⟨rest, ⟨rfl, rfl⟩ | ⟨rfl, rfl⟩⟩ := of_lengthAt? found
  · rcases front with _ | ⟨c, _ | ⟨d, _ | ⟨e, others⟩⟩⟩
    all_goals simp [StartCode.lengthAt?, long, short]
  · have apart := severs.apart (List.prefix_append short rest)
    rcases front with _ | ⟨c, _ | ⟨d, _ | ⟨e, others⟩⟩⟩
    · have nonzero : b ≠ 0 := by simpa using apart
      simp [StartCode.lengthAt?, long, short, nonzero.symm]
    · have nonzero : c ≠ 0 := by simpa using apart
      simp [StartCode.lengthAt?, long, short, nonzero.symm]
    · have nonzero : d ≠ 0 := by simpa using apart
      simp [StartCode.lengthAt?, long, short, nonzero.symm]
    · simp [StartCode.lengthAt?, long, short]

/-- The gaps of the parts are the gaps of the whole. -/
lemma gaps_append (severs : Severs front back) : gaps (front ++ back) = gaps front ++ (gaps back).tail := by
  induction front using gaps.induct with
  | case1 =>
    obtain ⟨n, found⟩ := Option.isSome_iff_exists.mp severs.code
    rw [List.nil_append, gaps_of_code found, gaps_nil, List.tail_cons, List.singleton_append]
  | case2 b front n found ih =>
    have inside := lengthAt?_pos found
    have same := severs.lengthAt?
    rw [found] at same
    rw [gaps_of_code same, gaps_of_code found, List.drop_append_of_le_length inside.2, ih (severs.drop n),
      List.cons_append]
  | case3 b front no_code ih =>
    have same := severs.lengthAt?
    rw [no_code, List.cons_append] at same
    obtain ⟨first, others, parted⟩ := gaps_cons front
    rw [List.cons_append, gaps_of_byte same, gaps_of_byte no_code, ih severs.of_cons, parted]
    rfl

/-- There is a cut in front of every start code that comes first. -/
lemma Severs.nil (code : (StartCode.lengthAt? back).isSome) : Severs [] back :=
  ⟨code, fun _ zero => by cases zero⟩

/-- A cut stays one behind another byte, unless that byte is a zero which belongs to the code. -/
lemma Severs.cons (severs : Severs front back) (apart : front = [] → short <+: back → b ≠ 0) :
    Severs (b :: front) back where
  code := severs.code
  apart begins := by
    cases front with
    | nil => simpa using apart rfl begins
    | cons c others =>
      rw [List.getLast?_cons_cons]
      exact severs.apart begins

/-- A cut lies inside of the data, as a start code follows it. -/
lemma Severs.lt_length {k : Nat} (severs : Severs (data.take k) (data.drop k)) : k < data.length := by
  obtain ⟨n, found⟩ := Option.isSome_iff_exists.mp severs.code
  have inside := lengthAt?_pos found
  rw [List.length_drop] at inside
  omega

/-- More bytes in front change nothing. -/
lemma Severs.append_left (severs : Severs front back) (some_byte : front ≠ []) (before : Bytes) :
    Severs (before ++ front) back where
  code := severs.code
  apart begins := by
    have last := severs.apart begins
    rw [List.getLast?_eq_some_getLast some_byte] at last
    rw [List.getLast?_append, List.getLast?_eq_some_getLast some_byte, Option.some_or]
    exact last

/-- The bytes up to the first start code are a gap, and the rest is cut off by that code. -/
lemma findFrom_severs (i : Nat) (data : Bytes) :
    (∃ k n, findFrom i data = some ⟨i + k, n⟩ ∧ Severs (data.take k) (data.drop k) ∧
      gaps (data.take k) = [data.take k]) ∨
    findFrom i data = none ∧ gaps data = [data] := by
  induction data generalizing i with
  | nil => exact .inr ⟨rfl, gaps_nil⟩
  | cons b rest ih =>
    rw [findFrom]
    cases found : lengthAt? (b :: rest) with
    | some n =>
      refine .inl ⟨0, n, rfl, ?_, gaps_nil⟩
      exact Severs.nil (by rw [List.drop_zero, found, Option.isSome_some])
    | none =>
      rcases ih (i + 1) with ⟨k, n, later, severs, gap⟩ | ⟨none_later, gap⟩
      · -- a zero byte in front of the short code found later would have made a long code of it here
        have severs' : Severs (b :: rest.take k) (rest.drop k) := by
          refine severs.cons ?_
          rintro empty begins rfl
          have whole := List.take_append_drop k rest
          rw [empty, List.nil_append] at whole
          rw [whole] at begins
          obtain ⟨others, rfl⟩ := begins
          cases found
        have no_code := severs'.lengthAt?
        rw [List.cons_append, List.take_append_drop, found] at no_code
        refine .inl ⟨k + 1, n, ?_, severs', ?_⟩
        · rw [Nat.add_assoc, Nat.add_comm 1] at later
          exact later
        · rw [List.take_succ_cons, gaps_of_byte no_code.symm, gap]
          rfl
      · refine .inr ⟨none_later, ?_⟩
        rw [gaps_of_byte found, gap]
        rfl

/-- The first gap ends where it is said to end. -/
lemma gaps_gapLength (data : Bytes) :
    gaps data = data.take (gapLength data) :: (gaps (data.drop (gapLength data))).tail := by
  unfold gapLength find?
  rcases findFrom_severs 0 data with ⟨k, n, found, severs, gap⟩ | ⟨none_found, gap⟩
  · rw [List.drop_zero, found]
    have whole := gaps_append severs
    rw [List.take_append_drop, gap, List.singleton_append] at whole
    simpa using whole
  · rw [List.drop_zero, none_found]
    simpa using gap

/-- Behind the first gap there is nothing or the next start code. -/
lemma gapLength_severs (data : Bytes) :
    data.drop (gapLength data) = [] ∨ Severs (data.take (gapLength data)) (data.drop (gapLength data)) := by
  unfold gapLength find?
  rcases findFrom_severs 0 data with ⟨k, n, found, severs, -⟩ | ⟨none_found, -⟩
  · rw [List.drop_zero, found]
    simpa using .inr severs
  · rw [List.drop_zero, none_found]
    exact .inl List.drop_length

/-- The first gap is no longer than the data. -/
lemma gapLength_le (data : Bytes) : gapLength data ≤ data.length := by
  unfold gapLength find?
  rcases findFrom_severs 0 data with ⟨k, n, found, severs, -⟩ | ⟨none_found, -⟩
  · rw [List.drop_zero, found, Nat.zero_add]
    exact Nat.le_of_lt severs.lt_length
  · simp only [List.drop_zero, none_found, Nat.le_refl]

/-- The gaps behind start codes that are not empty. -/
def filled (data : Bytes) : List Bytes :=
  (gaps data).tail.filter fun gap => !gap.isEmpty

/-- Nothing is found at a start code that has no unit behind it, and looking on behind its first byte finds
the same as looking on behind the code. -/
lemma filled_of_empty (found : lengthAt? (b :: rest) = some n) (empty : opensUnit ((b :: rest).drop n) = false) :
    filled (b :: rest) = filled rest := by
  have first_empty : ∀ others, opensUnit others = false →
      (gaps others).filter (fun gap => !gap.isEmpty) = filled others := by
    intro others closed
    have parted : ∃ more, gaps others = [] :: more := by
      cases others with
      | nil => exact ⟨[], gaps_nil⟩
      | cons c others =>
        cases code : lengthAt? (c :: others) with
        | some m => exact ⟨_, gaps_of_code code⟩
        | none => simp [opensUnit, code] at closed
    obtain ⟨more, parted⟩ := parted
    simp [filled, parted]
  -- behind its first byte a long code is a short one, and a short code is none
  obtain ⟨others, ⟨laid, rfl⟩ | ⟨laid, rfl⟩⟩ := of_lengthAt? found
  · cases laid
    have inner : gaps (0 :: 0 :: 1 :: others) = [] :: gaps others := gaps_of_code (lengthAt?_short others)
    have outer : gaps (0 :: 0 :: 0 :: 1 :: others) = [] :: gaps others := gaps_of_code (lengthAt?_long others)
    show filled (0 :: 0 :: 0 :: 1 :: others) = filled (0 :: 0 :: 1 :: others)
    rw [filled, outer, filled, inner]
  · cases laid
    have outer : gaps (0 :: 0 :: 1 :: others) = [] :: gaps others := gaps_of_code (lengthAt?_short others)
    have inner : (gaps (0 :: 1 :: others)).tail = (gaps others).tail := by
      obtain ⟨first, more, parted⟩ := gaps_cons others
      rw [gaps_of_byte rfl, gaps_of_byte rfl, parted]
      rfl
    show filled (0 :: 0 :: 1 :: others) = filled (0 :: 1 :: others)
    rw [filled, outer, List.tail_cons, first_empty others empty, filled, filled, inner]

/-- A byte in front of which no start code begins changes nothing about the gaps behind start codes. -/
lemma filled_of_byte (no_code : lengthAt? (b :: rest) = none) : filled (b :: rest) = filled rest := by
  obtain ⟨first, others, parted⟩ := gaps_cons rest
  rw [filled, gaps_of_byte no_code, filled, parted]
  rfl

/-- The first start code with a unit behind it stands at position `k` and has length `n`. -/
structure Opening (data : Bytes) (k n : Nat) : Prop where
  code : lengthAt? (data.drop k) = some n
  opens : opensUnit (data.drop (k + n)) = true
  severs : Severs (data.take k) (data.drop k)
  units : filled data = (gaps (data.drop (k + n))).filter fun gap => !gap.isEmpty

/-- The first start code with a unit is the same one behind another byte that changes nothing about the filled
gaps. -/
lemma Opening.cons {k : Nat} (opening : Opening rest k n) (same : filled (b :: rest) = filled rest)
    (apart : k = 0 → n = 3 → b ≠ 0) : Opening (b :: rest) (k + 1) n where
  code := opening.code
  opens := by
    rw [Nat.add_right_comm]
    exact opening.opens
  severs := by
    refine opening.severs.cons ?_
    intro empty begins
    have code := opening.code
    rcases List.take_eq_nil_iff.mp empty with rfl | rfl
    · obtain ⟨others, laid⟩ := begins
      rw [← laid, lengthAt?_short] at code
      exact apart rfl (Option.some.inj code).symm
    · rw [List.drop_nil] at code
      cases code
  units := by
    rw [Nat.add_right_comm, same]
    exact opening.units

/-- A search for the first start code with a unit finds it, and fails only where there is no unit. -/
lemma opening_of_openingFrom (i : Nat) (data : Bytes) :
    (∃ k n, openingFrom i data = some ⟨i + k, n⟩ ∧ Opening data k n) ∨
    openingFrom i data = none ∧ filled data = [] := by
  induction data generalizing i with
  | nil => exact .inr ⟨rfl, by simp [filled]⟩
  | cons b rest ih =>
    -- looking on behind the first byte
    have later : filled (b :: rest) = filled rest → (∀ n, Opening rest 0 n → n = 3 → b ≠ 0) →
        (∃ k n, openingFrom (i + 1) rest = some ⟨i + k, n⟩ ∧ Opening (b :: rest) k n) ∨
        openingFrom (i + 1) rest = none ∧ filled (b :: rest) = [] := by
      intro same apart
      rcases ih (i + 1) with ⟨k, n, found, opening⟩ | ⟨none_found, nothing⟩
      · refine .inl ⟨k + 1, n, ?_, opening.cons same ?_⟩
        · rw [found, Nat.add_assoc, Nat.add_comm 1]
        · rintro rfl
          exact apart n opening
      · exact .inr ⟨none_found, same.trans nothing⟩
    rw [openingFrom]
    cases code : lengthAt? (b :: rest) with
    | none =>
      refine later (filled_of_byte code) ?_
      rintro n opening rfl rfl
      obtain ⟨others, ⟨-, impossible⟩ | ⟨laid, -⟩⟩ := of_lengthAt? opening.code
      · cases impossible
      · rw [List.drop_zero] at laid
        rw [laid] at code
        cases code
    | some n =>
      dsimp only
      split
      · rename_i opens
        refine .inl ⟨0, n, rfl, code, ?_, Severs.nil ?_, ?_⟩
        · rw [Nat.zero_add]
          exact opens
        · rw [List.drop_zero, code, Option.isSome_some]
        · rw [filled, gaps_of_code code, Nat.zero_add, List.tail_cons]
      · rename_i closed
        refine later (filled_of_empty code (Bool.eq_false_iff.mpr closed)) ?_
        rintro m opening rfl rfl
        obtain ⟨others, ⟨-, impossible⟩ | ⟨laid, -⟩⟩ := of_lengthAt? opening.code
        · cases impossible
        · rw [List.drop_zero] at laid
          rw [laid] at code
          -- a zero byte and the short code behind it are a long code, which would have opened a unit here
          cases (lengthAt?_long others).symm.trans code
          have opens := opening.opens
          rw [laid] at opens
          rw [laid] at closed
          exact closed opens

end StartCode

end VideoCapture
