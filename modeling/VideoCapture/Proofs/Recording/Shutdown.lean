import Mathlib.Data.List.Nodup
import VideoCapture.Proofs.Recording.Locality
import VideoCapture.Proofs.Recording.Registry

/-!
# Emergencies

In an emergency the muxers that stream and are not locked are finalized, one after the other, in the order in which the
registry is visited, and nothing else happens (`Registry.shutDownInOrder_eq`). From that follows what the report says,
which muxers stream afterwards, and which files have changed (`Registry.shutsDown`).
-/

namespace VideoCapture

namespace RegistryEntry

/-- Whether an emergency finalizes the muxer: it streams, and nobody has locked it. -/
def isAttempted (locked : List Nat) (entry : RegistryEntry) : Bool :=
  entry.id ∉ locked && entry.muxer.isStreaming

/-- A registered muxer behind an emergency. -/
def shut (locked : List Nat) (entry : RegistryEntry) : RegistryEntry :=
  if entry.id ∈ locked then entry else { entry with muxer := entry.muxer.closed }

/-- Finalizes muxers one after the other, and tells what became of each. -/
def finalizeEach (now : Nat) : List RegistryEntry → Disk → List (Nat × Except CaptureError RecordingSummary) × Disk
  | [], disk => ([], disk)
  | entry :: rest, disk =>
    let (result, _, disk) := entry.muxer.finalize disk now
    let (others, disk) := finalizeEach now rest disk
    ((entry.id, result) :: others, disk)

/-- A file that one of some muxers writes to. -/
def Touch (entries : List RegistryEntry) (file : Nat) : Prop :=
  ∃ entry ∈ entries, entry.muxer.fileId? = some file

variable {now : Nat} {entry : RegistryEntry} {entries : List RegistryEntry} {disk : Disk} {locked : List Nat}

/-- A muxer keeps its number in an emergency. -/
@[simp] lemma id_shut : (entry.shut locked).id = entry.id := by
  rw [shut]
  split <;> rfl

/-- The first muxer is finalized before the others. -/
lemma finalizeEach_cons (now : Nat) (entry : RegistryEntry) (rest : List RegistryEntry) (disk : Disk) :
    finalizeEach now (entry :: rest) disk =
      ((entry.id, (entry.muxer.finalize disk now).1) :: (finalizeEach now rest (entry.muxer.finalize disk now).2.2).1,
        (finalizeEach now rest (entry.muxer.finalize disk now).2.2).2) :=
  rfl

/-- Muxers that are finalized in two parts are finalized one after the other. -/
lemma finalizeEach_append (one two : List RegistryEntry) (disk : Disk) :
    finalizeEach now (one ++ two) disk =
      ((finalizeEach now one disk).1 ++ (finalizeEach now two (finalizeEach now one disk).2).1,
        (finalizeEach now two (finalizeEach now one disk).2).2) := by
  induction one generalizing disk with
  | nil => rfl
  | cons entry rest ih => simp only [List.cons_append, finalizeEach_cons, ih]

/-- There is a result for each muxer, under its number. -/
lemma map_fst_finalizeEach (entries : List RegistryEntry) (disk : Disk) :
    (finalizeEach now entries disk).1.map Prod.fst = entries.map RegistryEntry.id := by
  induction entries generalizing disk with
  | nil => rfl
  | cons entry rest ih => rw [finalizeEach_cons, List.map_cons, List.map_cons, ih]

/-- There are as many results as muxers. -/
lemma length_finalizeEach (entries : List RegistryEntry) (disk : Disk) :
    (finalizeEach now entries disk).1.length = entries.length := by
  have ids := congrArg List.length (@map_fst_finalizeEach now entries disk)
  rwa [List.length_map, List.length_map] at ids

/-- What became of one of the muxers that are chosen was found out when it was its turn. -/
lemma mem_finalizeEach {chosen : RegistryEntry → Bool} {id : Nat} {result : Except CaptureError RecordingSummary} :
    (id, result) ∈ (finalizeEach now (entries.filter chosen) disk).1 ↔
      ∃ before entry after, entries = before ++ entry :: after ∧ chosen entry = true ∧ entry.id = id ∧
        (entry.muxer.finalize (finalizeEach now (before.filter chosen) disk).2 now).1 = result := by
  induction entries generalizing disk with
  | nil => simp [finalizeEach]
  | cons first rest ih =>
    cases takes : chosen first with
    | false =>
      rw [List.filter_cons_of_neg (by simp [takes]), ih]
      refine ⟨?_, ?_⟩
      · rintro ⟨before, entry, after, rfl, chosen_entry, numbered, came⟩
        refine ⟨first :: before, entry, after, rfl, chosen_entry, numbered, ?_⟩
        rw [List.filter_cons_of_neg (by simp [takes]), came]
      · rintro ⟨before, entry, after, parted, chosen_entry, numbered, came⟩
        cases before with
        | nil =>
          cases parted
          cases takes.symm.trans chosen_entry
        | cons _ before =>
          cases parted
          rw [List.filter_cons_of_neg (by simp [takes])] at came
          exact ⟨before, entry, after, rfl, chosen_entry, numbered, came⟩
    | true =>
      rw [List.filter_cons_of_pos takes, finalizeEach_cons, List.mem_cons, ih]
      refine ⟨?_, ?_⟩
      · rintro (same | ⟨before, entry, after, rfl, chosen_entry, numbered, came⟩)
        · cases same
          exact ⟨[], first, rest, rfl, takes, rfl, rfl⟩
        · refine ⟨first :: before, entry, after, rfl, chosen_entry, numbered, ?_⟩
          rw [List.filter_cons_of_pos takes, finalizeEach_cons, came]
      · rintro ⟨before, entry, after, parted, chosen_entry, numbered, came⟩
        cases before with
        | nil =>
          cases parted
          exact .inl (by rw [← numbered, ← came]; rfl)
        | cons _ before =>
          cases parted
          rw [List.filter_cons_of_pos takes, finalizeEach_cons] at came
          exact .inr ⟨before, entry, after, rfl, chosen_entry, numbered, came⟩

/-- To finalize muxers touches their files only. -/
lemma finalizeEach_spares (now : Nat) (entries : List RegistryEntry) (disk : Disk) :
    disk.Spares (Touch entries) (finalizeEach now entries disk).2 := by
  induction entries generalizing disk with
  | nil => exact .refl _ _
  | cons entry rest ih =>
    have own : ∀ file, entry.muxer.fileId? = some file → Touch (entry :: rest) file :=
      fun file own => ⟨entry, List.mem_cons_self, own⟩
    refine ((Muxer.finalize_spares disk now).mono own).trans ((ih _).mono ?_)
    rintro file ⟨other, inside, own⟩
    exact ⟨other, List.mem_cons_of_mem _ inside, own⟩

end RegistryEntry

open RegistryEntry

/-- The report with what became of some muxers, and with the number of others that were locked. -/
def ShutdownReport.add (report : ShutdownReport) (came : List (Nat × Except CaptureError RecordingSummary))
    (skipped : Nat) : ShutdownReport where
  finalized := report.finalized + came.countP fun result => result.2.isOk
  failed := report.failed + came.countP fun result => !result.2.isOk
  skipped := report.skipped + skipped

namespace Registry

variable {registry : Registry} {disk : Disk} {now : Nat} {locked : List Nat}

/-- No two muxers have the same number. -/
def IsDistinct (registry : Registry) : Prop :=
  (registry.entries.map RegistryEntry.id).Nodup

/-- Muxers with one number are one muxer. -/
lemma IsDistinct.eq_of_id (distinct : registry.IsDistinct) {one two : RegistryEntry} (first : one ∈ registry.entries)
    (second : two ∈ registry.entries) (same : one.id = two.id) : one = two :=
  List.inj_on_of_nodup_map distinct first second same

/-- Each muxer is found under its number. -/
lemma IsDistinct.find?_of_mem (distinct : registry.IsDistinct) {entry : RegistryEntry}
    (inside : entry ∈ registry.entries) : registry.find? entry.id = some entry := by
  rcases found : registry.find? entry.id with _ | other
  · rw [find?, List.find?_eq_none] at found
    exact absurd (decide_eq_true rfl) (found entry inside)
  · rw [find?] at found
    have numbered := List.find?_some found
    have same := distinct.eq_of_id (List.mem_of_find?_eq_some found) inside (of_decide_eq_true numbered)
    rw [same]

/-- The registry behind an emergency that has visited the muxers with some numbers. -/
def shutThose (registry : Registry) (locked visited : List Nat) : Registry :=
  { registry with
    entries := registry.entries.map fun entry => if entry.id ∈ visited then entry.shut locked else entry }

/-- An emergency that visits no muxer changes none. -/
lemma shutThose_nil : registry.shutThose locked [] = registry := by
  simp [shutThose]

/-- An emergency that visits a muxer first can go on with the others. -/
lemma shutThose_cons {id : Nat} {rest : List Nat} (once : id ∉ rest) :
    registry.shutThose locked (id :: rest) = (registry.shutThose locked [id]).shutThose locked rest := by
  unfold shutThose
  rw [List.map_map]
  congr 1
  refine List.map_congr_left ?_
  intro entry _
  by_cases here : entry.id = id
  · subst here
    simp [once]
  · simp [here]

/-- An emergency keeps the numbers of all muxers. -/
lemma ids_shutThose (visited : List Nat) :
    (registry.shutThose locked visited).entries.map RegistryEntry.id = registry.entries.map RegistryEntry.id := by
  rw [shutThose, List.map_map]
  refine List.map_congr_left ?_
  intro entry _
  dsimp only [Function.comp]
  split
  · rw [id_shut]
  · rfl

/-- A muxer that is not visited stays as it was. -/
lemma mem_shutThose {visited : List Nat} {entry : RegistryEntry} (inside : entry ∈ registry.entries)
    (elsewhere : entry.id ∉ visited) : entry ∈ (registry.shutThose locked visited).entries :=
  List.mem_map.mpr ⟨entry, inside, if_neg elsewhere⟩

/-- Visiting one muxer changes just that muxer. -/
lemma shutThose_one (distinct : registry.IsDistinct) {entry : RegistryEntry} (inside : entry ∈ registry.entries) :
    registry.shutThose locked [entry.id] = registry.setMuxer entry.id (entry.shut locked).muxer := by
  unfold shutThose setMuxer modify
  congr 1
  refine List.map_congr_left ?_
  intro other among
  by_cases here : other.id = entry.id
  · cases distinct.eq_of_id among inside here
    simp only [List.mem_singleton, if_pos]
    rw [shut]
    split <;> rfl
  · simp [here]

/-- A muxer that is replaced by itself changes nothing. -/
lemma setMuxer_same (distinct : registry.IsDistinct) {entry : RegistryEntry} (inside : entry ∈ registry.entries) :
    registry.setMuxer entry.id entry.muxer = registry := by
  unfold setMuxer modify
  have unchanged : (registry.entries.map fun other =>
      if other.id = entry.id then { other with muxer := entry.muxer } else other) = registry.entries := by
    refine Eq.trans (List.map_congr_left ?_) (List.map_id' _)
    intro other among
    by_cases here : other.id = entry.id
    · cases distinct.eq_of_id among inside here
      exact if_pos rfl
    · exact if_neg here
  rw [unchanged]

/-- To visit a muxer means to finalize it, if it streams and is not locked. -/
lemma shutDown_entry (distinct : registry.IsDistinct) {entry : RegistryEntry} (inside : entry ∈ registry.entries)
    (report : ShutdownReport) (disk : Disk) :
    shutDown locked now (report, registry, disk) entry.id =
      (report.add (finalizeEach now ([entry].filter (isAttempted locked)) disk).1 ([entry].countP (·.id ∈ locked)),
        registry.shutThose locked [entry.id], (finalizeEach now ([entry].filter (isAttempted locked)) disk).2) := by
  have found := muxer?_of_find? (distinct.find?_of_mem inside)
  rw [shutThose_one distinct inside]
  unfold shutDown
  dsimp only
  rw [found]
  dsimp only
  by_cases held : entry.id ∈ locked
  · have skipped : entry.isAttempted locked = false := by simp [isAttempted, held]
    have kept : (entry.shut locked).muxer = entry.muxer := by rw [shut, if_pos held]
    rw [if_pos held, kept, setMuxer_same distinct inside, List.filter_cons_of_neg (by simp [skipped]), List.filter_nil]
    simp [finalizeEach, ShutdownReport.add, held]
  rw [if_neg held]
  have gone : (entry.shut locked).muxer = entry.muxer.closed := by rw [shut, if_neg held]
  cases streaming : entry.muxer.isStreaming with
  | false =>
    have passed : entry.isAttempted locked = false := by simp [isAttempted, streaming]
    rw [gone, Muxer.closed_of_idle streaming, setMuxer_same distinct inside, List.filter_cons_of_neg (by simp [passed]),
      List.filter_nil]
    simp [finalizeEach, ShutdownReport.add, held]
  | true =>
    have attempted : entry.isAttempted locked = true := by simp [isAttempted, held, streaming]
    have closed := @Muxer.finalize_closed entry.muxer disk now
    rw [gone, List.filter_cons_of_pos attempted, List.filter_nil, ← closed]
    rcases run : entry.muxer.finalize disk now with ⟨error | summary, muxer, after⟩
    · simp [finalizeEach, ShutdownReport.add, held, run, Except.isOk, Except.toBool]
    · simp [finalizeEach, ShutdownReport.add, held, run, Except.isOk, Except.toBool]

/-- Visiting muxers finalizes those that are to be finalized, in their order, and counts those that are locked. -/
lemma foldl_shutDown {visited : List RegistryEntry} (distinct : registry.IsDistinct)
    (inside : ∀ entry ∈ visited, entry ∈ registry.entries) (once : (visited.map RegistryEntry.id).Nodup)
    (report : ShutdownReport) (disk : Disk) :
    (visited.map RegistryEntry.id).foldl (shutDown locked now) (report, registry, disk) =
      (report.add (finalizeEach now (visited.filter (isAttempted locked)) disk).1 (visited.countP (·.id ∈ locked)),
        registry.shutThose locked (visited.map RegistryEntry.id),
        (finalizeEach now (visited.filter (isAttempted locked)) disk).2) := by
  induction visited generalizing registry report disk with
  | nil =>
    rw [List.map_nil, shutThose_nil]
    rfl
  | cons entry rest ih =>
    rw [List.map_cons, List.nodup_cons] at once
    have distinct' : (registry.shutThose locked [entry.id]).IsDistinct := by
      rw [IsDistinct, ids_shutThose]
      exact distinct
    have inside' : ∀ other ∈ rest, other ∈ (registry.shutThose locked [entry.id]).entries := by
      intro other among
      refine mem_shutThose (inside other (List.mem_cons_of_mem _ among)) ?_
      intro same
      rw [List.mem_singleton] at same
      exact once.1 (same ▸ List.mem_map_of_mem among)
    have parted : (entry :: rest).filter (isAttempted locked) =
        [entry].filter (isAttempted locked) ++ rest.filter (isAttempted locked) := by
      rw [← List.filter_append, List.singleton_append]
    rw [List.map_cons, List.foldl_cons, shutDown_entry distinct (inside entry List.mem_cons_self),
      ih distinct' inside' once.2, shutThose_cons once.1, parted, finalizeEach_append]
    simp only [ShutdownReport.add, List.countP_append, List.countP_cons, List.countP_nil, Nat.zero_add, Nat.add_assoc,
      Nat.add_comm]

/-- An emergency in any order finalizes the muxers that stream and are not locked, in that order, and no others. -/
lemma shutDownInOrder_eq {visited : List RegistryEntry} (distinct : registry.IsDistinct)
    (all : visited.Perm registry.entries) (disk : Disk) :
    registry.shutDownInOrder disk now locked (visited.map RegistryEntry.id) =
      (ShutdownReport.add {} (finalizeEach now (visited.filter (isAttempted locked)) disk).1
          (visited.countP (·.id ∈ locked)),
        { registry with entries := registry.entries.map (shut locked) },
        (finalizeEach now (visited.filter (isAttempted locked)) disk).2) := by
  have once : (visited.map RegistryEntry.id).Nodup := (all.map _).nodup_iff.mpr distinct
  rw [shutDownInOrder, foldl_shutDown distinct (fun entry inside => all.mem_iff.mp inside) once]
  have everyone : registry.shutThose locked (visited.map RegistryEntry.id) =
      { registry with entries := registry.entries.map (shut locked) } := by
    rw [shutThose]
    congr 1
    refine List.map_congr_left ?_
    intro entry inside
    exact if_pos (List.mem_map_of_mem (all.mem_iff.mpr inside))
  rw [everyone]

/-- An emergency does to the disk what finalizing its muxers does. -/
lemma disk_shutDownInOrder {visited : List RegistryEntry} (distinct : registry.IsDistinct)
    (inside : ∀ entry ∈ visited, entry ∈ registry.entries) (once : (visited.map RegistryEntry.id).Nodup) (disk : Disk) :
    (registry.shutDownInOrder disk now locked (visited.map RegistryEntry.id)).2.2 =
      (finalizeEach now (visited.filter (isAttempted locked)) disk).2 := by
  rw [shutDownInOrder, foldl_shutDown distinct inside once]

/-- An entry that is kept is still found under its number. -/
lemma find?_map_of_kept {change : RegistryEntry → RegistryEntry} {id : Nat}
    (numbers : ∀ entry, (change entry).id = entry.id) (kept : ∀ entry, entry.id = id → change entry = entry) :
    ({ registry with entries := registry.entries.map change } : Registry).find? id = registry.find? id := by
  rw [find?, find?, List.find?_map]
  have same : ((fun entry : RegistryEntry => decide (entry.id = id)) ∘ change) =
      fun entry => decide (entry.id = id) := by
    funext entry
    rw [Function.comp, numbers]
  rw [same]
  cases found : registry.entries.find? (fun entry => decide (entry.id = id)) with
  | none => rfl
  | some entry =>
    have numbered := List.find?_some found
    rw [Option.map_some, kept entry (of_decide_eq_true numbered)]

/-- What an emergency has come to that visits the muxers of a registry in some order. -/
structure ShutsDown (registry : Registry) (disk : Disk) (now : Nat) (locked : List Nat) (visited : List RegistryEntry)
    (after : ShutdownReport × Registry × Disk) : Prop where
  skipped : after.1.skipped = registry.entries.countP (·.id ∈ locked)
  finalized : after.1.finalized =
    (finalizeEach now (visited.filter (isAttempted locked)) disk).1.countP fun result => result.2.isOk
  attempted : after.1.finalized + after.1.failed = registry.entries.countP (isAttempted locked)
  entries : after.2.1.entries = registry.entries.map (shut locked)
  stopped : ∀ entry ∈ after.2.1.entries, entry.id ∉ locked → entry.muxer.isStreaming = false
  held : ∀ id ∈ locked, after.2.1.find? id = registry.find? id
  disk_eq : after.2.2 = (finalizeEach now (visited.filter (isAttempted locked)) disk).2
  /-- A file changes only if a muxer that is finalized writes to it. -/
  files : ∀ file, ¬ Touch (registry.entries.filter (isAttempted locked)) file → after.2.2.stored file = disk.stored file

/-- An emergency that visits each muxer once shuts all of them down, in whatever order. -/
lemma shutsDown {visited : List RegistryEntry} (distinct : registry.IsDistinct) (all : visited.Perm registry.entries)
    (disk : Disk) (now : Nat) (locked : List Nat) :
    registry.ShutsDown disk now locked visited
      (registry.shutDownInOrder disk now locked (visited.map RegistryEntry.id)) := by
  rw [shutDownInOrder_eq distinct all]
  refine ⟨?_, ?_, ?_, rfl, ?_, ?_, rfl, ?_⟩
  · simp only [ShutdownReport.add, Nat.zero_add, all.countP_eq]
  · simp only [ShutdownReport.add, Nat.zero_add]
  · -- whatever is not completed is a failure
    have both : ∀ came : List (Nat × Except CaptureError RecordingSummary),
        (came.countP fun result => result.2.isOk) + (came.countP fun result => !result.2.isOk) = came.length := by
      intro came
      rw [List.length_eq_countP_add_countP fun result : Nat × Except CaptureError RecordingSummary => result.2.isOk]
      simp
    simp only [ShutdownReport.add, Nat.zero_add]
    rw [both, length_finalizeEach, ← List.countP_eq_length_filter, all.countP_eq]
  · intro entry inside free
    obtain ⟨before, -, rfl⟩ := List.mem_map.mp inside
    rw [id_shut] at free
    rw [shut, if_neg free]
    exact Muxer.isStreaming_closed
  · intro id held
    refine find?_map_of_kept (fun _ => id_shut) ?_
    rintro entry rfl
    rw [shut, if_pos held]
  · intro file untouched
    refine (finalizeEach_spares now (visited.filter (isAttempted locked)) disk).others file ?_
    rintro ⟨entry, inside, own⟩
    exact untouched ⟨entry, (all.filter _).mem_iff.mp inside, own⟩

/-- An emergency in which nothing is locked finalizes what one before it has skipped. -/
lemma attempted_shut (entries : List RegistryEntry) :
    (entries.map (shut locked)).filter (isAttempted []) =
      entries.filter fun entry => decide (entry.id ∈ locked) && entry.muxer.isStreaming := by
  induction entries with
  | nil => rfl
  | cons entry rest ih =>
    rw [List.map_cons, List.filter_cons, List.filter_cons, ih]
    by_cases held : entry.id ∈ locked
    · have kept : entry.shut locked = entry := by rw [shut, if_pos held]
      rw [kept]
      simp [isAttempted, held]
    · have closed : (entry.shut locked).muxer = entry.muxer.closed := by rw [shut, if_neg held]
      simp [isAttempted, closed, held]

end Registry

end VideoCapture
