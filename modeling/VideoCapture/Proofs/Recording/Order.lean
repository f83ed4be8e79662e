import VideoCapture.Proofs.Recording.Shutdown

/-!
# The order of an emergency

The muxers of a registry are visited in no particular order. If no two of them write to the same file, and the file
operations of each have the same outcomes, every order comes to the same report, the same muxers and the same files
(`Registry.shutDown_order`): when it is its turn, a muxer finds its file as it was.
-/

namespace VideoCapture
open RegistryEntry

namespace Registry

variable {registry : Registry} {disk : Disk} {now : Nat} {locked : List Nat}

/-- No two of the muxers that an emergency finalizes write to the same file. -/
def IsApart (registry : Registry) (locked : List Nat) : Prop :=
  (registry.entries.filter (isAttempted locked)).Pairwise fun one two =>
    ∀ file, one.muxer.fileId? = some file → two.muxer.fileId? ≠ some file

/-- Muxers with different files are apart. -/
lemma isApart_of_ne (different : (registry.entries.filter (isAttempted locked)).Pairwise fun one two =>
    one.muxer.fileId? ≠ two.muxer.fileId?) : registry.IsApart locked :=
  different.imp fun ne _ own same => ne (own.trans same.symm)

/-- The file operations that a muxer makes in an emergency have the same outcomes in another order on another disk. -/
def MeetSame (registry : Registry) (now : Nat) (locked : List Nat) (disk disk' : Disk) (one two : List Nat) : Prop :=
  ∀ id before after before' after', one = before ++ id :: after → two = before' ++ id :: after' →
    let turn := (registry.shutDownInOrder disk now locked before).2.2
    let turn' := (registry.shutDownInOrder disk' now locked before').2.2
    let gone := (registry.shutDownInOrder disk now locked (before ++ [id])).2.2
    ∀ n, turn.operations + n < gone.operations →
      turn'.faults (turn'.operations + n) = turn.faults (turn.operations + n)

/-- In whatever order muxers are visited, the schedule of faults stays, and operations are only added. -/
lemma spares_shutDown (order : List Nat) (came : ShutdownReport × Registry × Disk) :
    came.2.2.Spares (fun _ => True) (order.foldl (shutDown locked now) came).2.2 := by
  induction order generalizing came with
  | nil => exact .refl _ _
  | cons id rest ih =>
    refine Disk.Spares.trans ?_ (ih _)
    obtain ⟨report, registry, disk⟩ := came
    unfold shutDown
    dsimp only
    cases registry.muxer? id with
    | none => exact .refl _ _
    | some muxer =>
      have spares := (@Muxer.finalize_spares muxer disk now).mono fun file _ => (trivial : True)
      dsimp only
      split
      · exact .refl _ _
      · split
        · exact .refl _ _
        · split <;> rename_i run <;> rw [run] at spares <;> exact spares

/-- On a disk on which nothing fails any more, or everything in the same way, the outcomes are the same in any order. -/
lemma meetSame_of_steady {fault? : Option FileError} (steady : ∀ n, disk.operations ≤ n → disk.faults n = fault?)
    (one two : List Nat) : registry.MeetSame now locked disk disk one two := by
  intro id before after before' after' _ _ turn turn' gone n _
  have spares := @spares_shutDown now locked before ({}, registry, disk)
  have spares' := @spares_shutDown now locked before' ({}, registry, disk)
  have faults : turn.faults = disk.faults := spares.faults
  have faults' : turn'.faults = disk.faults := spares'.faults
  have later : disk.operations ≤ turn.operations := spares.operations
  have later' : disk.operations ≤ turn'.operations := spares'.operations
  rw [faults, faults', steady _ (Nat.le_trans later (Nat.le_add_right _ _)),
    steady _ (Nat.le_trans later' (Nat.le_add_right _ _))]

section Order

variable {one two : List RegistryEntry} {disk' : Disk}

/-- Around the turn of a muxer, no other muxer touches its file. -/
lemma IsApart.around (apart : registry.IsApart locked) (all : one.Perm registry.entries)
    {before after : List RegistryEntry} {entry : RegistryEntry} (parted : one = before ++ entry :: after)
    (attempted : entry.isAttempted locked = true) {file : Nat} (own : entry.muxer.fileId? = some file) :
    ¬ Touch (before.filter (isAttempted locked)) file ∧ ¬ Touch (after.filter (isAttempted locked)) file := by
  have symmetric : ∀ {one two : RegistryEntry},
      (∀ file, one.muxer.fileId? = some file → two.muxer.fileId? ≠ some file) →
        ∀ file, two.muxer.fileId? = some file → one.muxer.fileId? ≠ some file :=
    fun different file own same => different file same own
  have pairwise := ((all.filter (isAttempted locked)).pairwise_iff symmetric).mpr apart
  rw [parted, List.filter_append, List.filter_cons_of_pos attempted, List.pairwise_append,
    List.pairwise_cons] at pairwise
  obtain ⟨-, ⟨behind, -⟩, across⟩ := pairwise
  refine ⟨?_, ?_⟩
  · rintro ⟨other, inside, same⟩
    exact across other inside entry List.mem_cons_self file same own
  · rintro ⟨other, inside, same⟩
    exact behind other inside file own same

/-- The disk when it is the turn of a muxer, and behind its turn. -/
lemma disk_of_turn (distinct : registry.IsDistinct) (all : one.Perm registry.entries)
    {before after : List RegistryEntry} {entry : RegistryEntry} (parted : one = before ++ entry :: after)
    (attempted : entry.isAttempted locked = true) (disk : Disk) :
    let turn := (finalizeEach now (before.filter (isAttempted locked)) disk).2
    (registry.shutDownInOrder disk now locked (before.map RegistryEntry.id)).2.2 = turn ∧
      (registry.shutDownInOrder disk now locked (before.map RegistryEntry.id ++ [entry.id])).2.2 =
        (entry.muxer.finalize turn now).2.2 := by
  have once : ((before ++ [entry]).map RegistryEntry.id).Nodup := by
    have whole := (all.map RegistryEntry.id).nodup_iff.mpr distinct
    rw [parted, ← List.singleton_append, ← List.append_assoc, List.map_append] at whole
    exact (List.nodup_append.mp whole).1
  have inside : ∀ other ∈ before ++ [entry], other ∈ registry.entries := by
    intro other among
    refine all.mem_iff.mp ?_
    rw [parted, ← List.singleton_append, ← List.append_assoc]
    exact List.mem_append_left _ among
  have front : (before.map RegistryEntry.id).Nodup := by
    rw [List.map_append] at once
    exact (List.nodup_append.mp once).1
  refine ⟨disk_shutDownInOrder distinct (fun other among => inside other (List.mem_append_left _ among)) front disk, ?_⟩
  have gone := @disk_shutDownInOrder registry now locked _ distinct inside once disk
  rw [List.map_append, List.filter_append, List.filter_cons_of_pos attempted, finalizeEach_append] at gone
  exact gone

/-- When it is its turn, a muxer finds the same file and meets the same outcomes in both orders, so the same becomes of
it and of its file. -/
lemma same_of_turn (distinct : registry.IsDistinct) (apart : registry.IsApart locked)
    (first : one.Perm registry.entries) (second : two.Perm registry.entries) (contents : disk'.contents = disk.contents)
    (meet : registry.MeetSame now locked disk disk' (one.map RegistryEntry.id) (two.map RegistryEntry.id))
    {entry : RegistryEntry} {before after before' after' : List RegistryEntry} (parted : one = before ++ entry :: after)
    (parted' : two = before' ++ entry :: after') (attempted : entry.isAttempted locked = true) :
    let came := entry.muxer.finalize (finalizeEach now (before.filter (isAttempted locked)) disk).2 now
    let came' := entry.muxer.finalize (finalizeEach now (before'.filter (isAttempted locked)) disk').2 now
    came'.1 = came.1 ∧ ∀ file, entry.muxer.fileId? = some file → came'.2.2.stored file = came.2.2.stored file := by
  intro came came'
  obtain ⟨turn, gone⟩ := disk_of_turn distinct first parted attempted disk
  obtain ⟨turn', -⟩ := disk_of_turn distinct second parted' attempted disk'
  have spares := finalizeEach_spares now (before.filter (isAttempted locked)) disk
  have spares' := finalizeEach_spares now (before'.filter (isAttempted locked)) disk'
  have agrees : Disk.Agrees came.2.2.operations entry.muxer.fileId?
      (finalizeEach now (before.filter (isAttempted locked)) disk).2
      (finalizeEach now (before'.filter (isAttempted locked)) disk').2 := by
    refine ⟨?_, ?_, ?_⟩
    · rw [spares.count, spares'.count, contents]
    · intro file own
      have untouched := (apart.around first parted attempted own).1
      have untouched' := (apart.around second parted' attempted own).1
      rw [spares.others file untouched, spares'.others file untouched', Disk.stored, Disk.stored, contents]
    · have met := meet entry.id (before.map RegistryEntry.id) (after.map RegistryEntry.id)
        (before'.map RegistryEntry.id) (after'.map RegistryEntry.id) (by rw [parted, List.map_append, List.map_cons])
        (by rw [parted', List.map_append, List.map_cons])
      rw [turn, turn', gone] at met
      exact met
  obtain ⟨same, after_agrees⟩ := Muxer.finalize_agrees agrees (Nat.le_refl _)
  exact ⟨same, after_agrees.stored⟩

/-- After its turn nothing happens to the file of a muxer. -/
lemma stored_of_turn (apart : registry.IsApart locked) (all : one.Perm registry.entries)
    {before after : List RegistryEntry} {entry : RegistryEntry} (parted : one = before ++ entry :: after)
    (attempted : entry.isAttempted locked = true) {file : Nat} (own : entry.muxer.fileId? = some file) (disk : Disk) :
    (finalizeEach now (one.filter (isAttempted locked)) disk).2.stored file =
      (entry.muxer.finalize (finalizeEach now (before.filter (isAttempted locked)) disk).2 now).2.2.stored file := by
  have untouched := (apart.around all parted attempted own).2
  rw [parted, List.filter_append, List.filter_cons_of_pos attempted, finalizeEach_append, finalizeEach_cons]
  exact (finalizeEach_spares now (after.filter (isAttempted locked)) _).others file untouched

/-- An emergency makes the same of every muxer in both orders. -/
lemma perm_finalizeEach (distinct : registry.IsDistinct) (apart : registry.IsApart locked)
    (first : one.Perm registry.entries) (second : two.Perm registry.entries) (contents : disk'.contents = disk.contents)
    (meet : registry.MeetSame now locked disk disk' (one.map RegistryEntry.id) (two.map RegistryEntry.id)) :
    (finalizeEach now (two.filter (isAttempted locked)) disk').1.Perm
      (finalizeEach now (one.filter (isAttempted locked)) disk).1 := by
  have nodup : ∀ {visited : List RegistryEntry} (disk : Disk), visited.Perm registry.entries →
      (finalizeEach now (visited.filter (isAttempted locked)) disk).1.Nodup := by
    intro visited disk all
    refine List.Nodup.of_map Prod.fst ?_
    rw [map_fst_finalizeEach]
    exact ((all.map _).nodup_iff.mpr distinct).sublist (List.filter_sublist.map _)
  rw [List.perm_ext_iff_of_nodup (nodup disk' second) (nodup disk first)]
  rintro ⟨id, result⟩
  rw [mem_finalizeEach, mem_finalizeEach]
  refine ⟨?_, ?_⟩
  · rintro ⟨before', entry, after', parted', attempted, numbered, came⟩
    have inside : entry ∈ one := by
      rw [first.mem_iff, ← second.mem_iff, parted']
      exact List.mem_append_right _ List.mem_cons_self
    obtain ⟨before, after, parted⟩ := List.append_of_mem inside
    have same := (same_of_turn distinct apart first second contents meet parted parted' attempted).1
    exact ⟨before, entry, after, parted, attempted, numbered, same.symm.trans came⟩
  · rintro ⟨before, entry, after, parted, attempted, numbered, came⟩
    have inside : entry ∈ two := by
      rw [second.mem_iff, ← first.mem_iff, parted]
      exact List.mem_append_right _ List.mem_cons_self
    obtain ⟨before', after', parted'⟩ := List.append_of_mem inside
    have same := (same_of_turn distinct apart first second contents meet parted parted' attempted).1
    exact ⟨before', entry, after', parted', attempted, numbered, same.trans came⟩

/-- If nobody shares a file, the order of an emergency makes no difference to the report, to the muxers or to the
files. -/
lemma shutDown_order (distinct : registry.IsDistinct) (apart : registry.IsApart locked)
    (first : one.Perm registry.entries) (second : two.Perm registry.entries) (contents : disk'.contents = disk.contents)
    (meet : registry.MeetSame now locked disk disk' (one.map RegistryEntry.id) (two.map RegistryEntry.id)) :
    let came := registry.shutDownInOrder disk now locked (one.map RegistryEntry.id)
    let came' := registry.shutDownInOrder disk' now locked (two.map RegistryEntry.id)
    came'.1 = came.1 ∧ came'.2.1 = came.2.1 ∧ ∀ file, came'.2.2.stored file = came.2.2.stored file := by
  intro came came'
  have perm := perm_finalizeEach distinct apart first second contents meet
  simp only [came, came']
  rw [shutDownInOrder_eq distinct first, shutDownInOrder_eq distinct second]
  refine ⟨?_, rfl, ?_⟩
  · rw [ShutdownReport.add, perm.countP_eq, perm.countP_eq, (second.trans first.symm).countP_eq, ShutdownReport.add]
  · intro file
    dsimp only
    by_cases touched : ∃ entry ∈ registry.entries, entry.isAttempted locked = true ∧ entry.muxer.fileId? = some file
    · obtain ⟨entry, inside, attempted, own⟩ := touched
      obtain ⟨before, after, parted⟩ := List.append_of_mem (first.mem_iff.mpr inside)
      obtain ⟨before', after', parted'⟩ := List.append_of_mem (second.mem_iff.mpr inside)
      rw [stored_of_turn apart first parted attempted own, stored_of_turn apart second parted' attempted own]
      exact (same_of_turn distinct apart first second contents meet parted parted' attempted).2 file own
    · have untouched : ∀ {visited : List RegistryEntry}, visited.Perm registry.entries →
          ¬ Touch (visited.filter (isAttempted locked)) file := by
        rintro visited all ⟨entry, inside, own⟩
        obtain ⟨inside, attempted⟩ := List.mem_filter.mp inside
        exact touched ⟨entry, all.mem_iff.mp inside, attempted, own⟩
      rw [(finalizeEach_spares now (one.filter (isAttempted locked)) disk).others file (untouched first),
        (finalizeEach_spares now (two.filter (isAttempted locked)) disk').others file (untouched second),
        Disk.stored, Disk.stored, contents]

end Order

end Registry

end VideoCapture
