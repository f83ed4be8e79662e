import VideoCapture.Proofs.Disk.Files

/-!
# Disks stay well-formed

A disk on which nothing was done yet is well-formed, and so it is after every operation, whether that
operation succeeds or fails (`isWellFormed_performAll`).
-/

namespace VideoCapture.Disk

variable {disk before after : Disk} {place : Place}

/-- A disk without anything on it is well-formed, whatever faults are ahead. -/
lemma isWellFormed_empty (faults : Nat → Option FileError) : ({ faults } : Disk).IsWellFormed := by
  have no_file : ∀ (place : Place) (id : Nat), ({ faults } : Disk).lookup? place ≠ some (.file id) := by
    intro place id
    simp [lookup?]
  exact ⟨fun place id found => absurd found (no_file place id),
    fun place _ id found => absurd found (no_file place id)⟩

/-- A disk with the same entries and no fewer files is well-formed if the first one is. -/
lemma IsWellFormed.of_same (formed : before.IsWellFormed) (entries : after.entries = before.entries)
    (count : before.contents.length ≤ after.contents.length) : after.IsWellFormed where
  present place id found := by
    rw [lookup?, entries] at found
    exact Nat.lt_of_lt_of_le (formed.present place id found) count
  distinct place other id found found' := by
    rw [lookup?, entries] at found found'
    exact formed.distinct place other id found found'

/-- A disk stays well-formed when an operation is counted. -/
lemma IsWellFormed.ticked (formed : disk.IsWellFormed) : disk.ticked.IsWellFormed :=
  formed.of_same rfl (Nat.le_refl _)

/-- A disk stays well-formed when a file gets another content. -/
lemma IsWellFormed.setStored (formed : disk.IsWellFormed) (id : Nat) (stored : FileContent) :
    (disk.setStored id stored).IsWellFormed :=
  formed.of_same rfl (Nat.le_of_eq List.length_set.symm)

/-- A place may get any entry but a file that is missing or has another name. -/
lemma IsWellFormed.setEntry (formed : disk.IsWellFormed) {entry : DiskEntry}
    (unshared : ∀ id, entry = .file id →
      id < disk.contents.length ∧ ∀ other, other ≠ place → disk.lookup? other ≠ some (.file id)) :
    (disk.setEntry place entry).IsWellFormed := by
  have here : ∀ id, (disk.setEntry place entry).lookup? place = some (.file id) → entry = .file id := by
    intro id found
    cases outside : place.isOutside with
    | true =>
      rw [lookup?, outside] at found
      cases found
    | false =>
      rw [lookup?_setEntry_self disk outside] at found
      exact Option.some.inj found
  constructor
  · intro other id found
    by_cases same : other = place
    · subst same
      exact (unshared id (here id found)).1
    · rw [lookup?_setEntry_of_ne disk same] at found
      exact formed.present other id found
  · intro one two id found found'
    by_cases first : one = place
    · by_cases second : two = place
      · rw [first, second]
      · rw [lookup?_setEntry_of_ne disk second] at found'
        rw [first] at found
        exact absurd found' ((unshared id (here id found)).2 two second)
    · rw [lookup?_setEntry_of_ne disk first] at found
      by_cases second : two = place
      · rw [second] at found'
        exact absurd found ((unshared id (here id found')).2 one first)
      · rw [lookup?_setEntry_of_ne disk second] at found'
        exact formed.distinct one two id found found'

/-- A disk stays well-formed when it gets a new file. -/
lemma IsWellFormed.newFile (formed : disk.IsWellFormed) (place : Place) :
    (disk.newFile place).2.IsWellFormed := by
  have longer : ({ disk with contents := disk.contents ++ [FileContent.empty] } : Disk).IsWellFormed :=
    formed.of_same rfl (by simp)
  refine longer.setEntry ?_
  intro id same
  cases same
  refine ⟨by simp, ?_⟩
  intro other _ found
  exact Nat.lt_irrefl _ (formed.present other _ found)

/-- A disk stays well-formed when a file is opened for writing, or cannot be. -/
lemma IsWellFormed.create (formed : disk.IsWellFormed) (path : String) : (disk.create path).2.IsWellFormed := by
  rw [Disk.create, tick_eq]
  cases disk.faults disk.operations with
  | some fault => exact formed.ticked
  | none =>
    dsimp only
    split
    · exact formed.ticked
    · exact formed.ticked
    · split
      · exact formed.ticked
      · split
        · exact formed.ticked
        · exact formed.ticked
        · exact formed.ticked.setStored _ _
        · exact formed.ticked
        · exact formed.ticked.newFile _

/-- A disk stays well-formed when a file is written to. -/
lemma IsWellFormed.write (formed : disk.IsWellFormed) (file : FileHandle) (bytes : Bytes) :
    (disk.write file bytes).2.2.IsWellFormed := by
  rw [Disk.write, tick_eq]
  split
  · exact formed
  · cases disk.faults disk.operations with
    | some fault => exact formed.ticked
    | none =>
      dsimp only
      split
      · exact formed.ticked
      · exact formed.ticked.setStored _ _

/-- What is found after an entry was removed was there before, somewhere else. -/
lemma of_lookup?_removeEntry {origin : Place} {id : Nat}
    (found : (disk.removeEntry origin).lookup? place = some (.file id)) :
    place ≠ origin ∧ disk.lookup? place = some (.file id) := by
  have kept : ∀ items : List (Place × DiskEntry),
      (items.filter fun item => item.1 ≠ origin).lookup place = some (.file id) →
        place ≠ origin ∧ items.lookup place = some (.file id) := by
    intro items
    induction items with
    | nil => exact fun found => by cases found
    | cons item items ih =>
      obtain ⟨at_, what⟩ := item
      intro found
      by_cases removed : at_ = origin
      · rw [List.filter_cons_of_neg (by simpa using removed)] at found
        obtain ⟨elsewhere, found⟩ := ih found
        have skip : (place == at_) = false := beq_eq_false_iff_ne.mpr (removed ▸ elsewhere)
        exact ⟨elsewhere, by rw [List.lookup_cons, skip]; exact found⟩
      · rw [List.filter_cons_of_pos (by simpa using removed), List.lookup_cons] at found
        rw [List.lookup_cons]
        by_cases here : place = at_
        · subst here
          exact ⟨removed, by simpa using found⟩
        · have skip : (place == at_) = false := beq_eq_false_iff_ne.mpr here
          rw [skip] at found ⊢
          exact ih found
  unfold lookup? at found ⊢
  split at found
  · cases found
  · rename_i inside
    rw [if_neg inside]
    exact kept disk.entries found

/-- A disk stays well-formed when an entry is removed. -/
lemma IsWellFormed.removeEntry (formed : disk.IsWellFormed) (origin : Place) :
    (disk.removeEntry origin).IsWellFormed where
  present place id found := formed.present place id (of_lookup?_removeEntry found).2
  distinct one two id found found' :=
    formed.distinct one two id (of_lookup?_removeEntry found).2 (of_lookup?_removeEntry found').2

/-- What stands at a place may move to another place. -/
lemma IsWellFormed.move (formed : disk.IsWellFormed) {origin goal : Place} {entry : DiskEntry}
    (there : disk.lookup? origin = some entry) : ((disk.removeEntry origin).setEntry goal entry).IsWellFormed := by
  refine (formed.removeEntry origin).setEntry ?_
  rintro id rfl
  refine ⟨formed.present origin id there, ?_⟩
  intro other _ found
  obtain ⟨elsewhere, found⟩ := of_lookup?_removeEntry found
  exact elsewhere (formed.distinct other origin id found there)

/-- A disk stays well-formed when a file is renamed, or cannot be. -/
lemma IsWellFormed.rename (formed : disk.IsWellFormed) (source target : String) :
    (disk.rename source target).2.IsWellFormed := by
  rw [Disk.rename, tick_eq]
  cases disk.faults disk.operations with
  | some fault => exact formed.ticked
  | none =>
    dsimp only
    split
    · exact formed.ticked
    · exact formed.ticked
    · split
      · exact formed.ticked
      · exact formed.ticked
      · exact formed.ticked
      · exact formed.ticked
      · rename_i looked _
        exact formed.ticked.move (of_look looked).2
    · exact formed.ticked

/-- Reading leaves a disk as it is. -/
lemma read_disk (disk : Disk) (path : String) : (disk.read path).2 = disk.ticked := by
  rw [Disk.read, tick_eq]
  cases disk.faults disk.operations with
  | some fault => rfl
  | none =>
    dsimp only
    split
    · rfl
    · rfl
    · split
      · rfl
      · rfl
      · rfl
      · split
        · rfl
        · split <;> rfl

/-- A disk stays well-formed when a file is read. -/
lemma IsWellFormed.read (formed : disk.IsWellFormed) (path : String) : (disk.read path).2.IsWellFormed := by
  rw [read_disk]
  exact formed.ticked

/-- A disk stays well-formed when directories are made. -/
lemma IsWellFormed.makeDirectories (formed : disk.IsWellFormed) (directory : Place) (names : List String) :
    (disk.makeDirectories directory names).IsWellFormed := by
  induction names generalizing disk directory with
  | nil => exact formed
  | cons name names ih =>
    rw [Disk.makeDirectories]
    split
    · exact ih formed _
    · exact ih (formed.setEntry fun id same => by cases same) _
    · exact formed

/-- A disk stays well-formed when it gets a full device. -/
lemma IsWellFormed.placeFullDevice (formed : disk.IsWellFormed) (path : String) :
    (disk.placeFullDevice path).IsWellFormed := by
  rw [Disk.placeFullDevice]
  split
  · exact formed.setEntry fun id same => by cases same
  · exact formed

/-- What can be done to a disk. -/
inductive Operation where
  | create (path : String)
  | write (file : FileHandle) (bytes : Bytes)
  | sync
  | read (path : String)
  | rename (source target : String)
  | makeDirectory (path : String)
  | placeFullDevice (path : String)
  deriving DecidableEq, Repr

/-- The disk after an operation, whatever that answers. -/
def perform (disk : Disk) : Operation → Disk
  | .create path => (disk.create path).2
  | .write file bytes => (disk.write file bytes).2.2
  | .sync => disk.sync.2
  | .read path => (disk.read path).2
  | .rename source target => (disk.rename source target).2
  | .makeDirectory path => disk.makeDirectory path
  | .placeFullDevice path => disk.placeFullDevice path

/-- A disk stays well-formed in every operation. -/
lemma IsWellFormed.perform (formed : disk.IsWellFormed) (operation : Operation) :
    (disk.perform operation).IsWellFormed := by
  cases operation with
  | create path => exact formed.create path
  | write file bytes => exact formed.write file bytes
  | sync =>
    rw [Disk.perform, Disk.sync, tick_eq]
    cases disk.faults disk.operations <;> exact formed.ticked
  | read path => exact formed.read path
  | rename source target => exact formed.rename source target
  | makeDirectory path => exact formed.makeDirectories _ _
  | placeFullDevice path => exact formed.placeFullDevice path

/-- A disk stays well-formed in operations one after the other. -/
lemma IsWellFormed.performAll (formed : disk.IsWellFormed) (operations : List Operation) :
    (operations.foldl Disk.perform disk).IsWellFormed := by
  induction operations generalizing disk with
  | nil => exact formed
  | cons operation rest ih => exact ih (formed.perform operation)

/-- Whatever is done to an empty disk, and wherever it fails, the disk is well-formed. -/
lemma isWellFormed_performAll (faults : Nat → Option FileError) (operations : List Operation) :
    (operations.foldl Disk.perform { faults }).IsWellFormed :=
  (isWellFormed_empty faults).performAll operations

end VideoCapture.Disk
