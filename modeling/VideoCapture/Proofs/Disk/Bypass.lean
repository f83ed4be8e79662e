import VideoCapture.Proofs.Disk.Local
import VideoCapture.Proofs.Disk.Replace

/-!
# Places that are bypassed

Most of what is done to a disk goes past a given place on it (`Disk.Bypasses`): what stands there stays, and no
directory comes or goes. As paths are followed by directories alone, every path then leads to the place that it led to
before (`Bypasses.place?`), so that it can be said beforehand which paths are to be kept apart (`Disk.Apart`). A file is
created past a place to which its path does not lead (`create_bypasses`), written past it, and replaced past it if
neither its path nor that of the draft leads there (`replaceFile_bypasses`).
-/

namespace VideoCapture

namespace Disk

variable {before between after disk : Disk} {place goal : Place} {path one two : String}

/-- The place to which a path leads as to a file, whether something stands there or not. -/
def place? (disk : Disk) (path : String) : Option Place :=
  match disk.follow path with
  | .ok (directory, some name) => some (directory ++ [name])
  | _ => none

/-- Two paths do not lead to the same place. -/
def Apart (disk : Disk) (one two : String) : Prop :=
  ∀ place, disk.place? one = some place → disk.place? two ≠ some place

/-- Two paths are apart if the first leads nowhere, or the second elsewhere. -/
lemma apart_iff : disk.Apart one two ↔ disk.place? one = none ∨ disk.place? two ≠ disk.place? one := by
  unfold Apart
  cases disk.place? one <;> simp

/-- Whether two paths are apart can be found out. -/
instance (disk : Disk) (one two : String) : Decidable (disk.Apart one two) :=
  decidable_of_iff _ apart_iff.symm

/-- The place to which a path leads, or else the root, to which no path leads as to a file. -/
def spot (disk : Disk) (path : String) : Place :=
  (disk.place? path).getD []

/-- A place that a path leads to is a name in the directory that was found. -/
lemma of_place? (leads : disk.place? path = some place) :
    ∃ directory name, place = directory ++ [name] ∧ disk.follow path = .ok (directory, some name) := by
  unfold place? at leads
  split at leads
  · rename_i directory name way
    cases leads
    exact ⟨directory, name, rfl, way⟩
  · cases leads

/-- A path that was followed to a name leads to the place of that name. -/
lemma place?_of_follow {directory : Place} {name : String} (way : disk.follow path = .ok (directory, some name)) :
    disk.place? path = some (directory ++ [name]) := by
  rw [place?, way]

/-- What a path leads to is what stands at its place. -/
lemma standing?_eq (disk : Disk) (path : String) :
    disk.standing? path = (disk.place? path).bind fun place => (disk.lookup? place).map disk.seen := by
  unfold standing? place?
  rcases disk.follow path with error | ⟨directory, _ | name⟩ <;> rfl

/-- A path that is kept apart from another does not lead to where that leads. -/
lemma Apart.ne_spot (apart : disk.Apart one two) : disk.place? one ≠ some (disk.spot two) := by
  intro leads
  cases other : disk.place? two with
  | some place =>
    rw [spot, other] at leads
    exact apart place leads other
  | none =>
    rw [spot, other] at leads
    obtain ⟨directory, name, root, -⟩ := of_place? leads
    simp at root

/-- A path with another extension leads somewhere else. -/
lemma apart_withExtension (disk : Disk) {extension : String} (no_slash : '/' ∉ extension.toList)
    (no_dot : '.' ∉ extension.toList) (other : Path.extension? path ≠ some extension) :
    disk.Apart (Path.withExtension path extension) path := by
  intro place leads leads'
  obtain ⟨directory, name, rfl, way⟩ := of_place? leads
  obtain ⟨directory', name', same, way'⟩ := of_place? leads'
  obtain ⟨through, parted, -, -⟩ := names_of_follow way
  obtain ⟨through', parted', -, no_dots⟩ := names_of_follow way'
  obtain ⟨named, -, name_eq⟩ := Path.isNamed_of_names parted' no_dots
  rw [Path.names_withExtension named no_slash] at parted
  -- both last names are that of the one place
  have extended : String.ofList (Path.extendedName path extension) = name := (List.append_singleton_inj.mp parted).2
  rw [(List.append_singleton_inj.mp same).2, ← name_eq, String.ofList_inj] at extended
  exact Path.extendedName_ne named no_dot other extended

/-- From one disk to another nothing was done at a place, and no directory came or went. -/
structure Bypasses (place : Place) (before after : Disk) : Prop where
  formed : before.IsWellFormed → after.IsWellFormed
  entry : after.lookup? place = before.lookup? place
  content : ∀ id, before.lookup? place = some (.file id) → after.content id = before.content id
  directories : ∀ other, after.lookup? other = some .directory ↔ before.lookup? other = some .directory

/-- A disk that stays as it is goes past every place. -/
lemma Bypasses.refl (place : Place) (disk : Disk) : Bypasses place disk disk :=
  ⟨id, rfl, fun _ _ => rfl, fun _ => .rfl⟩

/-- One way past a place after another is a way past it. -/
lemma Bypasses.trans (first : Bypasses place before between) (second : Bypasses place between after) :
    Bypasses place before after where
  formed := second.formed ∘ first.formed
  entry := second.entry.trans first.entry
  content id there := (second.content id (first.entry.trans there)).trans (first.content id there)
  directories other := (second.directories other).trans (first.directories other)

/-- Counting an operation goes past every place. -/
lemma bypasses_ticked (place : Place) (disk : Disk) : Bypasses place disk disk.ticked :=
  ⟨IsWellFormed.ticked, rfl, fun _ _ => rfl, fun _ => .rfl⟩

/-- What differs at another place only, where no directory came or went, goes past this one. -/
lemma SameBesides.bypasses (same : SameBesides goal before after) (formed : before.IsWellFormed → after.IsWellFormed)
    (file : before.lookup? goal ≠ some .directory) (file' : after.lookup? goal ≠ some .directory)
    (elsewhere : goal ≠ place) : Bypasses place before after where
  formed := formed
  entry := same.entries place (Ne.symm elsewhere)
  content id there := same.contents place id (Ne.symm elsewhere) there
  directories other := by
    by_cases here : other = goal
    · subst here
      exact ⟨fun there => absurd there file', fun there => absurd there file⟩
    · rw [same.entries other here]

/-- Writing to files goes past a place where none of them stands. -/
lemma Spares.bypasses {touched : Nat → Prop} (spares : before.Spares touched after)
    (elsewhere : ∀ id, touched id → before.lookup? place ≠ some (.file id)) : Bypasses place before after := by
  have entries : ∀ other, after.lookup? other = before.lookup? other := by
    intro other
    rw [lookup?, lookup?, spares.entries]
  refine ⟨fun formed => formed.of_same spares.entries (Nat.le_of_eq spares.count.symm), entries place, ?_, ?_⟩
  · intro id there
    have untouched : ¬ touched id := fun inside => elsewhere id inside there
    rw [content, content, spares.others id untouched]
  · intro other
    rw [entries other]

/-- A path leads to where it led before. -/
lemma Bypasses.place? (bypasses : Bypasses place before after) (path : String) :
    after.place? path = before.place? path := by
  have forth := fun other => (bypasses.directories other).mpr
  have back := fun other => (bypasses.directories other).mp
  cases leads : before.place? path with
  | some goal =>
    obtain ⟨directory, name, rfl, way⟩ := of_place? leads
    exact place?_of_follow (follow_still forth way)
  | none =>
    cases leads' : after.place? path with
    | none => rfl
    | some goal =>
      obtain ⟨directory, name, rfl, way⟩ := of_place? leads'
      rw [place?_of_follow (follow_still back way)] at leads
      cases leads

/-- What a path leads to stays, if it was bypassed. -/
lemma Bypasses.standing? (bypasses : Bypasses (before.spot path) before after) :
    after.standing? path = before.standing? path := by
  rw [standing?_eq, standing?_eq, bypasses.place?]
  cases leads : before.place? path with
  | none => rfl
  | some place =>
    have same_spot : before.spot path = place := by rw [spot, leads, Option.getD_some]
    rw [same_spot] at bypasses
    rw [Option.bind_some, Option.bind_some, show after.lookup? place = _ from bypasses.entry]
    cases there : before.lookup? place with
    | none => rfl
    | some entry =>
      cases entry with
      | directory => rfl
      | full => rfl
      | file id => exact congrArg (fun bytes => some (Standing.file bytes)) (bypasses.content id there)

/-- What is open does not stand at a place. -/
def IsElsewhere (disk : Disk) (place : Place) (id? : Option Nat) : Prop :=
  ∀ id, id? = some id → disk.lookup? place ≠ some (.file id)

/-- A file that is not at a place does not come there when the disk goes past the place. -/
lemma IsElsewhere.later {id? : Option Nat} (elsewhere : before.IsElsewhere place id?)
    (bypasses : Bypasses place before after) : after.IsElsewhere place id? := by
  intro id same
  rw [bypasses.entry]
  exact elsewhere id same

/-- Opening a file at one place goes past every other place. -/
lemma Opened.bypasses {file : FileHandle} (opened : Opened before goal file after)
    (formed : before.IsWellFormed → after.IsWellFormed) (elsewhere : goal ≠ place) : Bypasses place before after := by
  refine opened.besides.bypasses formed opened.no_directory ?_ elsewhere
  rw [opened.entry]
  cases file.id <;> simp

/-- Creating a file goes past a place to which its path does not lead, and what is open then stands elsewhere. -/
lemma create_bypasses (formed : disk.IsWellFormed) (elsewhere : disk.place? path ≠ some place) :
    Bypasses place disk (disk.create path).2 ∧
      ∀ file, (disk.create path).1 = .ok file → (disk.create path).2.IsElsewhere place file.id := by
  have opens := create_opens formed path
  have formed' : disk.IsWellFormed → (disk.create path).2.IsWellFormed := fun formed => formed.create path
  rcases created : disk.create path with ⟨error | file, after⟩
  · rw [created] at opens
    subst opens
    exact ⟨bypasses_ticked place disk, fun file impossible => by cases impossible⟩
  · rw [created] at opens formed'
    obtain ⟨directory, name, way, -, -, opened⟩ := opens
    have apart : place ≠ directory ++ [name] := by
      rintro rfl
      exact elsewhere (place?_of_follow way)
    have bypasses := opened.bypasses formed' (Ne.symm apart)
    refine ⟨bypasses, ?_⟩
    rintro _ ⟨⟩ id same there
    rw [bypasses.entry] at there
    exact opened.alone place id apart there same

/-- Writing to an open file goes past a place where it does not stand. -/
lemma write_bypasses {file : FileHandle} (elsewhere : disk.IsElsewhere place file.id) (bytes : Bytes) :
    Bypasses place disk (disk.write file bytes).2.2 := by
  have spares := (DiskFile.isLocal_write bytes).spares ⟨file, disk⟩
  exact spares.bypasses elsewhere

/-- Nothing stands at a place whose entry was removed. -/
lemma lookup?_removeEntry_self (disk : Disk) (below : place.isOutside = false) :
    (disk.removeEntry place).lookup? place = none := by
  rw [lookup?, below, if_neg Bool.false_ne_true, removeEntry, List.lookup_eq_none_iff]
  intro item inside
  have elsewhere : item.1 ≠ place := by simpa using (List.mem_filter.mp inside).2
  exact bne_iff_ne.mpr (Ne.symm elsewhere)

/-- A renaming moves an entry, or leaves the disk as it was. -/
lemma rename_cases (disk : Disk) (source target : String) :
    (disk.rename source target).2 = disk.ticked ∨
      ∃ origin goal entry, disk.place? source = some origin ∧ disk.place? target = some goal ∧
        disk.lookup? origin = some entry ∧ disk.lookup? goal ≠ some .directory ∧
        (disk.rename source target).2 = (disk.ticked.removeEntry origin).setEntry goal entry := by
  -- without a name at the end of each path, there is nothing to rename
  by_cases named : ∃ origin first goal last,
      disk.follow source = .ok (origin, some first) ∧ disk.follow target = .ok (goal, some last)
  · obtain ⟨origin, first, goal, last, way, way'⟩ := named
    have moves := rename_moves way way'
    rcases run : disk.rename source target with ⟨error | _, after⟩
    · rw [run] at moves
      exact .inl moves
    · rw [run] at moves
      obtain ⟨entry, there, no_directory, moved⟩ := moves
      exact .inr ⟨_, _, entry, place?_of_follow way, place?_of_follow way', there, no_directory, moved⟩
  · left
    rw [Disk.rename, tick_eq]
    cases disk.faults disk.operations with
    | some fault => rfl
    | none =>
      dsimp only
      split
      · rfl
      · rfl
      · rename_i way way'
        exact absurd ⟨_, _, _, _, way, way'⟩ named
      · rfl

/-- Giving a file another name goes past a place to which neither name leads. -/
lemma rename_bypasses {source target : String} (formed : disk.IsWellFormed)
    (file : ∀ origin, disk.place? source = some origin → disk.lookup? origin ≠ some .directory)
    (elsewhere : disk.place? source ≠ some place) (elsewhere' : disk.place? target ≠ some place) :
    Bypasses place disk (disk.rename source target).2 := by
  rcases disk.rename_cases source target with unmoved | ⟨origin, goal, entry, led, led', there, no_directory, moved⟩
  · rw [unmoved]
    exact bypasses_ticked place disk
  · have apart : origin ≠ place := fun same => elsewhere (same ▸ led)
    have apart' : goal ≠ place := fun same => elsewhere' (same ▸ led')
    have below : ∀ {path : String} {place : Place}, disk.place? path = some place → place.isOutside = false := by
      intro path place leads
      obtain ⟨directory, name, rfl, way⟩ := of_place? leads
      exact isOutside_of_follow way
    have no_directory' := file origin led
    have removed : SameBesides origin disk (disk.ticked.removeEntry origin) :=
      ⟨fun other ne => lookup?_removeEntry_of_ne _ ne, fun _ _ _ _ => rfl⟩
    have put : SameBesides goal (disk.ticked.removeEntry origin)
        ((disk.ticked.removeEntry origin).setEntry goal entry) :=
      ⟨fun other ne => lookup?_setEntry_of_ne _ ne _, fun _ _ _ _ => rfl⟩
    have gone : (disk.ticked.removeEntry origin).lookup? origin = none := lookup?_removeEntry_self _ (below led)
    have free : (disk.ticked.removeEntry origin).lookup? goal ≠ some .directory := by
      by_cases here : goal = origin
      · simp [here, gone]
      · rwa [lookup?_removeEntry_of_ne _ here]
    have first := removed.bypasses (fun formed => formed.ticked.removeEntry origin) no_directory' (by simp [gone]) apart
    have second := put.bypasses (fun _ => formed.ticked.move there) free
      (by rwa [lookup?_setEntry_self _ (below led'), ← there]) apart'
    rw [moved]
    exact first.trans second

/-- A file is replaced past a place to which neither its path nor that of its draft leads. -/
lemma replaceFile_bypasses {bytes : Bytes} (formed : disk.IsWellFormed)
    (elsewhere : disk.place? (path ++ ".tmp") ≠ some place) (elsewhere' : disk.place? path ≠ some place) :
    Bypasses place disk (StillStore.replaceFile disk path bytes).2 := by
  have opens := create_opens formed (path ++ ".tmp")
  obtain ⟨opening, others⟩ := create_bypasses formed elsewhere
  rw [StillStore.replaceFile, writeFile]
  rcases created : disk.create (path ++ ".tmp") with ⟨error | file, between⟩
  · rw [created] at opening
    exact opening
  · rw [created] at opens opening others
    obtain ⟨directory, name, way, -, -, opened⟩ := opens
    have writing := opening.trans (write_bypasses (others file rfl) bytes)
    dsimp only at writing ⊢
    rcases written : between.write file bytes with ⟨error | _, file', drafted⟩
    · rw [written] at writing
      exact writing
    · rw [written] at writing
      dsimp only
      refine writing.trans (rename_bypasses (writing.formed formed) ?_ ?_ ?_)
      · intro origin leads
        rw [writing.place?, place?_of_follow way] at leads
        cases leads
        exact fun there => opened.no_directory ((writing.directories _).mp there)
      · rwa [writing.place?]
      · rwa [writing.place?]

end Disk

end VideoCapture
