import VideoCapture.Proofs.Disk.Path
import VideoCapture.Proofs.Disk.Sound

/-!
# Files by their names

What opening a file for writing does to the names on a disk: one place gets an entry, and everything else stays
as it was (`create_opens`), which on a sound disk leaves a created file (`created_of_sound`). As that place was no
directory, every path that could be followed before leads to the same as before, and a path that leads somewhere else
reads as before (`read_elsewhere`).
-/

namespace VideoCapture

namespace Disk

/-- Every file that has a name exists, and no file has two names. -/
structure IsWellFormed (disk : Disk) : Prop where
  present : ∀ place id, disk.lookup? place = some (.file id) → id < disk.contents.length
  distinct : ∀ place other id, disk.lookup? place = some (.file id) →
    disk.lookup? other = some (.file id) → place = other

/-- Nothing differs but what stands at one place. -/
structure SameBesides (place : Place) (before after : Disk) : Prop where
  entries : ∀ other, other ≠ place → after.lookup? other = before.lookup? other
  contents : ∀ other id, other ≠ place → before.lookup? other = some (.file id) →
    after.content id = before.content id

variable {before after : Disk} {place : Place} {path : String}

/-- A look at another place sees what it saw before. -/
lemma look_same (same : SameBesides place before after) {directory : Place} {name : String}
    (elsewhere : directory ++ [name] ≠ place) : after.look directory name = before.look directory name := by
  simp only [look, same.entries _ elsewhere]

/-- Entering a directory at another place leads where it led before. -/
lemma enter_same (same : SameBesides place before after) {directory : Place} {name : String}
    (elsewhere : directory ++ [name] ≠ place) : after.enter directory name = before.enter directory name := by
  simp only [enter, look_same same elsewhere]

/-- A directory that was there is still there. -/
lemma SameBesides.directories (same : SameBesides place before after) (file : before.lookup? place ≠ some .directory)
    (other : Place) (there : before.lookup? other = some .directory) : after.lookup? other = some .directory := by
  -- at the place itself there was no directory
  have elsewhere : other ≠ place := by
    rintro rfl
    exact file there
  rw [same.entries other elsewhere, there]

section

variable (kept : ∀ other, before.lookup? other = some .directory → after.lookup? other = some .directory)
include kept

/-- What could be entered can still be entered. -/
lemma enter_still {directory entered : Place} {name : String} (way : before.enter directory name = .ok entered) :
    after.enter directory name = .ok entered := by
  rw [enter] at way ⊢
  split at way
  · rename_i dot
    rw [if_pos dot, way]
  · rename_i not_dot
    rw [if_neg not_dot]
    split at way
    · rename_i dots
      rw [if_pos dots, way]
    · rename_i not_dots
      rw [if_neg not_dots]
      unfold look at way ⊢
      split at way
      · cases way
      · rename_i found
        split at found
        · cases found
        · rename_i short
          rw [if_neg short, kept _ (Except.ok.inj found), way]
      · cases way
      · cases way

/-- Names that led through directories lead there still. -/
lemma foldlM_enter_still {names : List String} {start directory : Place}
    (way : names.foldlM before.enter start = .ok directory) : names.foldlM after.enter start = .ok directory := by
  induction names generalizing start with
  | nil => exact way
  | cons name rest ih =>
    rw [List.foldlM_cons] at way ⊢
    cases entered : before.enter start name with
    | error error =>
      rw [entered] at way
      cases way
    | ok next =>
      rw [entered] at way
      rw [enter_still kept entered]
      exact ih way

/-- A path that could be followed leads to the same place. -/
lemma follow_still {found : Place × Option String} (way : before.follow path = .ok found) :
    after.follow path = .ok found := by
  unfold follow at way ⊢
  split at way
  · cases way
  rename_i no_null
  rw [if_neg no_null]
  split at way
  · cases way
  rename_i short
  rw [if_neg short]
  dsimp only at way ⊢
  split at way
  · cases led : (Path.names path).foldlM before.enter (Path.start path) with
    | error error =>
      rw [led] at way
      cases way
    | ok directory =>
      rw [led] at way
      rw [foldlM_enter_still kept led]
      exact way
  · cases led : (Path.names path).dropLast.foldlM before.enter (Path.start path) with
    | error error =>
      rw [led] at way
      cases way
    | ok directory =>
      rw [led] at way
      rw [foldlM_enter_still kept led]
      exact way

end

/-- A path that can be followed to a name ends in that name, and leads to its directory up to there. -/
lemma names_of_follow {disk : Disk} {directory : Place} {name : String}
    (way : disk.follow path = .ok (directory, some name)) :
    ∃ through, Path.names path = through ++ [name] ∧
      through.foldlM disk.enter (Path.start path) = .ok directory ∧ Path.isDots name = false := by
  unfold follow at way
  split at way
  · cases way
  split at way
  · cases way
  dsimp only at way
  split at way
  · cases led : (Path.names path).foldlM disk.enter (Path.start path) with
    | error error =>
      rw [led] at way
      cases way
    | ok _ =>
      rw [led] at way
      cases way
  · rename_i last some_name
    obtain ⟨ends, no_dots⟩ := Option.filter_eq_some_iff.mp some_name
    obtain ⟨through, parted⟩ := List.getLast?_eq_some_iff.mp ends
    cases led : (Path.names path).dropLast.foldlM disk.enter (Path.start path) with
    | error error =>
      rw [led] at way
      cases way
    | ok _ =>
      rw [led] at way
      cases way
      rw [parted, List.dropLast_concat] at led
      exact ⟨through, parted, led, by simpa using no_dots⟩

/-- An ordinary name in a directory leads to a place below the root. -/
lemma isOutside_of_follow {disk : Disk} {directory : Place} {name : String}
    (way : disk.follow path = .ok (directory, some name)) : (directory ++ [name]).isOutside = false := by
  obtain ⟨through, parted, -, no_dots⟩ := names_of_follow way
  refine Place.isOutside_append_name directory ?_ ?_
  · rintro rfl
    cases no_dots
  · rintro rfl
    have inside : "/" ∈ Path.names path := parted ▸ List.mem_append_right through List.mem_cons_self
    exact Path.slash_not_mem_name inside (by decide)

/-- A look that succeeds sees what stands under a name that is short enough. -/
lemma of_look {disk : Disk} {directory : Place} {name : String} {item? : Option DiskEntry}
    (looked : disk.look directory name = .ok item?) :
    name.utf8ByteSize ≤ Path.maxName ∧ disk.lookup? (directory ++ [name]) = item? := by
  unfold look at looked
  split at looked
  · cases looked
  · rename_i short
    exact ⟨Nat.not_lt.mp short, Except.ok.inj looked⟩

/-- What stands at a place was opened for writing: an empty file, or a full device. -/
structure Opened (before : Disk) (place : Place) (file : FileHandle) (after : Disk) : Prop where
  besides : SameBesides place before after
  no_directory : before.lookup? place ≠ some .directory
  start : file.position = 0
  entry : after.lookup? place = some (match file.id with | some id => .file id | none => .full)
  device : file.id = none → before.lookup? place = some .full
  empty : ∀ id, file.id = some id → id < after.contents.length ∧ after.content id = []
  /-- No other name leads to the file. -/
  alone : ∀ other id, other ≠ place → before.lookup? other = some (.file id) → file.id ≠ some id

/-- A file that was there is emptied. -/
lemma opened_existing {id : Nat} (formed : before.IsWellFormed) (there : before.lookup? place = some (.file id)) :
    Opened before place ⟨some id, 0⟩ (before.ticked.setStored id .empty) := by
  have same := sameBut_setStored before.ticked id .empty
  have unshared : ∀ other otherId, other ≠ place → before.lookup? other = some (.file otherId) → otherId ≠ id := by
    rintro other _ elsewhere otherwise rfl
    exact elsewhere (formed.distinct _ _ _ otherwise there)
  constructor
  case besides =>
    exact ⟨fun other _ => same.lookup? other,
      fun other otherId elsewhere otherwise => same.others otherId (unshared other otherId elsewhere otherwise)⟩
  case no_directory => simp [there]
  case start => rfl
  case entry =>
    rw [same.lookup?]
    exact there
  case device => exact fun impossible => by cases impossible
  case empty =>
    rintro _ ⟨⟩
    have present : id < before.ticked.contents.length := formed.present _ id there
    exact ⟨same.count ▸ present, by rw [content_setStored_self present, FileContent.toBytes_empty]⟩
  case alone =>
    rintro other _ elsewhere otherwise ⟨⟩
    exact unshared other id elsewhere otherwise rfl

/-- A file that was not there is new. -/
lemma opened_new (formed : before.IsWellFormed) (below : place.isOutside = false)
    (missing : before.lookup? place = none) :
    Opened before place ⟨some before.contents.length, 0⟩ (before.ticked.newFile place).2 := by
  constructor
  case besides =>
    refine ⟨fun other elsewhere => lookup?_setEntry_of_ne _ elsewhere _, ?_⟩
    intro other otherId _ otherwise
    have present := formed.present other otherId otherwise
    simp [newFile, setEntry, ticked, content, stored, List.getElem?_append_left present]
  case no_directory => simp [missing]
  case start => rfl
  case entry => exact lookup?_setEntry_self _ below _
  case device => exact fun impossible => by cases impossible
  case empty =>
    rintro _ ⟨⟩
    constructor
    · simp [newFile, setEntry, ticked]
    · simp [newFile, setEntry, ticked, content, stored]
  case alone =>
    rintro other _ _ otherwise ⟨⟩
    exact Nat.lt_irrefl _ (formed.present other _ otherwise)

/-- A full device opens without a file behind it. -/
lemma opened_full (there : before.lookup? place = some .full) : Opened before place ⟨none, 0⟩ before.ticked where
  besides := ⟨fun _ _ => rfl, fun _ _ _ _ => rfl⟩
  no_directory := by simp [there]
  start := rfl
  entry := there
  device _ := there
  empty _ impossible := by cases impossible
  alone _ _ _ _ impossible := by cases impossible

/-- The fault of an operation is that of its number, and then the operation is counted. -/
lemma tick_eq (disk : Disk) : disk.tick = (disk.faults disk.operations, disk.ticked) := rfl

/-- A file that cannot be opened leaves the disk as it is. One that can be is an empty file or a full device. -/
lemma create_opens (formed : before.IsWellFormed) (path : String) :
    match before.create path with
    | (.error _, after) => after = before.ticked
    | (.ok file, after) => ∃ directory name, before.follow path = .ok (directory, some name) ∧
        Path.endsInSlash path = false ∧ name.utf8ByteSize ≤ Path.maxName ∧
        Opened before (directory ++ [name]) file after := by
  rw [Disk.create, tick_eq]
  cases before.faults before.operations with
  | some fault => rfl
  | none =>
    dsimp only
    have same_way : before.ticked.follow path = before.follow path := rfl
    rw [same_way]
    rcases way : before.follow path with error | ⟨directory, _ | name⟩
    · rfl
    · rfl
    dsimp only
    have same_look : before.ticked.look directory name = before.look directory name := rfl
    rw [same_look]
    by_cases slash : Path.endsInSlash path = true
    · rw [if_pos slash]
    rw [if_neg slash]
    have plain := Bool.eq_false_iff.mpr slash
    rcases looked : before.look directory name with error | _ | entry
    · rfl
    · obtain ⟨short, missing⟩ := of_look looked
      exact ⟨directory, name, rfl, plain, short, opened_new formed (isOutside_of_follow way) missing⟩
    · obtain ⟨short, there⟩ := of_look looked
      cases entry with
      | directory => rfl
      | full => exact ⟨directory, name, rfl, plain, short, opened_full there⟩
      | file id => exact ⟨directory, name, rfl, plain, short, opened_existing formed there⟩

/-- A path was followed to a name in a directory, which now stands for an empty file. -/
structure Created (before : Disk) (path : String) (directory : Place) (name : String) (id : Nat)
    (after : Disk) : Prop where
  way : before.follow path = .ok (directory, some name)
  plain : Path.endsInSlash path = false
  short : name.utf8ByteSize ≤ Path.maxName
  no_directory : before.lookup? (directory ++ [name]) ≠ some .directory
  entry : after.lookup? (directory ++ [name]) = some (.file id)
  present : id < after.contents.length
  empty : after.content id = []
  sound : after.IsSound
  entries : ∀ other, other ≠ directory ++ [name] → after.lookup? other = before.lookup? other
  /-- Files that had a name before keep their contents, but for the one that was emptied. -/
  others : ∀ other otherId, other ≠ directory ++ [name] → before.lookup? other = some (.file otherId) →
    otherId ≠ id ∧ after.content otherId = before.content otherId

/-- A sound disk stays sound when a file is created. -/
lemma IsSound.create {disk : Disk} (sound : disk.IsSound) (path : String) : (disk.create path).2.IsSound := by
  rw [Disk.create, Disk.tick_of_sound sound]
  dsimp only
  split
  · exact sound.ticked
  · exact sound.ticked
  · split
    · exact sound.ticked
    · split <;> exact sound.ticked

/-- Creating a file that is an ordinary one afterwards touches nothing else. -/
lemma created_of_sound (sound : before.IsSound) (formed : before.IsWellFormed) {id : Nat}
    (run : before.create path = (.ok ⟨some id, 0⟩, after)) :
    ∃ directory name, Created before path directory name id after := by
  have opens := create_opens formed path
  have sound' := sound.create path
  rw [run] at opens sound'
  obtain ⟨directory, name, way, plain, short, opened⟩ := opens
  obtain ⟨present, empty⟩ := opened.empty id rfl
  refine ⟨directory, name, way, plain, short, opened.no_directory, opened.entry, present, empty, sound',
    opened.besides.entries, ?_⟩
  intro other otherId elsewhere otherwise
  refine ⟨?_, opened.besides.contents other otherId elsewhere otherwise⟩
  rintro rfl
  exact opened.alone other otherId elsewhere otherwise rfl

/-- A path that leads to a file reads what is in it. -/
lemma read_of_file {disk : Disk} {directory : Place} {name : String} {id : Nat} (sound : disk.IsSound)
    (way : disk.follow path = .ok (directory, some name)) (plain : Path.endsInSlash path = false)
    (short : name.utf8ByteSize ≤ Path.maxName) (entry : disk.lookup? (directory ++ [name]) = some (.file id)) :
    (disk.read path).1 = .ok (disk.content id) := by
  have same_way : disk.ticked.follow path = disk.follow path := rfl
  have found : disk.ticked.look directory name = .ok (some (.file id)) := by
    rw [look, if_neg (Nat.not_lt.mpr short)]
    exact congrArg Except.ok entry
  rw [read, tick_of_sound sound]
  dsimp only
  rw [same_way, way]
  dsimp only
  rw [found]
  dsimp only
  rw [plain]
  rfl

/-- A created file, written to from its beginning on, is the only thing that differs. -/
lemma Created.sameBesides {directory : Place} {name : String} {id : Nat} {region : Bytes} {final : Disk}
    (created : Created before path directory name id after) (shown : Shows after id 0 region final) :
    SameBesides (directory ++ [name]) before final where
  entries other elsewhere := (shown.same.lookup? other).trans (created.entries other elsewhere)
  contents other otherId elsewhere otherwise := by
    obtain ⟨different, kept⟩ := created.others other otherId elsewhere otherwise
    exact (shown.same.others otherId different).trans kept

/-- A created file is emptied when it has been written to and its path is created again. -/
lemma Created.create_again {directory : Place} {name : String} {id : Nat} {region : Bytes} {disk : Disk}
    (created : Created before path directory name id after) (shown : Shows after id 0 region disk) :
    disk.create path = (.ok ⟨some id, 0⟩, disk.ticked.setStored id .empty) := by
  have way := follow_still ((created.sameBesides shown).directories created.no_directory) created.way
  have entry := (shown.same.lookup? _).trans created.entry
  have same_way : disk.ticked.follow path = disk.follow path := rfl
  have found : disk.ticked.look directory name = .ok (some (.file id)) := by
    rw [look, if_neg (Nat.not_lt.mpr created.short)]
    exact congrArg Except.ok entry
  rw [create, tick_of_sound shown.sound]
  dsimp only
  rw [same_way, way]
  dsimp only
  rw [created.plain, if_neg Bool.false_ne_true, found]

/-- A created file reads as what was written to it. -/
lemma Created.read {directory : Place} {name : String} {id : Nat} {region : Bytes} {final : Disk}
    (created : Created before path directory name id after) (shown : Shows after id 0 region final) :
    (final.read path).1 = .ok region := by
  have way := follow_still ((created.sameBesides shown).directories created.no_directory) created.way
  have entry := (shown.same.lookup? _).trans created.entry
  rw [read_of_file shown.sound way created.plain created.short entry, shown.content, created.empty,
    FileContent.overwrite_nil_zero]

/-- Single dots lead nowhere else. -/
lemma foldlM_enter_dots (disk : Disk) (directory : Place) (dots : Nat) :
    (List.replicate dots ".").foldlM disk.enter directory = .ok directory := by
  induction dots with
  | zero => rfl
  | succ dots ih =>
    rw [List.replicate_succ, List.foldlM_cons]
    exact ih

/-- Names that lead past the place lead there in the same way. -/
lemma foldlM_enter_elsewhere (same : SameBesides place before after)
    (file : before.lookup? place ≠ some .directory) {through : List String} {start directory : Place}
    {name : String} (way : through.foldlM before.enter start = .ok directory)
    (elsewhere : directory ++ [name] ≠ place) (dots : Nat) :
    (through ++ [name] ++ List.replicate dots ".").foldlM after.enter start =
      (through ++ [name] ++ List.replicate dots ".").foldlM before.enter start := by
  have step : ∀ disk : Disk, through.foldlM disk.enter start = .ok directory →
      (through ++ [name] ++ List.replicate dots ".").foldlM disk.enter start = disk.enter directory name := by
    intro disk led
    rw [List.foldlM_append, List.foldlM_append, led]
    cases entered : disk.enter directory name with
    | error error => simp [entered, bind, Except.bind]
    | ok next => simp [entered, bind, Except.bind, foldlM_enter_dots, pure, Except.pure]
  rw [step after (foldlM_enter_still (same.directories file) way), step before way, enter_same same elsewhere]

/-- A path is followed in the same way on two disks if its names lead through them in the same way. -/
lemma follow_congr {one two : Disk}
    (whole : (Path.names path).foldlM one.enter (Path.start path) =
      (Path.names path).foldlM two.enter (Path.start path))
    (front : (Path.names path).dropLast.foldlM one.enter (Path.start path) =
      (Path.names path).dropLast.foldlM two.enter (Path.start path)) :
    one.follow path = two.follow path := by
  unfold follow
  dsimp only
  rw [whole, front]

/-- A path that leads past the place reads as before, whether there is a file or not. -/
lemma read_elsewhere (same : SameBesides place before after) (file : before.lookup? place ≠ some .directory)
    (sound : before.IsSound) (sound' : after.IsSound) {through : List String} {directory : Place}
    {name : String} {dots : Nat} (names : Path.names path = through ++ [name] ++ List.replicate dots ".")
    (led : through.foldlM before.enter (Path.start path) = .ok directory)
    (elsewhere : directory ++ [name] ≠ place) : (after.read path).1 = (before.read path).1 := by
  have way : after.follow path = before.follow path := by
    refine follow_congr ?_ ?_
    · rw [names]
      exact foldlM_enter_elsewhere same file led elsewhere dots
    · rw [names]
      cases dots with
      | zero =>
        rw [List.replicate_zero, List.append_nil, List.dropLast_concat, led]
        exact foldlM_enter_still (same.directories file) led
      | succ dots =>
        rw [List.replicate_succ', ← List.append_assoc, List.dropLast_concat]
        exact foldlM_enter_elsewhere same file led elsewhere dots
  have same_way : before.ticked.follow path = before.follow path := rfl
  have same_way' : after.ticked.follow path = before.follow path := way
  rw [read, read, tick_of_sound sound, tick_of_sound sound']
  dsimp only
  rw [same_way, same_way']
  rcases found : before.follow path with error | ⟨goal, _ | last⟩
  · rfl
  · rfl
  obtain ⟨through', names', led', no_dots⟩ := names_of_follow found
  -- a path that ends in a name has no dots behind it
  have no_more : dots = 0 := Path.no_dots_behind (names.symm.trans names') no_dots
  subst no_more
  rw [names, List.replicate_zero, List.append_nil] at names'
  obtain ⟨rfl, last_eq⟩ := List.append_singleton_inj.mp names'
  cases last_eq
  cases led.symm.trans led'
  have looked : after.ticked.look directory name = before.ticked.look directory name :=
    look_same same elsewhere
  dsimp only
  rw [looked]
  rcases looked_up : before.ticked.look directory name with error | _ | entry
  · rfl
  · rfl
  cases entry with
  | directory => rfl
  | full =>
    dsimp only
    split <;> rfl
  | file id =>
    have there := (of_look looked_up).2
    have kept : after.ticked.content id = before.ticked.content id := same.contents _ id elsewhere there
    dsimp only
    rw [kept]
    split <;> rfl

section Extension

variable {directory : Place} {name extension : String} {id : Nat} {region : Bytes} {final : Disk}

/-- Writing the file at a path leaves alone what the path means with another extension. -/
lemma Created.read_withExtension (sound : before.IsSound) (created : Created before path directory name id after)
    (shown : Shows after id 0 region final) (no_slash : '/' ∉ extension.toList) (no_dot : '.' ∉ extension.toList)
    (other : Path.extension? path ≠ some extension) :
    (final.read (Path.withExtension path extension)).1 =
      (before.read (Path.withExtension path extension)).1 := by
  obtain ⟨through, parted, led, not_dots⟩ := names_of_follow created.way
  obtain ⟨named, through_eq, name_eq⟩ := Path.isNamed_of_names parted not_dots
  have names : Path.names (Path.withExtension path extension) =
      through ++ [String.ofList (Path.extendedName path extension)] ++ List.replicate 0 "." := by
    rw [Path.names_withExtension named no_slash, through_eq, List.replicate_zero, List.append_nil]
  rw [← Path.start_withExtension named no_slash] at led
  refine read_elsewhere (created.sameBesides shown) created.no_directory sound shown.sound names led ?_
  intro same
  have same_name := (List.append_singleton_inj.mp same).2
  rw [← name_eq, String.ofList_inj] at same_name
  exact Path.extendedName_ne named no_dot other same_name

end Extension

end Disk

end VideoCapture
