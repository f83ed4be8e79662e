import VideoCapture.Proofs.Disk.WellFormed
import VideoCapture.StillStore

/-!
# Replacing a file

A file is replaced in two steps: its new bytes are written to a draft, a file with a longer name in the same directory,
and the draft then takes the place of the file. Up to the second step nothing differs but the draft
(`Disk.Opened.write`), so wherever a replacement fails, its target is as it was (`replaceFile_error`). A replacement
that succeeds leaves the new bytes at the target (`replaceFile_ok`), but for one case: to write no bytes succeeds on a
full device as well, and then it is the device that takes the place of the file.
-/

namespace VideoCapture

namespace Path

/-- Whether a text is the name of a file, and nothing else. -/
structure IsFileName (name : String) : Prop where
  no_slash : '/' ∉ name.toList
  some_char : name ≠ ""
  no_dots : isDots name = false

variable {directory name : String}

/-- Something that is appended to a joined path is appended to its name. -/
lemma join_append (directory name more : String) : join directory name ++ more = join directory (name ++ more) := by
  rw [join, join]
  split
  · rw [String.append_assoc]
  · rw [String.append_assoc]

/-- The names of a joined path are those of the directory, and then the name of the file. -/
lemma names_join (named : IsFileName name) : names (join directory name) = names directory ++ [name] := by
  have last : namesOf name.toList = [name] := by
    rw [namesOf_plain named.no_slash, String.ofList_toList]
    intro empty
    exact named.some_char (String.toList_eq_nil_iff.mp empty)
  unfold join
  split
  · rename_i ends
    rcases ends with rfl | ends
    · rw [String.empty_append]
      exact last
    · obtain ⟨front, parted⟩ := List.getLast?_eq_some_iff.mp (eq_of_beq ends)
      rw [names_eq, names_eq, String.toList_append, parted, List.append_assoc, List.singleton_append,
        namesOf_append_slash, namesOf_slash_end, last]
  · have slash : "/".toList = ['/'] := by simp
    rw [names_eq, names_eq, String.toList_append, String.toList_append, slash, List.append_assoc,
      List.singleton_append, namesOf_append_slash, last]

/-- A joined path starts where the directory starts. -/
lemma start_join (named : IsFileName name) : start (join directory name) = start directory := by
  have no_slash : name.toList.head? ≠ some '/' := fun front => named.no_slash (List.mem_of_mem_head? front)
  by_cases empty : directory = ""
  · subst empty
    rw [join, if_pos (.inl rfl), String.empty_append, start, if_neg no_slash]
    rfl
  · have some_char : directory.toList ≠ [] := fun none => empty (String.toList_eq_nil_iff.mp none)
    have same : ∀ more : List Char, (directory.toList ++ more).head? = directory.toList.head? := by
      intro more
      cases chars : directory.toList with
      | nil => exact absurd chars some_char
      | cons c rest => rfl
    unfold join
    split
    · rw [start, start, String.toList_append, same]
    · rw [start, start, String.toList_append, String.toList_append, List.append_assoc, same]

end Path

namespace Disk

variable {disk before after : Disk} {place : Place} {path directory name : String}

/-- What stands at a place, as far as it can be seen there. -/
inductive Standing where
  | directory
  | file (bytes : Bytes)
  | full
  deriving DecidableEq, Repr

/-- An entry as it can be seen. -/
def seen (disk : Disk) : DiskEntry → Standing
  | .directory => .directory
  | .file id => .file (disk.content id)
  | .full => .full

/-- What a path leads to, if there is anything. -/
def standing? (disk : Disk) (path : String) : Option Standing :=
  match disk.follow path with
  | .ok (directory, some name) => (disk.lookup? (directory ++ [name])).map disk.seen
  | _ => none

/-- A path that ends in a name is followed if its directory can be entered. -/
lemma follow_of_led {through : List String} {found : Place} (no_null : '\x00' ∉ path.toList)
    (short : path.utf8ByteSize ≤ Path.maxLength) (names : Path.names path = through ++ [name])
    (no_dots : Path.isDots name = false) (led : through.foldlM disk.enter (Path.start path) = .ok found) :
    disk.follow path = .ok (found, some name) := by
  have last : ((Path.names path).getLast?.filter fun name => !Path.isDots name) = some name := by
    rw [names, List.getLast?_concat, Option.filter_some, no_dots]
    rfl
  unfold follow
  rw [if_neg no_null, if_neg (Nat.not_lt.mpr short)]
  dsimp only
  rw [last, names, List.dropLast_concat, led]
  rfl

/-- A path that is followed is neither too long nor impossible. -/
lemma plain_of_follow {found : Place × Option String} (way : disk.follow path = .ok found) :
    '\x00' ∉ path.toList ∧ path.utf8ByteSize ≤ Path.maxLength := by
  unfold follow at way
  split at way
  · cases way
  rename_i no_null
  split at way
  · cases way
  rename_i short
  exact ⟨no_null, Nat.not_lt.mp short⟩

/-- Where a longer name can be followed in a directory, a shorter one can be. -/
lemma follow_join {more other : String} {found : Place} (named : Path.IsFileName name)
    (named' : Path.IsFileName (name ++ more))
    (way : disk.follow (Path.join directory name ++ more) = .ok (found, some other)) :
    other = name ++ more ∧ disk.follow (Path.join directory name) = .ok (found, some name) := by
  obtain ⟨no_null, short⟩ := plain_of_follow way
  obtain ⟨through, names, led, -⟩ := names_of_follow way
  rw [Path.join_append] at names led
  rw [Path.names_join named'] at names
  obtain ⟨rfl, same⟩ := List.append_singleton_inj.mp names
  rw [Path.start_join named', ← Path.start_join named] at led
  rw [String.toList_append] at no_null
  rw [String.utf8ByteSize_append] at short
  exact ⟨same.symm, follow_of_led (fun inside => no_null (List.mem_append_left _ inside))
    (Nat.le_trans (Nat.le_add_right _ _) short) (Path.names_join named) named.no_dots led⟩

/-- A path that was followed to a name leads to what stands under that name. -/
lemma standing?_of_follow {found : Place} {last : String} (way : disk.follow path = .ok (found, some last)) :
    disk.standing? path = (disk.lookup? (found ++ [last])).map disk.seen := by
  rw [standing?, way]

/-- What a path leads to is the same when only another place differs, which is no directory. -/
lemma standing?_same {found : Place} {last : String} (same : SameBesides place before after)
    (file : before.lookup? place ≠ some .directory) (way : before.follow path = .ok (found, some last))
    (elsewhere : found ++ [last] ≠ place) : after.standing? path = before.standing? path := by
  rw [standing?_of_follow way, standing?_of_follow (follow_still (same.directories file) way), same.entries _ elsewhere]
  cases entry : before.lookup? (found ++ [last]) with
  | none => rfl
  | some entry' =>
    cases entry' with
    | directory => rfl
    | full => rfl
    | file id => exact congrArg (fun bytes => some (Standing.file bytes)) (same.contents _ id elsewhere entry)

/-- The bytes that were written to a place stand there, unless a full device took no bytes at all. -/
def Holds (before : Disk) (place : Place) (bytes : Bytes) (after : Disk) : Prop :=
  (∃ id, after.lookup? place = some (.file id) ∧ after.content id = bytes) ∨
    (bytes = [] ∧ before.lookup? place = some .full ∧ after.lookup? place = some .full)

/-- Writing to what was opened touches nothing else, whether it succeeds or not. -/
lemma Opened.write {file : FileHandle} (opened : Opened before place file after) (bytes : Bytes) :
    SameBesides place before (after.write file bytes).2.2 ∧
      ((after.write file bytes).1 = .ok () → Holds before place bytes (after.write file bytes).2.2) := by
  obtain ⟨id?, position⟩ := file
  obtain rfl : position = 0 := opened.start
  have entry := opened.entry
  rw [Disk.write, tick_eq]
  split
  · -- there is nothing to write
    rename_i nothing
    obtain rfl := List.isEmpty_iff.mp nothing
    refine ⟨opened.besides, fun _ => ?_⟩
    cases id? with
    | none => exact .inr ⟨rfl, opened.device rfl, entry⟩
    | some id => exact .inl ⟨id, entry, (opened.empty id rfl).2⟩
  · cases after.faults after.operations with
    | some fault => exact ⟨⟨opened.besides.entries, opened.besides.contents⟩, fun impossible => by cases impossible⟩
    | none =>
      cases id? with
      | none => exact ⟨⟨opened.besides.entries, opened.besides.contents⟩, fun impossible => by cases impossible⟩
      | some id =>
        obtain ⟨present, empty⟩ := opened.empty id rfl
        have same := sameBut_setStored after.ticked id ((after.ticked.stored id).write 0 bytes)
        refine ⟨⟨?_, ?_⟩, fun _ => .inl ⟨id, ?_, ?_⟩⟩
        · exact fun other elsewhere => (same.lookup? other).trans (opened.besides.entries other elsewhere)
        · intro other otherId elsewhere otherwise
          have different : otherId ≠ id := by
            rintro rfl
            exact opened.alone other otherId elsewhere otherwise rfl
          exact (same.others otherId different).trans (opened.besides.contents other otherId elsewhere otherwise)
        · exact (same.lookup? place).trans entry
        · have blank : (after.ticked.stored id).toBytes = [] := empty
          have there : id < after.ticked.contents.length := present
          rw [content_setStored_self there, FileContent.toBytes_write, blank, FileContent.overwrite_nil_zero]

/-- A draft in a directory is written, or cannot be, and nothing else differs. Where it could be followed, the shorter
name can be, too. -/
lemma writeFile_draft {more : String} {bytes : Bytes} {answer : Except FileError Unit} (formed : before.IsWellFormed)
    (named : Path.IsFileName name) (named' : Path.IsFileName (name ++ more))
    (run : before.writeFile (Path.join directory name ++ more) bytes = (answer, after)) :
    (after = before.ticked ∧ answer ≠ .ok ()) ∨
      ∃ found, before.follow (Path.join directory name ++ more) = .ok (found, some (name ++ more)) ∧
        before.follow (Path.join directory name) = .ok (found, some name) ∧
        before.lookup? (found ++ [name ++ more]) ≠ some .directory ∧
        SameBesides (found ++ [name ++ more]) before after ∧
        (answer = .ok () → Holds before (found ++ [name ++ more]) bytes after) := by
  have opens := create_opens formed (Path.join directory name ++ more)
  rw [writeFile] at run
  rcases created : before.create (Path.join directory name ++ more) with ⟨error | file, between⟩
  · rw [created] at run opens
    cases run
    exact .inl ⟨opens, fun impossible => by cases impossible⟩
  · rw [created] at run opens
    obtain ⟨found, last, way, -, -, opened⟩ := opens
    obtain ⟨rfl, way'⟩ := follow_join named named' way
    obtain ⟨same, holds⟩ := opened.write bytes
    cases run
    exact .inr ⟨found, way, way', opened.no_directory, same, holds⟩

/-- What stands elsewhere stays when an entry is removed. -/
lemma lookup?_removeEntry_of_ne (disk : Disk) {other : Place} (different : other ≠ place) :
    (disk.removeEntry place).lookup? other = disk.lookup? other := by
  -- an entry that is put there instead hides nothing but what is removed
  have skip : (other == place) = false := beq_eq_false_iff_ne.mpr different
  have instead := lookup?_setEntry_of_ne disk different .full
  simp only [lookup?, setEntry, List.lookup_cons, skip] at instead
  simpa only [lookup?, removeEntry] using instead

/-- A renaming that fails leaves the disk as it was. One that succeeds moves an entry. -/
lemma rename_moves {source target first last : String} {origin goal : Place}
    (way : disk.follow source = .ok (origin, some first)) (way' : disk.follow target = .ok (goal, some last)) :
    match disk.rename source target with
    | (.error _, after) => after = disk.ticked
    | (.ok (), after) => ∃ entry, disk.lookup? (origin ++ [first]) = some entry ∧
        disk.lookup? (goal ++ [last]) ≠ some .directory ∧
        after = (disk.ticked.removeEntry (origin ++ [first])).setEntry (goal ++ [last]) entry := by
  rw [Disk.rename, tick_eq]
  cases disk.faults disk.operations with
  | some fault => rfl
  | none =>
    have same_way : disk.ticked.follow source = .ok (origin, some first) := way
    have same_way' : disk.ticked.follow target = .ok (goal, some last) := way'
    dsimp only
    rw [same_way, same_way']
    dsimp only
    rcases looked : disk.ticked.look origin first with error | _ | entry <;>
      rcases looked' : disk.ticked.look goal last with error' | _ | entry'
    case ok.some.ok.none =>
      refine ⟨entry, (of_look looked).2, ?_, rfl⟩
      have missing : disk.lookup? (goal ++ [last]) = none := (of_look looked').2
      simp [missing]
    case ok.some.ok.some =>
      have there : disk.lookup? (goal ++ [last]) = some entry' := (of_look looked').2
      cases entry' with
      | directory => rfl
      | full => exact ⟨entry, (of_look looked).2, by simp [there], rfl⟩
      | file id => exact ⟨entry, (of_look looked).2, by simp [there], rfl⟩
    all_goals rfl

/-- After a renaming its target leads to what was moved. -/
lemma standing?_renamed {source target first last : String} {origin goal : Place}
    (way : disk.follow source = .ok (origin, some first)) (way' : disk.follow target = .ok (goal, some last))
    (file : disk.lookup? (origin ++ [first]) ≠ some .directory) (elsewhere : goal ++ [last] ≠ origin ++ [first])
    (run : disk.rename source target = (.ok (), after)) :
    after.standing? target = (disk.lookup? (origin ++ [first])).map disk.seen := by
  have moves := rename_moves way way'
  rw [run] at moves
  obtain ⟨entry, there, no_directory, rfl⟩ := moves
  have below := isOutside_of_follow way'
  have removed : SameBesides (origin ++ [first]) disk (disk.ticked.removeEntry (origin ++ [first])) :=
    ⟨fun other elsewhere => lookup?_removeEntry_of_ne _ elsewhere, fun _ _ _ _ => rfl⟩
  have put : SameBesides (goal ++ [last]) (disk.ticked.removeEntry (origin ++ [first]))
      ((disk.ticked.removeEntry (origin ++ [first])).setEntry (goal ++ [last]) entry) :=
    ⟨fun other elsewhere => lookup?_setEntry_of_ne _ elsewhere _, fun _ _ _ _ => rfl⟩
  have no_directory' : (disk.ticked.removeEntry (origin ++ [first])).lookup? (goal ++ [last]) ≠ some .directory := by
    rwa [lookup?_removeEntry_of_ne _ elsewhere]
  have led := follow_still (put.directories no_directory') (follow_still (removed.directories file) way')
  rw [standing?_of_follow led, lookup?_setEntry_self _ below, there]
  cases entry <;> rfl

/-- Creating a file is one operation. -/
lemma operations_create (disk : Disk) (path : String) : (disk.create path).2.operations = disk.operations + 1 := by
  rw [Disk.create, tick_eq]
  cases disk.faults disk.operations with
  | some fault => rfl
  | none =>
    dsimp only
    split
    · rfl
    · rfl
    · split
      · rfl
      · split <;> rfl

/-- A write takes no operations back. -/
lemma operations_write (disk : Disk) (file : FileHandle) (bytes : Bytes) :
    disk.operations ≤ (disk.write file bytes).2.2.operations := by
  rw [Disk.write, tick_eq]
  split
  · exact Nat.le_refl _
  · cases disk.faults disk.operations with
    | some fault => exact Nat.le_succ _
    | none =>
      dsimp only
      split <;> exact Nat.le_succ _

/-- Renaming a file is one operation. -/
lemma operations_rename (disk : Disk) (source target : String) :
    (disk.rename source target).2.operations = disk.operations + 1 := by
  rw [Disk.rename, tick_eq]
  cases disk.faults disk.operations with
  | some fault => rfl
  | none =>
    dsimp only
    split
    · rfl
    · rfl
    · split <;> rfl
    · rfl

end Disk

namespace StillStore
open Disk

variable {disk after : Disk} {directory name : String} {bytes : Bytes}

/-- The name of a draft is longer than the name of its target. -/
lemma ne_draft (found : Place) (name : String) : found ++ [name] ≠ found ++ [name ++ ".tmp"] := by
  intro same
  have lengths := congrArg String.length (List.append_singleton_inj.mp same).2
  rw [String.length_append] at lengths
  have some_char : ".tmp".length = 4 := rfl
  omega

/-- A replacement fails only if the draft cannot be written or cannot be renamed. -/
lemma cause_of_replaceFile {path : String} {error : FileError}
    (run : replaceFile disk path bytes = (.error error, after)) :
    let (drafted, between) := disk.writeFile (path ++ ".tmp") bytes
    drafted = .error error ∨ drafted = .ok () ∧ (between.rename (path ++ ".tmp") path).1 = .error error := by
  rw [replaceFile] at run
  rcases drafted : disk.writeFile (path ++ ".tmp") bytes with ⟨error' | _, between⟩
  · rw [drafted] at run
    cases run
    exact .inl rfl
  · rw [drafted] at run
    exact .inr ⟨rfl, congrArg Prod.fst run⟩

section

variable (formed : disk.IsWellFormed) (named : Path.IsFileName name) (named' : Path.IsFileName (name ++ ".tmp"))
include formed named named'

/-- A replacement that fails leaves its target as it was. -/
lemma replaceFile_error {error : FileError}
    (run : replaceFile disk (Path.join directory name) bytes = (.error error, after)) :
    after.standing? (Path.join directory name) = disk.standing? (Path.join directory name) := by
  rw [replaceFile] at run
  rcases drafted : disk.writeFile (Path.join directory name ++ ".tmp") bytes with ⟨error' | _, between⟩
  · rw [drafted] at run
    cases run
    rcases writeFile_draft formed named named' drafted with ⟨rfl, -⟩ | ⟨found, -, way, file, same, -⟩
    · rfl
    · exact standing?_same same file way (ne_draft found name)
  · rw [drafted] at run
    rcases writeFile_draft formed named named' drafted with ⟨-, failed⟩ | ⟨found, way, way', file, same, -⟩
    · exact absurd rfl failed
    · have moves := rename_moves (follow_still (same.directories file) way) (follow_still (same.directories file) way')
      dsimp only at run
      rw [run] at moves
      subst moves
      have unmoved : SameBesides (found ++ [name ++ ".tmp"]) disk between.ticked := ⟨same.entries, same.contents⟩
      exact standing?_same unmoved file way' (ne_draft found name)

/-- A replacement that succeeds leaves the bytes at its target, or the device that took no bytes for a draft. -/
lemma replaceFile_ok (run : replaceFile disk (Path.join directory name) bytes = (.ok (), after)) :
    after.standing? (Path.join directory name) = some (.file bytes) ∨
      bytes = [] ∧ disk.standing? (Path.join directory name ++ ".tmp") = some .full ∧
        after.standing? (Path.join directory name) = some .full := by
  rw [replaceFile] at run
  rcases drafted : disk.writeFile (Path.join directory name ++ ".tmp") bytes with ⟨error' | _, between⟩
  · rw [drafted] at run
    cases run
  · rw [drafted] at run
    rcases writeFile_draft formed named named' drafted with ⟨-, failed⟩ | ⟨found, way, way', file, same, holds⟩
    · exact absurd rfl failed
    · have led := follow_still (same.directories file) way
      have led' := follow_still (same.directories file) way'
      rcases holds rfl with ⟨id, entry, content⟩ | ⟨nothing, there, entry⟩
      · have no_directory : between.lookup? (found ++ [name ++ ".tmp"]) ≠ some .directory := by simp [entry]
        left
        rw [standing?_renamed led led' no_directory (ne_draft found name) run, entry, Option.map_some, seen, content]
      · have no_directory : between.lookup? (found ++ [name ++ ".tmp"]) ≠ some .directory := by simp [entry]
        right
        refine ⟨nothing, ?_, ?_⟩
        · rw [standing?_of_follow way, there]
          rfl
        · rw [standing?_renamed led led' no_directory (ne_draft found name) run, entry]
          rfl

end

/-- A disk stays well-formed when a file is replaced. -/
lemma IsWellFormed.replaceFile (formed : disk.IsWellFormed) (path : String) (bytes : Bytes) :
    (replaceFile disk path bytes).2.IsWellFormed := by
  have created := formed.create (path ++ ".tmp")
  rw [StillStore.replaceFile, writeFile]
  generalize disk.create (path ++ ".tmp") = opening at created ⊢
  obtain ⟨error | file, between⟩ := opening
  · exact created
  · have drafted := created.write file bytes
    dsimp only at drafted ⊢
    generalize between.write file bytes = writing at drafted ⊢
    obtain ⟨error | _, file', written⟩ := writing
    · exact drafted
    · exact drafted.rename _ _

/-- A replacement asks something of the disk, at least to open the draft. -/
lemma operations_replaceFile (disk : Disk) (path : String) (bytes : Bytes) :
    disk.operations < (replaceFile disk path bytes).2.operations := by
  have created := operations_create disk (path ++ ".tmp")
  rw [replaceFile, writeFile]
  generalize disk.create (path ++ ".tmp") = opening at created ⊢
  obtain ⟨error | file, between⟩ := opening
  · exact Nat.lt_of_lt_of_eq (Nat.lt_succ_self _) created.symm
  · have drafted := operations_write between file bytes
    dsimp only at created drafted ⊢
    generalize between.write file bytes = writing at drafted ⊢
    obtain ⟨error | _, file', written⟩ := writing
    · dsimp only at drafted ⊢
      omega
    · have renamed := operations_rename written (path ++ ".tmp") path
      dsimp only at drafted ⊢
      omega

end StillStore

end VideoCapture
