import VideoCapture.Proofs.Disk.Replace

/-!
# Stills are kept and saved

What becomes of stills follows from the past calls and their answers alone. The latest still is the one of the last
update that succeeded, and its number says how many have (`StillRun.newest?`). It is due to be saved if it is not the
one that was saved last and the interval since that save has passed (`StillRun.Due`). Every call keeps the store in
accord with the past (`StillRun.Accords`), so this is at any time the still that the store has, and the one that it
saves (`stills_saved`): a save that succeeds leaves the bytes of the still at its path, and one that fails leaves there
what was there before, and the still due.
-/

namespace VideoCapture
open StillStore

/-- A call about stills, or something else that is done to the disk. -/
inductive StillCall where
  | keyframe (codec : Codec) (sets : ParameterSets) (unit : AccessUnit)
  | image (data : Bytes)
  /-- The clock is read at the start, and once more if there is a still to save. -/
  | save (now claimed : Nat)
  | elsewhere (operation : Disk.Operation)
  deriving DecidableEq, Repr

/-- What a call answers. -/
inductive StillAnswer where
  | updated (result : Except CaptureError Unit)
  | saved (result : Except CaptureError (Option String))
  | done

/-- A store of stills and a disk, with the calls so far and their answers, last one first. -/
structure StillRun where
  store : StillStore
  disk : Disk
  past : List (StillCall × StillAnswer) := []

namespace StillRun

/-- An empty store, and a disk on which nothing was done yet. -/
def start (config : StillConfig) (faults : Nat → Option FileError) : StillRun where
  store := { config }
  disk := { faults }

/-- Makes a call, and notes it with its answer. -/
def perform (run : StillRun) (call : StillCall) : StillRun :=
  match call with
  | .keyframe codec sets unit =>
    match run.store.putKeyframe codec sets unit with
    | .ok store => { run with store, past := (call, .updated (.ok ())) :: run.past }
    | .error error => { run with past := (call, .updated (.error error)) :: run.past }
  | .image data => { run with store := run.store.put .jpeg data, past := (call, .updated (.ok ())) :: run.past }
  | .save now claimed =>
    let (result, store, disk) := run.store.saveIfDue run.disk now claimed
    { store, disk, past := (call, .saved result) :: run.past }
  | .elsewhere operation => { run with disk := run.disk.perform operation, past := (call, .done) :: run.past }

/-- Makes calls one after the other. -/
def performAll (run : StillRun) (calls : List StillCall) : StillRun :=
  calls.foldl perform run

/-- The answer of the last call. -/
def answer? (run : StillRun) : Option StillAnswer :=
  run.past.head?.map Prod.snd

section Past

variable (config : StillConfig)

/-- The file that a keyframe makes, if one can hold it. -/
def keyframeFile (codec : Codec) (sets : ParameterSets) (unit : AccessUnit) : Except CaptureError Bytes :=
  Still.file ⟨codec, sets, config.width, config.height, config.fps⟩ unit

/-- The still that a call has made, if it has made one. -/
def still? : StillCall × StillAnswer → Option (StillFormat × Bytes)
  | (.keyframe codec sets unit, .updated (.ok ())) =>
    (keyframeFile config codec sets unit).toOption.map fun file => (.mp4, file)
  | (.image data, .updated (.ok ())) => some (.jpeg, data)
  | _ => none

/-- All stills, last one first. -/
def stills (past : List (StillCall × StillAnswer)) : List (StillFormat × Bytes) :=
  past.filterMap (still? config)

/-- The last still, with the number of stills. -/
def newest? (past : List (StillCall × StillAnswer)) : Option StoredStill :=
  (stills config past).head?.map fun (format, data) => ⟨format, data, (stills config past).length⟩

/-- When a still was saved the last time, and the number of that still. -/
def lastSave? : List (StillCall × StillAnswer) → Option (Nat × Nat)
  | [] => none
  | (.save _ claimed, .saved (.ok (some _))) :: past => some (claimed, (stills config past).length)
  | _ :: past => lastSave? past

/-- There is a still to save: not the one that was saved last, and not too soon after that one. -/
def Due (past : List (StillCall × StillAnswer)) (now : Nat) : Prop :=
  config.directory ≠ none ∧ ∃ still, newest? config past = some still ∧
    ∀ saved number, lastSave? config past = some (saved, number) →
      number ≠ still.sequence ∧ saved + clampSaveInterval config.interval * 1000000000 ≤ now

end Past

/-- A store is what the past calls have made it. -/
structure Accords (config : StillConfig) (run : StillRun) : Prop where
  config_eq : run.store.config = config
  latest : run.store.latest = newest? config run.past
  count : run.store.count = (stills config run.past).length
  saved : match lastSave? config run.past with
    | none => run.store.savedSequence = 0 ∧ run.store.savedAt = none
    | some (at_, number) => run.store.savedSequence = number ∧ run.store.savedAt = some at_
  formed : run.disk.IsWellFormed

variable {config : StillConfig} {run : StillRun}

/-- An empty store accords with no calls at all. -/
lemma accords_start (config : StillConfig) (faults : Nat → Option FileError) :
    Accords config (start config faults) where
  config_eq := rfl
  latest := rfl
  count := rfl
  saved := ⟨rfl, rfl⟩
  formed := Disk.isWellFormed_empty faults

/-- The number of the newest still is not the one that stands for none. -/
lemma sequence_ne_zero {past : List (StillCall × StillAnswer)} {still : StoredStill}
    (newest : newest? config past = some still) : 0 ≠ still.sequence := by
  obtain ⟨⟨format, data⟩, first, rfl⟩ := Option.map_eq_some_iff.mp newest
  exact (Nat.ne_of_gt (List.length_pos_of_mem (List.mem_of_mem_head? first))).symm

/-- An interval is never empty, so a clock that runs behind lets nothing pass. -/
lemma passed_iff (seconds saved now : Nat) :
    clampSaveInterval seconds * 1000000000 ≤ now - saved ↔ saved + clampSaveInterval seconds * 1000000000 ≤ now := by
  have some_time : 1 ≤ clampSaveInterval seconds := Nat.le_max_left _ _
  omega

/-- The store knows which still is due. -/
lemma Accords.due?_eq_some (accords : Accords config run) {now : Nat} {still : StoredStill} :
    run.store.due? now = some still ↔ newest? config run.past = some still ∧
      ∀ saved number, lastSave? config run.past = some (saved, number) →
        number ≠ still.sequence ∧ saved + clampSaveInterval config.interval * 1000000000 ≤ now := by
  have saved := accords.saved
  rw [due?, accords.latest, Option.filter_eq_some_iff, saveInterval, accords.config_eq]
  refine and_congr_right fun newest => ?_
  cases last : lastSave? config run.past with
  | none =>
    rw [last] at saved
    obtain ⟨sequence, time⟩ := saved
    rw [sequence, time]
    simp [(sequence_ne_zero newest).symm]
  | some save =>
    obtain ⟨at_, number⟩ := save
    rw [last] at saved
    obtain ⟨sequence, time⟩ := saved
    rw [sequence, time, Bool.and_eq_true, decide_eq_true_eq, Option.all_some, decide_eq_true_eq, passed_iff]
    constructor
    · rintro ⟨other, passed⟩ _ _ same
      cases same
      exact ⟨other.symm, passed⟩
    · intro all
      obtain ⟨other, passed⟩ := all at_ number rfl
      exact ⟨other.symm, passed⟩

/-- A still is due exactly if the store has one to save, and somewhere to save it. -/
lemma Accords.due_iff (accords : Accords config run) (now : Nat) :
    Due config run.past now ↔ config.directory ≠ none ∧ ∃ still, run.store.due? now = some still := by
  simp only [Due, accords.due?_eq_some]

/-- Without a directory, or while the store has no still that is due, none is due. -/
lemma Accords.not_due (accords : Accords config run) {now : Nat}
    (idle : run.store.config.directory = none ∨ run.store.due? now = none) : ¬ Due config run.past now := by
  rw [accords.due_iff]
  rintro ⟨some_directory, still, due⟩
  rcases idle with no_directory | idle
  · exact some_directory (accords.config_eq ▸ no_directory)
  · cases idle.symm.trans due

/-- A call that stores a still and asks for no save. -/
lemma Accords.put (accords : Accords config run) {format : StillFormat} {data : Bytes}
    {event : StillCall × StillAnswer} (made : still? config event = some (format, data))
    (unsaved : lastSave? config (event :: run.past) = lastSave? config run.past) :
    Accords config { run with store := run.store.put format data, past := event :: run.past } := by
  have more : stills config (event :: run.past) = (format, data) :: stills config run.past :=
    List.filterMap_cons_some made
  constructor
  case config_eq => exact accords.config_eq
  case latest =>
    rw [newest?, more, List.head?_cons, Option.map_some, List.length_cons, ← accords.count]
    rfl
  case count =>
    rw [more, List.length_cons, ← accords.count]
    rfl
  case saved =>
    rw [unsaved]
    exact accords.saved
  case formed => exact accords.formed

/-- A call that neither stores a still nor saves one. -/
lemma Accords.pass (accords : Accords config run) {disk : Disk} (formed : disk.IsWellFormed)
    {event : StillCall × StillAnswer} (none_made : still? config event = none)
    (unsaved : lastSave? config (event :: run.past) = lastSave? config run.past) :
    Accords config { run with disk, past := event :: run.past } := by
  have same : stills config (event :: run.past) = stills config run.past := List.filterMap_cons_none none_made
  constructor
  case config_eq => exact accords.config_eq
  case latest =>
    rw [newest?, same]
    exact accords.latest
  case count =>
    rw [same]
    exact accords.count
  case saved =>
    rw [unsaved]
    exact accords.saved
  case formed => exact formed

/-- What a call to save does: nothing if no still is due or there is no directory, and else it replaces a file. -/
lemma saveIfDue_cases (store : StillStore) (disk : Disk) (now claimed : Nat) :
    ((store.config.directory = none ∨ store.due? now = none) ∧
        store.saveIfDue disk now claimed = (.ok none, store, disk)) ∨
      ∃ directory still, store.config.directory = some directory ∧ store.due? now = some still ∧
        store.saveIfDue disk now claimed = match replaceFile disk (savePath directory still.format) still.data with
          | (.error error, after) => (.error (.file error), store, after)
          | (.ok (), after) => (.ok (some (savePath directory still.format)),
              { store with savedSequence := still.sequence, savedAt := some claimed }, after) := by
  rw [saveIfDue]
  cases store.config.directory with
  | none => exact .inl ⟨.inl rfl, rfl⟩
  | some directory =>
    cases store.due? now with
    | none => exact .inl ⟨.inr rfl, rfl⟩
    | some still => exact .inr ⟨directory, still, rfl, rfl, rfl⟩

/-- An attempt to save a still leaves the store in accord with the calls. -/
lemma Accords.save (accords : Accords config run) (now claimed : Nat) :
    Accords config (run.perform (.save now claimed)) := by
  rw [perform]
  rcases saveIfDue_cases run.store run.disk now claimed with ⟨-, saved⟩ | ⟨directory, still, -, due, saved⟩
  · rw [saved]
    exact accords.pass accords.formed rfl rfl
  · have formed := IsWellFormed.replaceFile accords.formed (savePath directory still.format) still.data
    rw [saved]
    generalize replaceFile run.disk (savePath directory still.format) still.data = replacing at formed ⊢
    obtain ⟨error | _, after⟩ := replacing
    · exact accords.pass formed rfl rfl
    · obtain ⟨newest, -⟩ := accords.due?_eq_some.mp due
      obtain ⟨⟨format, data⟩, -, rfl⟩ := Option.map_eq_some_iff.mp newest
      exact ⟨accords.config_eq, accords.latest, accords.count, ⟨rfl, rfl⟩, formed⟩

/-- A keyframe is put into the store as the file that it makes, if it makes one. -/
lemma putKeyframe_eq (store : StillStore) (codec : Codec) (sets : ParameterSets) (unit : AccessUnit) :
    store.putKeyframe codec sets unit =
      (keyframeFile store.config codec sets unit).map fun file => store.put .mp4 file := by
  rw [putKeyframe, keyframeFile]
  cases Still.file ⟨codec, sets, store.config.width, store.config.height, store.config.fps⟩ unit <;> rfl

/-- Every call keeps the store in accord with the past. -/
lemma Accords.perform (accords : Accords config run) (call : StillCall) : Accords config (run.perform call) := by
  cases call with
  | keyframe codec sets unit =>
    rw [StillRun.perform, putKeyframe_eq, accords.config_eq]
    cases made : keyframeFile config codec sets unit with
    | error error => exact accords.pass accords.formed rfl rfl
    | ok file =>
      refine accords.put ?_ rfl
      rw [still?, made]
      rfl
  | image data => exact accords.put rfl rfl
  | save now claimed => exact accords.save now claimed
  | elsewhere operation => exact accords.pass (accords.formed.perform operation) rfl rfl

/-- The store stays in accord with the calls, however many there are. -/
lemma Accords.performAll (accords : Accords config run) (calls : List StillCall) :
    Accords config (run.performAll calls) := by
  induction calls generalizing run with
  | nil => exact accords
  | cons call rest ih => exact ih (accords.perform call)

/-- A still and its draft are saved under names that can be names of files. -/
lemma isFileName_still (format : StillFormat) :
    Path.IsFileName ("snapshot." ++ format.fileExtension) ∧
      Path.IsFileName ("snapshot." ++ format.fileExtension ++ ".tmp") := by
  cases format <;> exact ⟨⟨by simp [StillFormat.fileExtension], by simp, by decide +kernel⟩,
    ⟨by simp [StillFormat.fileExtension], by simp, by decide +kernel⟩⟩

/-- Only a still that is due is saved, and only then anything is asked of the disk. -/
lemma Accords.asks_iff (accords : Accords config run) (now claimed : Nat) :
    run.disk.operations < (run.perform (.save now claimed)).disk.operations ↔ Due config run.past now := by
  rw [StillRun.perform]
  rcases saveIfDue_cases run.store run.disk now claimed with ⟨idle, saved⟩ | ⟨directory, still, directed, due, saved⟩
  · rw [saved]
    exact ⟨fun impossible => absurd impossible (Nat.lt_irrefl _), fun due => absurd due (accords.not_due idle)⟩
  · have asks := operations_replaceFile run.disk (savePath directory still.format) still.data
    rw [saved]
    generalize replaceFile run.disk (savePath directory still.format) still.data = replacing at asks ⊢
    have directed' : config.directory ≠ none := by
      rw [← accords.config_eq, directed]
      exact Option.some_ne_none directory
    refine ⟨fun _ => (accords.due_iff now).mpr ⟨directed', still, due⟩, fun _ => ?_⟩
    obtain ⟨error | _, after⟩ := replacing <;> exact asks

/-- What a save leaves behind, by its answer. -/
lemma Accords.save_leaves (accords : Accords config run) (now claimed : Nat) :
    let next := run.perform (.save now claimed)
    match next.answer? with
    | some (.saved (.ok none)) => ¬ Due config run.past now ∧ next.store = run.store ∧ next.disk = run.disk
    | some (.saved (.ok (some path))) => ∃ directory still, config.directory = some directory ∧
        newest? config run.past = some still ∧ path = savePath directory still.format ∧
        (next.disk.standing? path = some (.file still.data) ∨
          still.data = [] ∧ run.disk.standing? (path ++ ".tmp") = some .full ∧ next.disk.standing? path = some .full)
    | some (.saved (.error error)) => next.store = run.store ∧ (∀ later, now ≤ later → Due config next.past later) ∧
        ∃ directory still cause, config.directory = some directory ∧ newest? config run.past = some still ∧
          error = .file cause ∧
          let path := savePath directory still.format
          let (drafted, between) := run.disk.writeFile (path ++ ".tmp") still.data
          (drafted = .error cause ∨ drafted = .ok () ∧ (between.rename (path ++ ".tmp") path).1 = .error cause) ∧
            next.disk.standing? path = run.disk.standing? path
    | _ => False := by
  dsimp only
  rw [StillRun.perform]
  rcases saveIfDue_cases run.store run.disk now claimed with ⟨idle, saved⟩ | ⟨directory, still, directed, due, saved⟩
  · rw [saved]
    exact ⟨accords.not_due idle, rfl, rfl⟩
  · obtain ⟨named, named'⟩ := isFileName_still still.format
    obtain ⟨newest, waited⟩ := accords.due?_eq_some.mp due
    have directed' : config.directory = some directory := accords.config_eq ▸ directed
    rw [saved]
    rcases replaced : replaceFile run.disk (savePath directory still.format) still.data with ⟨error | _, after⟩
    · refine ⟨rfl, fun later behind => ⟨?_, still, newest, ?_⟩, directory, still, error, directed', newest, rfl,
        cause_of_replaceFile replaced, ?_⟩
      · rw [directed']
        exact Option.some_ne_none directory
      · intro at_ number last
        obtain ⟨other, passed⟩ := waited at_ number last
        exact ⟨other, Nat.le_trans passed behind⟩
      · exact replaceFile_error accords.formed named named' replaced
    · exact ⟨directory, still, directed', newest, rfl, replaceFile_ok accords.formed named named' replaced⟩

end StillRun

open StillRun

/-- Whatever is called and whatever fails, the latest still is the one of the last update that succeeded, with the
number of those updates. An update that fails changes nothing. A save asks something of the disk exactly if a still is
due. Then either the still is saved under its path, or the draft could not be written or renamed, the path leads to what
it led to before, and the still is due from now on. Only a still without a byte can give its place to something else, a
full device that had the draft's name. -/
theorem stills_saved (config : StillConfig) (faults : Nat → Option FileError) (calls : List StillCall) :
    let run := (start config faults).performAll calls
    run.store.latest = newest? config run.past ∧
    (∀ codec sets unit, let next := run.perform (.keyframe codec sets unit)
      match keyframeFile config codec sets unit with
      | .ok _ => next.answer? = some (.updated (.ok ()))
      | .error error => next.answer? = some (.updated (.error error)) ∧ next.store = run.store ∧ next.disk = run.disk) ∧
    ∀ now claimed, let next := run.perform (.save now claimed)
      (run.disk.operations < next.disk.operations ↔ Due config run.past now) ∧
      match next.answer? with
      | some (.saved (.ok none)) => ¬ Due config run.past now ∧ next.store = run.store ∧ next.disk = run.disk
      | some (.saved (.ok (some path))) => ∃ directory still, config.directory = some directory ∧
          newest? config run.past = some still ∧
          path = Path.join directory ("snapshot." ++ still.format.fileExtension) ∧
          (next.disk.standing? path = some (.file still.data) ∨
            still.data = [] ∧ run.disk.standing? (path ++ ".tmp") = some .full ∧
              next.disk.standing? path = some .full)
      | some (.saved (.error error)) => next.store = run.store ∧ (∀ later, now ≤ later → Due config next.past later) ∧
          ∃ directory still cause, config.directory = some directory ∧ newest? config run.past = some still ∧
            error = .file cause ∧
            let path := savePath directory still.format
            let (drafted, between) := run.disk.writeFile (path ++ ".tmp") still.data
            (drafted = .error cause ∨ drafted = .ok () ∧ (between.rename (path ++ ".tmp") path).1 = .error cause) ∧
              next.disk.standing? path = run.disk.standing? path
      | _ => False := by
  intro run
  have accords : Accords config run := (accords_start config faults).performAll calls
  refine ⟨accords.latest, ?_, fun now claimed => ⟨accords.asks_iff now claimed, accords.save_leaves now claimed⟩⟩
  intro codec sets unit
  dsimp only
  rw [perform, putKeyframe_eq, accords.config_eq]
  cases keyframeFile config codec sets unit with
  | ok file => rfl
  | error error => exact ⟨rfl, rfl, rfl⟩

/-- The draft cannot be renamed at first. The very next call saves the still, and then it is not due any more. -/
theorem stills_saved_second_try :
    let config : StillConfig := { directory := some "d" }
    let first := start config fun n => if n = 2 then some .storageFull else none
    let failed := first.performAll [.elsewhere (.makeDirectory "d"), .image [1, 2], .save 0 0]
    let saved := first.performAll [.elsewhere (.makeDirectory "d"), .image [1, 2], .save 0 0, .save 0 0]
    failed.disk.standing? "d/snapshot.jpg" = none ∧ failed.store.savedAt = none ∧ Due config failed.past 0 ∧
      saved.disk.standing? "d/snapshot.jpg" = some (.file [1, 2]) ∧ saved.store.savedAt = some 0 ∧
      ¬ Due config saved.past 60000000000 := by
  intro config first failed saved
  obtain ⟨-, -, saves⟩ := stills_saved config (fun n => if n = 2 then some .storageFull else none)
    [.elsewhere (.makeDirectory "d"), .image [1, 2], .save 0 0]
  obtain ⟨-, -, saves'⟩ := stills_saved config (fun n => if n = 2 then some .storageFull else none)
    [.elsewhere (.makeDirectory "d"), .image [1, 2], .save 0 0, .save 0 0]
  have due : Due config failed.past 0 := (saves 0 0).1.mp (by decide +kernel)
  have not_due : ¬ Due config saved.past 60000000000 :=
    fun due => absurd ((saves' 60000000000 0).1.mpr due) (by decide +kernel)
  exact ⟨by decide +kernel, by decide +kernel, due, by decide +kernel, by decide +kernel, not_due⟩

/-- A full device has the name of the draft, and an image without a byte is saved: the device takes its place. -/
theorem still_replaced_by_device :
    let config : StillConfig := { directory := some "d" }
    let run := (start config fun _ => none).performAll
      [.elsewhere (.makeDirectory "d"), .elsewhere (.placeFullDevice "d/snapshot.jpg.tmp"), .image []]
    let (answer, _, disk) := run.store.saveIfDue run.disk 0 0
    run.store.latest = some ⟨.jpeg, [], 1⟩ ∧ answer.toOption = some (some "d/snapshot.jpg") ∧
      disk.standing? "d/snapshot.jpg" = some .full ∧ disk.standing? "d/snapshot.jpg" ≠ some (.file []) := by
  decide +kernel

end VideoCapture
