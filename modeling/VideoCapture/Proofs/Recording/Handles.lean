import VideoCapture.Proofs.Disk.WellFormed
import VideoCapture.Proofs.Recording.Calls
import VideoCapture.Proofs.Recording.Order

/-!
# Handles to registered muxers

Whoever registers a muxer gets a handle to it, which can be cloned and dropped and through which the muxer is called.
Whatever is done with the handles, the registry has exactly the muxers with a handle, and counts their handles
(`RegistrySite.Balanced`). Every call keeps that, and with it everything that holds of a registry without two muxers of
one number holds of every run (`registry_balanced`). The next number is always new (`Balanced.fresh`), which is all that
a session asks of the registry on which it begins to record.
-/

namespace VideoCapture

/-- What can be asked of a registry, of the muxers behind handles, and of the disk. -/
inductive RegistryCall where
  | register (muxer : Muxer)
  | clone (id : Nat)
  | drop (id : Nat)
  | start (id : Nat) (file : FileHandle) (track : Track)
  | add (id : Nat) (call : SampleCall)
  | finalize (id : Nat)
  /-- An emergency that visits muxers in the given order and finds some of them locked. -/
  | finalizeAll (locked order : List Nat)
  /-- Somebody else uses the disk, such as to open a file for a muxer. -/
  | elsewhere (operation : Disk.Operation)

/-- A host, the handles to its muxers, each by the number of its muxer, and the numbers that were given so far. -/
structure RegistrySite where
  host : Host
  handles : List Nat := []
  issued : List Nat := []

namespace RegistrySite

/-- Calls a muxer through a handle. Without a handle there is nothing to call. -/
def act {α : Type} (site : RegistrySite) (id : Nat)
    (call : Muxer → Disk → Nat → Except CaptureError α × Muxer × Disk) : RegistrySite :=
  if id ∈ site.handles then { site with host := (site.host.withMuxer id call).2 } else site

/-- Makes a call, at the time that stands in front of it. -/
def perform (site : RegistrySite) (call : Nat × RegistryCall) : RegistrySite :=
  let host := { site.host with now := call.1 }
  match call.2 with
  | .register muxer =>
    let (id, host) := host.register muxer
    ⟨host, id :: site.handles, site.issued ++ [id]⟩
  | .clone id =>
    if id ∈ site.handles then
      ⟨{ host with registry := host.registry.clone id }, id :: site.handles, site.issued⟩
    else { site with host }
  | .drop id =>
    if id ∈ site.handles then ⟨host.release id, site.handles.erase id, site.issued⟩ else { site with host }
  | .start id file track => { site with host }.act id fun muxer disk now => muxer.start disk now file track
  | .add id call => { site with host }.act id call.apply
  | .finalize id => { site with host }.act id Muxer.finalize
  | .finalizeAll locked order =>
    let (_, registry, disk) := host.registry.shutDownInOrder host.disk host.now locked order
    { site with host := { host with registry, disk } }
  | .elsewhere operation => { site with host := { host with disk := host.disk.perform operation } }

/-- Makes calls one after the other. -/
def performAll (site : RegistrySite) (calls : List (Nat × RegistryCall)) : RegistrySite :=
  calls.foldl perform site

end RegistrySite

namespace Registry

/-- The registered numbers, each with the number of handles. -/
def counts (registry : Registry) : List (Nat × Nat) :=
  registry.entries.map fun entry => (entry.id, entry.handles)

variable {registry : Registry} {disk : Disk} {now id : Nat} {locked : List Nat}

/-- The numbers of the muxers are those that have counts. -/
lemma ids_eq (registry : Registry) : registry.entries.map RegistryEntry.id = registry.counts.map Prod.fst := by
  rw [counts, List.map_map]
  rfl

/-- Replacing a muxer changes no count. -/
@[simp] lemma counts_setMuxer (muxer : Muxer) : (registry.setMuxer id muxer).counts = registry.counts := by
  rw [counts, setMuxer, modify, List.map_map, counts]
  refine List.map_congr_left ?_
  intro entry _
  dsimp only [Function.comp]
  split <;> rfl

/-- A visit changes a muxer, but neither its number nor its handles. -/
lemma shutDown_keeps (state : ShutdownReport × Registry × Disk) :
    (shutDown locked now state id).2.1.counts = state.2.1.counts ∧
      (shutDown locked now state id).2.1.nextId = state.2.1.nextId := by
  obtain ⟨report, registry, disk⟩ := state
  unfold shutDown
  dsimp only
  cases registry.muxer? id with
  | none => exact ⟨rfl, rfl⟩
  | some muxer =>
    dsimp only
    split
    · exact ⟨rfl, rfl⟩
    · split
      · exact ⟨rfl, rfl⟩
      · split <;> exact ⟨counts_setMuxer _, rfl⟩

/-- An emergency changes no count and gives no number, in whatever order it visits the muxers. -/
lemma foldl_shutDown_keeps (order : List Nat) (state : ShutdownReport × Registry × Disk) :
    (order.foldl (shutDown locked now) state).2.1.counts = state.2.1.counts ∧
      (order.foldl (shutDown locked now) state).2.1.nextId = state.2.1.nextId := by
  induction order generalizing state with
  | nil => exact ⟨rfl, rfl⟩
  | cons id rest ih =>
    obtain ⟨counts, nextId⟩ := ih (shutDown locked now state id)
    obtain ⟨counts', nextId'⟩ := @shutDown_keeps now id locked state
    exact ⟨counts.trans counts', nextId.trans nextId'⟩

/-- Changing the count of one muxer changes that count only. -/
lemma counts_modify (id : Nat) (count : Nat → Nat) :
    (registry.modify id fun entry => { entry with handles := count entry.handles }).counts =
      registry.counts.map fun item => (item.1, if item.1 = id then count item.2 else item.2) := by
  rw [counts, modify, counts, List.map_map, List.map_map]
  refine List.map_congr_left ?_
  intro entry _
  dsimp only [Function.comp]
  split <;> rfl

/-- A muxer that is removed has no count any more. -/
lemma counts_remove (id : Nat) : (registry.remove id).counts = registry.counts.filter fun item => item.1 ≠ id := by
  rw [counts, remove, counts, List.filter_map]
  rfl

/-- The number of handles does not matter to those who look for a muxer. -/
lemma muxer?_modify (id : Nat) (count : Nat → Nat) (other : Nat) :
    (registry.modify id fun entry => { entry with handles := count entry.handles }).muxer? other =
      registry.muxer? other := by
  let change (entry : RegistryEntry) : RegistryEntry :=
    if entry.id = id then { entry with handles := count entry.handles } else entry
  have number : (fun entry : RegistryEntry => decide (entry.id = other)) ∘ change =
      fun entry => decide (entry.id = other) := by
    funext entry
    dsimp only [Function.comp, change]
    split <;> rfl
  have muxer : RegistryEntry.muxer ∘ change = RegistryEntry.muxer := by
    funext entry
    dsimp only [Function.comp, change]
    split <;> rfl
  show ((registry.entries.map change).find? fun entry => entry.id = other).map RegistryEntry.muxer = _
  rw [List.find?_map, number, Option.map_map, muxer]
  rfl

end Registry

namespace RegistrySite

/-- The registry has exactly the muxers with a handle, in the order of their numbers, and counts their handles. -/
structure Balanced (site : RegistrySite) : Prop where
  increasing : site.issued.Pairwise (· < ·)
  below : ∀ id ∈ site.issued, id < site.host.registry.nextId
  known : ∀ id ∈ site.handles, id ∈ site.issued
  counts : site.host.registry.counts =
    (site.issued.filter (· ∈ site.handles)).map fun id => (id, site.handles.count id)

variable {site : RegistrySite} {now id : Nat}

/-- The registered muxers are those that were given a number and still have a handle, in the order of their
numbers. -/
lemma Balanced.ids (balanced : site.Balanced) :
    site.host.registry.entries.map RegistryEntry.id = site.issued.filter (· ∈ site.handles) := by
  rw [Registry.ids_eq, balanced.counts, List.map_map]
  exact List.map_id _

/-- No number is registered twice. -/
lemma Balanced.distinct (balanced : site.Balanced) : site.host.registry.IsDistinct := by
  rw [Registry.IsDistinct, balanced.ids]
  exact (balanced.increasing.imp Nat.ne_of_lt).filter _

/-- The number that the next muxer gets is new. -/
lemma Balanced.fresh (balanced : site.Balanced) : site.host.registry.IsFresh := by
  intro entry inside
  have registered : entry.id ∈ site.issued.filter (· ∈ site.handles) := balanced.ids ▸ List.mem_map_of_mem inside
  exact balanced.below entry.id (List.mem_filter.mp registered).1

/-- The muxer behind a handle is registered. -/
lemma Balanced.find? (balanced : site.Balanced) (held : id ∈ site.handles) :
    ∃ entry ∈ site.host.registry.entries, entry.id = id ∧ site.host.registry.find? id = some entry ∧
      entry.handles = site.handles.count id := by
  have registered : id ∈ site.host.registry.entries.map RegistryEntry.id := by
    rw [balanced.ids, List.mem_filter]
    exact ⟨balanced.known id held, decide_eq_true held⟩
  obtain ⟨entry, inside, rfl⟩ := List.mem_map.mp registered
  refine ⟨entry, inside, rfl, balanced.distinct.find?_of_mem inside, ?_⟩
  have counted : (entry.id, entry.handles) ∈ site.host.registry.counts := List.mem_map_of_mem inside
  rw [balanced.counts] at counted
  obtain ⟨other, -, same⟩ := List.mem_map.mp counted
  cases congrArg Prod.fst same
  exact (congrArg Prod.snd same).symm

/-- What changes neither numbers nor handles keeps the balance. -/
lemma Balanced.of_same (balanced : site.Balanced) {host : Host}
    (counts : host.registry.counts = site.host.registry.counts)
    (nextId : host.registry.nextId = site.host.registry.nextId) : Balanced { site with host } where
  increasing := balanced.increasing
  below := by
    rw [nextId]
    exact balanced.below
  known := balanced.known
  counts := counts.trans balanced.counts

/-- A call to a muxer keeps the handles in balance. -/
lemma Balanced.act {α : Type} (balanced : site.Balanced) (id : Nat)
    (call : Muxer → Disk → Nat → Except CaptureError α × Muxer × Disk) : (site.act id call).Balanced := by
  unfold RegistrySite.act
  split
  · unfold Host.withMuxer
    cases site.host.registry.muxer? id with
    | none => exact balanced
    | some muxer => exact balanced.of_same (Registry.counts_setMuxer _) rfl
  · exact balanced

/-- A new muxer has a number that is larger than all before, and one handle. -/
lemma Balanced.register (balanced : site.Balanced) (muxer : Muxer) :
    Balanced ⟨(site.host.register muxer).2, site.host.registry.nextId :: site.handles,
      site.issued ++ [site.host.registry.nextId]⟩ := by
  obtain ⟨increasing, below, known, counts⟩ := balanced
  generalize number : site.host.registry.nextId = new at below
  have other : ∀ id ∈ site.issued, id ≠ new := fun id inside => Nat.ne_of_lt (below id inside)
  have unheld : new ∉ site.handles := fun held => other new (known new held) rfl
  refine ⟨?_, ?_, ?_, ?_⟩
  · refine List.pairwise_append.mpr ⟨increasing, List.pairwise_singleton _ _, ?_⟩
    intro id inside new' same
    rw [List.mem_singleton.mp same]
    exact below id inside
  · intro id inside
    show id < site.host.registry.nextId + 1
    rw [number]
    rcases List.mem_append.mp inside with inside | inside
    · exact Nat.lt_succ_of_lt (below id inside)
    · rw [List.mem_singleton.mp inside]
      exact Nat.lt_succ_self new
  · intro id held
    rcases List.mem_cons.mp held with rfl | held
    · exact List.mem_append_right _ List.mem_cons_self
    · exact List.mem_append_left _ (known id held)
  · have still : site.issued.filter (· ∈ new :: site.handles) = site.issued.filter (· ∈ site.handles) := by
      refine List.filter_congr ?_
      intro id inside
      simp [other id inside]
    have counted : (site.issued.filter (· ∈ site.handles)).map (fun id => (id, (new :: site.handles).count id)) =
        (site.issued.filter (· ∈ site.handles)).map fun id => (id, site.handles.count id) := by
      refine List.map_congr_left ?_
      intro id inside
      rw [List.count_cons_of_ne (other id (List.mem_filter.mp inside).1).symm]
    have grown : (site.host.register muxer).2.registry.counts = site.host.registry.counts ++ [(new, 1)] := by
      rw [← number, Registry.counts, Registry.counts, Host.register, Registry.register, List.map_append]
      rfl
    have first : [new].filter (· ∈ new :: site.handles) = [new] := by simp
    have once : (new :: site.handles).count new = 1 := by
      rw [List.count_cons_self, List.count_eq_zero.mpr unheld]
    dsimp only
    rw [grown, counts, List.filter_append, List.map_append, still, counted, first, List.map_singleton, once]

/-- A muxer may get another number of handles, and the registry counts it along. -/
lemma Balanced.recount (balanced : site.Balanced) {host : Host} {handles : List Nat} (count : Nat → Nat)
    (changed : host.registry = site.host.registry.modify id fun entry => { entry with handles := count entry.handles })
    (held : id ∈ site.handles) (still_held : id ∈ handles) (counted : handles.count id = count (site.handles.count id))
    (others : ∀ other, other ≠ id → handles.count other = site.handles.count other) :
    Balanced ⟨host, handles, site.issued⟩ := by
  have same : ∀ other, other ∈ handles ↔ other ∈ site.handles := by
    intro other
    by_cases here : other = id
    · subst here
      exact iff_of_true still_held held
    · rw [← List.count_pos_iff, others other here, List.count_pos_iff]
  refine ⟨balanced.increasing, ?_, fun other inside => balanced.known other ((same other).mp inside), ?_⟩
  · rw [changed]
    exact balanced.below
  · dsimp only
    simp only [same]
    rw [changed, Registry.counts_modify, balanced.counts, List.map_map]
    refine List.map_congr_left ?_
    intro other _
    by_cases here : other = id
    · subst here
      simp [counted]
    · simp [here, others other here]

/-- A muxer leaves the registry with its only handle. -/
lemma Balanced.remove (balanced : site.Balanced) {host : Host} (last : site.handles.count id = 1)
    (changed : host.registry = site.host.registry.remove id) :
    Balanced ⟨host, site.handles.erase id, site.issued⟩ := by
  have others : ∀ other, decide (other ∈ site.handles.erase id) =
      (decide (other ≠ id) && decide (other ∈ site.handles)) := by
    intro other
    by_cases here : other = id
    · subst here
      have none_left : (site.handles.erase other).count other = 0 := by rw [List.count_erase_self, last]
      simp [List.count_eq_zero.mp none_left]
    · simp [here, List.mem_erase_of_ne here]
  refine ⟨balanced.increasing, ?_, fun other inside => balanced.known other (List.mem_of_mem_erase inside), ?_⟩
  · rw [changed]
    exact balanced.below
  · dsimp only
    simp only [others]
    rw [changed, Registry.counts_remove, balanced.counts, List.filter_map, ← List.filter_filter]
    refine List.map_congr_left ?_
    intro other inside
    have different : other ≠ id := by simpa using (List.mem_filter.mp inside).2
    rw [List.count_erase_of_ne different]

/-- Another handle to a muxer keeps the handles in balance when it is counted. -/
lemma Balanced.clone (balanced : site.Balanced) (held : id ∈ site.handles) :
    Balanced ⟨{ site.host with registry := site.host.registry.clone id }, id :: site.handles, site.issued⟩ :=
  balanced.recount (· + 1) rfl held List.mem_cons_self List.count_cons_self fun _ different =>
    List.count_cons_of_ne different.symm

/-- The last handle to go takes its muxer out of the registry, any other one is counted off. -/
lemma Balanced.release (balanced : site.Balanced) (held : id ∈ site.handles) :
    Balanced ⟨site.host.release id, site.handles.erase id, site.issued⟩ := by
  obtain ⟨entry, -, -, found, counted⟩ := balanced.find? held
  have some_handle : 0 < site.handles.count id := List.count_pos_iff.mpr held
  by_cases last : entry.handles ≤ 1
  · refine balanced.remove (by omega) ?_
    rw [Host.release, Registry.release_last found last]
  · have left : (site.handles.erase id).count id = site.handles.count id - 1 := List.count_erase_self
    have changed : (site.host.release id).registry =
        site.host.registry.modify id fun entry => { entry with handles := entry.handles - 1 } := by
      rw [Host.release, Registry.release, found]
      dsimp only
      rw [if_neg last]
    exact balanced.recount (· - 1) changed held (List.count_pos_iff.mp (by omega)) left fun _ different =>
      List.count_erase_of_ne different

/-- Every call keeps the balance. -/
lemma Balanced.perform (balanced : site.Balanced) (call : Nat × RegistryCall) : (site.perform call).Balanced := by
  obtain ⟨now, call⟩ := call
  have later : Balanced { site with host := { site.host with now } } := balanced.of_same rfl rfl
  cases call with
  | register muxer => exact later.register muxer
  | clone id =>
    unfold RegistrySite.perform
    dsimp only
    split
    · rename_i held
      exact later.clone held
    · exact later
  | drop id =>
    unfold RegistrySite.perform
    dsimp only
    split
    · rename_i held
      exact later.release held
    · exact later
  | start id file track => exact later.act id _
  | add id call => exact later.act id _
  | finalize id => exact later.act id _
  | finalizeAll locked order =>
    obtain ⟨counts, nextId⟩ :=
      @Registry.foldl_shutDown_keeps now locked order ({}, site.host.registry, site.host.disk)
    exact later.of_same counts nextId
  | elsewhere operation => exact later.of_same rfl rfl

/-- The handles stay in balance through calls one after the other. -/
lemma Balanced.performAll (balanced : site.Balanced) (calls : List (Nat × RegistryCall)) :
    (site.performAll calls).Balanced := by
  induction calls generalizing site with
  | nil => exact balanced
  | cons call rest ih => exact ih (balanced.perform call)

/-- The registry is as large as there are muxers with a handle. -/
lemma Balanced.size (balanced : site.Balanced) :
    site.host.registry.size = (site.issued.filter (· ∈ site.handles)).length := by
  rw [← balanced.ids, List.length_map]
  rfl

/-- Dropping a handle that is held releases the muxer once. -/
lemma perform_drop (held : id ∈ site.handles) (now : Nat) :
    (site.perform (now, .drop id)).host = ({ site.host with now } : Host).release id := by
  unfold RegistrySite.perform
  dsimp only
  rw [if_pos held]

/-- When its last handle is dropped, a muxer leaves the registry, and is finalized if it streams. -/
lemma Balanced.drop_last (balanced : site.Balanced) (last : site.handles.count id = 1) (now : Nat) :
    (site.perform (now, .drop id)).host.registry.entries = site.host.registry.entries.filter (·.id ≠ id) ∧
      ∃ muxer, site.host.registry.muxer? id = some muxer ∧
        (site.perform (now, .drop id)).host.disk =
          if muxer.isStreaming then (muxer.finalize site.host.disk now).2.2 else site.host.disk := by
  have held : id ∈ site.handles := List.count_pos_iff.mp (by omega)
  obtain ⟨entry, -, -, found, counted⟩ := balanced.find? held
  have released := Registry.release_last found (by omega) site.host.disk now
  rw [perform_drop held, Host.release, released]
  refine ⟨rfl, entry.muxer, Registry.muxer?_of_find? found, ?_⟩
  dsimp only
  cases streaming : entry.muxer.isStreaming with
  | true => rfl
  | false =>
    have idle : entry.muxer.streaming? = none := by simpa [Muxer.isStreaming] using streaming
    rw [Muxer.drop, Muxer.finalize_idle idle, if_neg Bool.false_ne_true]

/-- As long as a muxer has another handle, nothing happens to it when one is dropped. -/
lemma Balanced.drop_other (balanced : site.Balanced) (more : 1 < site.handles.count id) (now : Nat) :
    (site.perform (now, .drop id)).host.disk = site.host.disk ∧
      ∀ other, (site.perform (now, .drop id)).host.registry.muxer? other = site.host.registry.muxer? other := by
  have held : id ∈ site.handles := List.count_pos_iff.mp (by omega)
  obtain ⟨entry, -, -, found, counted⟩ := balanced.find? held
  have many : ¬ entry.handles ≤ 1 := by omega
  rw [perform_drop held, Host.release, Registry.release, found]
  dsimp only
  rw [if_neg many]
  exact ⟨rfl, Registry.muxer?_modify id (· - 1)⟩

end RegistrySite

open Registry RegistryEntry in
/-- A host begins without muxers, and then anything is done with muxers and handles. Numbers are given in increasing
order, never twice. The registry has the muxers with a handle. A muxer leaves it with its last handle, and is finalized
then if it streams; dropping any other handle changes no muxer and no file. An emergency finalizes the muxers that
stream and are not locked, in whatever order they are visited. It leaves the locked ones as they are, and every file
that none of the others write to; one that follows without any locks finalizes those of the locked ones that stream. If
no two of the muxers that are finalized share a file, and the file operations of each have the same outcomes, the order
makes no difference. -/
theorem registry_balanced {host : Host} (empty : host.registry.entries = []) (calls : List (Nat × RegistryCall)) :
    let site := RegistrySite.performAll { host } calls
    let registry := site.host.registry
    let disk := site.host.disk
    site.issued.Pairwise (· < ·) ∧
    registry.size = (site.issued.filter (· ∈ site.handles)).length ∧
    (∀ now id,
      let dropped := (site.perform (now, .drop id)).host
      (site.handles.count id = 1 →
        dropped.registry.entries = registry.entries.filter (·.id ≠ id) ∧
        ∃ muxer, registry.muxer? id = some muxer ∧
          dropped.disk = if muxer.isStreaming then (muxer.finalize disk now).2.2 else disk) ∧
      (1 < site.handles.count id →
        dropped.disk = disk ∧ ∀ other, dropped.registry.muxer? other = registry.muxer? other)) ∧
    (∀ now locked visited, visited.Perm registry.entries →
      let came := registry.shutDownInOrder disk now locked (visited.map RegistryEntry.id)
      registry.ShutsDown disk now locked visited came ∧
      ∀ later again, again.Perm came.2.1.entries →
        let second := came.2.1.shutDownInOrder came.2.2 later [] (again.map RegistryEntry.id)
        came.2.1.ShutsDown came.2.2 later [] again second ∧
        second.1.skipped = 0 ∧
        (again.filter (isAttempted [])).Perm
          (registry.entries.filter fun entry => decide (entry.id ∈ locked) && entry.muxer.isStreaming)) ∧
    (∀ now locked faults (one two : List RegistryEntry), one.Perm registry.entries → two.Perm registry.entries →
      registry.IsApart locked →
      registry.MeetSame now locked disk { disk with faults } (one.map RegistryEntry.id) (two.map RegistryEntry.id) →
      let came := registry.shutDownInOrder disk now locked (one.map RegistryEntry.id)
      let came' := registry.shutDownInOrder { disk with faults } now locked (two.map RegistryEntry.id)
      came'.1 = came.1 ∧ came'.2.1 = came.2.1 ∧ ∀ file, came'.2.2.content file = came.2.2.content file) := by
  intro site registry disk
  have start : RegistrySite.Balanced { host } := by
    refine ⟨.nil, List.forall_mem_nil _, List.forall_mem_nil _, ?_⟩
    rw [Registry.counts, empty]
    rfl
  have balanced : site.Balanced := start.performAll calls
  refine ⟨balanced.increasing, balanced.size, ?_, ?_, ?_⟩
  · intro now id dropped
    exact ⟨fun last => balanced.drop_last last now, fun more => balanced.drop_other more now⟩
  · intro now locked visited all came
    have shuts := shutsDown balanced.distinct all disk now locked
    refine ⟨shuts, ?_⟩
    intro later again all' second
    have distinct' : came.2.1.IsDistinct := by
      have numbers : came.2.1.entries.map RegistryEntry.id = registry.entries.map RegistryEntry.id := by
        rw [shuts.entries, List.map_map]
        exact List.map_congr_left fun entry _ => id_shut
      rw [IsDistinct, numbers]
      exact balanced.distinct
    have shuts' := shutsDown distinct' all' came.2.2 later []
    refine ⟨shuts', ?_, ?_⟩
    · rw [shuts'.skipped]
      simp
    · have attempted := all'.filter (isAttempted [])
      rw [shuts.entries, attempted_shut] at attempted
      exact attempted
  · intro now locked faults one two first second apart meet came came'
    have contents : ({ disk with faults } : Disk).contents = disk.contents := rfl
    obtain ⟨report, muxers, files⟩ := shutDown_order balanced.distinct apart first second contents meet
    exact ⟨report, muxers, fun file => congrArg FileContent.toBytes (files file)⟩

open Registry RegistryEntry in
/-- Two muxers write to files of their own, and the first has two handles. -/
theorem registry_balanced_two_muxers :
    let track : Track := ⟨.h264, .ofH264 [0x67, 0x42, 0x00, 0x1E] [0x68], 16, 16, 30⟩
    let calls : List (Nat × RegistryCall) :=
      [(1, .elsewhere (.create "a.mp4")), (2, .register { tuning := {} }), (3, .start 1 ⟨some 0, 0⟩ track),
        (4, .elsewhere (.create "b.mp4")), (5, .register { tuning := {} }), (6, .start 2 ⟨some 1, 0⟩ track),
        (7, .add 1 (.frame [0x65] true)), (8, .clone 1)]
    let site := RegistrySite.performAll { host := {} } calls
    let registry := site.host.registry
    let disk := site.host.disk
    let came := registry.shutDownInOrder disk 9 [1] [1, 2]
    registry.size = 2 ∧
    (site.perform (9, .drop 1)).host.disk = disk ∧
    (site.perform (9, .drop 2)).host.registry.entries = registry.entries.filter (·.id ≠ 2) ∧
    came.1.skipped = 1 ∧ came.1.finalized + came.1.failed = 1 ∧ came.2.2.stored 0 = disk.stored 0 ∧
    (came.2.1.shutDownInOrder came.2.2 10 [] [2, 1]).1.skipped = 0 ∧
    (registry.shutDownInOrder disk 9 [] [2, 1]).1 = (registry.shutDownInOrder disk 9 [] [1, 2]).1 := by
  intro track calls site registry disk came
  have balanced := registry_balanced (rfl : ({} : Host).registry.entries = []) calls
  have handles : site.handles = [1, 2, 1] := by decide +kernel
  have issued : site.issued = [1, 2] := by decide +kernel
  have numbers : registry.entries.map RegistryEntry.id = [1, 2] := by decide +kernel
  have turned : registry.entries.reverse.map RegistryEntry.id = [2, 1] := by decide +kernel
  have numbers' : came.2.1.entries.reverse.map RegistryEntry.id = [2, 1] := by decide +kernel
  have waiting : registry.entries.countP (·.id ∈ [1]) = 1 := by decide +kernel
  have attempted : registry.entries.countP (isAttempted [1]) = 1 := by decide +kernel
  have elsewhere : ∀ entry ∈ registry.entries.filter (isAttempted [1]), entry.muxer.fileId? ≠ some 0 := by
    decide +kernel
  have apart : registry.IsApart [] := isApart_of_ne (by decide +kernel)
  have steady : ∀ n, disk.operations ≤ n → disk.faults n = none := fun _ _ => rfl
  have performed : RegistrySite.performAll { host := {} } calls = site := rfl
  rw [performed] at balanced
  -- the site is left as a name, so that nothing evaluates it
  clear_value site
  obtain ⟨-, size, drops, emergencies, orders⟩ := balanced
  obtain ⟨shuts, again⟩ := emergencies 9 [1] registry.entries (.refl _)
  obtain ⟨order, -⟩ := orders 9 [] disk.faults registry.entries registry.entries.reverse (.refl _) (List.reverse_perm _)
    apart (meetSame_of_steady steady _ _)
  rw [numbers] at shuts again order
  rw [turned] at order
  have untouched : ¬ Touch (registry.entries.filter (isAttempted [1])) 0 := by
    rintro ⟨entry, inside, own⟩
    exact elsewhere entry inside own
  have second := (again 10 came.2.1.entries.reverse (List.reverse_perm _)).2.1
  rw [numbers'] at second
  refine ⟨?_, ?_, ?_, ?_, ?_, ?_, ?_, ?_⟩
  · rw [size, issued, handles]
    rfl
  · exact ((drops 9 1).2 (by rw [handles]; decide)).1
  · exact ((drops 9 2).1 (by rw [handles]; decide)).1
  · exact shuts.skipped.trans waiting
  · exact shuts.attempted.trans attempted
  · exact shuts.files 0 untouched
  · exact second
  · exact order

open Registry RegistryEntry in
/-- All muxers share one disk. A lock on a muxer does not keep another one from its file, if that was created at the
same path. And the first muxer that is finalized meets a fault that befalls the disk once, so it depends on the order
which of the files is completed. -/
theorem shutDown_shared_disk :
    let track : Track := ⟨.h264, .ofH264 [0x67, 0x42, 0x00, 0x1E] [0x68], 16, 16, 30⟩
    let recording (path : String) (id file : Nat) : List (Nat × RegistryCall) :=
      [(1, .elsewhere (.create path)), (2, .register { tuning := {} }), (3, .start id ⟨some file, 0⟩ track)]
    let shared := (RegistrySite.performAll { host := {} } (recording "a.mp4" 1 0 ++ recording "a.mp4" 2 0)).host
    let held := shared.registry.shutDownInOrder shared.disk 4 [1] [1, 2]
    let faults (n : Nat) : Option FileError := if n = 8 then some .storageFull else none
    let apart := (RegistrySite.performAll { host := { disk := { faults } } }
      (recording "a.mp4" 1 0 ++ recording "b.mp4" 2 1)).host
    (held.1 = ⟨1, 0, 1⟩ ∧ held.2.1.find? 1 = shared.registry.find? 1 ∧
      (held.2.1.muxer? 1).bind Muxer.fileId? = some 0 ∧ held.2.2.content 0 ≠ shared.disk.content 0) ∧
    (apart.registry.IsApart [] ∧
      (apart.registry.shutDownInOrder apart.disk 4 [] [1, 2]).1 = ⟨1, 1, 0⟩ ∧
      (apart.registry.shutDownInOrder apart.disk 4 [] [1, 2]).2.2.content 0 ≠
        (apart.registry.shutDownInOrder apart.disk 4 [] [2, 1]).2.2.content 0) := by
  refine ⟨?_, ?_, ?_⟩
  · decide +kernel
  · exact isApart_of_ne (by decide +kernel)
  · decide +kernel

end VideoCapture
