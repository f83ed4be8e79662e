import Mathlib.Tactic.Lemma
import VideoCapture.Host

/-!
# Entries of the registry

A muxer that is registered is found under its number, with the changes that were made to it, as long as no
other muxer has that number (`Registry.IsFresh`).
-/

namespace VideoCapture.Registry

variable {registry : Registry} {id : Nat} {entry : RegistryEntry}

/-- Every number that was given is smaller than the next one. -/
def IsFresh (registry : Registry) : Prop :=
  ∀ entry ∈ registry.entries, entry.id < registry.nextId

/-- A new muxer is found under the number that it was given, and held once. -/
lemma find?_register (fresh : registry.IsFresh) (muxer : Muxer) :
    (registry.register muxer).2.find? registry.nextId = some ⟨registry.nextId, muxer, 1⟩ := by
  have others : registry.entries.find? (fun entry => entry.id = registry.nextId) = none := by
    rw [List.find?_eq_none]
    intro entry inside
    have smaller := fresh entry inside
    simpa using Nat.ne_of_lt smaller
  rw [find?, register, List.find?_append, others]
  simp

/-- The muxer with a number is that of the entry which is found under it. -/
lemma muxer?_of_find? (found : registry.find? id = some entry) : registry.muxer? id = some entry.muxer := by
  rw [muxer?, found, Option.map_some]

/-- A changed entry keeps its number and its place. -/
lemma find?_modify {change : RegistryEntry → RegistryEntry} (keeps : ∀ entry, (change entry).id = entry.id)
    (found : registry.find? id = some entry) : (registry.modify id change).find? id = some (change entry) := by
  obtain ⟨nextId, entries⟩ := registry
  simp only [find?, modify] at found ⊢
  induction entries with
  | nil => cases found
  | cons first rest ih =>
    rw [List.map_cons]
    by_cases here : first.id = id
    · rw [List.find?_cons_of_pos (by simpa using here)] at found
      cases found
      rw [if_pos here, List.find?_cons_of_pos (by simpa [keeps] using here)]
    · rw [List.find?_cons_of_neg (by simpa using here)] at found
      rw [if_neg here, List.find?_cons_of_neg (by simpa using here)]
      exact ih found

/-- A muxer that is changed is found under its old number. -/
lemma find?_setMuxer (found : registry.find? id = some entry) (muxer : Muxer) :
    (registry.setMuxer id muxer).find? id = some { entry with muxer } :=
  find?_modify (fun _ => rfl) found

/-- When the last handle goes, the muxer is given up. -/
lemma release_last (found : registry.find? id = some entry) (last : entry.handles ≤ 1) (disk : Disk)
    (now : Nat) : registry.release disk now id = (registry.remove id, entry.muxer.drop disk now) := by
  rw [release, found]
  dsimp only
  rw [if_pos last]

end VideoCapture.Registry
