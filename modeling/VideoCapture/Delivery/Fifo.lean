/-!
# First in, first out

A line of items. New ones join at its end and the oldest one leaves at its front, both without walking along
the line: the items at the front stand in order, and those that joined last stand in reverse. The line as
a whole is `toList`, oldest item first, and every operation is described by what it does to that.
-/

namespace VideoCapture

/-- A line of items. -/
structure Fifo (α : Type) where
  /-- The items that leave next, in order. -/
  front : List α
  /-- The items that joined last, newest first. -/
  back : List α
  /-- The number of items. -/
  size : Nat
  size_eq_length : size = (front ++ back.reverse).length
  deriving DecidableEq, Repr

namespace Fifo

variable {α : Type}

/-- The line without items. -/
def empty : Fifo α :=
  ⟨[], [], 0, by simp⟩

/-- The items, oldest first. -/
def toList (line : Fifo α) : List α :=
  line.front ++ line.back.reverse

/-- The line with one more item at its end. -/
def push (line : Fifo α) (item : α) : Fifo α :=
  ⟨line.front, item :: line.back, line.size + 1, by simp [line.size_eq_length, Nat.add_assoc]⟩

/-- A line whose items all stand in order. -/
def ofList (items : List α) : Fifo α :=
  ⟨items, [], items.length, by simp⟩

/-- Takes the oldest item, if there is one. -/
def pop? (line : Fifo α) : Option (α × Fifo α) :=
  match h : line.front with
  | item :: front =>
    some (item, ⟨front, line.back, line.size - 1, by simp [line.size_eq_length, h]⟩)
  | [] =>
    match line.back.reverse with
    | [] => none
    | item :: rest => some (item, ofList rest)

/-- The size of a line is the number of its items. -/
@[simp] theorem length_toList (line : Fifo α) : line.toList.length = line.size :=
  line.size_eq_length.symm

/-- A new item joins a line at its end. -/
@[simp] theorem toList_push (line : Fifo α) (item : α) :
    (line.push item).toList = line.toList ++ [item] := by
  simp [push, toList]

/-- Nothing leaves only when no items are there. -/
theorem pop?_eq_none_iff (line : Fifo α) : line.pop? = none ↔ line.toList = [] := by
  unfold pop? toList
  split
  · simp_all
  · split <;> simp_all

/-- The item that leaves is the oldest one, and the others stay as they stood. -/
theorem toList_pop? {line rest : Fifo α} {item : α} (taken : line.pop? = some (item, rest)) :
    line.toList = item :: rest.toList := by
  unfold pop? at taken
  split at taken
  · rename_i front in_front
    cases taken
    simp [toList, in_front]
  · rename_i no_front
    split at taken
    · cases taken
    · rename_i next others in_back
      cases taken
      simp [toList, no_front, in_back, ofList]

end Fifo

end VideoCapture
