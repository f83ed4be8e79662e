import Mathlib.Tactic.Lemma
import VideoCapture.Disk.Path

/-!
# The names in a path

A path is taken apart into the directory it leads through, its last name, and slashes and single dots
behind that name. Giving the path another extension changes the last name and nothing else
(`names_withExtension`), so both paths lead through the same directories.
-/

namespace VideoCapture.Path

/-- The names among some characters. -/
def namesOf (chars : List Char) : List String :=
  ((chars.splitOn '/').map String.ofList).filter fun name => name ≠ ""

/-- The names in a path are those among its characters. -/
lemma names_eq (path : String) : names path = namesOf path.toList := rfl

/-- No characters have no names among them. -/
@[simp] lemma namesOf_nil : namesOf [] = [] := rfl

/-- Slashes separate names. -/
lemma namesOf_append_slash (front back : List Char) :
    namesOf (front ++ '/' :: back) = namesOf front ++ namesOf back := by
  simp only [namesOf, List.splitOn_eq_splitOnP]
  rw [List.splitOnP_append_cons _ _ (by decide), List.map_append, List.filter_append]

/-- A slash at the end adds no name. -/
@[simp] lemma namesOf_slash_end (front : List Char) : namesOf (front ++ ['/']) = namesOf front := by
  rw [namesOf_append_slash, namesOf_nil, List.append_nil]

/-- Characters without a slash are one name. -/
lemma namesOf_plain {name : List Char} (plain : '/' ∉ name) (some_char : name ≠ []) :
    namesOf name = [String.ofList name] := by
  have single : name.splitOn '/' = [name] := by
    rw [List.splitOn_eq_splitOnP]
    refine List.splitOnP_eq_singleton ?_
    intro c inside
    exact beq_eq_false_iff_ne.mpr fun same => plain (same ▸ inside)
  have not_empty : String.ofList name ≠ "" := by
    intro empty
    exact some_char (by simpa using congrArg String.toList empty)
  rw [namesOf, single, List.map_singleton, List.filter_cons_of_pos (by simpa using not_empty), List.filter_nil]

/-- A piece between slashes has no slash in it. -/
lemma slash_not_mem_splitOn {chars piece : List Char} (inside : piece ∈ chars.splitOn '/') : '/' ∉ piece := by
  rw [List.splitOn_eq_splitOnP] at inside
  induction chars generalizing piece with
  | nil =>
    rw [List.splitOnP_nil, List.mem_singleton] at inside
    rw [inside]
    exact List.not_mem_nil
  | cons c rest ih =>
    rw [List.splitOnP_cons_eq_if_modifyHead] at inside
    split at inside
    · rcases List.mem_cons.mp inside with rfl | inside
      · exact List.not_mem_nil
      · exact ih inside
    · rename_i plain
      cases parted : rest.splitOnP (· == '/') with
      | nil => exact absurd parted (List.splitOnP_ne_nil _ _)
      | cons first others =>
        rw [parted] at inside ih
        rw [List.modifyHead_cons] at inside
        rcases List.mem_cons.mp inside with rfl | inside
        · intro slash
          rcases List.mem_cons.mp slash with same | slash
          · exact plain (by simp [← same])
          · exact ih List.mem_cons_self slash
        · exact ih (List.mem_cons_of_mem _ inside)

/-- There is no slash in a name. -/
lemma slash_not_mem_name {path name : String} (inside : name ∈ names path) : '/' ∉ name.toList := by
  obtain ⟨piece, among, rfl⟩ := List.mem_map.mp (List.mem_filter.mp inside).1
  rw [String.toList_ofList]
  exact slash_not_mem_splitOn among

/-- The path without slashes and single dots behind its last name, last character first. -/
def trimmed (path : String) : List Char :=
  dropTrailing path.toList.reverse

/-- The last name of a path that is not trailing. -/
def lastName (path : String) : List Char :=
  ((trimmed path).takeWhile (· ≠ '/')).reverse

/-- What stands in front of the last name. -/
def directoryPart (path : String) : List Char :=
  ((trimmed path).dropWhile (· ≠ '/')).reverse

/-- The extension of a path. -/
def extension? (path : String) : Option String :=
  let name := lastName path
  if name = ['.'] ∨ name = ['.', '.'] then none
  else if (name.reverse.dropWhile (· ≠ '.')).drop 1 = [] then none
  else some (String.ofList (name.reverse.takeWhile (· ≠ '.')).reverse)

/-- The last name and what stands in front of it make up the trimmed path. -/
lemma directoryPart_lastName (path : String) :
    directoryPart path ++ lastName path = (trimmed path).reverse := by
  rw [directoryPart, lastName, ← List.reverse_append, List.takeWhile_append_dropWhile]

/-- The directories of a path come first. -/
lemma namesOf_directoryPart (path : String) (name : List Char) :
    namesOf (directoryPart path ++ name) = namesOf (directoryPart path) ++ namesOf name := by
  rw [directoryPart]
  cases parted : (trimmed path).dropWhile (· ≠ '/') with
  | nil => rfl
  | cons c rest =>
    have slash : c = '/' := by
      have stops := List.head?_dropWhile_not (· ≠ '/') (trimmed path)
      rw [parted] at stops
      simpa using stops
    rw [slash, List.reverse_cons, namesOf_slash_end, List.append_assoc, List.singleton_append,
      namesOf_append_slash]

/-- The last name of a path has no slash in it. -/
lemma slash_not_mem_lastName (path : String) : '/' ∉ lastName path := by
  intro inside
  rw [lastName, List.mem_reverse] at inside
  have holds := List.all_eq_true.mp List.all_takeWhile _ inside
  simp at holds

/-- Nothing is dropped from a path that ends in a character of a name. -/
lemma dropTrailing_of_name {backward : List Char} (not_slash : ∀ rest, backward = '/' :: rest → False)
    (not_dot : ∀ rest, backward = '.' :: '/' :: rest → False) : dropTrailing backward = backward := by
  rw [dropTrailing]
  · exact not_slash
  · exact not_dot

/-- Only single dots stand behind the last name. -/
lemma namesOf_dropTrailing (backward : List Char) :
    ∃ dots, namesOf backward.reverse = namesOf (dropTrailing backward).reverse ++ List.replicate dots "." := by
  induction backward using dropTrailing.induct with
  | case1 rest ih =>
    obtain ⟨dots, ih⟩ := ih
    refine ⟨dots, ?_⟩
    rw [dropTrailing, List.reverse_cons, namesOf_slash_end, ih]
  | case2 rest ih =>
    obtain ⟨dots, ih⟩ := ih
    refine ⟨dots + 1, ?_⟩
    rw [List.reverse_cons, namesOf_slash_end] at ih
    rw [dropTrailing, List.reverse_cons, List.reverse_cons, List.append_assoc, List.singleton_append,
      namesOf_append_slash, ih, List.append_assoc, List.replicate_succ']
    rfl
  | case3 backward not_slash not_dot =>
    refine ⟨0, ?_⟩
    rw [dropTrailing_of_name not_slash not_dot, List.replicate_zero, List.append_nil]

/-- What is left when trailing slashes and dots are dropped is the front of the path. -/
lemma dropTrailing_suffix (backward : List Char) : dropTrailing backward <:+ backward := by
  induction backward using dropTrailing.induct with
  | case1 rest ih =>
    rw [dropTrailing]
    exact ih.trans (List.suffix_cons _ _)
  | case2 rest ih =>
    rw [dropTrailing]
    exact ih.trans (List.suffix_cons _ _)
  | case3 backward not_slash not_dot =>
    refine ⟨[], ?_⟩
    rw [List.nil_append, dropTrailing_of_name not_slash not_dot]

/-- A path begins with its directories and its last name. -/
lemma toList_parted (path : String) : directoryPart path ++ lastName path <+: path.toList := by
  rw [directoryPart_lastName]
  have reversed := List.reverse_prefix.mpr (dropTrailing_suffix path.toList.reverse)
  rwa [List.reverse_reverse] at reversed

/-- A path leads through its directories to its last name, behind which there are only single dots. -/
lemma names_parted (path : String) :
    ∃ dots, names path = namesOf (directoryPart path) ++ namesOf (lastName path) ++ List.replicate dots "." := by
  obtain ⟨dots, parted⟩ := namesOf_dropTrailing path.toList.reverse
  refine ⟨dots, ?_⟩
  rw [← namesOf_directoryPart, directoryPart_lastName, names_eq, trimmed, ← parted, List.reverse_reverse]

/-- A path whose trailing slashes are dropped does not end in a slash. -/
lemma head?_dropTrailing (backward : List Char) : (dropTrailing backward).head? ≠ some '/' := by
  induction backward using dropTrailing.induct with
  | case1 rest ih => exact ih
  | case2 rest ih => exact ih
  | case3 backward not_slash not_dot =>
    rw [dropTrailing_of_name not_slash not_dot]
    intro slash
    obtain ⟨rest, starts⟩ := List.head?_eq_some_iff.mp slash
    exact not_slash rest starts

/-- A path without a last name is nothing but slashes and single dots. -/
lemma directoryPart_of_no_name {path : String} (no_name : lastName path = []) : directoryPart path = [] := by
  rw [lastName, List.reverse_eq_nil_iff] at no_name
  rw [directoryPart]
  cases chars : trimmed path with
  | nil => rfl
  | cons c rest =>
    rw [chars] at no_name
    have slash : c = '/' := by
      by_cases slash : c = '/'
      · exact slash
      · rw [List.takeWhile_cons_of_pos (by simpa using slash)] at no_name
        cases no_name
    have first := head?_dropTrailing path.toList.reverse
    rw [← trimmed, chars, slash] at first
    exact absurd rfl first

/-- No single dot follows a name that comes last. -/
lemma no_dots_behind {front through : List String} {name : String} {dots : Nat}
    (parted : front ++ List.replicate dots "." = through ++ [name]) (not_dots : isDots name = false) :
    dots = 0 := by
  cases dots with
  | zero => rfl
  | succ dots =>
    rw [List.replicate_succ', ← List.append_assoc] at parted
    have dot := (List.append_singleton_inj.mp parted).2
    cases dot
    cases not_dots

/-- The last name of a path is the name of something, rather than of a directory known without looking. -/
def IsNamed (path : String) : Prop :=
  lastName path ≠ [] ∧ lastName path ≠ ['.'] ∧ lastName path ≠ ['.', '.']

/-- A path whose names end in something other than dots has a last name, and that is it. -/
lemma isNamed_of_names {path name : String} {through : List String} (parted : names path = through ++ [name])
    (not_dots : isDots name = false) :
    IsNamed path ∧ namesOf (directoryPart path) = through ∧ String.ofList (lastName path) = name := by
  obtain ⟨dots, names_eq⟩ := names_parted path
  rw [parted] at names_eq
  cases no_dots_behind names_eq.symm not_dots
  rw [List.replicate_zero, List.append_nil] at names_eq
  have some_char : lastName path ≠ [] := by
    intro no_name
    rw [no_name, directoryPart_of_no_name no_name] at names_eq
    exact absurd names_eq (by simp)
  rw [namesOf_plain (slash_not_mem_lastName path) some_char] at names_eq
  obtain ⟨through_eq, name_eq⟩ := List.append_singleton_inj.mp names_eq
  cases name_eq
  refine ⟨⟨some_char, ?_, ?_⟩, through_eq.symm, rfl⟩
  · intro dot
    rw [dot] at not_dots
    cases not_dots
  · intro dots
    rw [dots] at not_dots
    cases not_dots

/-- The last name of a path with another extension. -/
def extendedName (path extension : String) : List Char :=
  if stem (lastName path) = ['.'] ∧ (trimmed path).length = path.length then ['.', '.']
  else stem (lastName path) ++ '.' :: extension.toList

/-- The stem of a name is the beginning of that name. -/
lemma stem_begins (name : List Char) : stem name <+: name := by
  rw [stem]
  split
  · exact List.prefix_refl _
  · rename_i before parted
    have suffix : (name.reverse.dropWhile (· ≠ '.')).drop 1 <:+ name.reverse :=
      (List.drop_suffix _ _).trans (List.dropWhile_suffix _)
    have reversed := List.reverse_prefix.mpr suffix
    rwa [List.reverse_reverse] at reversed

/-- A name with some character has a stem with some character. -/
lemma stem_ne_nil {name : List Char} (some_char : name ≠ []) : stem name ≠ [] := by
  rw [stem]
  split
  · exact some_char
  · rename_i parted
    exact fun empty => parted (List.reverse_eq_nil_iff.mp empty)

variable {path extension : String}

/-- A path with another extension has its directory part and the extended last name. -/
lemma toList_withExtension (named : IsNamed path) :
    (withExtension path extension).toList = directoryPart path ++ extendedName path extension := by
  obtain ⟨some_char, not_dot, not_dots⟩ := named
  have no_case : ¬ (lastName path = [] ∨ lastName path = ['.'] ∨ lastName path = ['.', '.']) := by
    simp [some_char, not_dot, not_dots]
  have unfolded : withExtension path extension =
      if lastName path = [] ∨ lastName path = ['.'] ∨ lastName path = ['.', '.'] then path
      else if stem (lastName path) = ['.'] ∧ (trimmed path).length = path.length then
        String.ofList (directoryPart path ++ ['.', '.'])
      else String.ofList (directoryPart path ++ stem (lastName path) ++ '.' :: extension.toList) := rfl
  rw [unfolded, if_neg no_case, extendedName]
  split
  · rw [String.toList_ofList]
  · rw [String.toList_ofList, List.append_assoc]

/-- An extension without slashes brings none into the name. -/
lemma slash_not_mem_extendedName (plain : '/' ∉ extension.toList) : '/' ∉ extendedName path extension := by
  have in_name := slash_not_mem_lastName path
  rw [extendedName]
  split
  · decide
  · intro inside
    rcases List.mem_append.mp inside with inside | inside
    · exact in_name ((stem_begins _).subset inside)
    · rcases List.mem_cons.mp inside with same | inside
      · cases same
      · exact plain inside

/-- A name with an extension is not empty. -/
lemma extendedName_ne_nil : extendedName path extension ≠ [] := by
  rw [extendedName]
  split <;> simp

/-- Another extension changes the last name only, and drops what is behind it. -/
lemma names_withExtension (named : IsNamed path) (plain : '/' ∉ extension.toList) :
    names (withExtension path extension) =
      namesOf (directoryPart path) ++ [String.ofList (extendedName path extension)] := by
  rw [names_eq, toList_withExtension named, namesOf_directoryPart,
    namesOf_plain (slash_not_mem_extendedName plain) extendedName_ne_nil]

/-- The path begins where it began before. -/
lemma start_withExtension (named : IsNamed path) (plain : '/' ∉ extension.toList) :
    start (withExtension path extension) = start path := by
  obtain ⟨behind, parted⟩ := toList_parted path
  have same : (withExtension path extension).toList.head? = some '/' ↔ path.toList.head? = some '/' := by
    rw [toList_withExtension named, ← parted]
    cases directoryPart path with
    | cons c rest => rfl
    | nil =>
      -- neither name begins with a slash
      have old : (lastName path ++ behind).head? ≠ some '/' := by
        intro slash
        cases name_eq : lastName path with
        | nil => exact named.1 name_eq
        | cons c rest =>
          rw [name_eq, List.cons_append, List.head?_cons] at slash
          cases slash
          exact slash_not_mem_lastName path (name_eq ▸ List.mem_cons_self)
      have new : (extendedName path extension).head? ≠ some '/' := by
        intro slash
        exact slash_not_mem_extendedName plain (List.mem_of_head? slash)
      exact iff_of_false new old
  simp only [start, same]

/-- The new last name differs from the old one, unless the path had the extension already. -/
lemma extendedName_ne (named : IsNamed path) (plain : '.' ∉ extension.toList)
    (other : extension? path ≠ some extension) : extendedName path extension ≠ lastName path := by
  obtain ⟨some_char, not_dot, not_dots⟩ := named
  rw [extendedName]
  split
  · exact fun same => not_dots same.symm
  · intro same
    apply other
    -- read backwards, the extension reaches up to the last dot of the name
    have backward : (lastName path).reverse =
        extension.toList.reverse ++ '.' :: (stem (lastName path)).reverse := by
      have reversed := congrArg List.reverse same
      rw [List.reverse_append, List.reverse_cons, List.append_assoc, List.singleton_append] at reversed
      exact reversed.symm
    have no_dot : ∀ c ∈ extension.toList.reverse, (decide (c ≠ '.')) = true := by
      intro c inside
      rw [List.mem_reverse] at inside
      exact decide_eq_true fun same => plain (same ▸ inside)
    have dropped : (lastName path).reverse.dropWhile (· ≠ '.') = '.' :: (stem (lastName path)).reverse := by
      rw [backward, List.dropWhile_append_of_pos no_dot]
      rfl
    have taken : (lastName path).reverse.takeWhile (· ≠ '.') = extension.toList.reverse := by
      rw [backward, List.takeWhile_append_of_pos no_dot]
      simp
    rw [extension?, taken, dropped]
    simp [not_dot, not_dots, stem_ne_nil some_char]

end VideoCapture.Path
