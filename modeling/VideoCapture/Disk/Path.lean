/-!
# Paths

Paths as text, with a slash between names. One dot names the directory itself and two dots the directory
above it. The extension of a file is what follows the last dot of its name, as long as something precedes
that dot.
-/

namespace VideoCapture

/-- The place of something on a disk: the names on the way from the root. Places above the root begin with
two dots for each step, and places that are counted from the very top begin with a slash. -/
abbrev Place := List String

namespace Place

/-- The very top. -/
def top : Place := ["/"]

/-- Whether a place is the root or lies above it. -/
def isOutside (place : Place) : Bool :=
  place = top || place.all fun name => name = ".."

/-- The place as it is counted from a directory, if it lies below that. -/
def below? (place directory : Place) : Option Place :=
  let rest := place.drop directory.length
  let leadsDown := rest.head?.any fun name => name ≠ ".." ∧ name ≠ "/"
  if directory.isPrefixOf place ∧ leadsDown then some rest else none

/-- The place one step up. From the very top there is none. -/
def up (place : Place) : Place :=
  if place = top then top
  else if isOutside place then place ++ [".."]
  else place.dropLast

/-- A name that is neither the slash nor two dots leads to a place below the directory. -/
theorem isOutside_append_name (directory : Place) {name : String} (notUp : name ≠ "..")
    (notTop : name ≠ "/") : isOutside (directory ++ [name]) = false := by
  have notAll : (directory ++ [name]).all (fun name => name = "..") = false := by simp [notUp]
  have notSlash : directory ++ [name] ≠ top := by
    intro same
    have last := congrArg List.getLast? same
    simp [top, notTop] at last
  simp only [isOutside, notAll, Bool.or_false, decide_eq_false_iff_not]
  exact notSlash

/-- The path to a place. -/
def path (place : Place) : String :=
  "/".intercalate place

end Place

namespace Path

/-- The names in a path, the dots among them. -/
def names (path : String) : List String :=
  ((path.toList.splitOn '/').map String.ofList).filter fun name => name ≠ ""

/-- The place at which a path begins: the root, or the very top if there is a slash in front. -/
def start (path : String) : Place :=
  if path.toList.head? = some '/' then Place.top else []

/-- The largest number of bytes in a name. -/
def maxName : Nat := 255

/-- The largest number of bytes in a path. -/
def maxLength : Nat := 4095

/-- Whether a name stands for a directory that is known without looking. -/
def isDots (name : String) : Bool :=
  name = "." || name = ".."

/-- Whether a path ends in a slash, as only directories are written. -/
def endsInSlash (path : String) : Bool :=
  path.toList.getLast? == some '/'

/-- The path of the directory that a path leads through to its last name. -/
def parent (path : String) : String :=
  String.ofList (path.toList.reverse.dropWhile (· ≠ '/')).reverse

/-- A file name without its extension. -/
def stem (name : List Char) : List Char :=
  match (name.reverse.dropWhile (· ≠ '.')).drop 1 with
  | [] => name
  | before => before.reverse

/-- A path as characters, last first, without the slashes and single dots behind its last name. -/
def dropTrailing : List Char → List Char
  | '/' :: rest => dropTrailing rest
  | '.' :: '/' :: rest => dropTrailing ('/' :: rest)
  | path => path

/-- The path with another extension on its last name, or as it is when that is not a file name. The old
extension is taken off first. A path that then ends in two dots leads to a directory and gets no new
one. -/
def withExtension (path extension : String) : String :=
  let trimmed := dropTrailing path.toList.reverse
  let name := (trimmed.takeWhile (· ≠ '/')).reverse
  let directory := (trimmed.dropWhile (· ≠ '/')).reverse
  if name = [] ∨ name = ['.'] ∨ name = ['.', '.'] then path
  else if stem name = ['.'] ∧ trimmed.length = path.length then
    String.ofList (directory ++ ['.', '.'])
  else String.ofList (directory ++ stem name ++ '.' :: extension.toList)

/-- The path of a file in a directory. -/
def join (directory name : String) : String :=
  if directory = "" ∨ endsInSlash directory then directory ++ name else directory ++ "/" ++ name

end Path

end VideoCapture
