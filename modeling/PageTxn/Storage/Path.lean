import PageTxn.Error

/-!
Paths: the ways to files and directories.

* `Location` is a place on the disk, and `Location.step` goes one step on from a
  directory: `.` stays there, `..` leaves it for the directory above, and a name
  enters.
* `DiskPath.ofText` reads a path: slashes separate its steps, and several slashes
  are as good as one. A path that ends in a slash can only mean a directory, and
  so does the empty path.

All paths begin at the root of the disk, also one with a leading slash.
-/

namespace PageTxn

/-- A place on the disk: the names that lead to it from the root, the innermost
first. The directories above the root are reached by `..` alone. -/
abbrev Location := List String

namespace Location

/-- The directory at which all paths begin. -/
def root : Location := []

/-- The directory above a directory. -/
def up : Location → Location
  | [] => [".."]
  | name :: rest => if name = ".." then ".." :: name :: rest else rest

/-- One step on from a directory. -/
def step (directory : Location) (name : String) : Location :=
  if name = "" ∨ name = "." then directory
  else if name = ".." then directory.up
  else name :: directory

/-- Whether a place is the root or a directory above it. -/
def isOuter (place : Location) : Bool := place.all fun name => name = ".."

/-- A name that is not one of the dots leads into the directory. -/
theorem step_name {directory : Location} {name : String} (some_name : name ≠ "")
    (no_dot : name ≠ ".") (no_dots : name ≠ "..") :
    directory.step name = name :: directory := by
  simp [step, some_name, no_dot, no_dots]

/-- Whoever enters a directory by its name and leaves it by `..` is back. -/
theorem up_step_name {directory : Location} {name : String} (some_name : name ≠ "")
    (no_dot : name ≠ ".") (no_dots : name ≠ "..") :
    (directory.step name).step ".." = directory := by
  rw [step_name some_name no_dot no_dots]
  simp [step, up, no_dots]

end Location

/-- A path, read from its text. -/
structure DiskPath where
  /-- The steps through directories. -/
  way : List String
  /-- The last step, empty for the empty path. -/
  last : String
  /-- Whether the path is empty or has a slash behind the name at its end, so that
  it cannot mean a file. -/
  closed : Bool
  deriving DecidableEq

/-- Read a path. -/
def DiskPath.ofText (text : String) : DiskPath :=
  let pieces := (text.toList.splitOn '/').map String.ofList
  let steps := pieces.filter (· ≠ "")
  let last := steps.getLast?.getD ""
  { way := steps.dropLast
    last := last
    closed := pieces.getLast? = some "" ∧ last ≠ "." ∧ last ≠ ".." }

end PageTxn
