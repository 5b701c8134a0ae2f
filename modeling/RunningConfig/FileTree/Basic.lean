import RunningConfig.FileTree.FilePath
/-!
# File trees

A file tree holds directories and regular files, each at a location: the names that lead to it
from the root. The root is always a directory. A walk follows the names of a path; it enters
directories only, and fails at the first name that does not lead on.
-/

namespace RunningConfig

/-- The names that lead from the root to a place. -/
abbrev Location := List String

/-- What stands at a location. -/
inductive Entry where
  /-- A directory. -/
  | directory
  /-- A file and what it holds. -/
  | file (bytes : ByteArray)

namespace Entry

/-- The entry is a directory. -/
def isDirectory : Entry → Bool
  | directory => true
  | file _ => false

end Entry

/-- Directories and files, and the directory that relative paths start at. -/
structure FileTree where
  /-- The directory that relative paths start at. -/
  workingDirectory : Location
  /-- What stands at each location; the first entry of a location counts. -/
  entries : List (Location × Entry)

/-- Why an operation on a file tree fails. -/
inductive IoFault where
  /-- Nothing stands at the path. -/
  | notFound
  /-- Something stands where a directory is to be made. -/
  | fileExists
  /-- What a path takes for a directory is none. -/
  | notDirectory
  /-- A directory stands where a file is to be read or written. -/
  | isDirectory
  /-- The path, or a name in it, is too long. -/
  | nameTooLong
  /-- The path holds a zero character. -/
  | nulByte
  /-- The bytes of the file are no text. -/
  | invalidText
  /-- A fault that no file tree has, in the words of the system. -/
  | other (description : String)
  deriving DecidableEq, Repr

/-- The message of a fault. -/
def IoFault.message : IoFault → String
  | notFound => "No such file or directory (os error 2)"
  | fileExists => "File exists (os error 17)"
  | notDirectory => "Not a directory (os error 20)"
  | isDirectory => "Is a directory (os error 21)"
  | nameTooLong => "File name too long (os error 36)"
  | nulByte => "file name contained an unexpected NUL byte"
  | invalidText => "stream did not contain valid UTF-8"
  | other description => description

namespace FileTree

/-- What stands at a location. -/
def find? (tree : FileTree) (location : Location) : Option Entry :=
  if location = [] then some .directory else tree.entries.lookup location

/-- The tree with an entry at a location, in place of one that stood there. -/
def insert (tree : FileTree) (location : Location) (entry : Entry) : FileTree :=
  { tree with entries := (location, entry) :: tree.entries.filter fun old => old.1 ≠ location }

/-- An entry stands where it was inserted. -/
theorem find?_insert_self (tree : FileTree) {location : Location} (entry : Entry)
    (inner : location ≠ []) : (tree.insert location entry).find? location = some entry := by
  simp [find?, insert, inner]

/-- A lookup is not touched by dropping the entries at another location. -/
theorem lookup_filter_of_ne {kept dropped : Location} (apart : kept ≠ dropped)
    (entries : List (Location × Entry)) :
    (entries.filter fun old => old.1 ≠ dropped).lookup kept = entries.lookup kept := by
  induction entries with
  | nil => rfl
  | cons entry rest ih =>
    obtain ⟨location, entry⟩ := entry
    by_cases same : kept = location
    · subst same
      simp [apart]
    · have unlike : (kept == location) = false := by simpa using same
      rw [List.lookup_cons, unlike, ← ih, List.filter_cons]
      split
      · rw [List.lookup_cons, unlike]
      · rfl

/-- What stands elsewhere is not touched by an insertion. -/
theorem find?_insert_of_ne (tree : FileTree) {location other : Location} (entry : Entry)
    (apart : other ≠ location) : (tree.insert location entry).find? other = tree.find? other := by
  have unlike : (other == location) = false := by simpa using apart
  simp only [find?, insert, List.lookup_cons, unlike, lookup_filter_of_ne apart]

/-- The entries below a location, each under the rest of its location. -/
def below (tree : FileTree) (location : Location) : List (Location × Entry) :=
  tree.entries.filterMap fun (place, entry) =>
    if location.isPrefixOf place && place ≠ location then
      some (place.drop location.length, entry)
    else none

/-- The number of bytes a name may have. -/
def longestName : Nat := 255

/-- The number of bytes a path may have. -/
def longestPath : Nat := 4095

/-- The location that a name leads to from a directory, whether or not anything stands there. -/
def place (directory : Location) (name : String) : Except IoFault Location :=
  if name = "." then .ok directory
  else if name = ".." then .ok directory.dropLast
  else if longestName < name.utf8ByteSize then .error .nameTooLong
  else .ok (directory ++ [name])

/-- The entry that a name leads to from a directory, and where it stands. -/
def follow (tree : FileTree) (directory : Location) (name : String) :
    Except IoFault (Location × Entry) := do
  let location ← place directory name
  match tree.find? location with
  | some entry => return (location, entry)
  | none => .error .notFound

/-- The directory that names lead to from a directory. -/
def enter (tree : FileTree) (directory : Location) : List String → Except IoFault Location
  | [] => .ok directory
  | name :: names => do
    let (location, entry) ← tree.follow directory name
    if entry.isDirectory then tree.enter location names else .error .notDirectory

/-- Where a path leads: a directory and a last name in it. -/
structure Target where
  /-- The directory. -/
  directory : Location
  /-- The last name, which need not be there. -/
  name : String
  /-- A slash follows the name, so that only a directory can be meant. -/
  slash : Bool

/-- The target of a path. A path is refused before anything is looked up if it holds a zero
character, is too long or is empty. -/
def target (tree : FileTree) (path : String) : Except IoFault Target :=
  if path.toList.contains '\x00' then .error .nulByte
  else if longestPath < path.utf8ByteSize then .error .nameTooLong
  else if path.isEmpty then .error .notFound
  else do
    let names := FilePath.components path
    let start := if FilePath.isAbsolute path then [] else tree.workingDirectory
    let directory ← tree.enter start names.dropLast
    return {
      directory, name := names.getLast?.getD ".", slash := FilePath.endsWithSlash path }

end FileTree

end RunningConfig
