import RunningConfig.Text.Split
/-!
# Paths as text

A path is text that slashes cut into components. It starts at the root if it starts with a
slash, and at the working directory otherwise. Nothing is looked up here.
-/

namespace RunningConfig.FilePath

/-- A path starts at the root. -/
def isAbsolute (path : String) : Bool := path.toList.head? = some '/'

/-- A path ends with a slash. -/
def endsWithSlash (path : String) : Bool := path.toList.getLast? = some '/'

/-- The components of a path, without the empty ones between adjacent slashes. -/
def components (path : String) : List String :=
  (Text.pieces '/' path).filter fun name => name ≠ ""

/-- A path taken inside a directory. An absolute path replaces the directory. -/
def join (directory path : String) : String :=
  if isAbsolute path || directory.isEmpty then path
  else if endsWithSlash directory then directory ++ path
  else directory ++ "/" ++ path

/-- The components that count when the last one is taken off: a dot counts only where a
relative path starts with it. -/
def steps (path : String) : List String :=
  match components path with
  | [] => []
  | first :: rest =>
    (if first = "." && isAbsolute path then [] else [first]) ++ rest.filter (· ≠ ".")

/-- The path of components. -/
def ofSteps (absolute : Bool) (steps : List String) : String :=
  (if absolute then "/" else "") ++ "/".intercalate steps

/-- The paths that a path lies in, from the outermost one; a relative path has none outside
the working directory. -/
def ancestors (path : String) : List String :=
  let absolute := isAbsolute path
  let names := steps path
  let proper := (List.range names.length).map fun count => ofSteps absolute (names.take count)
  proper.filter fun ancestor => ancestor ≠ ""

end RunningConfig.FilePath
