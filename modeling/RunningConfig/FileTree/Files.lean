import RunningConfig.FileTree.Action
/-!
# Access to files

What the program does with files, over any carrier of files. A file tree is one such carrier;
the file system of the machine is another.
-/

namespace RunningConfig

/-- The operations on files that the program needs. -/
structure Files (m : Type → Type) where
  /-- The text of a file. -/
  readText : String → m (Except IoFault String)
  /-- Write a text to a file, in place of one that stood there. -/
  writeText (path text : String) : m (Except IoFault Unit)
  /-- Make one directory, whose parent stands. -/
  makeDirectory : String → m (Except IoFault Unit)
  /-- A path leads to a directory. -/
  isDirectory : String → m Bool

namespace Files

variable {m : Type → Type} [Monad m]

/-- Make one directory, unless it stands. -/
def ensureDirectory (files : Files m) (path : String) : m (Except IoFault Unit) := do
  match ← files.makeDirectory path with
  | .ok () => return .ok ()
  | .error fault =>
    if ← files.isDirectory path then return .ok () else return .error fault

/-- Make the directories of paths in order, unless they stand, up to the first fault. -/
def ensureEach (files : Files m) : List String → m (Except IoFault Unit)
  | [] => return .ok ()
  | path :: paths => do
    match ← files.ensureDirectory path with
    | .ok () => files.ensureEach paths
    | .error fault => return .error fault

/-- Make a directory, unless it stands. If something it lies in is missing, the directories it
lies in are made first, from the outermost one. -/
def makeDirectories (files : Files m) (path : String) : m (Except IoFault Unit) := do
  if path.isEmpty then return .ok ()
  else
    match ← files.ensureDirectory path with
    | .ok () => return .ok ()
    | .error .notFound => files.ensureEach (FilePath.ancestors path ++ [path])
    | .error fault => return .error fault

end Files

namespace FileTree

/-- Run an action that gives the tree after it; on a fault the tree stays. -/
def attempt (action : FileTree → Except IoFault FileTree) : StateM FileTree (Except IoFault Unit) :=
  fun tree =>
    match action tree with
    | .ok after => (.ok (), after)
    | .error fault => (.error fault, tree)

/-- The files of a file tree. -/
def files : Files (StateM FileTree) where
  readText path := fun tree => (tree.readText path, tree)
  writeText path text := attempt fun tree => tree.writeFile path text.toUTF8
  makeDirectory path := attempt fun tree => tree.makeDirectory path
  isDirectory path := fun tree => (tree.isDirectory path, tree)

end FileTree

end RunningConfig
