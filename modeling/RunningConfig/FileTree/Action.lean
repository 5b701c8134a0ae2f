import RunningConfig.FileTree.Basic
/-!
# Actions on a file tree

Reading a file as text, writing a file and making a directory. An action that fails gives no
tree, so that the tree stays as it was.
-/

namespace RunningConfig.FileTree

/-- A path leads to a directory. -/
def isDirectory (tree : FileTree) (path : String) : Bool :=
  match tree.target path with
  | .ok target =>
    match tree.follow target.directory target.name with
    | .ok (_, entry) => entry.isDirectory
    | .error _ => false
  | .error _ => false

/-- The text of a file. -/
def readText (tree : FileTree) (path : String) : Except IoFault String := do
  let target ← tree.target path
  match ← tree.follow target.directory target.name with
  | (_, .directory) => .error .isDirectory
  | (_, .file bytes) =>
    if target.slash then .error .notDirectory
    else
      match String.fromUTF8? bytes with
      | some text => .ok text
      | none => .error .invalidText

/-- Write a file, in place of one that stood there. -/
def writeFile (tree : FileTree) (path : String) (bytes : ByteArray) :
    Except IoFault FileTree := do
  let target ← tree.target path
  if target.slash then .error .isDirectory
  else
    let location ← place target.directory target.name
    match tree.find? location with
    | some .directory => .error .isDirectory
    | _ => .ok (tree.insert location (.file bytes))

/-- Make one directory, whose parent stands. -/
def makeDirectory (tree : FileTree) (path : String) : Except IoFault FileTree := do
  let target ← tree.target path
  if target.name = "." || target.name = ".." then .error .fileExists
  else
    let location ← place target.directory target.name
    match tree.find? location with
    | some _ => .error .fileExists
    | none => .ok (tree.insert location .directory)

end RunningConfig.FileTree
