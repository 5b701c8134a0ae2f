import RunningConfig.FileTree.Files
/-!
# Exporting text

A text is exported to a file of a directory, which is made if it does not stand. The name of
the file gets an ending; a name that is an absolute path, or that goes up, leads out of the
directory.
-/

namespace RunningConfig.Export

/-- The directory when none is given. -/
def defaultDirectory : String := "output"

/-- The ending of every exported file. -/
def ending : String := "txt"

/-- The path of an exported file. -/
def path (directory name : String) : String := FilePath.join directory (name ++ "." ++ ending)

/-- Why an export failed: the path that was to be written and the cause. -/
structure Fault where
  /-- The path that was to be written. -/
  path : String
  /-- What the file system refused. -/
  cause : IoFault
  deriving DecidableEq, Repr

/-- The message of a fault. -/
def Fault.message (fault : Fault) : String :=
  "failed writing config to '" ++ fault.path ++ "', error: " ++ fault.cause.message

/-- Export a text; the result is the path of the file. -/
def write {m : Type → Type} [Monad m] (files : Files m) (text name directory : String) :
    m (Except Fault String) := do
  let path := path directory name
  match ← files.makeDirectories directory with
  | .error cause => return .error { path, cause }
  | .ok () =>
    match ← files.writeText path text with
    | .error cause => return .error { path, cause }
    | .ok () => return .ok path

end RunningConfig.Export
