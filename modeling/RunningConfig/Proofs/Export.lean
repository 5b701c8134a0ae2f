import RunningConfig.Export
import RunningConfig.Load
import RunningConfig.Proofs.FileTree.Directories
/-!
# What an export leaves

An export makes its directory and then writes its file. One that succeeds has replaced exactly that
file, whose text is read back; one that fails has touched no file. Either way nothing else is new
but directories that were missing along the output directory, also when the work ended half-way.
-/

namespace RunningConfig.Export

variable {text name directory written : String} {tree between after : FileTree}

/-- An export succeeds exactly when its directory can be made and then its file written. -/
theorem write_eq_ok : (write FileTree.files text name directory).run tree = (.ok written, after) ↔
    written = path directory name ∧
      ∃ between, (FileTree.files.makeDirectories directory).run tree = (.ok (), between) ∧
        between.writeFile (path directory name) text.toUTF8 = .ok after := by
  constructor
  · intro exported
    rcases made : (FileTree.files.makeDirectories directory).run tree with ⟨result, between⟩
    simp only [write, FileTree.run_bind, made] at exported
    cases result with
    | error => cases (Prod.mk.inj exported).1
    | ok =>
      rcases put : (FileTree.files.writeText (path directory name) text).run between
        with ⟨result, last⟩
      simp only [FileTree.run_bind, put] at exported
      cases result with
      | error => cases (Prod.mk.inj exported).1
      | ok =>
        obtain ⟨named, rfl⟩ := Prod.mk.inj exported
        exact ⟨(Except.ok.inj named).symm, between, rfl, FileTree.attempt_eq_ok.mp put⟩
  · rintro ⟨rfl, between, made, put⟩
    have succeeded : (FileTree.files.writeText (path directory name) text).run between =
        (.ok (), after) := FileTree.attempt_eq_ok.mpr put
    simp only [write, FileTree.run_bind, made, succeeded]
    rfl

/-- An exported text is read back from the path of the export. -/
theorem readText_of_write
    (exported : (write FileTree.files text name directory).run tree = (.ok written, after)) :
    after.readText (path directory name) = .ok text := by
  obtain ⟨-, between, -, put⟩ := write_eq_ok.mp exported
  exact FileTree.readText_writeFile put

open FileTree (Kept Grown)
open FilePath (Along location)

/-- An export that fails leaves the tree that making its directory left, under the path that was to
be written. -/
theorem eq_makeDirectories_of_write {fault : Fault}
    (exported : (write FileTree.files text name directory).run tree = (.error fault, after)) :
    fault.path = path directory name ∧
      ((FileTree.files.makeDirectories directory).run tree).2 = after := by
  rcases made : (FileTree.files.makeDirectories directory).run tree with ⟨result, between⟩
  simp only [write, FileTree.run_bind, made] at exported
  cases result with
  | error cause =>
    obtain ⟨named, rfl⟩ := Prod.mk.inj exported
    exact ⟨congrArg Fault.path (Except.error.inj named).symm, rfl⟩
  | ok =>
    -- The directory is there and the file cannot be written, which leaves the tree alone.
    simp only [FileTree.run_bind, FileTree.run_writeText, FileTree.attempt] at exported
    cases refused : between.writeFile (path directory name) text.toUTF8 with
    | ok => cases (Prod.mk.inj (refused ▸ exported)).1
    | error cause =>
      rw [refused] at exported
      obtain ⟨named, rfl⟩ := Prod.mk.inj exported
      exact ⟨congrArg Fault.path (Except.error.inj named).symm, rfl⟩

/-- What an export that succeeds leaves of a tree. -/
structure Saved (tree after : FileTree) (text name directory written : String) : Prop where
  /-- The result is the path of the file. -/
  named : written = path directory name
  /-- The file holds exactly the text, whatever it held. -/
  content : after.find? (location tree.workingDirectory written) = some (.file text.toUTF8)
  /-- No directory gave way to the file. -/
  vacant : tree.find? (location tree.workingDirectory written) ≠ some .directory
  /-- The text is read back. -/
  read : after.readText written = .ok text
  /-- A configuration is loaded from the file as it is from the text. -/
  loaded : (Config.ofFile FileTree.files written).run after = (Config.ofYaml text, after)
  /-- Relative paths start where they did. -/
  start : after.workingDirectory = tree.workingDirectory
  /-- Elsewhere nothing is new but missing directories along the output directory. -/
  others : ∀ other, other ≠ location tree.workingDirectory written →
    Kept (Along tree.workingDirectory directory) tree after other

/-- What an export that fails leaves of a tree. -/
structure Spared (tree after : FileTree) (name directory : String) (fault : Fault) : Prop where
  /-- The fault carries the path of the file. -/
  named : fault.path = path directory name
  /-- No file is created, removed or changed. -/
  files : ∀ other bytes,
    after.find? other = some (.file bytes) ↔ tree.find? other = some (.file bytes)
  /-- Nothing is new but missing directories along the output directory. -/
  grown : Grown (Along tree.workingDirectory directory) tree after

/-- What an export leaves of a tree, by its result. -/
def Leaves (tree : FileTree) (text name directory : String) (after : FileTree) :
    Except Fault String → Prop
  | .ok written => Saved tree after text name directory written
  | .error fault => Spared tree after name directory fault

/-- A file that is written stands at the location of its path, where no directory stood, and nothing
changes elsewhere. -/
theorem exists_insert_of_writeFile {target : String} {bytes : ByteArray}
    (put : between.writeFile target bytes = .ok after) :
    between.find? (location between.workingDirectory target) ≠ some .directory ∧
      between.insert (location between.workingDirectory target) (.file bytes) = after := by
  obtain ⟨_, place, reached, -, placed, vacant, inserted⟩ := FileTree.writeFile_eq_ok.mp put
  rw [FileTree.eq_location_of_target reached placed] at vacant inserted
  exact ⟨vacant, inserted⟩

/-- An export that succeeds leaves the tree with its file and missing directories added. -/
theorem saved_of_write
    (exported : (write FileTree.files text name directory).run tree = (.ok written, after)) :
    Saved tree after text name directory written := by
  have read := readText_of_write exported
  obtain ⟨rfl, between, made, put⟩ := write_eq_ok.mp exported
  have grown := FileTree.grown_makeDirectories tree directory
  rw [made] at grown
  obtain ⟨vacant, inserted⟩ := exists_insert_of_writeFile put
  rw [grown.start] at vacant inserted
  have inner : location tree.workingDirectory (path directory name) ≠ [] := by
    intro root
    rw [root] at vacant
    exact vacant rfl
  have loaded : (Config.ofFile FileTree.files (path directory name)).run after =
      (Config.ofYaml text, after) := by
    simp only [Config.ofFile, FileTree.run_bind, FileTree.run_readText, read]
    rfl
  refine ⟨rfl, ?_, ?_, read, loaded, ?_, ?_⟩
  · rw [← inserted, FileTree.find?_insert_self _ _ inner]
  · intro stood
    rcases grown.kept (location tree.workingDirectory (path directory name)) with
      same | ⟨-, missing, -⟩
    · exact vacant (same.trans stood)
    · exact absurd (missing.symm.trans stood) (by simp)
  · rw [← inserted]
    exact grown.start
  · intro other apart
    have untouched : after.find? other = between.find? other := by
      rw [← inserted, FileTree.find?_insert_of_ne _ _ apart]
    unfold Kept
    rw [untouched]
    exact grown.kept other

/-- An export that fails leaves every file alone. -/
theorem spared_of_write {fault : Fault}
    (exported : (write FileTree.files text name directory).run tree = (.error fault, after)) :
    Spared tree after name directory fault := by
  obtain ⟨named, left⟩ := eq_makeDirectories_of_write exported
  have grown := FileTree.grown_makeDirectories tree directory
  rw [left] at grown
  exact ⟨named, fun other => (grown.kept other).file_iff, grown⟩

/-- Every export, on every tree, either saves exactly its file or spares every file, and is known to
have made no directory but missing ones along the output directory. -/
theorem leaves_write (tree : FileTree) (text name directory : String) :
    Leaves tree text name directory
      ((write FileTree.files text name directory).run tree).2
      ((write FileTree.files text name directory).run tree).1 := by
  rcases exported : (write FileTree.files text name directory).run tree with ⟨result, after⟩
  cases result with
  | ok written => exact saved_of_write exported
  | error fault => exact spared_of_write exported

/-- An export that needs a directory of the name of its file makes the directory and then fails. -/
theorem leaves_write_blocked : ∃ tree after : FileTree, ∃ fault,
    (write FileTree.files "end\n" "R1" "site/R1.txt/..").run tree = (.error fault, after) ∧
      fault.cause = .isDirectory ∧ Spared tree after "R1" "site/R1.txt/.." fault ∧
      tree.find? ["site"] = none ∧ after.find? ["site", "R1.txt"] = some .directory := by
  have exported : (write FileTree.files "end\n" "R1" "site/R1.txt/..").run ⟨[], []⟩ =
      (.error ⟨"site/R1.txt/../R1.txt", .isDirectory⟩,
        ⟨[], [(["site", "R1.txt"], .directory), (["site"], .directory)]⟩) := by rfl
  have left := leaves_write ⟨[], []⟩ "end\n" "R1" "site/R1.txt/.."
  rw [exported] at left
  exact ⟨_, _, _, exported, rfl, left, rfl, rfl⟩

end RunningConfig.Export
