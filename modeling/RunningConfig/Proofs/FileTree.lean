import RunningConfig.FileTree.Files
import RunningConfig.Proofs.Outcome
/-!
# Reading what was written

A file is written where no directory stands. A walk enters directories only, so every walk that
succeeded goes the same way afterwards, and what was written is read back along the same path.
-/

namespace RunningConfig.FileTree

variable {tree after : FileTree} {directory location : Location} {path name : String}

/-- A step on a file tree goes on from the tree that the step before left. -/
theorem run_bind {α β : Type} (first : StateM FileTree α) (next : α → StateM FileTree β)
    (tree : FileTree) :
    (first >>= next).run tree = (next (first.run tree).1).run (first.run tree).2 := rfl

/-- Reading a text leaves the tree alone. -/
theorem run_readText (path : String) (tree : FileTree) :
    (files.readText path).run tree = (tree.readText path, tree) := rfl

/-- Writing a text is writing its bytes. -/
theorem run_writeText (path text : String) (tree : FileTree) :
    (files.writeText path text).run tree =
      attempt (fun tree => tree.writeFile path text.toUTF8) tree := rfl

/-- Making a directory leaves the tree alone on a fault. -/
theorem run_makeDirectory (path : String) (tree : FileTree) :
    (files.makeDirectory path).run tree = attempt (fun tree => tree.makeDirectory path) tree := rfl

/-- Seeing whether a directory stands leaves the tree alone. -/
theorem run_isDirectory (path : String) (tree : FileTree) :
    (files.isDirectory path).run tree = (tree.isDirectory path, tree) := rfl

/-- An action succeeds exactly when it gives the tree after it. -/
theorem attempt_eq_ok {action : FileTree → Except IoFault FileTree} :
    (attempt action).run tree = (.ok (), after) ↔ action tree = .ok after := by
  change attempt action tree = _ ↔ _
  rw [attempt]
  cases action tree with
  | error => exact iff_of_false (fun same => by cases (Prod.mk.inj same).1) (by simp)
  | ok => exact ⟨fun same => congrArg _ (Prod.mk.inj same).2, fun same => by cases same; rfl⟩

/-- A name leads to what stands at its place. -/
theorem follow_eq_ok {entry : Entry} : tree.follow directory name = .ok (location, entry) ↔
    place directory name = .ok location ∧ tree.find? location = some entry := by
  simp only [follow, bind_eq_ok]
  constructor
  · rintro ⟨found, placed, reached⟩
    split at reached
    case h_1 entry stands =>
      obtain ⟨rfl, rfl⟩ := Prod.mk.inj (pure_eq_ok.mp reached)
      exact ⟨placed, stands⟩
    case h_2 => contradiction
  · rintro ⟨placed, stands⟩
    exact ⟨location, placed, by rw [stands]; rfl⟩

/-- A walk goes on from a directory that its first name leads to. -/
theorem enter_cons_eq_ok {names : List String} {last : Location} :
    tree.enter directory (name :: names) = .ok last ↔
      ∃ next, place directory name = .ok next ∧ tree.find? next = some .directory ∧
        tree.enter next names = .ok last := by
  rw [enter, bind_eq_ok]
  constructor
  · rintro ⟨⟨next, entry⟩, followed, entered⟩
    obtain ⟨placed, stands⟩ := follow_eq_ok.mp followed
    cases entry with
    | directory => exact ⟨next, placed, stands, entered⟩
    | file => contradiction
  · rintro ⟨next, placed, stands, entered⟩
    exact ⟨(next, .directory), follow_eq_ok.mpr ⟨placed, stands⟩, entered⟩

/-- A walk goes the same way in a tree where every directory still stands. -/
theorem enter_of_directories {names : List String} {last : Location}
    (kept : ∀ location, tree.find? location = some .directory →
      after.find? location = some .directory)
    (entered : tree.enter directory names = .ok last) : after.enter directory names = .ok last := by
  -- On the names, from wherever the walk stands: each one led to a directory, which still stands.
  induction names generalizing directory with
  | nil => exact entered
  | cons name names ih =>
    obtain ⟨next, placed, stands, further⟩ := enter_cons_eq_ok.mp entered
    exact enter_cons_eq_ok.mpr ⟨next, placed, kept next stands, ih further⟩

/-- A path leads to the last of its names, in the directory that the names before it lead to. -/
theorem target_eq_ok {target : Target} : tree.target path = .ok target ↔
    path.toList.contains '\x00' = false ∧ ¬longestPath < path.utf8ByteSize ∧
      path.isEmpty = false ∧
      tree.enter (if FilePath.isAbsolute path then [] else tree.workingDirectory)
        (FilePath.components path).dropLast = .ok target.directory ∧
      (FilePath.components path).getLast?.getD "." = target.name ∧
      FilePath.endsWithSlash path = target.slash := by
  unfold FileTree.target
  constructor
  · intro reached
    split at reached
    case isTrue => contradiction
    case isFalse legible =>
      split at reached
      case isTrue => contradiction
      case isFalse short =>
        split at reached
        case isTrue => contradiction
        case isFalse nonempty =>
          obtain ⟨directory, entered, same⟩ := bind_eq_ok.mp reached
          obtain rfl := pure_eq_ok.mp same
          exact ⟨by simpa using legible, short, by simpa using nonempty, entered, rfl, rfl⟩
  · rintro ⟨legible, short, nonempty, entered, named, slashed⟩
    rw [legible, nonempty, if_neg Bool.false_ne_true, if_neg short, if_neg Bool.false_ne_true]
    refine bind_eq_ok.mpr ⟨target.directory, entered, ?_⟩
    rw [named, slashed]
    rfl

/-- A path leads to the same place in a tree where every directory still stands and the working
directory is the same. -/
theorem target_of_directories {target : Target}
    (kept : ∀ location, tree.find? location = some .directory →
      after.find? location = some .directory)
    (start : after.workingDirectory = tree.workingDirectory)
    (reached : tree.target path = .ok target) : after.target path = .ok target := by
  obtain ⟨legible, short, nonempty, entered, ending⟩ := target_eq_ok.mp reached
  rw [← start] at entered
  exact target_eq_ok.mpr ⟨legible, short, nonempty, enter_of_directories kept entered, ending⟩

/-- A file is written at the place its path leads to, where no directory stands. -/
theorem writeFile_eq_ok {bytes : ByteArray} :
    tree.writeFile path bytes = .ok after ↔
      ∃ target location, tree.target path = .ok target ∧ target.slash = false ∧
        place target.directory target.name = .ok location ∧
        tree.find? location ≠ some .directory ∧ tree.insert location (.file bytes) = after := by
  rw [writeFile, bind_eq_ok]
  constructor
  · rintro ⟨target, reached, written⟩
    split at written
    case isTrue => contradiction
    case isFalse noSlash =>
      obtain ⟨location, placed, written⟩ := bind_eq_ok.mp written
      split at written
      case h_1 => contradiction
      case h_2 vacant =>
        exact ⟨target, location, reached, by simpa using noSlash, placed, vacant,
          Except.ok.inj written⟩
  · rintro ⟨target, location, reached, noSlash, placed, vacant, rfl⟩
    refine ⟨target, reached, ?_⟩
    rw [noSlash, if_neg Bool.false_ne_true]
    refine bind_eq_ok.mpr ⟨location, placed, ?_⟩
    split
    case h_1 stands => exact absurd stands vacant
    case h_2 => rfl

/-- The bytes of a text give the text. -/
theorem fromUTF8?_toUTF8 (text : String) : String.fromUTF8? text.toUTF8 = some text := by
  rw [String.toUTF8_eq_toByteArray, String.fromUTF8?, dif_pos text.isValidUTF8]
  rfl

/-- A file that was written holds what was written to it. -/
theorem readText_writeFile {text : String}
    (written : tree.writeFile path text.toUTF8 = .ok after) : after.readText path = .ok text := by
  obtain ⟨target, location, reached, noSlash, placed, vacant, rfl⟩ := writeFile_eq_ok.mp written
  have inner : location ≠ [] := by
    rintro rfl
    exact vacant rfl
  -- The one place that changes had no directory, so every directory still stands.
  have kept : ∀ other, tree.find? other = some .directory →
      (tree.insert location (.file text.toUTF8)).find? other = some .directory := by
    intro other stands
    have apart : other ≠ location := by
      rintro rfl
      exact vacant stands
    rw [tree.find?_insert_of_ne _ apart, stands]
  have followed : (tree.insert location (.file text.toUTF8)).follow target.directory target.name =
      .ok (location, .file text.toUTF8) :=
    follow_eq_ok.mpr ⟨placed, tree.find?_insert_self _ inner⟩
  rw [readText, bind_eq_ok]
  refine ⟨target, target_of_directories kept rfl reached, bind_eq_ok.mpr ⟨_, followed, ?_⟩⟩
  simp only [noSlash, Bool.false_eq_true, if_false, fromUTF8?_toUTF8]

/-- A path leads to a directory if what its last name leads to is one. -/
theorem isDirectory_eq_true : tree.isDirectory path = true ↔
    ∃ target location, tree.target path = .ok target ∧
      tree.follow target.directory target.name = .ok (location, .directory) := by
  unfold isDirectory
  constructor
  · intro stands
    split at stands
    case h_1 target reached =>
      split at stands
      case h_1 location entry followed =>
        cases entry with
        | directory => exact ⟨target, location, reached, followed⟩
        | file => contradiction
      case h_2 => contradiction
    case h_2 => contradiction
  · rintro ⟨target, location, reached, followed⟩
    rw [reached]
    simp only [followed]
    rfl

/-- No directory is made where one stands. -/
theorem makeDirectory_of_isDirectory (stands : tree.isDirectory path = true) :
    tree.makeDirectory path = .error .fileExists := by
  obtain ⟨target, location, reached, followed⟩ := isDirectory_eq_true.mp stands
  obtain ⟨placed, present⟩ := follow_eq_ok.mp followed
  simp only [makeDirectory, reached, placed, present, bind, Except.bind]
  split <;> rfl

/-- A directory that stands does not have to be made. -/
theorem makeDirectories_of_isDirectory (stands : tree.isDirectory path = true) :
    (files.makeDirectories path).run tree = (.ok (), tree) := by
  have refused : (files.makeDirectory path).run tree = (.error .fileExists, tree) := by
    simp only [run_makeDirectory, attempt, makeDirectory_of_isDirectory stands]
  unfold Files.makeDirectories
  split
  · rfl
  · simp only [Files.ensureDirectory, run_bind, refused, run_isDirectory, stands]
    rfl

end RunningConfig.FileTree
