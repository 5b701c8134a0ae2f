import RunningConfig.Proofs.FileTree
import RunningConfig.Proofs.Text.Lines
/-!
# Where a path leads

No name of a path leads anywhere but down to its own place, up by one level or nowhere, so the
location of a path is known from its text and the location it starts from (`FilePath.location`).
A walk on a tree may fail on the way; one that succeeds ends at that location. A path that is taken
inside a directory leads on from the location of the directory, unless it is absolute.
-/

namespace RunningConfig

namespace Location

/-- The location that a name leads to, whatever stands there. -/
def step (location : Location) (name : String) : Location :=
  if name = "." then location
  else if name = ".." then location.dropLast
  else location ++ [name]

/-- The location that names lead to, one after the other. -/
def walk (location : Location) (names : List String) : Location := names.foldl step location

/-- A walk takes its first name and goes on. -/
theorem walk_cons (location : Location) (name : String) (names : List String) :
    location.walk (name :: names) = (location.step name).walk names := rfl

/-- A walk can be stopped and taken up again. -/
theorem walk_append (location : Location) (front back : List String) :
    location.walk (front ++ back) = (location.walk front).walk back := by
  rw [walk, walk, walk, List.foldl_append]

/-- Dots make no difference to where a walk ends. -/
theorem walk_filter (location : Location) (names : List String) :
    location.walk (names.filter (· ≠ ".")) = location.walk names := by
  induction names generalizing location with
  | nil => rfl
  | cons name names ih =>
    by_cases dot : name = "."
    · have stay : location.step name = location := if_pos dot
      have dropped : (name :: names).filter (· ≠ ".") = names.filter (· ≠ ".") :=
        List.filter_cons_of_neg (by simpa using dot)
      rw [dropped, ih, walk_cons, stay]
    · have kept : (name :: names).filter (· ≠ ".") = name :: names.filter (· ≠ ".") :=
        List.filter_cons_of_pos (by simpa using dot)
      rw [kept, walk_cons, walk_cons, ih]

end Location

namespace FilePath

variable {path directory name : String} {names : List String}

/-- The location that a path starts from. -/
def origin (start : Location) (path : String) : Location := if isAbsolute path then [] else start

/-- The location that a path leads to, whatever stands on the way. -/
def location (start : Location) (path : String) : Location :=
  (origin start path).walk (components path)

/-! ## The components of a path -/

/-- A component is not empty and holds no slash. -/
theorem solid_of_mem_components (member : name ∈ components path) :
    name ≠ "" ∧ '/' ∉ name.toList := by
  obtain ⟨piece, nonempty⟩ := List.mem_filter.mp member
  obtain ⟨chars, cut, rfl⟩ := List.mem_map.mp piece
  refine ⟨by simpa using nonempty, ?_⟩
  rw [String.toList_ofList]
  exact Text.separator_not_mem_of_mem_splitOn cut

/-- A slash parts the components before it from those after it. -/
theorem components_slash (front back : String) :
    components (front ++ "/" ++ back) = components front ++ components back := by
  have chars : (front ++ "/" ++ back).toList = front.toList ++ '/' :: back.toList := by simp
  simp only [components, Text.pieces, chars, Text.splitOn_append_cons, List.map_append,
    List.filter_append]

/-- An empty path has no component. -/
theorem components_empty : components "" = [] := by decide

/-- A name is its only component. -/
theorem components_of_solid (nonempty : name ≠ "") (free : '/' ∉ name.toList) :
    components name = [name] := by
  have single : Text.pieces '/' name = [name] := Text.pieces_eq_singleton.mpr free
  rw [components, single]
  exact List.filter_cons_of_pos (by simpa using nonempty)

/-- Names joined by slashes are the components of the path they make. -/
theorem components_intercalate (solid : ∀ name ∈ names, name ≠ "" ∧ '/' ∉ name.toList) :
    components ("/".intercalate names) = names := by
  induction names with
  | nil => exact components_empty
  | cons name names ih =>
    obtain ⟨⟨nonempty, free⟩, later⟩ := List.forall_mem_cons.mp solid
    have first : components name = [name] := components_of_solid nonempty free
    cases names with
    | nil => exact first
    | cons next names =>
      rw [String.intercalate_cons_cons, components_slash, first, ih later]
      rfl

/-- What follows a path does not change where it starts. -/
theorem isAbsolute_append {front : String} (nonempty : front ≠ "") (back : String) :
    isAbsolute (front ++ back) = isAbsolute front := by
  have some_char : front.toList ≠ [] := by simpa using nonempty
  obtain ⟨first, rest, shape⟩ := List.exists_cons_of_ne_nil some_char
  simp only [isAbsolute, String.toList_append, shape, List.cons_append, List.head?_cons]

/-! ## A path inside a directory -/

/-- A path that ends with a slash is what stands before the slash, and the slash. -/
theorem exists_of_endsWithSlash (ends : endsWithSlash directory = true) :
    ∃ front, directory = front ++ "/" := by
  have last : directory.toList.getLast? = some '/' := by simpa [endsWithSlash] using ends
  obtain ⟨front, shape⟩ := List.getLast?_eq_some_iff.mp last
  refine ⟨String.ofList front, ?_⟩
  rw [← String.toList_inj, String.toList_append, String.toList_ofList, shape]
  rfl

/-- A relative path inside a directory has the components of both. -/
theorem components_join (relative : isAbsolute name = false) :
    components (join directory name) = components directory ++ components name := by
  unfold join
  rw [relative, Bool.false_or]
  by_cases empty : directory.isEmpty = true
  · rw [if_pos empty, String.isEmpty_iff.mp empty, components_empty, List.nil_append]
  · rw [if_neg empty]
    by_cases ends : endsWithSlash directory = true
    · obtain ⟨front, rfl⟩ := exists_of_endsWithSlash ends
      have before := components_slash front ""
      rw [String.append_empty, components_empty, List.append_nil] at before
      rw [if_pos ends, components_slash, before]
    · rw [if_neg ends, components_slash]

/-- A relative path inside a directory starts where the directory does. -/
theorem origin_join (start : Location) (relative : isAbsolute name = false) :
    origin start (join directory name) = origin start directory := by
  unfold join
  rw [relative, Bool.false_or]
  by_cases empty : directory = ""
  · have nothing : isAbsolute "" = false := by decide
    rw [empty, if_pos (by rfl), origin, origin, relative, nothing]
  · have present : ¬directory.isEmpty = true := by rwa [String.isEmpty_iff]
    rw [if_neg present]
    by_cases ends : endsWithSlash directory = true
    · rw [if_pos ends, origin, origin, isAbsolute_append empty]
    · rw [if_neg ends, String.append_assoc, origin, origin, isAbsolute_append empty]

/-- A relative path inside a directory leads on from the location of the directory. -/
theorem location_join (start : Location) (relative : isAbsolute name = false) :
    location start (join directory name) = (location start directory).walk (components name) := by
  rw [location, components_join relative, origin_join start relative, Location.walk_append,
    ← location]

/-- An absolute path leads to the same location inside every directory. -/
theorem location_join_of_isAbsolute (start : Location) (absolute : isAbsolute name = true) :
    location start (join directory name) = Location.walk [] (components name) := by
  have replaced : join directory name = name := by rw [join, absolute, Bool.true_or, if_pos rfl]
  rw [replaced, location, origin, if_pos absolute]

end FilePath

namespace FileTree

variable {tree : FileTree} {directory location last : Location} {path name : String}

/-- The place of a name is the location it leads to. -/
theorem eq_step_of_place (placed : place directory name = .ok location) :
    location = directory.step name := by
  unfold place at placed
  unfold Location.step
  by_cases dot : name = "."
  · rw [if_pos dot] at placed ⊢
    exact (Except.ok.inj placed).symm
  · rw [if_neg dot] at placed ⊢
    by_cases up : name = ".."
    · rw [if_pos up] at placed ⊢
      exact (Except.ok.inj placed).symm
    · rw [if_neg up] at placed ⊢
      split at placed
      case isTrue => contradiction
      case isFalse => exact (Except.ok.inj placed).symm

/-- A walk on a tree ends where its names lead. -/
theorem eq_walk_of_enter {names : List String} (entered : tree.enter directory names = .ok last) :
    last = directory.walk names := by
  induction names generalizing directory with
  | nil => exact (Except.ok.inj entered).symm
  | cons name names ih =>
    obtain ⟨next, placed, -, further⟩ := enter_cons_eq_ok.mp entered
    rw [ih further, eq_step_of_place placed, Location.walk_cons]

/-- The place of the last name of a path is the location of the path. -/
theorem eq_location_of_target {target : Target} (reached : tree.target path = .ok target)
    (placed : place target.directory target.name = .ok location) :
    location = FilePath.location tree.workingDirectory path := by
  obtain ⟨-, -, -, entered, named, -⟩ := target_eq_ok.mp reached
  have start := eq_walk_of_enter entered
  rw [eq_step_of_place placed, start, ← named, FilePath.location, FilePath.origin]
  rcases ending : (FilePath.components path).getLast? with _ | final
  · have none : FilePath.components path = [] := List.getLast?_eq_none_iff.mp ending
    rw [none]
    rfl
  · obtain ⟨front, shape⟩ := List.getLast?_eq_some_iff.mp ending
    rw [shape, List.dropLast_concat, Location.walk_append]
    rfl

end FileTree

end RunningConfig
