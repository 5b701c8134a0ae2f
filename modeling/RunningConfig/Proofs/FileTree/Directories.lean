import RunningConfig.Proofs.FileTree.Location
/-!
# Making directories

A directory is only ever made where nothing stood, and making the directories of a path makes none
but at the locations that first names of the path lead to. This holds of every tree that is left
behind, also where a fault ended the work half-way: each step grows the tree (`FileTree.Grown`) by
directories along the path, and steps in a row grow it together.
-/

namespace RunningConfig

namespace FilePath

variable {start : Location} {path ancestor : String} {names : List String}

/-- A location lies along a path when first names of the path lead to it. -/
def Along (start : Location) (path : String) (location : Location) : Prop :=
  ∃ front, front <+: components path ∧ location = (origin start path).walk front

/-- A path leads to a location along it. -/
theorem along_location (start : Location) (path : String) :
    Along start path (location start path) :=
  ⟨components path, List.prefix_refl _, rfl⟩

/-- The names of a path are its components without the dots that do not count. -/
theorem filter_steps (path : String) :
    (steps path).filter (· ≠ ".") = (components path).filter (· ≠ ".") := by
  unfold steps
  cases components path with
  | nil => rfl
  | cons first rest =>
    have later : (rest.filter (· ≠ ".")).filter (· ≠ ".") = rest.filter (· ≠ ".") := by
      simp only [List.filter_filter, Bool.and_self]
    dsimp only
    rw [List.filter_append, later]
    by_cases dot : first = "."
    · subst dot
      cases isAbsolute path <;> rfl
    · have counts : (decide (first = ".") && isAbsolute path) = false := by simp [dot]
      rw [counts, if_neg Bool.false_ne_true]
      exact (List.filter_append [first] rest).symm

/-- The names of a path are among its components. -/
theorem mem_components_of_mem_steps {name : String} (member : name ∈ steps path) :
    name ∈ components path := by
  unfold steps at member
  split at member
  case h_1 => contradiction
  case h_2 first rest shape =>
    rw [shape]
    rcases List.mem_append.mp member with head | later
    · have same : name = first := by
        split at head
        · contradiction
        · exact List.mem_singleton.mp head
      rw [same]
      exact List.mem_cons_self
    · exact List.mem_cons_of_mem _ (List.mem_filter.mp later).1

/-- A path made of names has these names and starts where it was made to start. -/
theorem ofSteps_names {absolute : Bool} (solid : ∀ name ∈ names, name ≠ "" ∧ '/' ∉ name.toList)
    (nonempty : ofSteps absolute names ≠ "") :
    components (ofSteps absolute names) = names ∧
      isAbsolute (ofSteps absolute names) = absolute := by
  cases absolute with
  | true =>
    have text : ofSteps true names = "" ++ "/" ++ "/".intercalate names := rfl
    constructor
    · rw [text, components_slash, components_intercalate solid]
      rfl
    · rw [text, isAbsolute, String.toList_append]
      rfl
  | false =>
    have text : ofSteps false names = "/".intercalate names := String.empty_append
    rw [text] at nonempty ⊢
    refine ⟨components_intercalate solid, ?_⟩
    cases names with
    | nil => exact absurd rfl nonempty
    | cons name names =>
      obtain ⟨present, free⟩ := solid name List.mem_cons_self
      have plain : isAbsolute name = false := by
        rw [isAbsolute, decide_eq_false_iff_not]
        exact fun slash => free (List.mem_of_head? slash)
      cases names with
      | nil => exact plain
      | cons next names =>
        rw [String.intercalate_cons_cons, String.append_assoc, isAbsolute_append present, plain]

/-- A path that another lies in leads to a location along it. -/
theorem along_of_mem_ancestors (member : ancestor ∈ ancestors path) :
    Along start path (location start ancestor) := by
  obtain ⟨made, nonempty⟩ := List.mem_filter.mp member
  obtain ⟨count, -, rfl⟩ := List.mem_map.mp made
  have solid : ∀ name ∈ (steps path).take count, name ≠ "" ∧ '/' ∉ name.toList :=
    fun name inside =>
      solid_of_mem_components (mem_components_of_mem_steps (List.mem_of_mem_take inside))
  obtain ⟨names, absolute⟩ := ofSteps_names solid (by simpa using nonempty)
  -- The dots that the ancestor leaves out do not move, so its names are first names of the path.
  have front : ((steps path).take count).filter (· ≠ ".") <+:
      (components path).filter (· ≠ ".") := by
    rw [← filter_steps]
    exact (List.take_prefix _ _).filter _
  obtain ⟨shown, begins, same⟩ := List.prefix_filter_iff.mp front
  refine ⟨shown, begins, ?_⟩
  rw [location, origin, names, absolute, ← Location.walk_filter, same, Location.walk_filter]
  rfl

end FilePath

namespace FileTree

variable {along narrow wide : Location → Prop} {tree between after : FileTree} {location : Location}
  {path : String}

/-- What stands at a location is what stood there, or a directory where there was nothing. -/
def Kept (along : Location → Prop) (tree after : FileTree) (location : Location) : Prop :=
  after.find? location = tree.find? location ∨
    along location ∧ tree.find? location = none ∧ after.find? location = some .directory

/-- A tree is another with nothing but missing directories added. -/
structure Grown (along : Location → Prop) (tree after : FileTree) : Prop where
  /-- Relative paths start at the same directory. -/
  start : after.workingDirectory = tree.workingDirectory
  /-- Every location keeps what stood there, or gains a directory where nothing stood. -/
  kept : ∀ location, Kept along tree after location

/-- A tree without a change has grown by nothing. -/
theorem Grown.refl (along : Location → Prop) (tree : FileTree) : Grown along tree tree :=
  ⟨rfl, fun _ => Or.inl rfl⟩

/-- Directories at some locations are directories at more of them. -/
theorem Grown.mono (grown : Grown narrow tree after)
    (wider : ∀ location, narrow location → wide location) : Grown wide tree after := by
  refine ⟨grown.start, fun location => ?_⟩
  rcases grown.kept location with same | ⟨inside, missing, made⟩
  · exact Or.inl same
  · exact Or.inr ⟨wider location inside, missing, made⟩

/-- A tree that grows twice has grown. -/
theorem Grown.trans (first : Grown along tree between) (second : Grown along between after) :
    Grown along tree after := by
  refine ⟨second.start.trans first.start, fun location => ?_⟩
  rcases second.kept location with same | ⟨inside, missing, made⟩
  · rcases first.kept location with before | ⟨inside, missing, made⟩
    · exact Or.inl (same.trans before)
    · exact Or.inr ⟨inside, missing, same.trans made⟩
  · rcases first.kept location with before | ⟨-, -, stands⟩
    · exact Or.inr ⟨inside, before.symm.trans missing, made⟩
    · exact absurd (stands.symm.trans missing) (by simp)

/-- No file comes, goes or changes where a tree grows. -/
theorem Kept.file_iff (kept : Kept along tree after location) (bytes : ByteArray) :
    after.find? location = some (.file bytes) ↔ tree.find? location = some (.file bytes) := by
  rcases kept with same | ⟨-, missing, made⟩
  · rw [same]
  · rw [missing, made]
    simp

/-- A tree grows where a directory is inserted in a vacant place. -/
theorem grown_insert (vacant : tree.find? location = none) :
    Grown (· = location) tree (tree.insert location .directory) := by
  have inner : location ≠ [] := by
    rintro rfl
    exact absurd vacant (by simp [find?])
  refine ⟨rfl, fun other => ?_⟩
  by_cases same : other = location
  · subst same
    exact Or.inr ⟨rfl, vacant, find?_insert_self tree _ inner⟩
  · exact Or.inl (find?_insert_of_ne tree _ same)

/-- Making a directory makes it at the location of its path, where nothing stood. -/
theorem exists_of_makeDirectory (made : tree.makeDirectory path = .ok after) :
    tree.find? (FilePath.location tree.workingDirectory path) = none ∧
      tree.insert (FilePath.location tree.workingDirectory path) .directory = after := by
  obtain ⟨target, reached, made⟩ := bind_eq_ok.mp made
  split at made
  case isTrue => contradiction
  case isFalse =>
    obtain ⟨location, placed, made⟩ := bind_eq_ok.mp made
    rw [← eq_location_of_target reached placed]
    split at made
    case h_1 => contradiction
    case h_2 vacant => exact ⟨vacant, Except.ok.inj made⟩

/-! ## The trees that the steps leave behind -/

/-- A directory is made at the location of its path or not at all. -/
theorem grown_makeDirectory (tree : FileTree) (path : String) :
    Grown (· = FilePath.location tree.workingDirectory path) tree
      ((files.makeDirectory path).run tree).2 := by
  rw [run_makeDirectory, attempt]
  split
  case h_1 after made =>
    obtain ⟨vacant, rfl⟩ := exists_of_makeDirectory made
    exact grown_insert vacant
  case h_2 => exact Grown.refl _ tree

/-- A directory that has to stand is made at the location of its path or not at all. -/
theorem grown_ensureDirectory (tree : FileTree) (path : String) :
    Grown (· = FilePath.location tree.workingDirectory path) tree
      ((files.ensureDirectory path).run tree).2 := by
  have grown := grown_makeDirectory tree path
  rcases made : (files.makeDirectory path).run tree with ⟨result, after⟩
  rw [made] at grown
  simp only [Files.ensureDirectory, run_bind, made]
  cases result with
  | ok => exact grown
  | error fault =>
    have seen := run_isDirectory path after
    simp only [run_bind, seen]
    cases after.isDirectory path <;> exact grown

/-- Directories are made at the locations of their paths, up to the first fault. -/
theorem grown_ensureEach (tree : FileTree) (paths : List String) :
    Grown (fun location => ∃ path ∈ paths, location = FilePath.location tree.workingDirectory path)
      tree ((files.ensureEach paths).run tree).2 := by
  -- On the paths: each step leaves the working directory, so that later paths start where they did.
  induction paths generalizing tree with
  | nil => exact Grown.refl _ tree
  | cons path paths ih =>
    have first := grown_ensureDirectory tree path
    rcases made : (files.ensureDirectory path).run tree with ⟨result, between⟩
    rw [made] at first
    have here := first.mono fun location same =>
      (⟨path, List.mem_cons_self, same⟩ : ∃ other ∈ path :: paths,
        location = FilePath.location tree.workingDirectory other)
    simp only [Files.ensureEach, run_bind, made]
    cases result with
    | error => exact here
    | ok =>
      have later := ih between
      rw [first.start] at later
      exact here.trans (later.mono fun location ⟨other, member, same⟩ =>
        ⟨other, List.mem_cons_of_mem path member, same⟩)

/-- Making the directories of a path grows the tree along the path. -/
theorem grown_makeDirectories (tree : FileTree) (path : String) :
    Grown (FilePath.Along tree.workingDirectory path) tree
      ((files.makeDirectories path).run tree).2 := by
  unfold Files.makeDirectories
  split
  case isTrue => exact Grown.refl _ tree
  case isFalse =>
    have first := grown_ensureDirectory tree path
    rcases made : (files.ensureDirectory path).run tree with ⟨result, between⟩
    rw [made] at first
    have here : Grown (FilePath.Along tree.workingDirectory path) tree between :=
      first.mono fun location same => same ▸ FilePath.along_location _ _
    simp only [run_bind, made]
    cases result with
    | ok => exact here
    | error fault =>
      cases fault with
      | notFound =>
        have later := grown_ensureEach between (FilePath.ancestors path ++ [path])
        rw [first.start] at later
        refine here.trans (later.mono ?_)
        rintro location ⟨other, member, rfl⟩
        rcases List.mem_append.mp member with ancestor | own
        · exact FilePath.along_of_mem_ancestors ancestor
        · rw [List.mem_singleton.mp own]
          exact FilePath.along_location _ _
      | _ => exact here

end FileTree

end RunningConfig
