import RunningConfig.Proofs.Export
/-!
# Which exports stay in their directory

The file name of an export is put behind the output directory as it is. So what it does there is the
route its names take: some levels up, then some names down. The file lies in the directory exactly
when the route comes back down through all it went up, and in whatever directory it is put exactly
when the name is relative and its route does not go up at all. An absolute name leaves the directory
altogether.
-/

namespace RunningConfig

/-- A place lies inside a directory. -/
def Location.Inside (directory place : Location) : Prop := directory <+: place ∧ directory ≠ place

instance (directory place : Location) : Decidable (Location.Inside directory place) := by
  unfold Location.Inside
  infer_instance

/-- Two ways on from a location end inside one another as the ways do. -/
theorem Location.inside_append_iff {front directory place : Location} :
    Inside (front ++ directory) (front ++ place) ↔ Inside directory place := by
  rw [Inside, Inside, List.prefix_append_right_inj, ne_eq, ne_eq, List.append_cancel_left_eq]

/-- A run of names with its dots resolved: the levels it goes up and the names it then goes down. -/
structure Route where
  /-- How many levels the route goes up first. -/
  up : Nat
  /-- The names it then goes down by. -/
  down : List String
  deriving DecidableEq, Repr

namespace Route

/-- A route with a name behind it: two dots take back the last name down, if there is one. -/
def step (route : Route) (name : String) : Route :=
  if name = "." then route
  else if name = ".." then
    if route.down = [] then { route with up := route.up + 1 }
    else { route with down := route.down.dropLast }
  else { route with down := route.down ++ [name] }

/-- The route of a run of names. -/
def ofNames (names : List String) : Route := names.foldl step { up := 0, down := [] }

/-- The location that a route leads to; above the root there is nothing. -/
def follow (route : Route) (start : Location) : Location :=
  start.take (start.length - route.up) ++ route.down

/-- A name behind a route leads on from where the route leads. -/
theorem follow_step (route : Route) (start : Location) (name : String) :
    (route.step name).follow start = (route.follow start).step name := by
  unfold step Location.step
  by_cases dot : name = "."
  · rw [if_pos dot, if_pos dot]
  · rw [if_neg dot, if_neg dot]
    by_cases climbs : name = ".."
    · rw [if_pos climbs, if_pos climbs]
      by_cases bottom : route.down = []
      · have levels : start.length - (route.up + 1) =
            min (min (start.length - route.up) start.length - 1) (start.length - route.up) := by
          omega
        rw [if_pos bottom, follow, follow, bottom, List.append_nil, List.append_nil,
          List.dropLast_eq_take, List.take_take, List.length_take, levels]
      · rw [if_neg bottom, follow, follow, List.dropLast_append_of_ne_nil bottom]
    · rw [if_neg climbs, if_neg climbs, follow, follow, List.append_assoc]

/-- Names lead where their route leads. -/
theorem walk_eq_follow (start : Location) (names : List String) :
    start.walk names = (ofNames names).follow start := by
  have further (route : Route) :
      (route.follow start).walk names = (names.foldl step route).follow start := by
    induction names generalizing route with
    | nil => rfl
    | cons name names ih => rw [Location.walk_cons, ← follow_step, ih, List.foldl_cons]
  have stay : follow { up := 0, down := [] } start = start := by
    rw [follow, Nat.sub_zero, List.take_length, List.append_nil]
  rw [ofNames, ← further, stay]

/-- A route ends inside its start exactly when it goes down through all that it went up. -/
theorem inside_follow_iff {route : Route} {start : Location} :
    start.Inside (route.follow start) ↔
      Location.Inside (start.drop (start.length - route.up)) route.down := by
  have whole := List.take_append_drop (start.length - route.up) start
  calc
    start.Inside (route.follow start) ↔
        Location.Inside (start.take (start.length - route.up) ++
          start.drop (start.length - route.up)) (route.follow start) := by rw [whole]
    _ ↔ Location.Inside (start.drop (start.length - route.up)) route.down :=
        Location.inside_append_iff

end Route

namespace Export

open FilePath (Along components isAbsolute join location)
open FileTree (Kept)

variable {text name directory written : String} {tree after : FileTree}

/-- The route of a file name, with its ending. -/
def route (name : String) : Route := Route.ofNames (components (name ++ "." ++ ending))

/-- The file of a name lies in a directory, wherever relative paths start. -/
def Contained (start : Location) (directory name : String) : Prop :=
  (location start directory).Inside (location start (path directory name))

instance (start : Location) (directory name : String) :
    Decidable (Contained start directory name) := by
  unfold Contained
  infer_instance

/-- What a file name leaves of its directory on its way: all of it if the name is absolute, and
otherwise as many levels as its route goes up. -/
def abandoned (start : Location) (directory name : String) : Location :=
  if isAbsolute name then location start directory
  else (location start directory).drop ((location start directory).length - (route name).up)

/-- The ending makes no difference to where a file name starts. -/
theorem isAbsolute_ending (name : String) :
    isAbsolute (name ++ "." ++ ending) = isAbsolute name := by
  rw [String.append_assoc]
  by_cases empty : name = ""
  · rw [empty]
    decide
  · exact FilePath.isAbsolute_append empty _

/-- The last component of a file name has the ending, and so leads down. -/
theorem exists_components_ending (name : String) :
    ∃ names last, components (name ++ "." ++ ending) = names ++ [last] ∧
      last ≠ "." ∧ last ≠ ".." := by
  have chars : (name ++ "." ++ ending).toList = (name.toList ++ ".tx".toList) ++ ['t'] := by
    simp [ending]
  have plain : 't' ≠ '/' := by decide
  obtain ⟨pieces, piece, cut⟩ := Text.splitOn_concat plain (name.toList ++ ".tx".toList)
  have apart (other : String) (differs : other.toList.getLast? ≠ some 't') :
      String.ofList (piece ++ ['t']) ≠ other := by
    intro same
    rw [← same, String.toList_ofList] at differs
    exact differs List.getLast?_concat
  refine ⟨(pieces.map String.ofList).filter (· ≠ ""), String.ofList (piece ++ ['t']), ?_,
    apart "." (by decide), apart ".." (by decide)⟩
  rw [components, Text.pieces, chars, cut, List.map_append, List.filter_append]
  rw [List.map_singleton]
  exact congrArg _ (List.filter_cons_of_pos (decide_eq_true (apart "" (by decide))))

/-- The route of a file name ends with a name. -/
theorem route_down_ne_nil (name : String) : (route name).down ≠ [] := by
  obtain ⟨names, last, shape, dot, dots⟩ := exists_components_ending name
  rw [route, shape, Route.ofNames, List.foldl_append, List.foldl_cons, List.foldl_nil, Route.step,
    if_neg dot, if_neg dots]
  exact List.concat_ne_nil _ _

/-- A file lies in its directory exactly when the route of its name goes down through what it left
of the directory. -/
theorem contained_iff_abandoned (start : Location) (directory name : String) :
    Contained start directory name ↔
      Location.Inside (abandoned start directory name) (route name).down := by
  unfold Contained abandoned path
  by_cases absolute : isAbsolute name = true
  · rw [if_pos absolute, FilePath.location_join_of_isAbsolute start
      ((isAbsolute_ending name).trans absolute), Route.walk_eq_follow, ← route, Route.follow,
      List.take_nil, List.nil_append]
  · have relative : isAbsolute (name ++ "." ++ ending) = false := by
      rw [isAbsolute_ending]
      simpa using absolute
    rw [if_neg absolute, FilePath.location_join start relative, Route.walk_eq_follow, ← route,
      Route.inside_follow_iff]

/-- A file lies in whatever directory it is put exactly when its name is relative and does not go
up. -/
theorem forall_contained_iff (name : String) :
    (∀ start directory, Contained start directory name) ↔
      isAbsolute name = false ∧ (route name).up = 0 := by
  constructor
  · intro contained
    refine Decidable.byContradiction fun leaves => ?_
    -- Such a name leaves a directory of one level altogether, and its way down enters only one.
    have enters (directory : String) (single : location [] directory = [directory]) :
        [directory] <+: (route name).down := by
      obtain ⟨down, -⟩ := (contained_iff_abandoned [] directory name).mp (contained [] directory)
      unfold abandoned at down
      rw [single] at down
      by_cases absolute : isAbsolute name = true
      · rwa [if_pos absolute] at down
      · have climbs : (route name).up ≠ 0 := by
          intro level
          exact leaves ⟨by simpa using absolute, level⟩
        have none : [directory].length - (route name).up = 0 := by
          rw [List.length_singleton]
          omega
        rwa [if_neg absolute, none, List.drop_zero] at down
    obtain ⟨rest, first⟩ := enters "a" (by decide)
    obtain ⟨other, second⟩ := enters "b" (by decide)
    have clash := (List.cons.inj (first.trans second.symm)).1
    exact absurd clash (by decide)
  · rintro ⟨relative, level⟩ start directory
    rw [contained_iff_abandoned, abandoned, relative, if_neg Bool.false_ne_true, level,
      Nat.sub_zero, List.drop_length]
    exact ⟨List.nil_prefix, (route_down_ne_nil name).symm⟩

/-- What keeps the exports of a file name in their directories. -/
structure Confinement (name : String) : Prop where
  /-- The file lies in a directory exactly when its name goes down through what it left of it. -/
  inside : ∀ start directory, Contained start directory name ↔
    Location.Inside (abandoned start directory name) (route name).down
  /-- It lies in every directory exactly when its name is relative and does not go up. -/
  everywhere : (∀ start directory, Contained start directory name) ↔
    isAbsolute name = false ∧ (route name).up = 0
  /-- An export whose file lies in its directory leaves every file outside of it alone. -/
  outside : ∀ tree text directory, Contained tree.workingDirectory directory name →
    ∀ other bytes, ¬(location tree.workingDirectory directory).Inside other →
      (((write FileTree.files text name directory).run tree).2.find? other = some (.file bytes) ↔
        tree.find? other = some (.file bytes))

/-- An export whose file lies in its directory leaves every file outside of it alone. -/
theorem file_iff_of_contained (contained : Contained tree.workingDirectory directory name)
    {other : Location} (away : ¬(location tree.workingDirectory directory).Inside other)
    (bytes : ByteArray) :
    ((write FileTree.files text name directory).run tree).2.find? other = some (.file bytes) ↔
      tree.find? other = some (.file bytes) := by
  rcases exported : (write FileTree.files text name directory).run tree with ⟨result, after⟩
  cases result with
  | ok written =>
    have saved := saved_of_write exported
    have apart : other ≠ location tree.workingDirectory written := by
      rintro rfl
      rw [saved.named] at away
      exact away contained
    exact (saved.others other apart).file_iff bytes
  | error fault => exact (spared_of_write exported).files other bytes

/-- The exports of a file name stay in their directories exactly as its route does. -/
theorem confinement (name : String) : Confinement name where
  inside start directory := contained_iff_abandoned start directory name
  everywhere := forall_contained_iff name
  outside _ _ _ contained _ bytes away := file_iff_of_contained contained away bytes

/-- A file may go up and come back: what counts is the way down. -/
example : Contained ["srv"] "site/output" "../output/R1" ∧ ¬Contained ["srv"] "output" "../R1" := by
  decide

/-- A file with an absolute name is not in its directory, and its export writes it elsewhere. -/
theorem not_contained_of_rooted_name : path "output" "/R1" = "/R1.txt" ∧
    ¬Contained [] "output" "/R1" ∧
    ∃ after, (write FileTree.files "end\n" "/R1" "output").run ⟨[], []⟩ = (.ok "/R1.txt", after) ∧
      after.find? ["R1.txt"] = some (.file "end\n".toUTF8) ∧
      location [] "output" = ["output"] := by
  have exported : (write FileTree.files "end\n" "/R1" "output").run ⟨[], []⟩ = (.ok "/R1.txt",
      ⟨[], [(["R1.txt"], .file "end\n".toUTF8), (["output"], .directory)]⟩) := rfl
  exact ⟨by decide, by decide, _, exported, rfl, by decide⟩

end Export

end RunningConfig
