import Mathlib
import RunningConfig.CommandLine.Run
import RunningConfig.Proofs.Export
/-!
# What a run leaves behind

A run that renders a source loads it, renders it and exports the text, and only the last step
touches the file tree. So a run that cannot load or render leaves the tree as it was, and one that
succeeds leaves exactly the rendered text in the file it names.
-/

namespace RunningConfig

namespace CommandLine

/-- The configuration of an origin, as a file tree has it. -/
def Origin.configuration (tree : FileTree) : Origin → Except LoadFault Config
  | .file path =>
    match tree.readText path with
    | .ok text => Config.ofYaml text
    | .error fault => .error (.file fault)
  | .template name => Template.load name

/-- Loading gives the configuration that the tree has and leaves the tree alone. -/
theorem Origin.load_files (origin : Origin) (tree : FileTree) :
    (origin.load FileTree.files).run tree = (origin.configuration tree, tree) := by
  cases origin with
  | file path =>
    simp only [load, configuration, Config.ofFile, FileTree.run_bind, FileTree.run_readText]
    cases tree.readText path <;> rfl
  | template name => rfl

/-- A text is what an origin renders to, as a file tree has it. -/
def Origin.Renders (tree : FileTree) (origin : Origin) (text : String) : Prop :=
  ∃ config, origin.configuration tree = .ok config ∧ config.render = .ok text

/-- An origin renders to one text at most. -/
theorem Origin.Renders.unique {tree : FileTree} {origin : Origin} {left right : String}
    (ofLeft : origin.Renders tree left) (ofRight : origin.Renders tree right) : left = right := by
  obtain ⟨config, loaded, shown⟩ := ofLeft
  obtain ⟨_, reloaded, shownAgain⟩ := ofRight
  obtain rfl := Except.ok.inj (loaded.symm.trans reloaded)
  exact Except.ok.inj (shown.symm.trans shownAgain)

/-- A source that is marked as a template renders to the same text on every tree. -/
theorem Origin.renders_template {source : String} (marked : source.startsWith "template:" = true)
    (tree other : FileTree) (text : String) :
    (ofText source).Renders other text ↔ (ofText source).Renders tree text := by
  rw [ofText, templateMark, if_pos marked]
  rfl

/-- The exit code of a run on a file tree, and the tree after it. -/
def outcome (tree : FileTree) (filter : Option String) (invocation? : Option Invocation) :
    UInt8 × FileTree :=
  let (report, after) := (run FileTree.files filter invocation?).run tree
  (report.code, after)

section Render

variable {tree after : FileTree} {filter : Option String} {source name directory : String}

/-- A run whose source cannot be loaded fails and leaves the tree alone. -/
theorem outcome_of_unloaded {fault : LoadFault}
    (refused : (Origin.ofText source).configuration tree = .error fault) :
    outcome tree filter (some (.render source name directory)) = (1, tree) := by
  simp only [outcome, run, renderSource, FileTree.run_bind, Origin.load_files, refused]
  rfl

/-- A run whose configuration cannot be rendered fails and leaves the tree alone. -/
theorem outcome_of_unrendered {config : Config} {fault : RenderFault}
    (loaded : (Origin.ofText source).configuration tree = .ok config)
    (refused : config.render = .error fault) :
    outcome tree filter (some (.render source name directory)) = (1, tree) := by
  simp only [outcome, run, renderSource, FileTree.run_bind, Origin.load_files, loaded, refused]
  rfl

/-- A run that renders its source succeeds as the export of the text does, and leaves the tree that
the export left. -/
theorem outcome_of_rendered {text : String} {result : Except Export.Fault String}
    (rendered : (Origin.ofText source).Renders tree text)
    (exported : (Export.write FileTree.files text name directory).run tree = (result, after)) :
    outcome tree filter (some (.render source name directory)) =
      (if result.isOk then 0 else 1, after) := by
  obtain ⟨config, loaded, shown⟩ := rendered
  simp only [outcome, run, renderSource, FileTree.run_bind, Origin.load_files, loaded, shown,
    exported]
  cases result <;> rfl

/-- What a run that renders a source may end with: nothing is touched before the text is there, and
zero says that the text is in the file. -/
structure AllOrNothing (tree : FileTree) (source name directory : String) (code : UInt8)
    (after : FileTree) : Prop where
  /-- A source that cannot be loaded leaves everything as it was. -/
  unloaded : ∀ fault, (Origin.ofText source).configuration tree = .error fault →
    code = 1 ∧ after = tree
  /-- So does a configuration that cannot be rendered. -/
  unrendered : ∀ config fault, (Origin.ofText source).configuration tree = .ok config →
    config.render = .error fault → code = 1 ∧ after = tree
  /-- The run succeeds exactly when every step does. -/
  succeeds : code = 0 ↔ ∃ text path, (Origin.ofText source).Renders tree text ∧
    ((Export.write FileTree.files text name directory).run tree).1 = .ok path
  /-- A run that does not succeed fails. -/
  fails : code ≠ 0 → code = 1
  /-- After success the file holds the text. -/
  written : code = 0 → ∃ text, (Origin.ofText source).Renders tree text ∧
    after.readText (Export.path directory name) = .ok text
  /-- The text of a template is the same on every tree. -/
  template : source.startsWith "template:" = true → ∀ other text,
    (Origin.ofText source).Renders other text ↔ (Origin.ofText source).Renders tree text

/-- A run without a text may only fail and leave the tree alone. -/
theorem AllOrNothing.of_refused (refused : ∀ text, ¬(Origin.ofText source).Renders tree text) :
    AllOrNothing tree source name directory 1 tree where
  unloaded _ _ := ⟨rfl, rfl⟩
  unrendered _ _ _ _ := ⟨rfl, rfl⟩
  succeeds := iff_of_false (by decide) fun ⟨text, _, shown, _⟩ => refused text shown
  fails _ := rfl
  written impossible := absurd impossible (by decide)
  template marked other := Origin.renders_template marked tree other

/-- The exit code of an export is zero exactly when it succeeds. -/
theorem code_eq_zero {result : Except Export.Fault String} :
    (if result.isOk then 0 else 1 : UInt8) = 0 ↔ ∃ path, result = .ok path := by
  cases result with
  | ok path => exact iff_of_true rfl ⟨path, rfl⟩
  | error => exact iff_of_false (by simp [Except.isOk, Except.toBool]) (by simp)

/-- A run with a text may end as the export of the text does. -/
theorem AllOrNothing.of_rendered {text : String} {result : Except Export.Fault String}
    (rendered : (Origin.ofText source).Renders tree text)
    (exported : (Export.write FileTree.files text name directory).run tree = (result, after)) :
    AllOrNothing tree source name directory (if result.isOk then 0 else 1) after where
  unloaded fault refused := by
    obtain ⟨config, loaded, -⟩ := rendered
    nomatch loaded.symm.trans refused
  unrendered config fault loaded refused := by
    obtain ⟨_, reloaded, shown⟩ := rendered
    obtain rfl := Except.ok.inj (loaded.symm.trans reloaded)
    nomatch shown.symm.trans refused
  succeeds := by
    rw [code_eq_zero]
    constructor
    · rintro ⟨path, rfl⟩
      exact ⟨text, path, rendered, congrArg Prod.fst exported⟩
    · rintro ⟨also, path, shown, succeeded⟩
      obtain rfl := shown.unique rendered
      exact ⟨path, (congrArg Prod.fst exported).symm.trans succeeded⟩
  fails nonzero := by
    cases result with
    | ok => exact absurd rfl nonzero
    | error => rfl
  written zero := by
    obtain ⟨path, rfl⟩ := code_eq_zero.mp zero
    exact ⟨text, rendered, Export.readText_of_write exported⟩
  template marked other := Origin.renders_template marked tree other

end Render

/-- What a run may end with, by what it was asked for: telling something leaves the tree alone. -/
def Invocation.Honoured (tree : FileTree) (code : UInt8) (after : FileTree) : Invocation → Prop
  | .help | .version | .listTemplates => code = 0 ∧ after = tree
  | .render source name directory => AllOrNothing tree source name directory code after

/-- A run with a well-formed command line ends as it may, whatever the tree and the filter of the
journal: one that is asked to render is all or nothing up to the write, and one that is asked to
tell something, such as the names of the templates, succeeds and leaves the tree alone. -/
theorem honoured_of_outcome {arguments : List String} {invocation : Invocation}
    (asked : Invocation.ofArguments? arguments = some invocation) {tree after : FileTree}
    {filter : Option String} {code : UInt8}
    (ran : outcome tree filter (Invocation.ofArguments? arguments) = (code, after)) :
    invocation.Honoured tree code after := by
  rw [asked] at ran
  cases invocation with
  | help | version | listTemplates =>
    obtain ⟨rfl, rfl⟩ := Prod.mk.inj ran
    exact ⟨rfl, rfl⟩
  | render source name directory =>
    change AllOrNothing tree source name directory code after
    -- The cases are the steps of the run in their order; the export alone may change the tree.
    cases loaded : (Origin.ofText source).configuration tree with
    | error fault =>
      obtain ⟨rfl, rfl⟩ := Prod.mk.inj ((outcome_of_unloaded loaded).symm.trans ran)
      refine .of_refused fun text ⟨_, reloaded, _⟩ => ?_
      nomatch loaded.symm.trans reloaded
    | ok config =>
      cases rendered : config.render with
      | error fault =>
        obtain ⟨rfl, rfl⟩ := Prod.mk.inj ((outcome_of_unrendered loaded rendered).symm.trans ran)
        refine .of_refused fun text ⟨_, reloaded, shown⟩ => ?_
        obtain rfl := Except.ok.inj (loaded.symm.trans reloaded)
        nomatch rendered.symm.trans shown
      | ok text =>
        have shown : (Origin.ofText source).Renders tree text := ⟨config, loaded, rendered⟩
        rcases exported : (Export.write FileTree.files text name directory).run tree
          with ⟨result, last⟩
        obtain ⟨rfl, rfl⟩ := Prod.mk.inj ((outcome_of_rendered shown exported).symm.trans ran)
        exact .of_rendered shown exported

/-- A source that is exported onto itself is replaced by its text. -/
theorem honoured_of_outcome_in_place : ∃ (tree after : FileTree) (text : String),
    Invocation.ofArguments? ["R1.txt", "R1", "-o", "."] = some (.render "R1.txt" "R1" ".") ∧
      tree.readText "R1.txt" = .ok "hostname: R1\n" ∧
      outcome tree none (Invocation.ofArguments? ["R1.txt", "R1", "-o", "."]) = (0, after) ∧
      AllOrNothing tree "R1.txt" "R1" "." 0 after ∧
      (Origin.ofText "R1.txt").Renders tree text ∧ after.readText "./R1.txt" = .ok text := by
  have asked : Invocation.ofArguments? ["R1.txt", "R1", "-o", "."] =
      some (.render "R1.txt" "R1" ".") := by cbv
  have plain : FilePath.components "R1.txt" = ["R1.txt"] := by cbv
  have dotted : FilePath.components "./R1.txt" = [".", "R1.txt"] := by cbv
  have single : FilePath.components "." = ["."] := by cbv
  have current : ∀ entries, FileTree.target ⟨[], entries⟩ "." = .ok ⟨[], ".", false⟩ :=
    fun entries => FileTree.target_eq_ok.mpr
      ⟨by decide, by decide, by decide, by rw [single]; rfl, by rw [single]; rfl, by decide⟩
  have source : ∀ entries, FileTree.target ⟨[], entries⟩ "R1.txt" = .ok ⟨[], "R1.txt", false⟩ :=
    fun entries => FileTree.target_eq_ok.mpr
      ⟨by decide, by decide, by decide, by rw [plain]; rfl, by rw [plain]; rfl, by decide⟩
  have exported : ∀ entries,
      FileTree.target ⟨[], entries⟩ "./R1.txt" = .ok ⟨[], "R1.txt", false⟩ :=
    fun entries => FileTree.target_eq_ok.mpr
      ⟨by decide, by decide, by decide, by rw [dotted]; rfl, by rw [dotted]; rfl, by decide⟩
  have placed : FileTree.place [] "R1.txt" = .ok ["R1.txt"] := by cbv
  let empty : FileTree := ⟨[], []⟩
  let tree : FileTree := empty.insert ["R1.txt"] (.file "hostname: R1\n".toUTF8)
  have vacant : empty.find? ["R1.txt"] ≠ some .directory := by simp [empty, FileTree.find?]
  have read : tree.readText "R1.txt" = .ok "hostname: R1\n" :=
    FileTree.readText_writeFile (FileTree.writeFile_eq_ok.mpr
      ⟨_, _, source _, rfl, placed, vacant, rfl⟩)
  have parsed : Config.ofYaml "hostname: R1\n" = .ok { hostname := some "R1" } := by cbv
  have loaded : (Origin.ofText "R1.txt").configuration tree = .ok { hostname := some "R1" } := by
    have origin : Origin.ofText "R1.txt" = .file "R1.txt" := by cbv
    simp only [origin, Origin.configuration, read, parsed]
  obtain ⟨text, rendered⟩ : ∃ text, ({ hostname := some "R1" } : Config).render = .ok text :=
    ⟨_, rfl⟩
  have shown : (Origin.ofText "R1.txt").Renders tree text := ⟨_, loaded, rendered⟩
  have occupied : tree.find? ["R1.txt"] ≠ some .directory := by
    simp [tree, FileTree.find?_insert_self]
  have standing : tree.isDirectory "." = true :=
    FileTree.isDirectory_eq_true.mpr ⟨_, _, current _, rfl⟩
  have named : Export.path "." "R1" = "./R1.txt" := by decide
  have written : (Export.write FileTree.files text "R1" ".").run tree =
      (.ok "./R1.txt", tree.insert ["R1.txt"] (.file text.toUTF8)) :=
    Export.write_eq_ok.mpr ⟨named.symm, tree, FileTree.makeDirectories_of_isDirectory standing,
      named ▸ FileTree.writeFile_eq_ok.mpr ⟨_, _, exported _, rfl, placed, occupied, rfl⟩⟩
  have ran := (congrArg (outcome tree none) asked).trans (outcome_of_rendered shown written)
  exact ⟨tree, _, text, asked, read, ran, honoured_of_outcome asked ran, shown,
    named ▸ Export.readText_of_write written⟩

end CommandLine

end RunningConfig
