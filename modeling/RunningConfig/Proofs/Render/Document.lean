import Mathlib.Tactic.FinCases
import RunningConfig.Proofs.Render.Outcome
import RunningConfig.Render.Config
/-!
# Documents as sequences of sections

The lines of a configuration are those of its sections, one after the other. `Section.document`
says this for any run of sections, so that a document can be cut between two of them.
-/

namespace RunningConfig

namespace Section

/-- The lines of some sections, one after the other. -/
def document (parts : List Section) (config : Config) : Rendered (List String) := do
  let blocks ← parts.mapM (·.lines config)
  return blocks.flatten

/-- The lines of a section are its content between its separators. -/
theorem lines_eq_ok {part : Section} {config : Config} {lines : List String} :
    part.lines config = .ok lines ↔ ∃ content, part.content config = .ok content ∧
      List.replicate part.leading Default.placeholder ++ content
        ++ List.replicate part.trailing Default.placeholder = lines :=
  Rendered.bind_pure_eq_ok

/-- A document of no section has no line. -/
theorem document_nil_eq_ok {config : Config} {lines : List String} :
    document [] config = .ok lines ↔ lines = [] := by
  rw [document, Rendered.bind_pure_eq_ok]
  simp only [Rendered.mapM_nil_eq_ok, exists_eq_left, List.flatten_nil]
  exact eq_comm

/-- A document begins with its first section. -/
theorem document_cons_eq_ok {part : Section} {parts : List Section} {config : Config}
    {lines : List String} :
    document (part :: parts) config = .ok lines ↔
      ∃ block rest, part.lines config = .ok block ∧ document parts config = .ok rest ∧
        lines = block ++ rest := by
  simp only [document, Rendered.bind_pure_eq_ok, Rendered.mapM_cons_eq_ok]
  constructor
  · rintro ⟨_, ⟨block, blocks, first, later, rfl⟩, rfl⟩
    exact ⟨block, blocks.flatten, first, ⟨blocks, later, rfl⟩, rfl⟩
  · rintro ⟨block, _, first, ⟨blocks, later, rfl⟩, rfl⟩
    exact ⟨block :: blocks, ⟨block, blocks, first, later, rfl⟩, rfl⟩

/-- A document can be cut between any two of its sections. -/
theorem document_append_eq_ok {front back : List Section} {config : Config}
    {lines : List String} :
    document (front ++ back) config = .ok lines ↔
      ∃ before after, document front config = .ok before ∧ document back config = .ok after ∧
        lines = before ++ after := by
  induction front generalizing lines with
  | nil => simp [document_nil_eq_ok]
  | cons part front ih =>
    simp only [List.cons_append, document_cons_eq_ok, ih]
    constructor
    · rintro ⟨block, _, first, ⟨before, after, front, back, rfl⟩, rfl⟩
      exact ⟨block ++ before, after, ⟨block, before, first, front, rfl⟩, back, by simp⟩
    · rintro ⟨_, after, ⟨block, before, first, front, rfl⟩, back, rfl⟩
      exact ⟨block, before ++ after, first, ⟨before, after, front, back, rfl⟩, by simp⟩

/-- Every section of a document has its lines. -/
theorem exists_lines_of_document {parts : List Section} {config : Config} {lines : List String}
    (rendered : document parts config = .ok lines) :
    ∀ part ∈ parts, ∃ block, part.lines config = .ok block := by
  induction parts generalizing lines with
  | nil => simp
  | cons part parts ih =>
    obtain ⟨block, rest, first, later, -⟩ := document_cons_eq_ok.mp rendered
    exact List.forall_mem_cons.mpr ⟨⟨block, first⟩, ih later⟩

/-- Documents whose sections have the same contents are the same. -/
theorem document_congr {parts : List Section} {left right : Config}
    (same : ∀ part ∈ parts, part.content left = part.content right) :
    document parts left = document parts right := by
  have blocks : parts.mapM (·.lines left) = parts.mapM (·.lines right) :=
    Rendered.mapM_congr fun part member => by simp only [lines, same part member]
  simp only [document, blocks]

/-- The fault of a document is that of its first faulty section. -/
theorem fault?_document (parts : List Section) (config : Config) :
    (document parts config).fault? = parts.findSome? fun part => (part.content config).fault? := by
  simp only [document, Rendered.fault?_bind_pure, Rendered.fault?_mapM, lines]

/-- A property of every section of the layout, section by section. -/
structure Every (holds : Section → Prop) : Prop where
  /-- The version tag. -/
  version : holds ⟨"version", 1, Render.versionLines, 0⟩
  /-- The services. -/
  services : holds ⟨"services", 0, Render.serviceLines, 1⟩
  /-- The name of the router. -/
  hostname : holds ⟨"hostname", 0, Render.hostnameLines, 3⟩
  /-- The secret and the password of privileged mode. -/
  enable : holds ⟨"enable", 0, Render.enableLines, 5⟩
  /-- The new model of authentication and its method lists. -/
  aaa : holds ⟨"aaa", 0, Render.aaaLines, 7⟩
  /-- Express forwarding. -/
  forwarding : holds ⟨"forwarding", 0, Render.forwardingLines, 3⟩
  /-- The local users. -/
  users : holds ⟨"users", 0, fun config => Render.users config.users, 8⟩
  /-- The domain name. -/
  domain : holds ⟨"domain", 0, Render.domainLines, 2⟩
  /-- The spanning tree protocol. -/
  spanningTree : holds ⟨"spanning-tree", 0, Render.spanningTreeLines, 6⟩
  /-- The interfaces. -/
  interfaces : holds ⟨"interfaces", 0, fun config => Render.interfaces config.interfaces, 0⟩
  /-- The OSPF process. -/
  ospf : holds ⟨"ospf", 0, Render.ospfLines, 1⟩
  /-- Classless routing. -/
  classless : holds ⟨"classless", 0, Render.classlessLines, 0⟩
  /-- The static routes. -/
  routes : holds ⟨"routes", 0, fun config => Render.staticRoutes config.routes, 1⟩
  /-- The flow export. -/
  flowExport : holds ⟨"flow-export", 0, Render.flowExportLines, 3⟩
  /-- The message of the day. -/
  banner : holds ⟨"banner", 0, Render.bannerLines, 5⟩
  /-- The console. -/
  lineCon : holds ⟨"line-con", 0, fun config => Render.lineClass .console config.lineCon, 1⟩
  /-- The auxiliary port. -/
  lineAux : holds ⟨"line-aux", 0, fun config => Render.lineClass .auxiliary config.lineAux, 1⟩
  /-- The virtual terminals. -/
  lineVty : holds
    ⟨"line-vty", 0, fun config => Render.lineClass .virtualTerminal config.lineVty, 1⟩
  /-- The end of the document. -/
  terminator : holds ⟨"end", 2, fun _ => .ok [Default.terminator], 0⟩

/-- What holds of every section of the layout holds of each by its name, and conversely. -/
theorem forall_mem_layout {holds : Section → Prop} :
    (∀ part ∈ layout, holds part) ↔ Every holds := by
  constructor
  · intro each
    constructor <;> exact each _ (by simp [layout])
  · intro each part member
    fin_cases member
    exacts [each.version, each.services, each.hostname, each.enable, each.aaa, each.forwarding,
      each.users, each.domain, each.spanningTree, each.interfaces, each.ospf, each.classless,
      each.routes, each.flowExport, each.banner, each.lineCon, each.lineAux, each.lineVty,
      each.terminator]

end Section

namespace Config

/-- The lines of a configuration are the document of the whole layout. -/
theorem renderLines_eq_document (config : Config) :
    config.renderLines = Section.document Section.layout config := rfl

/-- The text of a configuration is that of its lines. -/
theorem render_eq_ok {config : Config} {text : String} :
    config.render = .ok text ↔ ∃ lines, config.renderLines = .ok lines ∧ textOfLines lines = text :=
  Rendered.bind_pure_eq_ok

/-- A configuration fails to render with the fault of its lines. -/
theorem fault?_render (config : Config) : config.render.fault? = config.renderLines.fault? :=
  Rendered.fault?_bind_pure _ _

/-- Configurations whose sections have the same contents render alike, in text or in fault. -/
theorem render_congr {left right : Config}
    (same : ∀ part ∈ Section.layout, part.content left = part.content right) :
    left.render = right.render := by
  simp only [render, renderLines_eq_document, Section.document_congr same]

end Config

end RunningConfig
