import Mathlib.Algebra.GroupWithZero.Nat
import RunningConfig.Proofs.Render.Items
/-!
# Where the sections stand

How many lines a section has depends on how many things it shows, never on what they say
(`Config.heights`). With the separators around it this gives the index at which each section begins,
whatever the others hold, and the length of the whole document.
-/

namespace RunningConfig

/-- The number of lines of an interface and of the separator after it. -/
def Interface.height (port : Interface) : Nat :=
  5 + port.description.isSome.toNat + port.mtu.isSome.toNat + port.clockRate.isSome.toNat
    + (decide (port.shutdown = some true)).toNat

/-- The number of lines of an OSPF process. -/
def Ospf.height (process : Ospf) : Nat :=
  2 + (process.passiveInterfaces.getD []).length + process.networks.length

namespace Config

/-- The number of lines of the users. -/
def usersHeight (config : Config) : Nat := max 1 config.users.length

/-- The number of lines of the interfaces, a lone placeholder if there is none. -/
def interfacesHeight (config : Config) : Nat :=
  if config.interfaces = [] then 1 else (config.interfaces.map Interface.height).sum

/-- The number of lines of the OSPF process, a placeholder if there is none. -/
def ospfHeight (config : Config) : Nat := (config.routerOspf.map Ospf.height).getD 1

/-- The number of lines of the static routes. -/
def routesHeight (config : Config) : Nat := max 1 config.routes.length

/-- The number of lines of a class, a header and a body if it is configured. -/
def lineHeight (config : Config) (kind : LineClass) : Nat :=
  if (config.line? kind).isSome then 6 else 1

/-- The number of lines each section shows, in the order of the layout. -/
def heights (config : Config) : List Nat :=
  [1, 3, 1, 2, 5, 2, config.usersHeight, 1, 1, config.interfacesHeight, config.ospfHeight, 1,
    config.routesHeight, 1, 1, config.lineHeight .console, config.lineHeight .auxiliary,
    config.lineHeight .virtualTerminal, 1]

end Config

namespace Rendered

/-- What each result shows is what its item does. -/
theorem map_eq_map_of_mapM {α β γ : Type} {act : α → Rendered β} (view : β → γ) (look : α → γ)
    {items : List α} {results : List β}
    (each : ∀ item result, act item = .ok result → view result = look item)
    (traversed : items.mapM act = .ok results) : results.map view = items.map look := by
  rw [← List.filterMap_eq_map]
  exact filterMap_eq_of_mapM (fun item result shown => congrArg some (each item result shown))
    traversed

/-- A traversal has as many results as items. -/
theorem length_of_mapM {α β : Type} {act : α → Rendered β} {items : List α} {results : List β}
    (traversed : items.mapM act = .ok results) : results.length = items.length :=
  (mapM_eq_ok_iff.mp traversed).length_eq.symm

end Rendered

namespace Render

/-- A list has a line for each item, or one if there is none. -/
theorem length_listed {α : Type} {act : α → Rendered String} {items : List α}
    {lines : List String} (shown : listed act items = .ok lines) :
    lines.length = max 1 items.length := by
  cases items with
  | nil =>
    obtain rfl := Except.ok.inj shown
    rfl
  | cons item items =>
    have count := Rendered.length_of_mapM shown
    rw [List.length_cons] at count ⊢
    omega

/-- An interface has a header, an address, a duplex mode and a speed, and a line for each other
setting that is shown. -/
theorem length_interface {port : Interface} {lines : List String}
    (shown : interface port = .ok lines) : lines.length + 1 = port.height := by
  obtain ⟨address, -, rfl⟩ := interface_eq_ok.mp shown
  have optional {α : Type} (setting : Option α) (line : α → String) :
      (setting.map line).toList.length = setting.isSome.toNat := by
    cases setting <;> rfl
  have shutdown : (if port.shutdown = some true then [" shutdown"] else []).length =
      (decide (port.shutdown = some true)).toNat := by
    by_cases down : port.shutdown = some true
    · rw [if_pos down, decide_eq_true down]
      rfl
    · rw [if_neg down, decide_eq_false down]
      rfl
  simp only [List.length_cons, List.length_append, optional, shutdown]
  unfold Interface.height
  omega

/-- The interfaces have the lines of each, or one if there is none. -/
theorem length_interfaces {config : Config} {lines : List String}
    (shown : interfaces config.interfaces = .ok lines) :
    lines.length = config.interfacesHeight := by
  unfold Config.interfacesHeight
  rcases interfaces_eq_ok.mp shown with ⟨none, rfl⟩ | ⟨some, blocks, traversed, rfl⟩
  · rw [if_pos none]
    rfl
  · have each := Rendered.map_eq_map_of_mapM
      (fun block => (block ++ [Default.placeholder]).length) Interface.height
      (fun port block found => by
        rw [List.length_append, List.length_singleton, length_interface found]) traversed
    rw [if_neg some, List.length_flatMap, each]

/-- The OSPF process has a header, a line on logging and one for each interface and network. -/
theorem length_ospfLines {config : Config} {lines : List String}
    (shown : ospfLines config = .ok lines) : lines.length = config.ospfHeight := by
  rw [ospfLines_eq_ofOption] at shown
  unfold Config.ospfHeight
  cases given : config.routerOspf with
  | none =>
    rw [given] at shown
    obtain rfl := Except.ok.inj shown
    rfl
  | some process =>
    rw [given] at shown
    obtain ⟨networks, traversed, rfl⟩ := ospf_eq_ok.mp shown
    have count := Rendered.length_of_mapM traversed
    simp only [List.length_cons, List.length_append, List.length_map, count, Option.map_some,
      Option.getD_some]
    unfold Ospf.height
    omega

end Render

namespace Section

variable {config : Config} {parts : List (Section × Nat)} {lines : List String}

/-- Each of some sections shows as many lines as it is said to. -/
def Measured (config : Config) (parts : List (Section × Nat)) : Prop :=
  ∀ entry ∈ parts, ∀ content, entry.1.content config = .ok content → content.length = entry.2

/-- The number of lines of some sections with their separators. -/
def extent (parts : List (Section × Nat)) : Nat :=
  (parts.map fun (part, height) => part.leading + height + part.trailing).sum

/-- The lines of a section, its separators among them. -/
def block (part : Section) (content : List String) : List String :=
  List.replicate part.leading Default.placeholder ++ content
    ++ List.replicate part.trailing Default.placeholder

/-- A block has the lines of its content and its separators. -/
theorem length_block (part : Section) (content : List String) :
    (part.block content).length = part.leading + content.length + part.trailing := by
  rw [block, List.length_append, List.length_append, List.length_replicate, List.length_replicate]

/-- A document is as long as its sections are with their separators. -/
theorem length_document (measured : Measured config parts)
    (rendered : document (parts.map Prod.fst) config = .ok lines) :
    lines.length = extent parts := by
  induction parts generalizing lines with
  | nil =>
    obtain rfl := document_nil_eq_ok.mp rendered
    rfl
  | cons entry parts ih =>
    obtain ⟨first, rest, shown, later, rfl⟩ := document_cons_eq_ok.mp rendered
    obtain ⟨content, found, rfl⟩ := lines_eq_ok.mp shown
    obtain ⟨own, others⟩ := List.forall_mem_cons.mp measured
    have height : content.length = entry.2 := own content found
    have remaining : rest.length = extent parts := ih others later
    calc
      (entry.1.block content ++ rest).length = (entry.1.block content).length + rest.length :=
        List.length_append
      _ = entry.1.leading + entry.2 + entry.1.trailing + extent parts := by
        rw [length_block, height, remaining]
      _ = extent (entry :: parts) := (List.sum_cons).symm

/-- A section of a document begins where the sections before it end. -/
theorem exists_block_of_document {front back : List (Section × Nat)} {part : Section} {height : Nat}
    (measured : Measured config (front ++ (part, height) :: back))
    (rendered : document ((front ++ (part, height) :: back).map Prod.fst) config = .ok lines) :
    ∃ content before after, part.content config = .ok content ∧ content.length = height ∧
      before.length = extent front ∧ lines = before ++ part.block content ++ after := by
  obtain ⟨earlier, own⟩ := List.forall_mem_append.mp measured
  rw [List.map_append, List.map_cons] at rendered
  obtain ⟨before, _, first, rest, rfl⟩ := document_append_eq_ok.mp rendered
  obtain ⟨_, after, shown, -, rfl⟩ := document_cons_eq_ok.mp rest
  obtain ⟨content, found, rfl⟩ := lines_eq_ok.mp shown
  have length : content.length = height := own _ List.mem_cons_self content found
  exact ⟨content, before, after, found, length, length_document earlier first,
    (List.append_assoc _ _ _).symm⟩

end Section

namespace Config

open Section (layout extent Measured)

/-- The sections of the layout, each with the number of lines it shows. -/
def measuredLayout (config : Config) : List (Section × Nat) := layout.zip config.heights

/-- Every section of the layout shows as many lines as it is said to. -/
theorem measured_layout (config : Config) : Measured config config.measuredLayout := by
  have fixed (shown : List String) (content : List String)
      (found : (.ok shown : Rendered (List String)) = .ok content) :
      content.length = shown.length := by
    rw [Except.ok.inj found]
  have enable (content : List String) (found : Render.enableLines config = .ok content) :
      content.length = 2 := by
    obtain ⟨secret, -, rfl⟩ := Render.enableLines_eq_ok.mp found
    rfl
  unfold Measured measuredLayout layout heights
  simp only [List.zip_cons_cons, List.zip_nil_right, List.forall_mem_cons, List.not_mem_nil,
    false_implies, implies_true, and_true]
  exact ⟨fixed _, fixed _, fixed _, enable, fixed _, fixed _, fun _ => Render.length_listed,
    fixed _, fixed _, fun _ => Render.length_interfaces, fun _ => Render.length_ospfLines, fixed _,
    fun _ => Render.length_listed, fixed _, fixed _, fun _ => Render.length_lineClass,
    fun _ => Render.length_lineClass, fun _ => Render.length_lineClass, fixed _⟩

/-- The index at which a section of the layout begins, by what the sections before it show. -/
def start (config : Config) (index : Nat) : Nat := extent (config.measuredLayout.take index)

/-- The layout as a whole has 71 lines besides those that depend on the configuration. -/
theorem extent_layout (config : Config) :
    extent config.measuredLayout = 71 + config.usersHeight + config.interfacesHeight
      + config.ospfHeight + config.routesHeight + config.lineHeight .console
      + config.lineHeight .auxiliary + config.lineHeight .virtualTerminal := by
  unfold extent measuredLayout layout heights
  simp only [List.zip_cons_cons, List.zip_nil_right, List.map_cons, List.map_nil, List.sum_cons,
    List.sum_nil]
  omega

/-- The layout is cut at any of its sections. -/
theorem exists_measured_cut (config : Config) {index : Nat} {part : Section}
    (listed : layout[index]? = some part) :
    ∃ height, config.heights[index]? = some height ∧
      config.measuredLayout = config.measuredLayout.take index
        ++ (part, height) :: config.measuredLayout.drop (index + 1) := by
  have inside : index < layout.length := (List.getElem?_eq_some_iff.mp listed).1
  have sizes : config.heights.length = layout.length := rfl
  have known : config.heights[index]? = some config.heights[index] :=
    List.getElem?_eq_getElem (sizes ▸ inside)
  have entry : config.measuredLayout[index]? = some (part, config.heights[index]) :=
    List.getElem?_zip_eq_some.mpr ⟨listed, known⟩
  obtain ⟨within, here⟩ := List.getElem?_eq_some_iff.mp entry
  have tail := List.drop_eq_getElem_cons within
  rw [here] at tail
  exact ⟨_, known, by rw [← tail, List.take_append_drop]⟩

/-- A document begins with a separator and ends with the terminator. -/
theorem ends_of_renderLines {config : Config} {lines : List String}
    (rendered : config.renderLines = .ok lines) :
    lines.head? = some "!" ∧ lines.getLast? = some "end" := by
  have ends : layout = layout.take 18 ++ [⟨"end", 2, fun _ => .ok [Default.terminator], 0⟩] := rfl
  have begins : layout = ⟨"version", 1, Render.versionLines, 0⟩ :: layout.drop 1 := rfl
  rw [renderLines_eq_document] at rendered
  constructor
  · rw [begins] at rendered
    obtain ⟨_, rest, shown, -, rfl⟩ := Section.document_cons_eq_ok.mp rendered
    obtain ⟨content, -, rfl⟩ := Section.lines_eq_ok.mp shown
    rfl
  · rw [ends] at rendered
    obtain ⟨before, after, -, last, rfl⟩ := Section.document_append_eq_ok.mp rendered
    obtain ⟨_, rest, shown, nothing, rfl⟩ := Section.document_cons_eq_ok.mp last
    obtain ⟨content, found, rfl⟩ := Section.lines_eq_ok.mp shown
    obtain rfl := Section.document_nil_eq_ok.mp nothing
    obtain rfl := Except.ok.inj found
    rw [List.getLast?_append_of_ne_nil _ (by simp)]
    rfl

/-- The shape of a document: how long it is and where each section stands. -/
structure Placed (config : Config) (lines : List String) : Prop where
  /-- The separators and the sections of one size have 71 lines. -/
  count : lines.length = 71 + config.usersHeight + config.interfacesHeight + config.ospfHeight
    + config.routesHeight + config.lineHeight .console + config.lineHeight .auxiliary
    + config.lineHeight .virtualTerminal
  /-- Each section shows its lines, between its separators, from its index on. -/
  sections : ∀ index part, layout[index]? = some part → ∃ content before after,
    part.content config = .ok content ∧ config.heights[index]? = some content.length ∧
      before.length = config.start index ∧ lines = before ++ part.block content ++ after
  /-- The first line is a separator. -/
  first : lines.head? = some "!"
  /-- The last line is the terminator. -/
  last : lines.getLast? = some "end"

/-- A configuration that renders has its sections where the numbers of their lines put them. -/
theorem placed_of_renderLines {config : Config} {lines : List String}
    (rendered : config.renderLines = .ok lines) : Placed config lines := by
  have measured := measured_layout config
  obtain ⟨first, last⟩ := ends_of_renderLines rendered
  have names : config.measuredLayout.map Prod.fst = layout := List.map_fst_zip (Nat.le_refl 19)
  rw [renderLines_eq_document, ← names] at rendered
  have count := Section.length_document measured rendered
  refine ⟨count.trans (extent_layout config), ?_, first, last⟩
  intro index part listed
  obtain ⟨height, known, cut⟩ := exists_measured_cut config listed
  rw [cut] at measured rendered
  obtain ⟨content, before, after, shown, length, begins, whole⟩ :=
    Section.exists_block_of_document measured rendered
  exact ⟨content, before, after, shown, known.trans (congrArg some length.symm), begins, whole⟩

/-- Two users, two interfaces, an OSPF process and a class that is configured move the static routes
to their place. -/
theorem placed_of_renderLines_branch : ∃ (config : Config) (lines : List String),
    config.renderLines = .ok lines ∧ Placed config lines ∧ lines.length = 98 ∧
      config.start 12 = 72 ∧ config.heights[12]? = some 1 := by
  let account : User := { username := .cisco, password := { plaintext := "cisco" } }
  let port : Port := { family := .serial, index := "0/0" }
  let config : Config := {
    users := [account, { account with privilege := some 1 }]
    interfaces := [{ port, description := some "uplink" }, { port, shutdown := some true }]
    routerOspf := some { processId := 1, passiveInterfaces := some [port], networks := [
      { address := .ofOctets 10 0 0 0, prefixLength := 24, area := 0 }] }
    ipRoute := some [{
      destination := .ofOctets 0 0 0 0
      prefixLength := 0
      forwardingRouter := .ofOctets 10 0 0 2 }]
    lineVty := some { execTimeout := { seconds := 0 } } }
  obtain ⟨lines, rendered⟩ : ∃ lines, config.renderLines = .ok lines := ⟨_, rfl⟩
  have placed := placed_of_renderLines rendered
  exact ⟨config, lines, rendered, placed, placed.count, by decide, rfl⟩

end Config

end RunningConfig
