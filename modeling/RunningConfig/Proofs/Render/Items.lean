import RunningConfig.Proofs.Config.Texts
import RunningConfig.Proofs.Recovery.Document
import RunningConfig.Proofs.Render.Heads
/-!
# The items of a configuration, found in its lines

Users, interfaces, passive ports, networks, routes, methods and classes of lines each have lines of
their own, and only they do. So a reader of the lines alone finds every one of them, in order, by
what such a line starts with.
-/

namespace RunningConfig

open Text

namespace Render

variable {start : String}

/-- Listed items are found by what the line of each starts with. -/
theorem mapM_of_listed {α : Type} {act : α → Rendered String} {items : List α}
    {content : List String} (separator : Default.placeholder.startsWith start = false)
    (each : ∀ item line, act item = .ok line → line.startsWith start = true)
    (shown : listed act items = .ok content) : items.mapM act = .ok (starting start content) := by
  cases items with
  | nil =>
    obtain rfl := Except.ok.inj shown
    rw [starting_eq_nil (List.forall_mem_singleton.mpr separator)]
    rfl
  | cons item items =>
    rw [starting_eq_self (Rendered.forall_mem_of_mapM each shown)]
    exact shown

/-- An optional directive is found when it is there. -/
theorem starting_orPlaceholder {α : Type} {text? : Option α} {shape : α → String}
    (separator : Default.placeholder.startsWith start = false)
    (each : ∀ item, (shape item).startsWith start = true) :
    starting start [orPlaceholder (text?.map shape)] = (text?.map shape).toList := by
  cases text? with
  | none => exact starting_eq_nil (List.forall_mem_singleton.mpr separator)
  | some item => exact starting_eq_self (List.forall_mem_singleton.mpr (each item))

/-- A line of a list is a separator only when it begins like one. -/
theorem ne_placeholder {heads : List Literal} {line : String} (headed : Headed heads line)
    (apart : heads.all (fun head => clashes (literal "!").letters head.letters) = true) :
    line ≠ Default.placeholder := by
  rintro rfl
  have begins := headed.startsWith_eq_false (literal "!") apart
  rw [String.startsWith_string_eq_false_iff] at begins
  exact begins (List.prefix_refl _)

/-- The lines of an interface are a block. -/
theorem isBlock_interface {port : Interface} {lines : List String}
    (shown : interface port = .ok lines) : IsBlock "interface " lines := by
  obtain ⟨settings, rfl, headed⟩ := exists_of_interface shown
  exact ⟨_, settings, rfl, startsWith_append _ _, fun line member =>
    ⟨(headed line member).startsWith_eq_false (literal "interface ") (by decide),
      ne_placeholder (headed line member) (by decide)⟩⟩

/-- The header of a class starts with its directive. -/
theorem startsWith_lineHeader (kind : LineClass) (line : Option Line) :
    (lineHeader kind line).startsWith "line " = true := by
  unfold lineHeader
  simp only [String.append_assoc]
  exact startsWith_append _ _

/-- The lines of a class are a block. -/
theorem isBlock_lineClass {kind : LineClass} {line : Option Line} {lines : List String}
    (shown : lineClass kind line = .ok lines) : IsBlock "line " lines := by
  obtain ⟨body, rfl, headed⟩ := exists_of_lineClass shown
  exact ⟨_, body, rfl, startsWith_lineHeader kind line, fun other member =>
    ⟨(headed other member).startsWith_eq_false (literal "line ") (by decide),
      ne_placeholder (headed other member) (by decide)⟩⟩

/-- A line of a class that starts like a login policy is the one the class is configured with. -/
theorem login_of_lineClass {kind : LineClass} {line? : Option Line} {lines : List String}
    {found : String} (shown : lineClass kind line? = .ok lines) (member : found ∈ lines)
    (begins : found.startsWith " login " = true) :
    ∃ line policy, line? = some line ∧ line.login = some policy ∧
      found = " " ++ login (some policy) := by
  have other (heads : List Literal) (headed : Headed heads found)
      (apart : heads.all (fun head => clashes (literal " login ").letters head.letters) = true) :
      False := Bool.eq_false_iff.mp (headed.startsWith_eq_false (literal " login ") apart) begins
  obtain ⟨body, bodied, rfl⟩ := lineClass_eq_ok.mp shown
  rcases List.mem_cons.mp member with rfl | inBody
  · exact (other [literal "line "] (headed_lineHeader kind line? (by decide)) (by decide)).elim
  · cases line? with
    | none =>
      obtain rfl := Except.ok.inj bodied
      contradiction
    | some line =>
      obtain ⟨front, back, rfl, others⟩ := exists_of_lineBody bodied
      rcases List.mem_append.mp inBody with before | inBody
      · exact (other otherHeads (others found (List.mem_append_left back before)) (by decide)).elim
      rcases List.mem_cons.mp inBody with rfl | after
      · cases policy : line.login with
        | none =>
          rw [policy] at other
          exact (other [literal " no login"] (.whole (by decide)) (by decide)).elim
        | some policy' => exact ⟨line, policy', rfl, policy, rfl⟩
      · exact (other otherHeads (others found (List.mem_append_right front after)) (by decide)).elim

/-- The lines of a class are its header and, when it is configured, five more. -/
theorem length_lineClass {kind : LineClass} {line : Option Line} {lines : List String}
    (shown : lineClass kind line = .ok lines) :
    lines.length = if line.isSome then 6 else 1 := by
  obtain ⟨body, bodied, rfl⟩ := lineClass_eq_ok.mp shown
  cases line with
  | none =>
    obtain rfl := Except.ok.inj bodied
    rfl
  | some line =>
    obtain ⟨password, -, rfl⟩ := lineBody_eq_ok.mp bodied
    rfl

end Render

namespace Config

open Section Render

variable {config : Config} {lines : List String}

/-- The users are found by their lines. -/
theorem mapM_user (rendered : config.renderLines = .ok lines) :
    config.users.mapM user = .ok (starting "username " lines) := by
  have marked : Marked (literal "username ") := by decide
  have only : layout.filter (mayStart (literal "username ")) =
    [⟨"users", 0, fun config => Render.users config.users, 8⟩] := rfl
  obtain ⟨content, shown, found⟩ : ∃ content, Render.users config.users = .ok content ∧
      starting "username " lines = starting "username " content :=
    starting_renderLines marked only rendered
  rw [found]
  refine mapM_of_listed marked.placeholder (fun account line shown => ?_) shown
  obtain ⟨password, -, rfl⟩ := Rendered.bind_pure_eq_ok.mp shown
  simp only [String.append_assoc]
  exact startsWith_append _ _

/-- The static routes are found by their lines. -/
theorem mapM_staticRoute (rendered : config.renderLines = .ok lines) :
    config.routes.mapM staticRoute = .ok (starting "ip route " lines) := by
  have marked : Marked (literal "ip route ") := by decide
  have only : layout.filter (mayStart (literal "ip route ")) =
    [⟨"routes", 0, fun config => Render.staticRoutes config.routes, 1⟩] := rfl
  obtain ⟨content, shown, found⟩ : ∃ content, Render.staticRoutes config.routes = .ok content ∧
      starting "ip route " lines = starting "ip route " content :=
    starting_renderLines marked only rendered
  rw [found]
  refine mapM_of_listed marked.placeholder (fun route line shown => ?_) shown
  obtain ⟨mask, -, rfl⟩ := Rendered.bind_pure_eq_ok.mp shown
  simp only [String.append_assoc]
  exact startsWith_append _ _

/-- The methods of authentication are found by their lines. -/
theorem starting_methods (rendered : config.renderLines = .ok lines) :
    starting "aaa authentication " lines =
      config.methods.map fun (keyword, method) => authentication keyword method := by
  have marked : Marked (literal "aaa authentication ") := by decide
  have only : layout.filter (mayStart (literal "aaa authentication ")) =
    [⟨"aaa", 0, Render.aaaLines, 7⟩] := rfl
  obtain ⟨content, shown, found⟩ : ∃ content, aaaLines config = .ok content ∧
      starting "aaa authentication " lines = starting "aaa authentication " content :=
    starting_renderLines marked only rendered
  obtain rfl := Except.ok.inj shown
  have method (keyword : String) (method : AuthenticationMethod) :
      (authentication keyword method).startsWith "aaa authentication " = true := by
    unfold authentication
    simp only [String.append_assoc]
    exact startsWith_append _ _
  have separator : Default.placeholder.startsWith "aaa authentication " = false :=
    marked.placeholder
  have block : starting "aaa authentication "
      [orPlaceholder (config.aaaNewModel.map fun _ => "aaa new-model"),
        Default.placeholder] = [] := by
    have headed : Headed [literal "!", literal "aaa new-model"]
        (orPlaceholder (config.aaaNewModel.map fun _ => "aaa new-model")) :=
      headed_orPlaceholder (by decide) fun _ => .whole (by decide)
    exact starting_eq_nil (List.forall_mem_cons.mpr
      ⟨headed.startsWith_eq_false (literal "aaa authentication ") (by decide),
        List.forall_mem_singleton.mpr separator⟩)
  have split (first second third fourth fifth : String) :
      [first, second, third, fourth, fifth] =
        [first, second] ++ ([third] ++ ([fourth] ++ [fifth])) := rfl
  rw [found, split, starting_append, starting_append, starting_append, block, List.nil_append,
    starting_orPlaceholder separator (method "login"),
    starting_orPlaceholder separator (method "enable"),
    starting_orPlaceholder separator (method "ppp")]
  unfold methods
  cases config.aaaNewModel with
  | none => rfl
  | some block =>
    obtain ⟨login, enable, ppp⟩ := block
    cases login <;> cases enable <;> cases ppp <;> rfl

/-- The lines of the OSPF section are those of its ports and its networks, after others. -/
theorem exists_of_ospfLines {content : List String} (shown : ospfLines config = .ok content) :
    ∃ front shownNetworks, config.networks.mapM ospfNetwork = .ok shownNetworks ∧
      content = front ++ config.passivePorts.map (fun port => " passive-interface " ++ port.name)
        ++ shownNetworks ∧
      ∀ line ∈ front, Headed [literal "!", literal "router ospf ",
        literal " log-adjacency-changes ", literal " no log-adjacency-changes "] line := by
  rw [ospfLines_eq_ofOption] at shown
  unfold networks passivePorts
  cases given : config.routerOspf with
  | none =>
    rw [given] at shown
    obtain rfl := Except.ok.inj shown
    exact ⟨["!"], [], rfl, rfl, List.forall_mem_singleton.mpr (.whole (by decide))⟩
  | some process =>
    rw [given] at shown
    obtain ⟨shownNetworks, traversed, rfl⟩ := ospf_eq_ok.mp shown
    refine ⟨[_, _], shownNetworks, traversed, rfl, List.forall_mem_cons.mpr
      ⟨(Headed.whole (by decide)).append _, List.forall_mem_singleton.mpr ?_⟩⟩
    split <;> exact .whole (by decide)

/-- The passive ports are found by their lines. -/
theorem starting_passivePorts (rendered : config.renderLines = .ok lines) :
    starting " passive-interface " lines =
      config.passivePorts.map fun port => " passive-interface " ++ port.name := by
  have only : layout.filter (mayStart (literal " passive-interface ")) =
    [⟨"ospf", 0, Render.ospfLines, 1⟩] := rfl
  obtain ⟨content, shown, found⟩ : ∃ content, ospfLines config = .ok content ∧
      starting " passive-interface " lines = starting " passive-interface " content :=
    starting_renderLines (by decide) only rendered
  obtain ⟨front, shownNetworks, traversed, rfl, headed⟩ := exists_of_ospfLines shown
  have before : starting " passive-interface " front = [] :=
    starting_eq_nil fun line member => (headed line member).startsWith_eq_false
      (literal " passive-interface ") (by decide)
  have each : ∀ line ∈ shownNetworks, Headed [literal " network "] line :=
    Rendered.forall_mem_of_mapM (fun _ _ => headed_ospfNetwork (by decide)) traversed
  have after : starting " passive-interface " shownNetworks = [] :=
    starting_eq_nil fun line member => (each line member).startsWith_eq_false
      (literal " passive-interface ") (by decide)
  rw [found, starting_append, starting_append, before, after, List.nil_append, List.append_nil]
  exact starting_eq_self (List.forall_mem_map.mpr fun port _ => startsWith_append _ _)

/-- The networks are found by their lines. -/
theorem mapM_ospfNetwork (rendered : config.renderLines = .ok lines) :
    config.networks.mapM ospfNetwork = .ok (starting " network " lines) := by
  have only : layout.filter (mayStart (literal " network ")) =
    [⟨"ospf", 0, Render.ospfLines, 1⟩] := rfl
  obtain ⟨content, shown, found⟩ : ∃ content, ospfLines config = .ok content ∧
      starting " network " lines = starting " network " content :=
    starting_renderLines (by decide) only rendered
  obtain ⟨front, shownNetworks, traversed, rfl, headed⟩ := exists_of_ospfLines shown
  have before : starting " network " front = [] :=
    starting_eq_nil fun line member => (headed line member).startsWith_eq_false
      (literal " network ") (by decide)
  have ports : starting " network "
      (config.passivePorts.map fun port => " passive-interface " ++ port.name) = [] :=
    starting_eq_nil (List.forall_mem_map.mpr fun port _ =>
      startsWith_append_of_clashes (literal " network ") (literal " passive-interface ")
        (by decide) _)
  rw [found, starting_append, starting_append, before, ports, List.nil_append, List.nil_append,
    traversed]
  refine congrArg Except.ok (starting_eq_self ?_).symm
  refine Rendered.forall_mem_of_mapM (fun network line shown => ?_) traversed
  obtain ⟨wildcard, -, rfl⟩ := Rendered.bind_pure_eq_ok.mp shown
  simp only [String.append_assoc]
  exact startsWith_append _ _

/-- The line of a network shows the wildcard of its prefix length, which is all ones behind it. -/
theorem exists_of_ospfNetwork {network : OspfNetwork} {line : String}
    (shown : ospfNetwork network = .ok line) :
    0 ≤ network.prefixLength.toInt ∧ network.prefixLength.toInt ≤ 32 ∧ ∃ wildcard : UInt32,
      wildcard.toNat = 2 ^ (32 - network.prefixLength.toInt.toNat) - 1 ∧
      line = " network " ++ network.address.toText ++ " " ++ (Address.mk wildcard).toText
        ++ " area " ++ toString network.area.toNat := by
  obtain ⟨text, found, rfl⟩ := Rendered.bind_pure_eq_ok.mp shown
  obtain ⟨mask, bits, rfl⟩ := wildcard_eq_ok.mp found
  obtain ⟨-, low, high⟩ := Mask.toNat_of_bits? bits
  exact ⟨low, high, ~~~mask, Mask.toNat_not_of_bits? bits, rfl⟩

/-- The interfaces are found as blocks: no line before or after them starts like one. -/
theorem mapM_interface (rendered : config.renderLines = .ok lines) :
    config.interfaces.mapM interface = .ok (blocks "interface " lines) := by
  have marked : Marked (literal "interface ") := by decide
  rw [renderLines_eq_document, layout_eq, document_append_eq_ok] at rendered
  obtain ⟨before, _, first, later, rfl⟩ := rendered
  obtain ⟨block, after, middle, last, rfl⟩ := document_cons_eq_ok.mp later
  obtain ⟨content, shown, rfl⟩ := lines_eq_ok.mp middle
  have separator : Default.placeholder.startsWith "interface " = false := marked.placeholder
  have before : ∀ line ∈ before, line.startsWith "interface " = false :=
    startsWith_document marked (fun _ => List.mem_of_mem_take) rfl first
  have after : ∀ line ∈ after, line.startsWith "interface " = false :=
    startsWith_document marked (fun _ => List.mem_of_mem_drop) rfl last
  simp only [interfacesSection, List.replicate_zero, List.nil_append, List.append_nil]
  rw [blocks_append before]
  rcases interfaces_eq_ok.mp shown with ⟨empty, rfl⟩ | ⟨-, shownBlocks, traversed, rfl⟩
  · rw [blocks_append (List.forall_mem_singleton.mpr separator), blocks_eq_nil after, empty]
    rfl
  · have each := Rendered.forall_mem_of_mapM (fun _ _ => isBlock_interface) traversed
    rw [blocks_flatMap each separator, blocks_eq_nil after, List.append_nil, traversed]

/-- The first lines of the interfaces are found. -/
theorem starting_interface (rendered : config.renderLines = .ok lines) :
    starting "interface " lines =
      config.interfaces.map fun port => "interface " ++ port.port.name := by
  rw [← filterMap_head?_blocks]
  refine Rendered.filterMap_eq_of_mapM (fun port block shown => ?_) (mapM_interface rendered)
  obtain ⟨settings, rfl, -⟩ := exists_of_interface shown
  rfl

/-- The classes of lines, in the order they are shown. -/
def lineClasses : List LineClass := [.console, .auxiliary, .virtualTerminal]

/-- The section of a class of lines. -/
def lineSection (kind : LineClass) : Section :=
  ⟨"line-" ++ Keyword.word kind, 0, fun config => Render.lineClass kind (config.line? kind), 1⟩

/-- The classes of lines stand before the end. -/
theorem layout_eq_lines :
    layout = layout.take 15 ++ lineClasses.map lineSection ++ layout.drop 18 := rfl

/-- The sections of classes of lines have a separator after each class. -/
theorem document_lineSections {kinds : List LineClass}
    (rendered : document (kinds.map lineSection) config = .ok lines) :
    ∃ contents, kinds.mapM (fun kind => lineClass kind (config.line? kind)) = .ok contents ∧
      contents.flatMap (· ++ [Default.placeholder]) = lines := by
  induction kinds generalizing lines with
  | nil =>
    obtain rfl := document_nil_eq_ok.mp rendered
    exact ⟨[], rfl, rfl⟩
  | cons kind kinds ih =>
    obtain ⟨block, rest, first, later, rfl⟩ := document_cons_eq_ok.mp rendered
    obtain ⟨content, shown, rfl⟩ := lines_eq_ok.mp first
    obtain ⟨contents, traversed, rfl⟩ := ih later
    exact ⟨content :: contents, Rendered.mapM_cons_eq_ok.mpr ⟨_, _, shown, traversed, rfl⟩, rfl⟩

/-- The classes of lines are found as blocks. -/
theorem mapM_lineClass (rendered : config.renderLines = .ok lines) :
    lineClasses.mapM (fun kind => lineClass kind (config.line? kind)) =
      .ok (blocks "line " lines) := by
  have marked : Marked (literal "line ") := by decide
  rw [renderLines_eq_document, layout_eq_lines, document_append_eq_ok] at rendered
  obtain ⟨_, after, first, last, rfl⟩ := rendered
  obtain ⟨before, classes, front, middle, rfl⟩ := document_append_eq_ok.mp first
  have separator : Default.placeholder.startsWith "line " = false := marked.placeholder
  have before : ∀ line ∈ before, line.startsWith "line " = false :=
    startsWith_document marked (fun _ => List.mem_of_mem_take) rfl front
  have after : ∀ line ∈ after, line.startsWith "line " = false :=
    startsWith_document marked (fun _ => List.mem_of_mem_drop) rfl last
  obtain ⟨contents, traversed, rfl⟩ := document_lineSections middle
  have each := Rendered.forall_mem_of_mapM (fun _ _ => isBlock_lineClass) traversed
  rw [List.append_assoc, blocks_append before, blocks_flatMap each separator,
    blocks_eq_nil after, List.append_nil, traversed]

/-- The headers of the classes are found. -/
theorem starting_lineHeader (rendered : config.renderLines = .ok lines) :
    starting "line " lines = lineClasses.map fun kind => lineHeader kind (config.line? kind) := by
  rw [← filterMap_head?_blocks]
  refine Rendered.filterMap_eq_of_mapM (fun kind block shown => ?_) (mapM_lineClass rendered)
  obtain ⟨body, rfl, -⟩ := exists_of_lineClass shown
  rfl

/-- A class of lines is its header and, behind it, the body of what is configured. -/
theorem exists_bodies_of_mapM {kinds : List LineClass} {shown : List (List String)}
    (traversed : kinds.mapM (fun kind => lineClass kind (config.line? kind)) = .ok shown) :
    ∃ bodies, (kinds.map config.line?).mapM (Rendered.ofOption lineBody []) = .ok bodies ∧
      shown = List.zipWith List.cons
        (kinds.map fun kind => lineHeader kind (config.line? kind)) bodies := by
  induction kinds generalizing shown with
  | nil =>
    obtain rfl := Rendered.mapM_nil_eq_ok.mp traversed
    exact ⟨[], rfl, rfl⟩
  | cons kind kinds ih =>
    obtain ⟨block, blocks, first, later, rfl⟩ := Rendered.mapM_cons_eq_ok.mp traversed
    obtain ⟨body, bodied, rfl⟩ := lineClass_eq_ok.mp first
    obtain ⟨bodies, bodiesShown, rfl⟩ := ih later
    exact ⟨body :: bodies, Rendered.mapM_cons_eq_ok.mpr ⟨_, _, bodied, bodiesShown, rfl⟩, rfl⟩

/-- A line that starts like a login policy is that of a class that is configured with one. -/
theorem exists_login_of_mem {found : String} (rendered : config.renderLines = .ok lines)
    (member : found ∈ starting " login " lines) :
    ∃ kind line policy, config.line? kind = some line ∧ line.login = some policy ∧
      found = " " ++ login (some policy) := by
  have marked : Marked (literal " login ") := by decide
  have only : layout.filter (mayStart (literal " login ")) = lineClasses.map lineSection := rfl
  obtain ⟨contents, traversed, same⟩ : ∃ contents,
      (layout.filter (mayStart (literal " login "))).mapM (·.content config) = .ok contents ∧
      starting " login " lines = starting " login " contents.flatten :=
    starting_document marked (fun _ member => member) rendered
  rw [same] at member
  obtain ⟨member, begins⟩ := mem_starting.mp member
  obtain ⟨content, among, member⟩ := List.mem_flatten.mp member
  rw [only] at traversed
  obtain ⟨part, among, shown⟩ := Rendered.exists_of_mem_mapM traversed among
  obtain ⟨kind, -, rfl⟩ := List.mem_map.mp among
  exact ⟨kind, login_of_lineClass shown member begins⟩

/-- The classes of lines that are configured have a body of five lines. -/
theorem length_blocks_line (rendered : config.renderLines = .ok lines) :
    (blocks "line " lines).map List.length =
      lineClasses.map fun kind => if kind ∈ config.lines.map Prod.fst then 6 else 1 := by
  rw [← List.filterMap_eq_map]
  refine Rendered.filterMap_eq_of_mapM (fun kind block shown => ?_) (mapM_lineClass rendered)
  have listed : kind ∈ config.lines.map Prod.fst ↔ (config.line? kind).isSome = true := by
    simp [mem_lines, Option.isSome_iff_exists]
  simp only [Function.comp_apply, length_lineClass shown, listed]

/-- What a reader of some lines alone finds in them is what a configuration holds. -/
structure Itemized (config : Config) (lines : List String) : Prop where
  /-- Each user has its line. -/
  users : config.users.mapM user = .ok (starting "username " lines)
  /-- Each interface has its block. -/
  interfaces : config.interfaces.mapM interface = .ok (blocks "interface " lines)
  /-- Each passive port has a line with its name. -/
  passivePorts : starting " passive-interface " lines =
    config.passivePorts.map fun port => " passive-interface " ++ port.name
  /-- Each network has a line with its address, the wildcard of its prefix length and its area. -/
  networks : List.Forall₂ (fun network line =>
    0 ≤ network.prefixLength.toInt ∧ network.prefixLength.toInt ≤ 32 ∧ ∃ wildcard : UInt32,
      wildcard.toNat = 2 ^ (32 - network.prefixLength.toInt.toNat) - 1 ∧
      line = " network " ++ network.address.toText ++ " " ++ (Address.mk wildcard).toText
        ++ " area " ++ toString network.area.toNat)
    config.networks (starting " network " lines)
  /-- Each static route has its line. -/
  routes : config.routes.mapM staticRoute = .ok (starting "ip route " lines)
  /-- Each method has a line with its keyword, its list and its sources. -/
  methods : starting "aaa authentication " lines = config.methods.map fun (keyword, method) =>
    "aaa authentication " ++ keyword ++ " " ++ method.methodList ++ " "
      ++ " ".intercalate (method.sources.map Keyword.word)
  /-- Each class of lines has a header with its word, its first number and the last one, if it has
  one, configured or not. -/
  lineHeaders : starting "line " lines =
    [("con", config.lineCon, none), ("aux", config.lineAux, none),
      ("vty", config.lineVty, some (4 : UInt16))].map fun (word, line, last?) =>
        "line " ++ word ++ " " ++ toString ((line.bind Line.portStart).getD 0).toNat ++ " "
          ++ (((line.bind Line.portEnd).or last?).map fun last => toString last.toNat).getD ""
  /-- A header is followed by the body of its class, which is empty where none is configured. -/
  lineBlocks : ∃ bodies,
    [config.lineCon, config.lineAux, config.lineVty].mapM (Rendered.ofOption lineBody []) =
      .ok bodies ∧
    blocks "line " lines = List.zipWith List.cons (starting "line " lines) bodies
  /-- The header is followed by five lines where the class is configured, else by none. -/
  lineLengths : (blocks "line " lines).map List.length =
    [LineClass.console, .auxiliary, .virtualTerminal].map fun kind =>
      if kind ∈ config.lines.map Prod.fst then 6 else 1

/-- No item is lost, doubled, merged or moved: whatever a configuration that renders holds, each
item is found in its lines, in order, and nothing else is. -/
theorem itemized_of_renderLines (rendered : config.renderLines = .ok lines) :
    config.Itemized lines where
  users := mapM_user rendered
  interfaces := mapM_interface rendered
  passivePorts := starting_passivePorts rendered
  networks := (mapM_eq_ok_iff.mp (mapM_ospfNetwork rendered)).imp
    fun _ _ shown => exists_of_ospfNetwork shown
  routes := mapM_staticRoute rendered
  methods := starting_methods rendered
  lineHeaders := by
    simp only [starting_lineHeader rendered, lineHeader_eq]
    rfl
  lineBlocks := by
    rw [starting_lineHeader rendered]
    exact exists_bodies_of_mapM (mapM_lineClass rendered)
  lineLengths := length_blocks_line rendered

/-- Texts that look like other lines are not taken for them, and each kind of item is found. -/
theorem itemized_of_lookalikes : ∃ (config : Config) (lines : List String),
    config.renderLines = .ok lines ∧ config.Itemized lines ∧
      "hostname username cisco" ∈ lines ∧ " description interface Serial0/1" ∈ lines ∧
      " passive-interface Serial0/0" ∈ lines ∧ " network 10.0.0.0 0.255.255.255 area 1" ∈ lines ∧
      "ip route 0.0.0.0 0.0.0.0 10.0.0.1" ∈ lines ∧
      "aaa authentication login line local enable" ∈ lines ∧
      "line con 0 " ∈ lines ∧ "line vty 0 4" ∈ lines := by
  let config : Config := {
    hostname := some "username cisco"
    aaaNewModel := some {
      login := some { methodList := "line", sources := [.localUsers, .enable] } }
    users := [{ username := .classUser, password := { plaintext := "class" } }]
    interfaces := [
      { port := { family := .serial, index := "0/0" }, description := some "interface Serial0/1" },
      { port := { family := .vlan, index := "1" } }]
    routerOspf := some {
      processId := 1
      passiveInterfaces := some [
        { family := .vlan, index := "1" },
        { family := .serial, index := "0/0" }]
      networks := [{ address := ⟨0x0A000000⟩, prefixLength := 8, area := 1 }] }
    ipRoute := some [
      { destination := ⟨0⟩, prefixLength := 0, forwardingRouter := ⟨0x0A000001⟩ }]
    lineVty := some { execTimeout := { seconds := 0 } } }
  obtain ⟨lines, rendered⟩ : ∃ lines, config.renderLines = .ok lines := ⟨_, rfl⟩
  have found := itemized_of_renderLines rendered
  obtain rfl := Except.ok.inj rendered
  exact ⟨config, _, rfl, found, by decide, by decide, by decide, by decide, by decide, by decide,
    by decide, by decide⟩

end Config

end RunningConfig
