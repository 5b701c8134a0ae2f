import RunningConfig.Proofs.Recovery.Interface
import RunningConfig.Proofs.Recovery.Routing
import RunningConfig.Proofs.Render.Content
import RunningConfig.Proofs.Render.Document
import RunningConfig.Proofs.Text.Starting
/-!
# What the lines of each section begin with

Every line begins with the literal text of its directive, and what the configuration holds comes
after it. So a line that starts with one of the texts a reader looks for is a line of the sections
that have such a directive, whatever the texts in the other ones hold.
-/

namespace RunningConfig

open Text

/-- A line that starts with one of some texts. -/
def Headed (heads : List Literal) (line : String) : Prop :=
  ∃ head ∈ heads, line.startsWith head.text = true

namespace Headed

variable {heads : List Literal}

/-- A line that is one of the texts starts with it. -/
theorem whole {line : String} (member : line ∈ heads.map Literal.text) : Headed heads line := by
  obtain ⟨head, found, rfl⟩ := List.mem_map.mp member
  exact ⟨head, found, String.startsWith_string_iff.mpr (List.prefix_refl _)⟩

/-- What is appended to a line does not change what it starts with. -/
theorem append {front : String} (headed : Headed heads front) (rest : String) :
    Headed heads (front ++ rest) := by
  obtain ⟨head, member, begins⟩ := headed
  exact ⟨head, member, startsWith_append_of_startsWith begins rest⟩

/-- More texts may be allowed for. -/
theorem mono {more : List Literal} {line : String} (headed : Headed heads line)
    (subset : heads ⊆ more) : Headed more line := by
  obtain ⟨head, member, begins⟩ := headed
  exact ⟨head, subset member, begins⟩

/-- A line does not start with a text that all its possible starts clash with. -/
theorem startsWith_eq_false {line : String} (headed : Headed heads line) (start : Literal)
    (apart : heads.all (fun head => clashes start.letters head.letters) = true) :
    line.startsWith start.text = false := by
  obtain ⟨head, member, begins⟩ := headed
  obtain ⟨rest, rfl⟩ := exists_of_startsWith begins
  exact startsWith_append_of_clashes start head (List.all_eq_true.mp apart head member) rest

end Headed

namespace Render

variable {heads : List Literal} {lines : List String}

/-- An optional directive is headed by the placeholder or by the directive. -/
theorem headed_orPlaceholder {α : Type} {text? : Option α} {shape : α → String}
    (placeholder : Default.placeholder ∈ heads.map Literal.text)
    (each : ∀ item, Headed heads (shape item)) :
    Headed heads (orPlaceholder (text?.map shape)) := by
  cases text? with
  | none => exact .whole placeholder
  | some item => exact each item

/-- The line of a timestamp service begins with whether it is on. -/
theorem timestamps_eq (kind : String) (presence : Presence TimestampMode) :
    timestamps kind presence =
      (if presence.isPresent then " service timestamps " else "no service timestamps ") ++ kind
        ++ " " ++ Keyword.word (presence.valueOr Default.timestampMode) := by
  unfold timestamps toggle
  cases presence.isPresent <;> simp only [← String.append_assoc] <;> rfl

/-- What the line of the timestamps of log messages begins with. -/
def logHeads : List Literal :=
  [literal " service timestamps log ", literal "no service timestamps log "]

/-- What the line of the timestamps of debug messages begins with. -/
def debugHeads : List Literal :=
  [literal " service timestamps debug ", literal "no service timestamps debug "]

/-- What the line of password encryption is. -/
def encryptionHeads : List Literal :=
  [literal " service password-encryption", literal "no service password-encryption"]

/-- The line of a timestamp service is headed by both forms of its directive. -/
theorem headed_timestamps {kind : String} {presence : Presence TimestampMode}
    (on : " service timestamps " ++ kind ++ " " ∈ heads.map Literal.text)
    (off : "no service timestamps " ++ kind ++ " " ∈ heads.map Literal.text) :
    Headed heads (timestamps kind presence) := by
  rw [timestamps_eq]
  cases presence.isPresent
  · exact (Headed.whole off).append _
  · exact (Headed.whole on).append _

/-- A directive that is on or off is headed by both of its forms. -/
theorem headed_toggle {on : Bool} {directive : String}
    (positive : " " ++ directive ∈ heads.map Literal.text)
    (negative : "no " ++ directive ∈ heads.map Literal.text) :
    Headed heads (toggle on directive) := by
  unfold toggle
  split
  · exact .whole positive
  · exact .whole negative

/-- The line of the enable secret begins with its directive. -/
theorem headed_enableSecret {secret : EnableSecret} {line : String}
    (directive : "enable secret " ∈ heads.map Literal.text)
    (shown : enableSecret secret = .ok line) :
    Headed heads line := by
  obtain ⟨encoded, -, rfl⟩ := Rendered.bind_pure_eq_ok.mp shown
  exact (((Headed.whole directive).append _).append _).append _

/-- The line of a method begins with its directive. -/
theorem headed_authentication {keyword : String} {method : AuthenticationMethod}
    (directive : "aaa authentication " ∈ heads.map Literal.text) :
    Headed heads (authentication keyword method) :=
  (((((Headed.whole directive).append _).append _).append _).append _).append _

/-- The line of a user begins with its directive. -/
theorem headed_user {account : User} {line : String}
    (directive : "username " ∈ heads.map Literal.text)
    (shown : user account = .ok line) : Headed heads line := by
  obtain ⟨password, -, rfl⟩ := Rendered.bind_pure_eq_ok.mp shown
  exact (((((((Headed.whole directive).append _).append _).append _).append _).append _).append
    _).append _

/-- The line of a static route begins with its directive. -/
theorem headed_staticRoute {route : StaticRoute} {line : String}
    (directive : "ip route " ∈ heads.map Literal.text)
    (shown : staticRoute route = .ok line) : Headed heads line := by
  obtain ⟨mask, -, rfl⟩ := Rendered.bind_pure_eq_ok.mp shown
  exact (((((Headed.whole directive).append _).append _).append _).append _).append _

/-- The line of a network begins with its directive. -/
theorem headed_ospfNetwork {network : OspfNetwork} {line : String}
    (directive : " network " ∈ heads.map Literal.text)
    (shown : ospfNetwork network = .ok line) : Headed heads line := by
  obtain ⟨wildcard, -, rfl⟩ := Rendered.bind_pure_eq_ok.mp shown
  exact (((((Headed.whole directive).append _).append _).append _).append _).append _

/-- Listed items are headed by the placeholder or as each item is. -/
theorem headed_listed {α : Type} {act : α → Rendered String} {items : List α}
    (placeholder : Default.placeholder ∈ heads.map Literal.text)
    (each : ∀ item line, act item = .ok line → Headed heads line)
    (shown : listed act items = .ok lines) : ∀ line ∈ lines, Headed heads line := by
  cases items with
  | nil =>
    obtain rfl := Except.ok.inj shown
    exact List.forall_mem_singleton.mpr (.whole placeholder)
  | cons item items => exact Rendered.forall_mem_of_mapM each shown

/-- What the settings of an interface begin with. -/
def settingHeads : List Literal :=
  [literal " description ", literal " ip address ", literal " no ip address", literal " duplex ",
    literal " speed ", literal " mtu ", literal " clock rate ", literal " shutdown"]

/-- The lines of an interface are its header and its settings. -/
theorem exists_of_interface {port : Interface} (shown : interface port = .ok lines) :
    ∃ settings, lines = ("interface " ++ port.port.name) :: settings ∧
      ∀ line ∈ settings, Headed settingHeads line := by
  obtain ⟨address, addressed, rfl⟩ := interface_eq_ok.mp shown
  have setting {head : String} (member : head ∈ settingHeads.map Literal.text) (rest : String) :
      Headed settingHeads (head ++ rest) := (Headed.whole member).append rest
  have headedAddress : Headed settingHeads address := by
    unfold interfaceAddress at addressed
    split at addressed
    · obtain ⟨mask, -, rfl⟩ := Rendered.bind_pure_eq_ok.mp addressed
      exact ((setting (by decide) _).append _).append _
    · obtain rfl := Except.ok.inj addressed
      exact .whole (by decide)
  have shutdown : ∀ line ∈ (if port.shutdown = some true then [" shutdown"] else []),
      Headed settingHeads line := by
    split
    · exact List.forall_mem_singleton.mpr (.whole (by decide))
    · exact List.forall_mem_nil _
  refine ⟨_, rfl, ?_⟩
  simp only [List.forall_mem_cons, List.forall_mem_append, Option.mem_toList,
    Option.map_eq_some_iff, forall_exists_index, and_imp, forall_apply_eq_imp_iff₂]
  exact ⟨fun _ _ => setting (by decide) _, headedAddress, setting (by decide) _,
    setting (by decide) _, fun _ _ => setting (by decide) _, fun _ _ => setting (by decide) _,
    shutdown⟩

/-- What the login policy of a line begins with. -/
def loginHeads : List Literal := [literal " login ", literal " no login"]

/-- What the other lines of the body of a class begin with. -/
def otherHeads : List Literal :=
  [literal " exec-timeout ", literal " password ", literal " !", literal " logging ",
    literal " transport input "]

/-- What the lines of the body of a class begin with. -/
def bodyHeads : List Literal := otherHeads ++ loginHeads

/-- An indented directive begins with itself. -/
theorem headed_indented {directive : String} (member : " " ++ directive ∈ heads.map Literal.text)
    (rest : String) :
    Headed heads (" " ++ (directive ++ rest)) := by
  rw [← String.append_assoc]
  exact (Headed.whole member).append rest

/-- The indented password of a line begins with its directive. -/
theorem headed_linePassword {password : Password} {line : String}
    (directive : " " ++ "password " ∈ heads.map Literal.text)
    (shown : linePassword password = .ok line) : Headed heads (" " ++ line) := by
  obtain ⟨encoded, -, rfl⟩ := Rendered.bind_pure_eq_ok.mp shown
  split
  · exact headed_indented directive _
  · simp only [String.append_assoc]
    exact headed_indented directive _

/-- The indented login policy of a line begins with its directive or with the negation of it. -/
theorem headed_login (policy : Option LoginPolicy) :
    Headed loginHeads (" " ++ login policy) := by
  unfold login
  split
  · rw [String.append_assoc]
    exact headed_indented (by decide) _
  · exact .whole (by decide)

/-- An indented optional directive begins with the placeholder or with itself. -/
theorem headed_indentedOption {directive : String}
    (placeholder : " " ++ Default.placeholder ∈ heads.map Literal.text)
    (member : " " ++ directive ∈ heads.map Literal.text) {α : Type} (text? : Option α)
    (shape : α → String) :
    Headed heads (" " ++ orPlaceholder (text?.map fun item => directive ++ shape item)) := by
  cases text? with
  | none => exact .whole placeholder
  | some item => exact headed_indented member (shape item)

/-- The body of a line is its login policy between lines that begin with other directives. -/
theorem exists_of_lineBody {line : Line} (shown : lineBody line = .ok lines) :
    ∃ front back, lines = front ++ (" " ++ login line.login) :: back ∧
      ∀ other ∈ front ++ back, Headed otherHeads other := by
  obtain ⟨password, passworded, rfl⟩ := lineBody_eq_ok.mp shown
  refine ⟨[_, _, _], [_], rfl, ?_⟩
  have headedPassword : Headed otherHeads (" " ++ password) :=
    Rendered.of_ofOption (fun text => Headed otherHeads (" " ++ text)) (.whole (by decide))
      (fun _ _ => headed_linePassword (by decide)) passworded
  simp only [List.cons_append, List.nil_append, List.forall_mem_cons, List.not_mem_nil,
    false_implies, implies_true, and_true]
  exact ⟨(((Headed.whole (by decide)).append _).append _).append _, headedPassword,
    headed_indentedOption (by decide) (by decide) _ _,
    headed_indentedOption (by decide) (by decide) _ _⟩

/-- The lines of a class are its header and its body. -/
theorem exists_of_lineClass {kind : LineClass} {line : Option Line}
    (shown : lineClass kind line = .ok lines) :
    ∃ body, lines = lineHeader kind line :: body ∧ ∀ other ∈ body, Headed bodyHeads other := by
  obtain ⟨body, bodied, rfl⟩ := lineClass_eq_ok.mp shown
  refine ⟨body, rfl, ?_⟩
  cases line with
  | none =>
    obtain rfl := Except.ok.inj bodied
    exact List.forall_mem_nil _
  | some line =>
    obtain ⟨front, back, rfl, others⟩ := exists_of_lineBody bodied
    simp only [List.mem_append, List.mem_cons] at others ⊢
    rintro other (before | rfl | after)
    · exact (others other (Or.inl before)).mono (List.subset_append_left _ _)
    · exact (headed_login line.login).mono (List.subset_append_right _ _)
    · exact (others other (Or.inr after)).mono (List.subset_append_left _ _)

/-- The header of a class begins with its directive. -/
theorem headed_lineHeader (kind : LineClass) (line : Option Line)
    (directive : "line " ∈ heads.map Literal.text) :
    Headed heads (lineHeader kind line) :=
  (((((Headed.whole directive).append _).append _).append _).append _).append _

end Render

namespace Section

open Render

/-- What the lines of a section begin with, by the name of the section. -/
def heads (part : Section) : List Literal :=
  match part.name with
  | "version" => [literal "version "]
  | "services" => logHeads ++ debugHeads ++ encryptionHeads
  | "hostname" => [literal "!", literal "hostname "]
  | "enable" => [literal "!", literal "enable secret ", literal "enable password "]
  | "aaa" => [literal "!", literal "aaa new-model", literal "aaa authentication "]
  | "forwarding" => [literal " ip cef", literal "no ip cef", literal " ipv6 cef",
    literal "no ipv6 cef"]
  | "users" => [literal "!", literal "username "]
  | "domain" => [literal "!", literal "ip domain-name "]
  | "spanning-tree" => [literal "spanning-tree mode "]
  | "interfaces" => literal "!" :: literal "interface " :: settingHeads
  | "ospf" => [literal "!", literal "router ospf ", literal " log-adjacency-changes ",
    literal " no log-adjacency-changes ", literal " passive-interface ", literal " network "]
  | "classless" => [literal "ip classless", literal "no ip classless"]
  | "routes" => [literal "!", literal "ip route "]
  | "flow-export" => [literal "ip flow-export "]
  | "banner" => [literal "!", literal "banner motd # "]
  | "line-con" | "line-aux" | "line-vty" => literal "line " :: bodyHeads
  | _ => [literal "end"]

/-- A section whose lines begin with what its name says they do. -/
def HeadedByName (part : Section) : Prop :=
  ∀ (config : Config) (content : List String), part.content config = .ok content →
    ∀ line ∈ content, Headed part.heads line

/-- A content of one line is headed as that line is. -/
theorem headed_single {heads : List Literal} {line : String} {content : List String}
    (headed : Headed heads line) (shown : (.ok [line] : Rendered (List String)) = .ok content) :
    ∀ other ∈ content, Headed heads other := by
  obtain rfl := Except.ok.inj shown
  exact List.forall_mem_singleton.mpr headed

/-- The lines of the services begin with either form of their directives. -/
theorem headed_services : HeadedByName ⟨"services", 0, Render.serviceLines, 1⟩ := by
  intro config content shown
  obtain rfl := Except.ok.inj shown
  simp only [List.forall_mem_cons, List.not_mem_nil, false_implies, implies_true, and_true]
  exact ⟨headed_timestamps (by decide) (by decide), headed_timestamps (by decide) (by decide),
    headed_toggle (by decide) (by decide)⟩

/-- The lines of the enable section begin with their directives. -/
theorem headed_enable : HeadedByName ⟨"enable", 0, Render.enableLines, 5⟩ := by
  intro config content shown
  obtain ⟨secret, shownSecret, rfl⟩ := enableLines_eq_ok.mp shown
  simp only [List.forall_mem_cons, List.not_mem_nil, false_implies, implies_true, and_true]
  exact ⟨Rendered.of_ofOption (Headed _) (.whole (by decide))
      (fun _ _ => headed_enableSecret (by decide)) shownSecret,
    headed_orPlaceholder (by decide) fun text => (Headed.whole (by decide)).append text⟩

/-- The lines of authentication begin with their directives. -/
theorem headed_aaa : HeadedByName ⟨"aaa", 0, Render.aaaLines, 7⟩ := by
  intro config content shown
  obtain rfl := Except.ok.inj shown
  simp only [List.forall_mem_cons, List.not_mem_nil, false_implies, implies_true, and_true]
  refine ⟨headed_orPlaceholder (by decide) fun _ => .whole (by decide), .whole (by decide),
    ?_, ?_, ?_⟩ <;>
    exact headed_orPlaceholder (by decide) fun _ => headed_authentication (by decide)

/-- The lines of forwarding are either form of their directives. -/
theorem headed_forwarding : HeadedByName ⟨"forwarding", 0, Render.forwardingLines, 3⟩ := by
  intro config content shown
  obtain rfl := Except.ok.inj shown
  simp only [List.forall_mem_cons, List.not_mem_nil, false_implies, implies_true, and_true]
  exact ⟨headed_toggle (by decide) (by decide), headed_toggle (by decide) (by decide)⟩

/-- The lines of the interfaces begin with their directives. -/
theorem headed_interfaces : HeadedByName
    ⟨"interfaces", 0, fun config => Render.interfaces config.interfaces, 0⟩ := by
  intro config content shown
  rcases interfaces_eq_ok.mp shown with ⟨-, rfl⟩ | ⟨-, blocks, traversed, rfl⟩
  · exact List.forall_mem_singleton.mpr (.whole (by decide))
  · have each : ∀ block ∈ blocks, ∀ line ∈ block,
        Headed (literal "!" :: literal "interface " :: settingHeads) line :=
      Rendered.forall_mem_of_mapM (fun port block shown => by
        obtain ⟨settings, rfl, headed⟩ := exists_of_interface shown
        exact List.forall_mem_cons.mpr ⟨(Headed.whole (by decide)).append _,
          fun line member => (headed line member).mono (by simp)⟩) traversed
    simp only [List.forall_mem_flatMap, List.forall_mem_append, List.forall_mem_singleton]
    exact fun block member => ⟨each block member, .whole (by decide)⟩

/-- The lines of the OSPF process begin with their directives. -/
theorem headed_ospf : HeadedByName ⟨"ospf", 0, Render.ospfLines, 1⟩ := by
  intro config content shown
  refine Rendered.of_ofOption (∀ line ∈ ·, Headed _ line) ?_ ?_
    ((ospfLines_eq_ofOption config).symm.trans shown)
  · exact List.forall_mem_singleton.mpr (.whole (by decide))
  · intro process lines shown
    obtain ⟨networks, traversed, rfl⟩ := ospf_eq_ok.mp shown
    simp only [List.forall_mem_cons, List.forall_mem_append, List.forall_mem_map]
    refine ⟨(Headed.whole (by decide)).append _, ?_,
      fun port _ => (Headed.whole (by decide)).append _,
      Rendered.forall_mem_of_mapM (fun _ _ => headed_ospfNetwork (by decide)) traversed⟩
    split <;> exact .whole (by decide)

/-- The lines of a class begin with their directives. -/
theorem headed_lineClass {kind : LineClass} {line : Option Line} {content : List String}
    (shown : lineClass kind line = .ok content) :
    ∀ other ∈ content, Headed (literal "line " :: bodyHeads) other := by
  obtain ⟨body, rfl, headed⟩ := exists_of_lineClass shown
  exact List.forall_mem_cons.mpr ⟨headed_lineHeader kind line (by decide),
    fun other member => (headed other member).mono (by simp)⟩

/-- Every line of a section begins with a text of the section. -/
theorem headed {part : Section} (member : part ∈ layout) {config : Config} {content : List String}
    (shown : part.content config = .ok content) : ∀ line ∈ content, Headed part.heads line := by
  have every : Every HeadedByName := {
    version := fun _ _ => headed_single ((Headed.whole (by decide)).append _)
    services := headed_services
    hostname := fun _ _ => headed_single
      (headed_orPlaceholder (by decide) fun _ => (Headed.whole (by decide)).append _)
    enable := headed_enable
    aaa := headed_aaa
    forwarding := headed_forwarding
    users := fun _ _ => headed_listed (by decide) fun _ _ => headed_user (by decide)
    domain := fun _ _ => headed_single
      (headed_orPlaceholder (by decide) fun _ => (Headed.whole (by decide)).append _)
    spanningTree := fun _ _ => headed_single ((Headed.whole (by decide)).append _)
    interfaces := headed_interfaces
    ospf := headed_ospf
    classless := fun config _ => headed_single (by split <;> exact .whole (by decide))
    routes := fun _ _ => headed_listed (by decide) fun _ _ => headed_staticRoute (by decide)
    flowExport := fun _ _ => headed_single ((Headed.whole (by decide)).append _)
    banner := fun _ _ => headed_single (headed_orPlaceholder (by decide) fun _ =>
      ((Headed.whole (by decide)).append _).append _)
    lineCon := fun _ _ => headed_lineClass
    lineAux := fun _ _ => headed_lineClass
    lineVty := fun _ _ => headed_lineClass
    terminator := fun _ _ => headed_single (.whole (by decide)) }
  exact forall_mem_layout.mpr every part member config content shown

/-! ## Finding lines in a document -/

variable {start : Literal} {config : Config} {lines : List String}

/-- A section that may have a line that starts with a text. -/
def mayStart (start : Literal) (part : Section) : Bool :=
  !part.heads.all fun head => clashes start.letters head.letters

/-- A text that no separator starts with. -/
def Marked (start : Literal) : Prop := clashes start.letters (literal "!").letters = true

instance (start : Literal) : Decidable (Marked start) := by unfold Marked; infer_instance

/-- A separator does not start with a text that clashes with it. -/
theorem Marked.placeholder (marked : Marked start) :
    Default.placeholder.startsWith start.text = false := by
  have apart := startsWith_append_of_clashes start (literal "!") marked ""
  rwa [String.append_empty] at apart

/-- A section that may not have a line that starts with a text has none. -/
theorem startsWith_eq_false {part : Section} (member : part ∈ layout)
    (other : part.mayStart start = false) {content : List String}
    (shown : part.content config = .ok content) :
    ∀ line ∈ content, line.startsWith start.text = false :=
  fun line found => (headed member shown line found).startsWith_eq_false start (by
    simpa only [mayStart, Bool.not_eq_false'] using other)

/-- The lines of a section that start with a text are those of its content. -/
theorem starting_lines (marked : Marked start) (part : Section) (content : List String) :
    starting start.text (List.replicate part.leading Default.placeholder ++ content
      ++ List.replicate part.trailing Default.placeholder) = starting start.text content := by
  have none (count : Nat) : starting start.text (List.replicate count Default.placeholder) = [] :=
    starting_eq_nil fun line member => by
      rw [List.eq_of_mem_replicate member]
      exact marked.placeholder
  rw [starting_append, starting_append, none, none, List.nil_append, List.append_nil]

/-- The lines of a document that start with a text are those of the sections that may have such
lines. -/
theorem starting_document (marked : Marked start) {parts : List Section}
    (within : ∀ part ∈ parts, part ∈ layout) (rendered : document parts config = .ok lines) :
    ∃ contents, (parts.filter (mayStart start)).mapM (·.content config) = .ok contents ∧
      starting start.text lines = starting start.text contents.flatten := by
  induction parts generalizing lines with
  | nil =>
    obtain rfl := document_nil_eq_ok.mp rendered
    exact ⟨[], rfl, rfl⟩
  | cons part parts ih =>
    obtain ⟨member, within⟩ := List.forall_mem_cons.mp within
    obtain ⟨block, rest, first, later, rfl⟩ := document_cons_eq_ok.mp rendered
    obtain ⟨content, shown, rfl⟩ := lines_eq_ok.mp first
    obtain ⟨contents, traversed, found⟩ := ih within later
    rw [starting_append, starting_lines marked, found]
    cases owns : part.mayStart start with
    | false =>
      rw [List.filter_cons_of_neg (by simp [owns]),
        starting_eq_nil (startsWith_eq_false member owns shown)]
      exact ⟨contents, traversed, rfl⟩
    | true =>
      rw [List.filter_cons_of_pos owns]
      exact ⟨content :: contents, Rendered.mapM_cons_eq_ok.mpr ⟨_, _, shown, traversed, rfl⟩,
        by rw [List.flatten_cons, starting_append]⟩

/-- A text that one section only may start a line with is found in its content. -/
theorem starting_renderLines (marked : Marked start) {owner : Section}
    (only : layout.filter (mayStart start) = [owner]) (rendered : config.renderLines = .ok lines) :
    ∃ content, owner.content config = .ok content ∧
      starting start.text lines = starting start.text content := by
  obtain ⟨contents, traversed, found⟩ :=
    starting_document marked (fun _ member => member) rendered
  rw [only] at traversed
  obtain ⟨content, others, shown, rest, rfl⟩ := Rendered.mapM_cons_eq_ok.mp traversed
  obtain rfl := Rendered.mapM_nil_eq_ok.mp rest
  exact ⟨content, shown, by rw [found, List.flatten_singleton]⟩

/-- No line of a document starts with a text that none of its sections may start a line with. -/
theorem startsWith_document (marked : Marked start) {parts : List Section}
    (within : ∀ part ∈ parts, part ∈ layout) (none : parts.filter (mayStart start) = [])
    (rendered : document parts config = .ok lines) :
    ∀ line ∈ lines, line.startsWith start.text = false := by
  obtain ⟨contents, traversed, found⟩ := starting_document marked within rendered
  rw [none] at traversed
  obtain rfl := Rendered.mapM_nil_eq_ok.mp traversed
  exact fun line member => Bool.eq_false_iff.mpr (List.filter_eq_nil_iff.mp found line member)

end Section

end RunningConfig
