import RunningConfig.Proofs.Render.Document
import RunningConfig.Proofs.Render.Unbroken
/-!
# Line feeds in a document

Every section holds a line feed exactly where one of its texts does, and the separators hold none.
So the lines of a document are free of line feeds exactly when every text of the configuration is.
-/

namespace RunningConfig

open Text (Unbroken)

namespace Section

/-- A property of the separator holds of every line of a document exactly when it does of every
line of the contents. -/
theorem forall_mem_document {parts : List Section} {config : Config} {lines : List String}
    {holds : String → Prop} (separator : holds Default.placeholder)
    (rendered : document parts config = .ok lines) :
    (∀ line ∈ lines, holds line) ↔
      ∀ part ∈ parts, ∃ content, part.content config = .ok content ∧
        ∀ line ∈ content, holds line := by
  induction parts generalizing lines with
  | nil => simp [document_nil_eq_ok.mp rendered]
  | cons part parts ih =>
    obtain ⟨block, rest, first, later, rfl⟩ := document_cons_eq_ok.mp rendered
    obtain ⟨content, found, rfl⟩ := lines_eq_ok.mp first
    simp only [List.forall_mem_append, List.forall_mem_cons, List.forall_mem_replicate, separator,
      or_true, true_and, and_true, ih later, found, Except.ok.injEq, exists_eq_left']

end Section

namespace Render

/-- The line of a timestamp service is unbroken. -/
theorem unbroken_timestamps {kind : String} (plain : Unbroken kind)
    (presence : Presence TimestampMode) : Unbroken (timestamps kind presence) := by
  have word : Unbroken (Keyword.word (presence.valueOr Default.timestampMode)) :=
    Keyword.unbroken_word (by decide) _
  have directive : Unbroken "service timestamps " := by decide
  have blank : Unbroken " " := by decide
  simp only [timestamps, unbroken_toggle, Text.unbroken_append]
  exact ⟨⟨⟨directive, plain⟩, blank⟩, word⟩

/-- The enable lines break only where the secret or the password does. -/
theorem unbroken_enableLines {config : Config} {lines : List String}
    (shown : enableLines config = .ok lines) :
    (∀ line ∈ lines, Unbroken line) ↔
      (∀ text, config.enableSecret.map EnableSecret.plaintext = some text → Unbroken text) ∧
      ∀ text, config.enablePassword = some text → Unbroken text := by
  obtain ⟨shownSecret, secret, rfl⟩ := enableLines_eq_ok.mp shown
  have secret := unbroken_ofOption (fun _ _ => unbroken_enableSecret) secret
  have directive : Unbroken "enable password " := by decide
  rw [← secret]
  simp only [List.forall_mem_cons, List.not_mem_nil, false_implies, implies_true, and_true,
    unbroken_orPlaceholder, Text.unbroken_append, directive, true_and]

/-- The lines of authentication break only where the name of a method list does. -/
theorem unbroken_aaaLines {config : Config} {lines : List String}
    (shown : aaaLines config = .ok lines) :
    (∀ line ∈ lines, Unbroken line) ↔
      ∀ method ∈ config.methods, Unbroken method.2.methodList := by
  obtain rfl := Except.ok.inj shown
  have login : Unbroken "login" := by decide
  have enable : Unbroken "enable" := by decide
  have ppp : Unbroken "ppp" := by decide
  have model : Unbroken "aaa new-model" := by decide
  have placeholder : Unbroken Default.placeholder := by decide
  simp only [List.forall_mem_cons, List.not_mem_nil, false_implies, implies_true, and_true,
    unbroken_orPlaceholder, unbroken_authentication login, unbroken_authentication enable,
    unbroken_authentication ppp, model, placeholder, true_and, Config.methods]
  cases config.aaaNewModel with
  | none => simp
  | some block =>
    simp only [Option.bind_some, Option.map_some, Option.getD_some,
      Authentication.forall_mem_methods]

/-- The version line breaks only where the version does. -/
theorem unbroken_versionLines {config : Config} {lines : List String}
    (shown : versionLines config = .ok lines) :
    (∀ line ∈ lines, Unbroken line) ↔ ∀ text, config.version = some text → Unbroken text := by
  obtain rfl := Except.ok.inj shown
  cases config.version <;> simp [Default.version, Unbroken]

/-- A section of one line that may be missing breaks only where its text does. -/
theorem unbroken_optionalLine {text? : Option String} {shape : String → String}
    {lines : List String} (plain : ∀ text, Unbroken (shape text) ↔ Unbroken text)
    (shown : .ok [orPlaceholder (text?.map shape)] = (.ok lines : Rendered (List String))) :
    (∀ line ∈ lines, Unbroken line) ↔ ∀ text, text? = some text → Unbroken text := by
  obtain rfl := Except.ok.inj shown
  simp only [List.forall_mem_singleton, unbroken_orPlaceholder, plain]

/-- The host name line breaks only where the name does. -/
theorem unbroken_hostnameLines {config : Config} {lines : List String}
    (shown : hostnameLines config = .ok lines) :
    (∀ line ∈ lines, Unbroken line) ↔ ∀ text, config.hostname = some text → Unbroken text :=
  unbroken_optionalLine (fun _ => by simp [Unbroken]) shown

/-- The domain name line breaks only where the name does. -/
theorem unbroken_domainLines {config : Config} {lines : List String}
    (shown : domainLines config = .ok lines) :
    (∀ line ∈ lines, Unbroken line) ↔ ∀ text, config.ipDomainName = some text → Unbroken text :=
  unbroken_optionalLine (fun _ => by simp [Unbroken]) shown

/-- The banner line breaks only where the banner does. -/
theorem unbroken_bannerLines {config : Config} {lines : List String}
    (shown : bannerLines config = .ok lines) :
    (∀ line ∈ lines, Unbroken line) ↔ ∀ text, config.bannerMotd = some text → Unbroken text :=
  unbroken_optionalLine (fun _ => by simp [Unbroken]) shown

/-- The lines of routing break only where the index of a passive interface does. -/
theorem unbroken_ospfLines {config : Config} {lines : List String}
    (shown : ospfLines config = .ok lines) :
    (∀ line ∈ lines, Unbroken line) ↔ ∀ port ∈ config.passivePorts, Unbroken port.index := by
  unfold ospfLines at shown
  unfold Config.passivePorts
  cases given : config.routerOspf with
  | none =>
    rw [given] at shown
    obtain rfl := Except.ok.inj shown
    decide
  | some process =>
    rw [given] at shown
    rw [unbroken_ospf shown, Option.bind_some]

/-- The services break no line. -/
theorem unbroken_serviceLines {config : Config} {lines : List String}
    (shown : serviceLines config = .ok lines) : ∀ line ∈ lines, Unbroken line := by
  obtain rfl := Except.ok.inj shown
  have encryption : Unbroken "service password-encryption" := by decide
  simp only [List.forall_mem_cons, List.not_mem_nil, false_implies, implies_true, and_true,
    unbroken_toggle, encryption, unbroken_timestamps (by decide : Unbroken "log"),
    unbroken_timestamps (by decide : Unbroken "debug")]

/-- Express forwarding breaks no line. -/
theorem unbroken_forwardingLines {config : Config} {lines : List String}
    (shown : forwardingLines config = .ok lines) : ∀ line ∈ lines, Unbroken line := by
  obtain rfl := Except.ok.inj shown
  have ipv4 : Unbroken "ip cef" := by decide
  have ipv6 : Unbroken "ipv6 cef" := by decide
  simp only [List.forall_mem_cons, List.not_mem_nil, false_implies, implies_true, and_true,
    unbroken_toggle, ipv4, ipv6]

/-- The spanning tree mode breaks no line. -/
theorem unbroken_spanningTreeLines {config : Config} {lines : List String}
    (shown : spanningTreeLines config = .ok lines) : ∀ line ∈ lines, Unbroken line := by
  obtain rfl := Except.ok.inj shown
  have directive : Unbroken "spanning-tree mode " := by decide
  rw [List.forall_mem_singleton, Text.unbroken_append]
  exact ⟨directive, Keyword.unbroken_word (by decide) _⟩

/-- Classless routing breaks no line. -/
theorem unbroken_classlessLines {config : Config} {lines : List String}
    (shown : classlessLines config = .ok lines) : ∀ line ∈ lines, Unbroken line := by
  obtain rfl := Except.ok.inj shown
  rw [List.forall_mem_singleton]
  split <;> decide

/-- Flow export breaks no line. -/
theorem unbroken_flowExportLines {config : Config} {lines : List String}
    (shown : flowExportLines config = .ok lines) : ∀ line ∈ lines, Unbroken line := by
  obtain rfl := Except.ok.inj shown
  have directive : Unbroken "ip flow-export " := by decide
  rw [List.forall_mem_singleton, Text.unbroken_append]
  exact ⟨directive, Text.not_mem_toString rfl _⟩

end Render

namespace Config

/-- The lines of a configuration are free of line feeds exactly when its texts are. -/
theorem unbroken_renderLines {config : Config} {lines : List String}
    (rendered : config.renderLines = .ok lines) :
    (∀ line ∈ lines, Unbroken line) ↔ ∀ text ∈ config.texts, Unbroken text := by
  have placeholder : Unbroken Default.placeholder := by decide
  rw [Section.forall_mem_document placeholder rendered, forall_mem_texts]
  constructor
  · intro each
    have every := Section.forall_mem_layout.mp each
    obtain ⟨_, version, plainVersion⟩ := every.version
    obtain ⟨_, hostname, plainHostname⟩ := every.hostname
    obtain ⟨_, enable, plainEnable⟩ := every.enable
    obtain ⟨_, aaa, plainAaa⟩ := every.aaa
    obtain ⟨_, users, plainUsers⟩ := every.users
    obtain ⟨_, domain, plainDomain⟩ := every.domain
    obtain ⟨_, interfaces, plainInterfaces⟩ := every.interfaces
    obtain ⟨_, ospf, plainOspf⟩ := every.ospf
    obtain ⟨_, banner, plainBanner⟩ := every.banner
    obtain ⟨_, console, plainConsole⟩ := every.lineCon
    obtain ⟨_, auxiliary, plainAuxiliary⟩ := every.lineAux
    obtain ⟨_, terminals, plainTerminals⟩ := every.lineVty
    exact {
      version := (Render.unbroken_versionLines version).mp plainVersion
      hostname := (Render.unbroken_hostnameLines hostname).mp plainHostname
      enableSecret := ((Render.unbroken_enableLines enable).mp plainEnable).1
      enablePassword := ((Render.unbroken_enableLines enable).mp plainEnable).2
      methods := (Render.unbroken_aaaLines aaa).mp plainAaa
      users := (Render.unbroken_users users).mp plainUsers
      domain := (Render.unbroken_domainLines domain).mp plainDomain
      interfaces := (Render.unbroken_interfaces interfaces).mp plainInterfaces
      passive := (Render.unbroken_ospfLines ospf).mp plainOspf
      banner := (Render.unbroken_bannerLines banner).mp plainBanner
      lines := forall_mem_lines.mpr ⟨(Render.unbroken_lineClass console).mp plainConsole,
        (Render.unbroken_lineClass auxiliary).mp plainAuxiliary,
        (Render.unbroken_lineClass terminals).mp plainTerminals⟩ }
  · intro texts
    obtain ⟨console, auxiliary, terminals⟩ := forall_mem_lines.mp texts.lines
    -- A section that renders at all has the property as soon as its content does.
    have every : Section.Every fun part => ∀ content, part.content config = .ok content →
        ∀ line ∈ content, Unbroken line := {
      version := fun _ shown => (Render.unbroken_versionLines shown).mpr texts.version
      services := fun _ shown => Render.unbroken_serviceLines shown
      hostname := fun _ shown => (Render.unbroken_hostnameLines shown).mpr texts.hostname
      enable := fun _ shown =>
        (Render.unbroken_enableLines shown).mpr ⟨texts.enableSecret, texts.enablePassword⟩
      aaa := fun _ shown => (Render.unbroken_aaaLines shown).mpr texts.methods
      forwarding := fun _ shown => Render.unbroken_forwardingLines shown
      users := fun _ shown => (Render.unbroken_users shown).mpr texts.users
      domain := fun _ shown => (Render.unbroken_domainLines shown).mpr texts.domain
      spanningTree := fun _ shown => Render.unbroken_spanningTreeLines shown
      interfaces := fun _ shown => (Render.unbroken_interfaces shown).mpr texts.interfaces
      ospf := fun _ shown => (Render.unbroken_ospfLines shown).mpr texts.passive
      classless := fun _ shown => Render.unbroken_classlessLines shown
      routes := fun _ shown => Render.unbroken_staticRoutes shown
      flowExport := fun _ shown => Render.unbroken_flowExportLines shown
      banner := fun _ shown => (Render.unbroken_bannerLines shown).mpr texts.banner
      lineCon := fun _ shown => (Render.unbroken_lineClass shown).mpr console
      lineAux := fun _ shown => (Render.unbroken_lineClass shown).mpr auxiliary
      lineVty := fun _ shown => (Render.unbroken_lineClass shown).mpr terminals
      terminator := fun _ shown => by
        obtain rfl := Except.ok.inj shown
        decide }
    intro part member
    obtain ⟨block, shown⟩ := Section.exists_lines_of_document rendered part member
    obtain ⟨content, shown, -⟩ := Section.lines_eq_ok.mp shown
    exact ⟨content, shown, Section.forall_mem_layout.mpr every part member content shown⟩

/-- A document has a line. -/
theorem renderLines_ne_nil {config : Config} {lines : List String}
    (rendered : config.renderLines = .ok lines) : lines ≠ [] := by
  obtain ⟨block, rest, first, -, rfl⟩ := Section.document_cons_eq_ok.mp rendered
  obtain ⟨content, -, rfl⟩ := Section.lines_eq_ok.mp first
  simp

end Config

end RunningConfig
