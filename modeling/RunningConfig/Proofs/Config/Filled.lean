import RunningConfig.Device.Violation
import RunningConfig.Proofs.Render.Document
/-!
# Configurations with every default written out

A configuration may leave most of its fields unset, and the device then takes a default of its
own. `Config.filled` writes those defaults into the tree. Nothing that reads a configuration can
tell the two apart: they render to the same text or fail with the same fault, and they hold the
same violations. The name lookup field has no line, so it may hold anything.
-/

namespace RunningConfig

/-- A block that is there gets a value; a missing one stays missing. -/
def Presence.completed {α : Type} (value : α) : Presence α → Presence α
  | .absent => .absent
  | .defaulted => .valued value
  | .valued given => .valued given

/-- Services with the mode of each timestamp block that is there, and password encryption off. -/
def Services.filled (services : Services) : Services where
  timestampsDebug := services.timestampsDebug.completed .datetimeMsec
  timestampsLog := services.timestampsLog.completed .datetimeMsec
  passwordEncryption := some (services.passwordEncryption.getD false)

/-- A password with its storage type, plain text when unset. -/
def Password.filled (password : Password) : Password :=
  { password with encryption := some (password.encryption.getD .plaintext) }

/-- A user with the highest privilege when unset, and the storage type of the password. -/
def User.filled (user : User) : User :=
  { user with privilege := some (user.privilege.getD 15), password := user.password.filled }

/-- An interface that negotiates duplex and speed and is up unless it says otherwise. -/
def Interface.filled (interface : Interface) : Interface :=
  { interface with
    duplex := some (interface.duplex.getD .auto)
    speed := some (interface.speed.getD .auto)
    shutdown := some (interface.shutdown.getD false) }

/-- A process that logs changes of adjacency and lists its passive interfaces. -/
def Ospf.filled (process : Ospf) : Ospf :=
  { process with
    logAdjacencyChanges := some (process.logAdjacencyChanges.getD true)
    passiveInterfaces := some (process.passiveInterfaces.getD []) }

/-- The last line number of a class: only the virtual terminals have one when it is unset. -/
def LineClass.filledEnd : LineClass → Option UInt16 → Option UInt16
  | .virtualTerminal, last => some (last.getD 4)
  | .console, last | .auxiliary, last => last

/-- A line of a class with its line numbers and the storage type of its password. -/
def Line.filled (kind : LineClass) (line : Line) : Line :=
  { line with
    portStart := some (line.portStart.getD 0)
    portEnd := kind.filledEnd line.portEnd
    password := line.password.map Password.filled }

/-- The configuration with the default of every unset field written out. Flow export has the
same default whether its block is missing or holds no version. -/
def Config.filled (config : Config) : Config :=
  { config with
    version := some (config.version.getD "16.6.4")
    services := config.services.filled
    users := config.users.map User.filled
    ipCef := some (config.ipCef.getD false)
    ipv6Cef := some (config.ipv6Cef.getD false)
    spanningTreeMode := some (config.spanningTreeMode.getD .pvst)
    interfaces := config.interfaces.map Interface.filled
    routerOspf := config.routerOspf.map Ospf.filled
    ipClassless := some (config.ipClassless.getD true)
    ipRoute := some (config.ipRoute.getD [])
    ipFlowExport := .valued (config.ipFlowExport.valueOr 9)
    lineCon := config.lineCon.map (Line.filled .console)
    lineAux := config.lineAux.map (Line.filled .auxiliary)
    lineVty := config.lineVty.map (Line.filled .virtualTerminal) }

/-! ## Lines of filled parts -/

/-- A completed block is there exactly when the block is. -/
@[simp] theorem Presence.isPresent_completed {α : Type} (value : α) (presence : Presence α) :
    (presence.completed value).isPresent = presence.isPresent := by
  cases presence <;> rfl

/-- A completed block has the value that stands for a missing one. -/
@[simp] theorem Presence.valueOr_completed {α : Type} (value : α) (presence : Presence α) :
    (presence.completed value).valueOr value = presence.valueOr value := by
  cases presence <;> rfl

namespace Render

/-- The line of a filled user is that of the user. -/
theorem user_filled (account : User) : user account.filled = user account := rfl

/-- The lines of a filled interface are those of the interface. -/
theorem interface_filled (port : Interface) : interface port.filled = interface port := by
  have down : (some (port.shutdown.getD false) = some true) = (port.shutdown = some true) := by
    cases port.shutdown <;> simp
  simp only [interface, Interface.filled, Option.getD_some, down, Default.duplex, Default.speed]

/-- The lines of a filled process are those of the process. -/
theorem ospf_filled (process : Ospf) : ospf process.filled = ospf process := rfl

/-- The header of a class names the same line numbers when they are written out. -/
theorem lineHeader_filled (kind : LineClass) (line : Option Line) :
    lineHeader kind (line.map (Line.filled kind)) = lineHeader kind line := by
  cases line with
  | none => rfl
  | some line =>
    have last : (kind.filledEnd line.portEnd).or (Default.linePortEnd? kind) =
        line.portEnd.or (Default.linePortEnd? kind) := by
      cases kind <;> cases line.portEnd <;> rfl
    simp only [lineHeader, Option.map_some, Option.bind_some, Line.filled, Option.getD_some, last,
      Default.linePortStart]

/-- The body of a filled line is that of the line. -/
theorem lineBody_filled (kind : LineClass) (line : Line) :
    lineBody (line.filled kind) = lineBody line := by
  simp only [lineBody, Line.filled]
  cases line.password <;> rfl

/-- The lines of a class are the same when its line is filled. -/
theorem lineClass_filled (kind : LineClass) (line : Option Line) :
    lineClass kind (line.map (Line.filled kind)) = lineClass kind line := by
  simp only [lineClass, lineHeader_filled]
  cases line with
  | none => rfl
  | some line => simp only [Option.map_some, lineBody_filled]

/-- The line of a timestamp service is the same when its block is completed. -/
theorem timestamps_completed (kind : String) (presence : Presence TimestampMode) :
    timestamps kind (presence.completed .datetimeMsec) = timestamps kind presence := by
  rw [timestamps, timestamps, Presence.isPresent_completed, Default.timestampMode,
    Presence.valueOr_completed]

/-- A traversal of filled items is that of the items when each has the same lines. -/
theorem mapM_filled {α β : Type} {act : α → Rendered β} {fill : α → α}
    (same : ∀ item, act (fill item) = act item) (items : List α) :
    (items.map fill).mapM act = items.mapM act := by
  rw [List.mapM_map]
  exact Rendered.mapM_congr fun item _ => same item

end Render

namespace Config

/-- Every section has the same content when the defaults are written out, whatever stands in the
field for name lookup. -/
theorem content_filled (config : Config) (lookup : Option Bool) : ∀ part ∈ Section.layout,
    part.content { config.filled with ipDomainLookup := lookup } = part.content config :=
  Section.forall_mem_layout.mpr
    { version := rfl
      services := by
        simp only [Render.serviceLines, filled, Services.filled, Render.timestamps_completed,
          Option.getD_some, Default.passwordEncryption]
      hostname := rfl
      enable := rfl
      aaa := rfl
      forwarding := rfl
      users := by
        simp only [filled, Render.users, List.isEmpty_map, Render.mapM_filled Render.user_filled]
      domain := rfl
      spanningTree := rfl
      interfaces := by
        simp only [filled, Render.interfaces, List.isEmpty_map,
          Render.mapM_filled Render.interface_filled]
      ospf := by
        simp only [Render.ospfLines, filled]
        cases config.routerOspf with
        | none => rfl
        | some process => exact Render.ospf_filled process
      classless := rfl
      routes := rfl
      flowExport := rfl
      banner := rfl
      lineCon := Render.lineClass_filled _ _
      lineAux := Render.lineClass_filled _ _
      lineVty := Render.lineClass_filled _ _
      terminator := rfl }

/-- The field for name lookup is in no section. -/
theorem content_domainLookup (config : Config) (lookup : Option Bool) : ∀ part ∈ Section.layout,
    part.content { config with ipDomainLookup := lookup } = part.content config :=
  Section.forall_mem_layout.mpr (by constructor <;> rfl)

end Config

/-! ## Violations of a filled configuration -/

/-- The default privilege is in range, so a filled user violates what the user does. -/
theorem User.violations_filled (user : User) : user.filled.violations = user.violations := by
  obtain ⟨name, privilege, password⟩ := user
  cases privilege <;> rfl

/-- A filled line keeps its login policy. -/
theorem Line.violations_filled (kind : LineClass) (line : Line) :
    (line.filled kind).violations kind = line.violations kind := rfl

namespace Config

/-- The lines of a filled configuration are its lines, filled. -/
theorem lines_filled (config : Config) : config.filled.lines =
    config.lines.map fun (kind, line) => (kind, line.filled kind) := by
  have line? : ∀ kind, config.filled.line? kind = (config.line? kind).map (Line.filled kind) := by
    intro kind
    cases kind <;> rfl
  simp only [lines, line?, List.map_filterMap, Option.map_map, Function.comp_def]

/-- A filled configuration has the passive ports of the configuration. -/
theorem passivePorts_filled (config : Config) :
    config.filled.passivePorts = config.passivePorts := by
  simp only [passivePorts, filled]
  cases config.routerOspf <;> rfl

/-- Writing the defaults out changes no violation. -/
theorem violations_filled (config : Config) : config.filled.violations = config.violations := by
  have users : config.filled.users.flatMap User.violations =
      config.users.flatMap User.violations := by
    simp only [filled, List.flatMap_map, User.violations_filled]
  have ports : config.filled.ports = config.ports := by
    simp only [Config.ports, passivePorts_filled]
    simp only [filled, List.map_map]
    rfl
  have methods : config.filled.methods = config.methods := rfl
  simp only [violations, users, ports, methods, lines_filled, List.flatMap_map,
    Line.violations_filled]

/-- A filled configuration is accepted or refused as the configuration is. -/
theorem validate_filled (config : Config) : config.filled.validate = config.validate := by
  simp only [validate, violations_filled]

/-- Writing the defaults out shows nowhere: the filled configuration renders to the same text or
fails with the same fault, and it is accepted or refused for the same reason. The same is true
of any change to the field for name lookup, with or without the defaults written out. -/
theorem filled_indistinguishable (config : Config) :
    config.filled.render = config.render ∧ config.filled.validate = config.validate ∧
      ∀ lookup : Option Bool,
        { config.filled with ipDomainLookup := lookup }.render = config.render ∧
        { config.filled with ipDomainLookup := lookup }.validate = config.validate ∧
        { config with ipDomainLookup := lookup }.render = config.render ∧
        { config with ipDomainLookup := lookup }.validate = config.validate := by
  refine ⟨?_, config.validate_filled, fun lookup => ⟨?_, ?_, ?_, rfl⟩⟩
  · exact render_congr (config.content_filled config.ipDomainLookup)
  · exact render_congr (config.content_filled lookup)
  · exact config.validate_filled
  · exact render_congr (config.content_domainLookup lookup)

end Config

end RunningConfig
