import RunningConfig.Render.Access
import RunningConfig.Render.Interface
import RunningConfig.Render.Line
import RunningConfig.Render.Routing
/-!
# Sections of a document

A document is nineteen sections in a fixed order. A section has a content, made from the
configuration, and a number of separators before and after it that do not depend on the
configuration.
-/

namespace RunningConfig

namespace Render

/-- The version line. -/
def versionLines (config : Config) : Rendered (List String) :=
  .ok ["version " ++ config.version.getD Default.version]

/-- The line of one timestamp service: on by the presence of its block. -/
def timestamps (kind : String) (presence : Presence TimestampMode) : String :=
  toggle presence.isPresent
    ("service timestamps " ++ kind ++ " " ++ Keyword.word (presence.valueOr Default.timestampMode))

/-- The lines of the services: timestamps of log and debug messages, then password encryption. -/
def serviceLines (config : Config) : Rendered (List String) :=
  .ok [
    timestamps "log" config.services.timestampsLog,
    timestamps "debug" config.services.timestampsDebug,
    toggle (config.services.passwordEncryption.getD Default.passwordEncryption)
      "service password-encryption"]

/-- The host name line. -/
def hostnameLines (config : Config) : Rendered (List String) :=
  .ok [orPlaceholder (config.hostname.map ("hostname " ++ ·))]

/-- The enable secret and the enable password. -/
def enableLines (config : Config) : Rendered (List String) := do
  let secret ← match config.enableSecret with
    | some secret => enableSecret secret
    | none => .ok Default.placeholder
  return [secret, orPlaceholder (config.enablePassword.map ("enable password " ++ ·))]

/-- The new authentication model: its directive, a separator and the three methods. -/
def aaaLines (config : Config) : Rendered (List String) :=
  let block := config.aaaNewModel
  .ok [
    orPlaceholder (block.map fun _ => "aaa new-model"),
    Default.placeholder,
    orPlaceholder ((block.bind Authentication.login).map (authentication "login")),
    orPlaceholder ((block.bind Authentication.enable).map (authentication "enable")),
    orPlaceholder ((block.bind Authentication.ppp).map (authentication "ppp"))]

/-- Express forwarding for both address families. -/
def forwardingLines (config : Config) : Rendered (List String) :=
  .ok [
    toggle (config.ipCef.getD Default.ipCef) "ip cef",
    toggle (config.ipv6Cef.getD Default.ipv6Cef) "ipv6 cef"]

/-- The domain name line. -/
def domainLines (config : Config) : Rendered (List String) :=
  .ok [orPlaceholder (config.ipDomainName.map ("ip domain-name " ++ ·))]

/-- The spanning tree mode line. -/
def spanningTreeLines (config : Config) : Rendered (List String) :=
  .ok ["spanning-tree mode "
    ++ Keyword.word (config.spanningTreeMode.getD Default.spanningTreeMode)]

/-- The OSPF process, or a placeholder when there is none. -/
def ospfLines (config : Config) : Rendered (List String) :=
  match config.routerOspf with
  | some process => ospf process
  | none => .ok [Default.placeholder]

/-- The classless routing line. -/
def classlessLines (config : Config) : Rendered (List String) :=
  .ok [if config.ipClassless.getD Default.ipClassless then "ip classless" else "no ip classless"]

/-- The flow export line, the same whether its block is missing or without a version. -/
def flowExportLines (config : Config) : Rendered (List String) :=
  .ok ["ip flow-export "
    ++ toString (config.ipFlowExport.valueOr Default.flowExportVersion).toNat]

/-- The banner stands between two delimiters. -/
def bannerLines (config : Config) : Rendered (List String) :=
  .ok [orPlaceholder (config.bannerMotd.map fun text => "banner motd # " ++ text ++ " #")]

end Render

/-- A section: its name, its separators and its content. -/
structure Section where
  /-- The name of the section. -/
  name : String
  /-- Separators before the content. -/
  leading : Nat
  /-- The content, made from the configuration alone. -/
  content : Config → Rendered (List String)
  /-- Separators after the content. -/
  trailing : Nat

namespace Section

/-- The sections of a document, first to last. -/
def layout : List Section := [
  ⟨"version", 1, Render.versionLines, 0⟩,
  ⟨"services", 0, Render.serviceLines, 1⟩,
  ⟨"hostname", 0, Render.hostnameLines, 3⟩,
  ⟨"enable", 0, Render.enableLines, 5⟩,
  ⟨"aaa", 0, Render.aaaLines, 7⟩,
  ⟨"forwarding", 0, Render.forwardingLines, 3⟩,
  ⟨"users", 0, fun config => Render.users config.users, 8⟩,
  ⟨"domain", 0, Render.domainLines, 2⟩,
  ⟨"spanning-tree", 0, Render.spanningTreeLines, 6⟩,
  ⟨"interfaces", 0, fun config => Render.interfaces config.interfaces, 0⟩,
  ⟨"ospf", 0, Render.ospfLines, 1⟩,
  ⟨"classless", 0, Render.classlessLines, 0⟩,
  ⟨"routes", 0, fun config => Render.staticRoutes config.routes, 1⟩,
  ⟨"flow-export", 0, Render.flowExportLines, 3⟩,
  ⟨"banner", 0, Render.bannerLines, 5⟩,
  ⟨"line-con", 0, fun config => Render.lineClass .console config.lineCon, 1⟩,
  ⟨"line-aux", 0, fun config => Render.lineClass .auxiliary config.lineAux, 1⟩,
  ⟨"line-vty", 0, fun config => Render.lineClass .virtualTerminal config.lineVty, 1⟩,
  ⟨"end", 2, fun _ => .ok [Default.terminator], 0⟩]

/-- The lines of a section: its content between its separators. -/
def lines (part : Section) (config : Config) : Rendered (List String) := do
  let content ← part.content config
  return List.replicate part.leading Default.placeholder ++ content
    ++ List.replicate part.trailing Default.placeholder

end Section

end RunningConfig
