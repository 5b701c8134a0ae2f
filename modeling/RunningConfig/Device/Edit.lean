import RunningConfig.Device.Config
/-!
# Assembling a configuration

An edit sets one slot of a configuration or appends to one of its lists; a configuration is
assembled by applying edits in order to the empty one. Nothing is checked here.
-/

namespace RunningConfig

/-- One step in assembling a configuration. -/
inductive Edit where
  /-- Set the version tag. -/
  | version (text : String)
  /-- Set the global services. -/
  | services (value : Services)
  /-- Set the name of the router. -/
  | hostname (text : String)
  /-- Set the encoded secret of privileged mode. -/
  | enableSecret (value : EnableSecret)
  /-- Set the plain password of privileged mode. -/
  | enablePassword (text : String)
  /-- Turn the new model of authentication on, with its method lists. -/
  | aaa (value : Authentication)
  /-- Append a local user. -/
  | user (value : User)
  /-- Set express forwarding, of both kinds of addresses at once. -/
  | cef (ipv4 ipv6 : Bool)
  /-- Set name lookup. -/
  | domainLookup (on : Bool)
  /-- Set the domain name. -/
  | domainName (text : String)
  /-- Set the message of the day. -/
  | bannerMotd (text : String)
  /-- Set the spanning tree protocol. -/
  | spanningTreeMode (mode : SpanningTreeMode)
  /-- Append an interface. -/
  | interface (value : Interface)
  /-- Set the OSPF process. -/
  | ospf (value : Ospf)
  /-- Set classless routing. -/
  | classless (on : Bool)
  /-- Append a static route. -/
  | staticRoute (value : StaticRoute)
  /-- Turn flow export on, with or without a version. -/
  | flowExport (version : Option UInt16)
  /-- Set the configuration of a class of lines. -/
  | line (kind : LineClass) (value : Line)
  deriving DecidableEq, Repr

namespace Edit

/-- The configuration after an edit. Users, interfaces and static routes are appended; every
other edit replaces what its slot held. -/
def apply : Edit → Config → Config
  | .version text, config => { config with version := some text }
  | .services value, config => { config with services := value }
  | .hostname text, config => { config with hostname := some text }
  | .enableSecret value, config => { config with enableSecret := some value }
  | .enablePassword text, config => { config with enablePassword := some text }
  | .aaa value, config => { config with aaaNewModel := some value }
  | .user value, config => { config with users := config.users ++ [value] }
  | .cef ipv4 ipv6, config => { config with ipCef := some ipv4, ipv6Cef := some ipv6 }
  | .domainLookup on, config => { config with ipDomainLookup := some on }
  | .domainName text, config => { config with ipDomainName := some text }
  | .bannerMotd text, config => { config with bannerMotd := some text }
  | .spanningTreeMode mode, config => { config with spanningTreeMode := some mode }
  | .interface value, config => { config with interfaces := config.interfaces ++ [value] }
  | .ospf value, config => { config with routerOspf := some value }
  | .classless on, config => { config with ipClassless := some on }
  | .staticRoute value, config => { config with ipRoute := some (config.routes ++ [value]) }
  | .flowExport number, config => { config with ipFlowExport := .ofParts true number }
  | .line .console value, config => { config with lineCon := some value }
  | .line .auxiliary value, config => { config with lineAux := some value }
  | .line .virtualTerminal value, config => { config with lineVty := some value }

end Edit

namespace Config

/-- The configuration that edits make of the empty one, first edit first. -/
def assemble (edits : List Edit) : Config :=
  edits.foldl (fun config edit => edit.apply config) {}

end Config

end RunningConfig
