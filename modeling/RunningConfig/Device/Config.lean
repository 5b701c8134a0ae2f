import RunningConfig.Device.Line
import RunningConfig.Device.Routing
import RunningConfig.Device.Services
/-!
# The configuration of a router

The whole tree. An unset field is left unset here: what the device takes instead is decided
where the tree is rendered.
-/

namespace RunningConfig

/-- The configuration of a router. -/
structure Config where
  /-- The version tag. -/
  version : Option String := none
  /-- The global services. -/
  services : Services := {}
  /-- The name of the router. -/
  hostname : Option String := none
  /-- The encoded secret of privileged mode. -/
  enableSecret : Option EnableSecret := none
  /-- The plain password of privileged mode. -/
  enablePassword : Option String := none
  /-- The method lists of authentication; a set block turns the new model on. -/
  aaaNewModel : Option Authentication := none
  /-- The local users, in the order they are shown. -/
  users : List User := []
  /-- Express forwarding. -/
  ipCef : Option Bool := none
  /-- Express forwarding of the longer addresses. -/
  ipv6Cef : Option Bool := none
  /-- Name lookup, carried along without a line of its own. -/
  ipDomainLookup : Option Bool := none
  /-- The domain name. -/
  ipDomainName : Option String := none
  /-- The message of the day. -/
  bannerMotd : Option String := none
  /-- The spanning tree protocol. -/
  spanningTreeMode : Option SpanningTreeMode := none
  /-- The interfaces, in the order they are shown. -/
  interfaces : List Interface := []
  /-- The OSPF process. -/
  routerOspf : Option Ospf := none
  /-- Classless routing. -/
  ipClassless : Option Bool := none
  /-- The static routes, in the order they are shown. -/
  ipRoute : Option (List StaticRoute) := none
  /-- Flow export and its version. -/
  ipFlowExport : Presence UInt16 := .absent
  /-- The console line. -/
  lineCon : Option Line := none
  /-- The auxiliary line. -/
  lineAux : Option Line := none
  /-- The virtual terminal lines. -/
  lineVty : Option Line := none
  deriving DecidableEq, Repr, Inhabited

namespace Config

/-- The configuration of one class of lines. -/
def line? (config : Config) : LineClass → Option Line
  | .console => config.lineCon
  | .auxiliary => config.lineAux
  | .virtualTerminal => config.lineVty

/-- The classes of lines that are configured, in the order they are shown. -/
def lines (config : Config) : List (LineClass × Line) :=
  (Keyword.all : List LineClass).filterMap fun kind => (config.line? kind).map (kind, ·)

/-- The authentication methods that are set, in the order they are shown. -/
def methods (config : Config) : List (String × AuthenticationMethod) :=
  (config.aaaNewModel.map Authentication.methods).getD []

/-- The ports the OSPF process sends no hellos to, none when unset. -/
def passivePorts (config : Config) : List Port :=
  (config.routerOspf.bind Ospf.passiveInterfaces).getD []

/-- The ports the configuration names: those of its interfaces, then the passive ones. -/
def ports (config : Config) : List Port :=
  config.interfaces.map Interface.port ++ config.passivePorts

/-- The static routes, none when unset. -/
def routes (config : Config) : List StaticRoute := config.ipRoute.getD []

end Config

end RunningConfig
