import RunningConfig.Render.Default
import RunningConfig.Render.Fault
/-!
# The lines of routing

The lines of the OSPF process and of the static routes. A network is written with the wildcard
of its prefix, a route with the mask. A list without routes leaves one placeholder.
-/

namespace RunningConfig.Render

/-- The line of an OSPF network. -/
def ospfNetwork (network : OspfNetwork) : Rendered String := do
  let wildcard ← wildcard network.prefixLength
  return " network " ++ network.address.toText ++ " " ++ wildcard ++ " area "
    ++ toString network.area.toNat

/-- The lines of an OSPF process: its header, logging of adjacency changes, passive interfaces
and networks. The device keeps a blank after the logging directive. -/
def ospf (process : Ospf) : Rendered (List String) := do
  let networks ← process.networks.mapM ospfNetwork
  return ["router ospf " ++ toString process.processId.toNat]
    ++ [if process.logAdjacencyChanges.getD Default.logAdjacencyChanges
        then " log-adjacency-changes " else " no log-adjacency-changes "]
    ++ (process.passiveInterfaces.getD []).map (fun port => " passive-interface " ++ port.name)
    ++ networks

/-- The line of a static route. -/
def staticRoute (route : StaticRoute) : Rendered String := do
  let mask ← mask route.prefixLength
  return "ip route " ++ route.destination.toText ++ " " ++ mask ++ " "
    ++ route.forwardingRouter.toText

/-- The lines of every static route. -/
def staticRoutes (items : List StaticRoute) : Rendered (List String) :=
  if items.isEmpty then .ok [Default.placeholder] else items.mapM staticRoute

end RunningConfig.Render
