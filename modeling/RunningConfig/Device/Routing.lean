import RunningConfig.Device.Interface
/-!
# Routing

The spanning tree mode, the OSPF process with the networks it runs on, and static routes.
-/

namespace RunningConfig

/-- The spanning tree protocol in use. -/
inductive SpanningTreeMode where
  /-- One tree per vlan. -/
  | pvst
  /-- One rapid tree per vlan. -/
  | rapidPvst
  /-- Multiple trees. -/
  | mst
  deriving DecidableEq, Repr, Inhabited

instance : Keyword SpanningTreeMode where
  all := [.pvst, .rapidPvst, .mst]
  word
    | .pvst => "pvst"
    | .rapidPvst => "rapid-pvst"
    | .mst => "mst"
  mem_all choice := by cases choice <;> simp
  word_injective := by
    intro left right
    cases left <;> cases right <;> simp

/-- A network OSPF runs on. -/
structure OspfNetwork where
  /-- The address of the network. -/
  address : Address
  /-- The prefix length of the network. -/
  prefixLength : Int32
  /-- The area. -/
  area : UInt32
  deriving DecidableEq, Repr, Inhabited

/-- An OSPF process. -/
structure Ospf where
  /-- The number of the process. -/
  processId : UInt16
  /-- Log changes of adjacency. -/
  logAdjacencyChanges : Option Bool := none
  /-- Interfaces that are advertised but send no hellos. -/
  passiveInterfaces : Option (List Port) := none
  /-- The networks. -/
  networks : List OspfNetwork := []
  deriving DecidableEq, Repr, Inhabited

/-- A static route. -/
structure StaticRoute where
  /-- The address of the destination. -/
  destination : Address
  /-- The prefix length of the destination. -/
  prefixLength : Int32
  /-- The address of the next hop. -/
  forwardingRouter : Address
  deriving DecidableEq, Repr, Inhabited

end RunningConfig
