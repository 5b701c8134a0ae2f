import RunningConfig.Render.Default
import RunningConfig.Render.Fault
/-!
# The lines of an interface

An interface has a header and, in a fixed order, a line for each of its settings; what is unset
is left out or shown by its default. A placeholder follows every interface and stands alone for
a list without one.
-/

namespace RunningConfig.Render

/-- The address line of an interface. -/
def interfaceAddress : Option Ipv4Interface → Rendered String
  | some address => do
    let mask ← mask address.prefixLength
    return " ip address " ++ address.ip.toText ++ " " ++ mask
  | none => .ok " no ip address"

/-- The lines of an interface: its header, then description, address, duplex, speed, packet
size, clock rate and shutdown. -/
def interface (interface : Interface) : Rendered (List String) := do
  let address ← interfaceAddress interface.ip4Address
  return ["interface " ++ interface.port.name]
    ++ (interface.description.map (" description " ++ ·)).toList
    ++ [address]
    ++ [" duplex " ++ Keyword.word (interface.duplex.getD Default.duplex)]
    ++ [" speed " ++ Keyword.word (interface.speed.getD Default.speed)]
    ++ (interface.mtu.map fun mtu => " mtu " ++ toString mtu.toNat).toList
    ++ (interface.clockRate.map fun rate => " clock rate " ++ toString rate.toNat).toList
    ++ if interface.shutdown = some true then [" shutdown"] else []

/-- The lines of every interface, a placeholder after each. -/
def interfaces (items : List Interface) : Rendered (List String) :=
  if items.isEmpty then .ok [Default.placeholder]
  else do
    let blocks ← items.mapM interface
    return blocks.flatMap (· ++ [Default.placeholder])

end RunningConfig.Render
