import RunningConfig.Device.Config
/-!
# What the device takes for an unset field

The literal lines of the layout and the values that stand for unset fields when a configuration
is rendered. A line class has a default last line number only if it is the virtual terminals'.
-/

namespace RunningConfig.Default

/-- The line that separates sections and stands for an empty one. -/
def placeholder : String := "!"

/-- The last line of a document. -/
def terminator : String := "end"

/-- The software version. -/
def version : String := "16.6.4"

/-- The mode of a timestamp service that is on without one. -/
def timestampMode : TimestampMode := .datetimeMsec

/-- Passwords are stored as given. -/
def passwordEncryption : Bool := false

/-- Express forwarding is off. -/
def ipCef : Bool := false

/-- Express forwarding of version 6 is off. -/
def ipv6Cef : Bool := false

/-- The spanning tree mode. -/
def spanningTreeMode : SpanningTreeMode := .pvst

/-- An interface negotiates its duplex mode. -/
def duplex : Duplex := .auto

/-- An interface negotiates its speed. -/
def speed : Speed := .auto

/-- The privilege level of a user. -/
def privilege : UInt8 := 15

/-- Adjacency changes are logged. -/
def logAdjacencyChanges : Bool := true

/-- Routing is classless. -/
def ipClassless : Bool := true

/-- The version of flow export. -/
def flowExportVersion : UInt16 := 9

/-- The first line number of a class. -/
def linePortStart : UInt16 := 0

/-- The last line number of the virtual terminals. -/
def vtyPortEnd : UInt16 := 4

/-- The last line number of a class when none is set. -/
def linePortEnd? : LineClass → Option UInt16
  | .virtualTerminal => some vtyPortEnd
  | .console | .auxiliary => none

end RunningConfig.Default
