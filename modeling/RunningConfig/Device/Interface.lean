import RunningConfig.Address
import RunningConfig.Keyword
/-!
# Interfaces

An interface is named by its family and an index of slash delimited numbers. What it does not
set is left to the device.
-/

namespace RunningConfig

/-- The families of interfaces. -/
inductive InterfaceFamily where
  /-- A loopback interface, which has no link. -/
  | loopback
  /-- An Ethernet port of a gigabit a second. -/
  | gigabitEthernet
  /-- An Ethernet port of a hundred megabits a second. -/
  | fastEthernet
  /-- A serial port. -/
  | serial
  /-- The interface of a virtual network. -/
  | vlan
  deriving DecidableEq, Repr, Inhabited

instance : Keyword InterfaceFamily where
  all := [.loopback, .gigabitEthernet, .fastEthernet, .serial, .vlan]
  word
    | .loopback => "Loopback"
    | .gigabitEthernet => "GigabitEthernet"
    | .fastEthernet => "FastEthernet"
    | .serial => "Serial"
    | .vlan => "Vlan"
  mem_all choice := by cases choice <;> simp
  word_injective := by
    intro left right
    cases left <;> cases right <;> simp

/-- Which interface: its family and its index. -/
structure Port where
  /-- The family. -/
  family : InterfaceFamily
  /-- Slash delimited slot and port numbers. -/
  index : String
  deriving DecidableEq, Repr, Inhabited

namespace Port

/-- The name of a port: its family followed by its index. -/
def name (port : Port) : String := Keyword.word port.family ++ port.index

end Port

/-- An address and the prefix length of its subnet. -/
structure Ipv4Interface where
  /-- The address. -/
  ip : Address
  /-- The prefix length of the subnet. -/
  prefixLength : Int32
  deriving DecidableEq, Repr, Inhabited

/-- How both directions of a link share it. -/
inductive Duplex where
  /-- Negotiated. -/
  | auto
  /-- Both directions at once. -/
  | full
  /-- One direction at a time. -/
  | half
  deriving DecidableEq, Repr, Inhabited

instance : Keyword Duplex where
  all := [.auto, .full, .half]
  word
    | .auto => "auto"
    | .full => "full"
    | .half => "half"
  mem_all choice := by cases choice <;> simp
  word_injective := by
    intro left right
    cases left <;> cases right <;> simp

/-- The speed of a link in megabits a second. -/
inductive Speed where
  /-- Negotiated. -/
  | auto
  /-- Ten megabits a second. -/
  | ten
  /-- A hundred megabits a second. -/
  | hundred
  /-- A thousand megabits a second. -/
  | thousand
  deriving DecidableEq, Repr, Inhabited

instance : Keyword Speed where
  all := [.auto, .ten, .hundred, .thousand]
  word
    | .auto => "auto"
    | .ten => "10"
    | .hundred => "100"
    | .thousand => "1000"
  mem_all choice := by cases choice <;> simp
  word_injective := by
    intro left right
    cases left <;> cases right <;> simp

/-- An interface. -/
structure Interface where
  /-- Which interface this is. -/
  port : Port
  /-- Free text. -/
  description : Option String := none
  /-- The address. -/
  ip4Address : Option Ipv4Interface := none
  /-- The clock rate of a serial link. -/
  clockRate : Option UInt32 := none
  /-- The duplex. -/
  duplex : Option Duplex := none
  /-- The speed. -/
  speed : Option Speed := none
  /-- The largest packet. -/
  mtu : Option UInt16 := none
  /-- Turned off by the administrator. -/
  shutdown : Option Bool := none
  deriving DecidableEq, Repr, Inhabited

end RunningConfig
