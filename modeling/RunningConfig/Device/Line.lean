import RunningConfig.Device.Access
/-!
# Terminal lines

A router has three classes of lines: the console, the auxiliary port, and the virtual
terminals. Each class is configured by one record of the same shape.
-/

namespace RunningConfig

/-- The classes of lines. -/
inductive LineClass where
  /-- The console. -/
  | console
  /-- The auxiliary port. -/
  | auxiliary
  /-- The virtual terminals. -/
  | virtualTerminal
  deriving DecidableEq, Repr, Inhabited

instance : Keyword LineClass where
  all := [.console, .auxiliary, .virtualTerminal]
  word
    | .console => "con"
    | .auxiliary => "aux"
    | .virtualTerminal => "vty"
  mem_all choice := by cases choice <;> simp
  word_injective := by
    intro left right
    cases left <;> cases right <;> simp

/-- Where messages of the log go on a line. -/
inductive LineLogging where
  /-- At once, printing the interrupted input again. -/
  | synchronous
  /-- To the terminal monitor. -/
  | monitor
  deriving DecidableEq, Repr, Inhabited

instance : Keyword LineLogging where
  all := [.synchronous, .monitor]
  word
    | .synchronous => "synchronous"
    | .monitor => "monitor"
  mem_all choice := by cases choice <;> simp
  word_injective := by
    intro left right
    cases left <;> cases right <;> simp

/-- What a login on a line is checked against. -/
inductive LoginMethod where
  /-- The local users. -/
  | localUsers
  /-- A method list. -/
  | authentication
  deriving DecidableEq, Repr, Inhabited

instance : Keyword LoginMethod where
  all := [.localUsers, .authentication]
  word
    | .localUsers => "local"
    | .authentication => "authentication"
  mem_all choice := by cases choice <;> simp
  word_injective := by
    intro left right
    cases left <;> cases right <;> simp

/-- How a login on a line is checked. -/
structure LoginPolicy where
  /-- The method. -/
  method : LoginMethod
  /-- The method list, of use with authentication only. -/
  methodList : Option String := none
  deriving DecidableEq, Repr, Inhabited

/-- The idle time after which a session ends. -/
structure ExecTimeout where
  /-- Minutes. -/
  minutes : Option UInt32 := none
  /-- Seconds. -/
  seconds : UInt32
  deriving DecidableEq, Repr, Inhabited

/-- The protocols a line accepts. -/
inductive TransportInput where
  /-- Every protocol. -/
  | all
  /-- No protocol. -/
  | none
  /-- The secure shell. -/
  | ssh
  /-- The telnet protocol. -/
  | telnet
  /-- Plain connections. -/
  | raw
  /-- The local area transport. -/
  | lat
  deriving DecidableEq, Repr, Inhabited

instance : Keyword TransportInput where
  all := [.all, .none, .ssh, .telnet, .raw, .lat]
  word
    | .all => "all"
    | .none => "none"
    | .ssh => "ssh"
    | .telnet => "telnet"
    | .raw => "raw"
    | .lat => "lat"
  mem_all choice := by cases choice <;> simp
  word_injective := by
    intro left right
    cases left <;> cases right <;> simp

/-- The configuration of one class of lines. -/
structure Line where
  /-- The first line number. -/
  portStart : Option UInt16 := none
  /-- The last line number. -/
  portEnd : Option UInt16 := none
  /-- Where messages go. -/
  logging : Option LineLogging := none
  /-- The password. -/
  password : Option Password := none
  /-- How a login is checked. -/
  login : Option LoginPolicy := none
  /-- The idle time of a session. -/
  execTimeout : ExecTimeout
  /-- The protocols accepted. -/
  transportInput : Option TransportInput := none
  deriving DecidableEq, Repr, Inhabited

end RunningConfig
