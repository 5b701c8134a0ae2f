import RunningConfig.Device.Config
import RunningConfig.Device.Name
/-!
# What the types leave to check

A configuration can hold values the device would reject. `Config.violations` lists them in a
fixed order, users first, then ports, authentication methods and lines; the first one is the
reason to refuse the configuration.
-/

namespace RunningConfig

/-- A value the device would reject. -/
inductive Violation where
  /-- The privilege level of a user is out of range. -/
  | privilege (username : Username) (level : UInt8)
  /-- The index of a port is not slash delimited numbers. -/
  | portIndex (port : Port)
  /-- An authentication method has no source to try. -/
  | noSources (keyword : String)
  /-- The method list of an authentication method has no valid name. -/
  | methodList (keyword : String) (name : String)
  /-- The method list of a login policy has no valid name. -/
  | loginMethodList (kind : LineClass) (name : String)
  deriving DecidableEq, Repr

namespace Violation

/-- The details of a violation, in words. -/
def details : Violation → String
  | privilege username level =>
    "user '" ++ Keyword.word username ++ "' has privilege " ++ toString level.toNat
      ++ ", must be between " ++ toString lowestPrivilege.toNat
      ++ " and " ++ toString highestPrivilege.toNat
  | portIndex port =>
    "interface index '" ++ port.index ++ "' of '" ++ port.name
      ++ "' is not slash delimited numbers"
  | noSources keyword => "aaa authentication " ++ keyword ++ " has no authentication sources"
  | methodList keyword name =>
    "aaa authentication " ++ keyword ++ " method list '" ++ name ++ "' is not a valid name"
  | loginMethodList kind name =>
    "line " ++ Keyword.word kind ++ " login method list '" ++ name ++ "' is not a valid name"

/-- The message that refuses a configuration. -/
def message (violation : Violation) : String := "invalid device config: " ++ violation.details

end Violation

/-- A user's privilege level, when set, is in range. -/
def User.violations (user : User) : List Violation :=
  match user.privilege with
  | some level =>
    if lowestPrivilege ≤ level && level ≤ highestPrivilege then []
    else [.privilege user.username level]
  | none => []

/-- A port's index is slash delimited numbers. -/
def Port.violations (port : Port) : List Violation :=
  if Name.isPortIndex port.index then [] else [.portIndex port]

/-- An authentication method has a source, and its list has a valid name. -/
def AuthenticationMethod.violations (keyword : String) (method : AuthenticationMethod) :
    List Violation :=
  (if method.sources.isEmpty then [.noSources keyword] else [])
    ++ if Name.isMethodList method.methodList then [] else [.methodList keyword method.methodList]

/-- The method list of a line's login policy, when set, has a valid name. -/
def Line.violations (kind : LineClass) (line : Line) : List Violation :=
  match line.login.bind LoginPolicy.methodList with
  | some name => if Name.isMethodList name then [] else [.loginMethodList kind name]
  | none => []

namespace Config

/-- Every violation of a configuration, in the order they are reported. -/
def violations (config : Config) : List Violation :=
  config.users.flatMap User.violations
    ++ config.ports.flatMap Port.violations
    ++ config.methods.flatMap (fun (keyword, method) => method.violations keyword)
    ++ config.lines.flatMap fun (kind, line) => line.violations kind

/-- Accept a configuration without violations, else give the first one. -/
def validate (config : Config) : Except Violation Unit :=
  match config.violations with
  | [] => .ok ()
  | first :: _ => .error first

end Config

end RunningConfig
