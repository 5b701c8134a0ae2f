import RunningConfig.Device.Violation
import RunningConfig.FileTree.Files
import RunningConfig.Yaml.Source
/-!
# Loading a configuration

A configuration is loaded from yaml text, which may be in a file. It is refused if the text is
malformed or does not fit the schema, and then if it holds a violation.
-/

namespace RunningConfig

/-- Why a configuration cannot be loaded. -/
inductive LoadFault where
  /-- The text does not give a configuration. -/
  | yaml (fault : Yaml.TextFault)
  /-- The file cannot be read. -/
  | file (fault : IoFault)
  /-- No template has that name. -/
  | unknownTemplate (name : String)
  /-- The configuration holds a value the device would reject. -/
  | invalid (violation : Violation)
  deriving DecidableEq, Repr

/-- The message of a fault. -/
def LoadFault.message : LoadFault → String
  | yaml fault => "failed deserializing device config, error: " ++ fault.message
  | file fault => fault.message
  | unknownTemplate name => "unknown template name '" ++ name ++ "'"
  | invalid violation => violation.message

namespace Config

/-- The configuration of a yaml text. -/
def ofYaml (text : String) : Except LoadFault Config :=
  match Config.shape.ofYaml text with
  | .error fault => .error (.yaml fault)
  | .ok config =>
    match config.validate with
    | .error violation => .error (.invalid violation)
    | .ok () => .ok config

/-- The configuration of a yaml file. -/
def ofFile {m : Type → Type} [Monad m] (files : Files m) (path : String) :
    m (Except LoadFault Config) := do
  match ← files.readText path with
  | .error fault => return .error (.file fault)
  | .ok text => return ofYaml text

end Config

end RunningConfig
