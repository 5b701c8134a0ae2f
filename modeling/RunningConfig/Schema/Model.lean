import RunningConfig.Device.Schema
/-!
# Model values as a source

Model values are typed: text is text, an integer is an integer. They have no positions, so
their faults have no place. `null` stands for nothing where a field is optional, and for a
record without entries or a list without items.
-/

namespace RunningConfig

namespace Value

open Schema (Found Read Source)

/-- What a value is, for messages. -/
def found : Value → Found
  | null => .unit
  | boolean value => .boolean value
  | integer value => .integer value
  | float value => .float value
  | text value => .text value
  | list _ => .sequence
  | object _ => .map

/-- Refuse a value of the wrong kind. -/
def refuse {α : Type} (value : Value) (expected : String) : Read α :=
  .error { cause := .wrongType value.found expected }

/-- Give the outcome of a parse as that of a reader. -/
def accept {α : Type} : Except Schema.Cause α → Read α
  | .ok value => .ok value
  | .error cause => .error { cause }

/-- Reading from model values. -/
def source : Source Value where
  text expected parse
    | text value => accept (parse value)
    | value => value.refuse expected
  keyword choose
    | text value => accept (choose value)
    | value => value.refuse "a Value::Tagged enum"
  boolean
    | boolean value => .ok value
    | value => value.refuse "a boolean"
  integer α
    | integer value =>
      match MachineInteger.ofInt? value with
      | some held => .ok held
      | none => .error { cause := .wrongValue (.integer value) (MachineInteger.name α) }
    | value => value.refuse (MachineInteger.name α)
  optional
    | null => .ok none
    | value => .ok (some value)
  items
    | list items => .ok items
    | null => .ok []
    | value => value.refuse "a sequence"
  entries name
    | object entries => .ok (entries.map fun (key, value) => (text key, value))
    | null => .ok []
    | value => value.refuse ("struct " ++ name)
  within _ read := read

end Value

/-- Read a model value as a value of a shape. -/
def Schema.Shape.ofValue {α : Type} (shape : Schema.Shape α) (value : Value) : Schema.Read α :=
  shape.read Value.source value

namespace Config

/-- Read a configuration from a model value. -/
def ofValue (value : Value) : Schema.Read Config := Config.shape.ofValue value

end Config

end RunningConfig
