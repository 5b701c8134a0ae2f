import RunningConfig.Device.Schema
import RunningConfig.Yaml.Printer.Scalar
/-!
# Writing documents

A model value is written as a block document. Lists and objects without entries are written in
flow style. A list stands at the column of the key it belongs to, an object two columns right
of it.
-/

namespace RunningConfig

namespace Yaml.Printer

/-- A value that takes no further lines of its own, but for a text, and the end of its line. -/
def onLine (indent : Nat) : Value → List Char
  | .null => "null\n".toList
  | .boolean value => (toString value).toList ++ ['\n']
  | .integer value => (toString value).toList ++ ['\n']
  | .float value => value.toText.toList ++ ['\n']
  | .text value => scalar indent value
  | .list _ => "[]\n".toList
  | .object _ => "\x7b\x7d\n".toList

mutual

/-- What follows the colon of a key at a column. -/
def afterKey (column : Nat) : Value → List Char
  | .list (first :: items) => '\n' :: listItems column (first :: items)
  | .object (first :: entries) =>
    '\n' :: spaces (column + 2) ++ objectEntries (column + 2) (first :: entries)
  | value => ' ' :: onLine (column + 2) value

/-- What follows the hyphen of an item at a column. -/
def afterHyphen (column : Nat) : Value → List Char
  | .list (first :: items) =>
    ' ' :: '-' :: afterHyphen (column + 2) first ++ listItems (column + 2) items
  | .object (first :: entries) => ' ' :: objectEntries (column + 2) (first :: entries)
  | value => ' ' :: onLine (column + 2) value

/-- The items of a list at a column. -/
def listItems (column : Nat) : List Value → List Char
  | [] => []
  | item :: items => spaces column ++ '-' :: afterHyphen column item ++ listItems column items

/-- The entries of an object at a column. The first one is indented already. -/
def objectEntries (column : Nat) : List (String × Value) → List Char
  | [] => []
  | (key, value) :: entries =>
    key.toList ++ ':' :: afterKey column value
      ++ (if entries.isEmpty then [] else spaces column) ++ objectEntries column entries

end

/-- The document of a model value. -/
def document (value : Value) : String :=
  String.ofList <|
    match value with
    | .list (first :: items) => listItems 0 (first :: items)
    | .object (first :: entries) => objectEntries 0 (first :: entries)
    | value => onLine 0 value

end Yaml.Printer

namespace Config

/-- The yaml document of a configuration. -/
def toYaml (config : Config) : String := Yaml.Printer.document (Config.shape.write config)

end Config

end RunningConfig
