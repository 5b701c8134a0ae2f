import RunningConfig.Text.DecimalDigit
import RunningConfig.Text.Split
/-!
# Names the device accepts

Two grammars of names. An interface index is runs of decimal digits with single slashes between
them and at most one dot, before a last run. The name of a method list is 1 to 64 ASCII
letters, digits, underscores, hyphens and dots.
-/

namespace RunningConfig.Name

/-- A run of one or more decimal digits. -/
def isNumber (text : List Char) : Bool := !text.isEmpty && text.all Text.isDecimalDigit

/-- Runs of digits with single slashes between them. -/
def isSlashNumbers (text : List Char) : Bool := (Text.splitOn '/' text).all isNumber

/-- An interface index: slash delimited numbers, then at most one dot and a number. -/
def isPortIndex (text : String) : Bool :=
  match Text.splitOn '.' text.toList with
  | [slot] => isSlashNumbers slot
  | [slot, unit] => isSlashNumbers slot && isNumber unit
  | _ => false

/-- A character of the name of a method list. -/
def isMethodListChar (char : Char) : Bool :=
  char.isAlphanum || char = '_' || char = '-' || char = '.'

/-- The longest name of a method list. -/
def longestMethodList : Nat := 64

/-- The name of a method list. -/
def isMethodList (text : String) : Bool :=
  !text.toList.isEmpty && text.length ≤ longestMethodList && text.toList.all isMethodListChar

end RunningConfig.Name
