import RunningConfig.Number.Binary64
import RunningConfig.Text.Quoted
/-!
# Why a value does not fit the model

A fault is a cause and, where the source of the value has positions, a place: the path of the
node at fault and the line and column it starts at. Causes are data; their wording is
`Cause.message`.
-/

namespace RunningConfig.Schema

/-- What stands where something else is expected. -/
inductive Found where
  /-- Nothing. -/
  | unit
  /-- A truth value. -/
  | boolean (value : Bool)
  /-- An integer. -/
  | integer (value : Int)
  /-- An integer of more than 64 bits; the type it would need is named. -/
  | wideInteger (value : Int) (width : String)
  /-- A double. -/
  | float (value : Binary64)
  /-- A text. -/
  | text (value : String)
  /-- A list. -/
  | sequence
  /-- A record or another mapping. -/
  | map
  deriving DecidableEq, Repr

/-- What stands there, in words. -/
def Found.describe : Found → String
  | .unit => "unit value"
  | .boolean value => "boolean `" ++ toString value ++ "`"
  | .integer value => "integer `" ++ toString value ++ "`"
  | .wideInteger value width => "integer `" ++ toString value ++ "` as " ++ width
  | .float value => "floating point `" ++ value.toText ++ "`"
  | .text value => "string " ++ Text.quoted value
  | .sequence => "sequence"
  | .map => "map"

/-- Why a value does not fit. -/
inductive Cause where
  /-- Another kind of value is expected. -/
  | wrongType (found : Found) (expected : String)
  /-- Another value of the kind is expected. -/
  | wrongValue (found : Found) (expected : String)
  /-- A record has no field of that name. -/
  | unknownField (name : String) (candidates : List String)
  /-- A set of keywords has no such word. -/
  | unknownVariant (word : String) (candidates : List String)
  /-- A field is given twice. -/
  | duplicateField (name : String)
  /-- A field without a default is not given. -/
  | missingField (name : String)
  /-- The text of an address is not a dotted quad. -/
  | addressSyntax
  /-- No storage type of credentials has that number. -/
  | encryptionType (number : UInt8)
  deriving DecidableEq, Repr

/-- A list of alternatives, in words. -/
def alternatives (candidates : List String) : String :=
  match candidates.map fun candidate => "`" ++ candidate ++ "`" with
  | [only] => "expected " ++ only
  | [first, second] => "expected " ++ first ++ " or " ++ second
  | several => "expected one of " ++ ", ".intercalate several

/-- The wording of a cause. -/
def Cause.message : Cause → String
  | .wrongType found expected => "invalid type: " ++ found.describe ++ ", expected " ++ expected
  | .wrongValue found expected => "invalid value: " ++ found.describe ++ ", expected " ++ expected
  | .unknownField name candidates => "unknown field `" ++ name ++ "`, " ++ alternatives candidates
  | .unknownVariant word candidates =>
    "unknown variant `" ++ word ++ "`, " ++ alternatives candidates
  | .duplicateField name => "duplicate field `" ++ name ++ "`"
  | .missingField name => "missing field `" ++ name ++ "`"
  | .addressSyntax => "invalid IPv4 address syntax"
  | .encryptionType number =>
    "unknown encryption type " ++ toString number.toNat ++ ", expected one of 0, 5 or 7"

/-- The way from the root of a document to a node. -/
inductive Path where
  /-- The root itself. -/
  | root
  /-- Under a key of a mapping. -/
  | key (parent : Path) (name : String)
  /-- At a position of a sequence. -/
  | item (parent : Path) (index : Nat)
  /-- Under a key that is not plain text. -/
  | unnamed (parent : Path)
  deriving DecidableEq, Repr, Inhabited

namespace Path

mutual

/-- A path in words. -/
def toText : Path → String
  | root => "."
  | key parent name => parent.under ++ name
  | item parent index => parent.toText ++ "[" ++ toString index ++ "]"
  | unnamed parent => parent.under ++ "?"

/-- What precedes the name of a child: nothing at the root. -/
def under : Path → String
  | root => ""
  | key parent name => parent.under ++ name ++ "."
  | item parent index => parent.toText ++ "[" ++ toString index ++ "]."
  | unnamed parent => parent.under ++ "?."

end

end Path

/-- Where a fault is: the path of a node, and its line and column, counted from zero. -/
structure Place where
  /-- The way to the node. -/
  path : Path
  /-- The line that the node starts in. -/
  line : Nat
  /-- The column that it starts at. -/
  column : Nat
  deriving DecidableEq, Repr

/-- A reason to refuse a value, with its place when the source has places. -/
structure Fault where
  /-- Why the value does not fit. -/
  cause : Cause
  /-- Where it stands. -/
  place : Option Place := none
  deriving DecidableEq, Repr

/-- The message of a fault. The path is left out at the root, and the position at the very
start of the document. -/
def Fault.message (fault : Fault) : String :=
  match fault.place with
  | none => fault.cause.message
  | some ⟨path, line, column⟩ =>
    (if path = .root then "" else path.toText ++ ": ") ++ fault.cause.message
      ++ if line = 0 && column = 0 then ""
        else " at line " ++ toString (line + 1) ++ " column " ++ toString (column + 1)

/-- What reading gives: a value or the first fault met. -/
abbrev Read (α : Type) := Except Fault α

end RunningConfig.Schema
