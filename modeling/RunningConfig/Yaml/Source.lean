import RunningConfig.Device.Schema
import RunningConfig.Yaml.Document
import RunningConfig.Yaml.Scalar
/-!
# Yaml documents as a source

The nodes of a document are read by what is asked for. Any scalar is text. A boolean or an
integer is a plain scalar, or a literal one with the tag of its kind. A plain scalar that is
empty stands for a record without entries and a list without items, and one that is empty or a
word for null stands for an unset option. A tag that starts with an exclamation mark is a
keyword itself. Faults carry the path and the position of the node they were met at.
-/

namespace RunningConfig

namespace Yaml

open Schema (Found Cause Path Place Fault Read Source)

/-- A node and the way to it. -/
structure View where
  /-- The node. -/
  node : Node
  /-- The way to it from the root. -/
  path : Path
  deriving Repr, Inhabited

/-- Tags of the core schema. -/
def coreTag (name : String) : String := "tag:yaml.org,2002:" ++ name

/-- What the text of a scalar is under a tag of the core schema. -/
def coreFound? (tag text : String) : Option (Except Cause Found) :=
  let parsed (expected : String) (found? : Option Found) : Except Cause Found :=
    match found? with
    | some found => .ok found
    | none => .error (.wrongValue (.text text) expected)
  if tag = coreTag "bool" then some (parsed "a boolean" ((Scalar.boolean? text).map .boolean))
  else if tag = coreTag "int" then some (parsed "an integer" (Scalar.integer? text))
  else if tag = coreTag "float" then some (parsed "a float" ((Scalar.float? text).map .float))
  else if tag = coreTag "null" then
    some (parsed "null" (if Scalar.isNullWord text then some .unit else none))
  else none

/-- What a scalar is. -/
def foundScalar (tag : Option String) (style : ScalarStyle) (text : String) :
    Except Cause Found :=
  match tag with
  | none => .ok (if style = .plain then Scalar.resolve text else .text text)
  | some tag =>
    match coreFound? tag text with
    | some found => found
    | none =>
      .ok (if style = .plain && tag.startsWith "!" then Scalar.resolve text else .text text)

/-- The keyword in a tag: what follows its exclamation mark, or the mark if it stands alone. -/
def tagWord? (tag : Option String) : Option String :=
  match tag.map String.toList with
  | some ['!'] => some "!"
  | some ('!' :: rest) => some (String.ofList rest)
  | _ => none

namespace Document

/-- The node that a reference stands for; any other node stands for itself. -/
def resolve (document : Document) : Node → Node
  | .reference mark anchor => (document.find? anchor).getD (.reference mark anchor)
  | node => node

end Document

namespace View

/-- A cause at a node of a document. -/
def fault (view : View) (document : Document) (cause : Cause) : Fault :=
  let mark := (document.resolve view.node).mark
  { cause, place := some { path := view.path, line := mark.line, column := mark.column } }

/-- A node is of the wrong kind. -/
def unfit {α : Type} (view : View) (document : Document) (expected : String) : Read α :=
  .error (view.fault document
    (match document.resolve view.node with
    | .scalar head style text =>
      match foundScalar head.tag style text with
      | .ok found => .wrongType found expected
      | .error cause => cause
    | .sequence _ _ => .wrongType .sequence expected
    | .mapping _ _ => .wrongType .map expected
    | .reference _ _ => .wrongType .unit expected))

/-- The outcome of a parse at a node. -/
def accept {α : Type} (view : View) (document : Document) : Except Cause α → Read α
  | .ok value => .ok value
  | .error cause => .error (view.fault document cause)

/-- Give a fault without a place that of a node. -/
def within {α : Type} (view : View) (document : Document) : Read α → Read α
  | .error { cause, place := none } => .error (view.fault document cause)
  | read => read

/-- The node beside a tag that is a keyword, which must hold nothing. -/
def holdsNothing (view : View) (document : Document) : Read Unit :=
  match document.resolve view.node with
  | .scalar _ style text =>
    if style = .plain && Scalar.isNull text then .ok ()
    else .error (view.fault document (.wrongValue (.text text) "null"))
  | _ => view.unfit document "unit"

/-- A keyword is a scalar, or a tag on a node that holds nothing. -/
def keyword {α : Type} (view : View) (document : Document) (choose : String → Except Cause α) :
    Read α :=
  let tagged (word : String) : Read α :=
    match choose word with
    | .ok choice => do
      view.holdsNothing document
      return choice
    | .error cause => .error { cause }
  match document.resolve view.node with
  | .scalar head _ text =>
    match tagWord? head.tag with
    | some word => tagged word
    | none => view.accept document (choose text)
  | .sequence head _ | .mapping head _ =>
    match tagWord? head.tag with
    | some word => tagged word
    | none => view.unfit document "a YAML tag starting with '!'"
  | .reference _ _ => view.unfit document "a YAML tag starting with '!'"

/-- The text of a node that may hold a value of a kind: a plain scalar, or a literal one with
the tag of the kind. -/
def plainText? (view : View) (document : Document) (kind : String) : Option String :=
  match document.resolve view.node with
  | .scalar head style text =>
    if style = .plain || (style = .literal && head.tag = some (coreTag kind)) then some text
    else none
  | _ => none

/-- An integer of a machine type. -/
def integer (α : Type) [MachineInteger α] (view : View) (document : Document) : Read α :=
  let read := if MachineInteger.signed α then Scalar.signed? else Scalar.unsigned?
  match (view.plainText? document "int").bind read with
  | none => view.unfit document (MachineInteger.name α)
  | some value =>
    match MachineInteger.ofInt? value with
    | some held => .ok held
    | none =>
      .error (view.fault document (.wrongValue (.integer value) (MachineInteger.name α)))

/-- Nothing, or the node itself. -/
def optional (view : View) (document : Document) : Read (Option View) :=
  match document.resolve view.node with
  | .scalar head .plain text =>
    match head.tag with
    | none => .ok (if Scalar.isNull text then none else some view)
    | some tag =>
      if tag = coreTag "null" then
        if Scalar.isNullWord text then .ok none
        else .error { cause := .wrongValue (.text text) "null" }
      else .ok (some view)
  | _ => .ok (some view)

/-- The items of a sequence. -/
def items (view : View) (document : Document) : Read (List View) :=
  match document.resolve view.node with
  | .sequence _ items =>
    .ok (items.mapIdx fun index node => { node, path := .item view.path index })
  | .scalar _ .plain "" => .ok []
  | _ => view.unfit document "a sequence"

/-- The path of a value under a key. -/
def valuePath (parent : Path) : Node → Path
  | .scalar _ _ name => .key parent name
  | _ => .unnamed parent

/-- The keys and values of a mapping. -/
def entries (view : View) (document : Document) (name : String) : Read (List (View × View)) :=
  match document.resolve view.node with
  | .mapping _ entries =>
    .ok (entries.map fun (key, value) =>
      ({ node := key, path := view.path }, { node := value, path := valuePath view.path key }))
  | .scalar _ .plain "" => .ok []
  | _ => view.unfit document ("struct " ++ name)

end View

/-- Reading from the nodes of a document. -/
def Document.source (document : Document) : Source View where
  text expected parse view :=
    match document.resolve view.node with
    | .scalar _ _ text => view.accept document (parse text)
    | _ => view.unfit document expected
  keyword choose view := view.keyword document choose
  boolean view :=
    match (view.plainText? document "bool").bind Scalar.boolean? with
    | some value => .ok value
    | none => view.unfit document "a boolean"
  integer α _ view := view.integer α document
  optional view := view.optional document
  items view := view.items document
  entries name view := view.entries document name
  within view read := view.within document read

/-- Why a text gives no value. -/
inductive TextFault where
  /-- The text is not one well formed document. -/
  | malformed (error : SyntaxError)
  /-- The document does not fit. -/
  | unfit (fault : Fault)
  deriving DecidableEq, Repr

/-- The message of a fault. -/
def TextFault.message : TextFault → String
  | malformed error => error.message
  | unfit fault => fault.message

end Yaml

/-- Read a text as a value of a shape. -/
def Schema.Shape.ofYaml {α : Type} (shape : Schema.Shape α) (text : String) :
    Except Yaml.TextFault α :=
  match Yaml.Document.ofText text with
  | .error error => .error (.malformed error)
  | .ok document =>
    match shape.read document.source { node := document.root, path := .root } with
    | .error fault => .error (.unfit fault)
    | .ok value => .ok value

end RunningConfig
