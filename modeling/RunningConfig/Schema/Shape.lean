import RunningConfig.Address
import RunningConfig.Keyword
import RunningConfig.Number.Machine
import RunningConfig.Schema.Fault
import RunningConfig.Value
/-!
# Shapes of the model

A shape describes how a type of the model is laid out in a document: which scalars, lists and
records stand where, under which names, with which defaults. One description serves both
directions. `Shape.read` reads a value of the type from any source of nodes, and `Shape.write`
writes it as a model value under the canonical names.

Reading meets the entries of a record in the order of the document. The first entry that is
unknown, given twice or unfit is the fault; only then is the first missing field, in the order
of declaration.
-/

namespace RunningConfig.Schema

/-- What a shape can be read from: a kind of node, and how each kind of value is found at one.
Every reader may fail with a fault of its own wording and place. -/
structure Source (ν : Type) where
  /-- Text that is then parsed; `expected` says what is looked for. -/
  text {α : Type} (expected : String) (parse : String → Except Cause α) : ν → Read α
  /-- One of a set of keywords. -/
  keyword {α : Type} (choose : String → Except Cause α) : ν → Read α
  /-- A truth value. -/
  boolean : ν → Read Bool
  /-- An integer of a machine type. -/
  integer (α : Type) [MachineInteger α] : ν → Read α
  /-- Nothing, or the node to read instead. -/
  optional : ν → Read (Option ν)
  /-- The items of a list. -/
  items : ν → Read (List ν)
  /-- The keys and values of a record of the given name. -/
  entries (name : String) : ν → Read (List (ν × ν))
  /-- Give a fault that has no place yet the place of a node. -/
  within {α : Type} : ν → Read α → Read α

/-- The names of a field: the canonical one and possibly another that is accepted. -/
structure FieldName where
  /-- The canonical name, which is written. -/
  name : String
  /-- Another name that is read as well. -/
  also : Option String := none

namespace FieldName

/-- A name that is the field's, canonical or not. -/
def accepts (field : FieldName) (name : String) : Bool :=
  name = field.name || field.also = some name

/-- The accepted names, the other one first. -/
def candidates (field : FieldName) : List String := field.also.toList ++ [field.name]

end FieldName

mutual

/-- How a type is laid out in a document. -/
inductive Shape : Type → Type 1 where
  /-- Any text. -/
  | text : Shape String
  /-- An address, as a dotted quad. -/
  | address : Shape Address
  /-- A truth value. -/
  | boolean : Shape Bool
  /-- An integer of a machine type. -/
  | integer (α : Type) [MachineInteger α] : Shape α
  /-- One of a set of keywords. -/
  | keyword (α : Type) [Keyword α] : Shape α
  /-- What may be missing or null. -/
  | option {α : Type} (inner : Shape α) : Shape (Option α)
  /-- A list, each item of which has the same shape. -/
  | list {α : Type} (item : Shape α) : Shape (List α)
  /-- A record; the name is used in messages. -/
  | record {α σ : Type} (name : String) (fields : Fields α σ) : Shape α
  /-- A type that is written in the form of another and admits what fits it. -/
  | refine {α β : Type} (form : Shape α) (accept : α → Except Cause β) (toForm : β → α)
      (accept_toForm : ∀ value, accept (toForm value) = .ok value) : Shape β

/-- The fields of a record in the order of declaration. The first type holds the values of the
fields, the second what has been read of them so far. -/
inductive Fields : Type → Type → Type 1 where
  /-- No further field. -/
  | nil : Fields Unit Unit
  /-- A field that has to be given. -/
  | required {α β σ : Type} (field : FieldName) (shape : Shape α) (rest : Fields β σ) :
      Fields (α × β) (Option α × σ)
  /-- A field with a default. -/
  | defaulted {α β σ : Type} (field : FieldName) (shape : Shape α) (fallback : α)
      (rest : Fields β σ) : Fields (α × β) (Option α × σ)
  /-- An optional field that is left out of what is written when it is unset. -/
  | sparse {α β σ : Type} (field : FieldName) (shape : Shape α) (rest : Fields β σ) :
      Fields (Option α × β) (Option (Option α) × σ)

end

namespace Fields

/-- Nothing read yet. -/
def unread : {β σ : Type} → Fields β σ → σ
  | _, _, .nil => ()
  | _, _, .required _ _ rest => (none, rest.unread)
  | _, _, .defaulted _ _ _ rest => (none, rest.unread)
  | _, _, .sparse _ _ rest => (none, rest.unread)

/-- The names of all fields, as messages list them. -/
def candidates : {β σ : Type} → Fields β σ → List String
  | _, _, .nil => []
  | _, _, .required field _ rest => field.candidates ++ rest.candidates
  | _, _, .defaulted field _ _ rest => field.candidates ++ rest.candidates
  | _, _, .sparse field _ rest => field.candidates ++ rest.candidates

/-- The values of the fields, once every entry has been read. -/
def complete : {β σ : Type} → Fields β σ → σ → Read β
  | _, _, .nil, _ => .ok ()
  | _, _, .required field _ rest, (slot, slots) =>
    match slot with
    | some value => do return (value, ← rest.complete slots)
    | none => .error { cause := .missingField field.name }
  | _, _, .defaulted _ _ fallback rest, (slot, slots) => do
    return (slot.getD fallback, ← rest.complete slots)
  | _, _, .sparse _ _ rest, (slot, slots) => do return (slot.join, ← rest.complete slots)

end Fields

/-- Fill the slot of a field, which must still be open. -/
def fill {ν α σ : Type} (field : FieldName) (read : ν → Read α) (node : ν)
    (slots : Option α × σ) : Read (Option α × σ) :=
  match slots with
  | (some _, _) => .error { cause := .duplicateField field.name }
  | (none, rest) => do return (some (← read node), rest)

/-- Fill a slot behind the first one. -/
def behind {ν τ σ : Type} (update : ν → σ → Read σ) (node : ν) (slots : τ × σ) : Read (τ × σ) := do
  return (slots.1, ← update node slots.2)

/-- Read the entries of a record in order. A key is looked up first, then its value is read. -/
def readEntries {ν σ : Type} (source : Source ν) (candidates : List String)
    (slot? : String → Option (ν → σ → Read σ)) : List (ν × ν) → σ → Read σ
  | [], slots => .ok slots
  | (key, value) :: rest, slots => do
    let update ← source.text "field identifier" (fun name =>
      match slot? name with
      | some update => .ok update
      | none => .error (.unknownField name candidates)) key
    readEntries source candidates slot? rest (← update value slots)

mutual

/-- Read a value of a shape from a node. -/
def Shape.read {ν : Type} (source : Source ν) : {α : Type} → Shape α → ν → Read α
  | _, .text, node => source.text "a string" .ok node
  | _, .address, node =>
    source.text "IPv4 address" (fun text =>
      match Address.ofText? text with
      | some address => .ok address
      | none => .error .addressSyntax) node
  | _, .boolean, node => source.boolean node
  | _, @Shape.integer α _, node => source.integer α node
  | _, @Shape.keyword α _, node =>
    source.keyword (fun word =>
      match (Keyword.ofWord? word : Option α) with
      | some choice => .ok choice
      | none => .error (.unknownVariant word (Keyword.words α))) node
  | _, .option inner, node => do
    match ← source.optional node with
    | none => return none
    | some node => return some (← inner.read source node)
  | _, .list item, node => source.within node do
    (← source.items node).mapM (item.read source)
  | _, .record name fields, node => source.within node do
    let entries ← source.entries name node
    let slots ← readEntries source fields.candidates (fields.slot? source) entries fields.unread
    fields.complete slots
  | _, .refine form accept _ _, node => do
    match accept (← form.read source node) with
    | .ok value => return value
    | .error cause => .error { cause }

/-- How the field of a name is read into its slot, if there is such a field. -/
def Fields.slot? {ν : Type} (source : Source ν) :
    {β σ : Type} → Fields β σ → String → Option (ν → σ → Read σ)
  | _, _, .nil, _ => none
  | _, _, .required field shape rest, name =>
    if field.accepts name then some (fill field (shape.read source))
    else (rest.slot? source name).map behind
  | _, _, .defaulted field shape _ rest, name =>
    if field.accepts name then some (fill field (shape.read source))
    else (rest.slot? source name).map behind
  | _, _, .sparse field shape rest, name =>
    if field.accepts name then
      some (fill field fun node => do
        match ← source.optional node with
        | none => return none
        | some node => return some (← shape.read source node))
    else (rest.slot? source name).map behind

end

mutual

/-- Write a value of a shape as a model value. -/
def Shape.write : {α : Type} → Shape α → α → Value
  | _, .text, value => .text value
  | _, .address, value => .text value.toText
  | _, .boolean, value => .boolean value
  | _, @Shape.integer _ _, value => .integer (MachineInteger.toInt value)
  | _, @Shape.keyword _ _, value => .text (Keyword.word value)
  | _, .option _, none => .null
  | _, .option inner, some value => inner.write value
  | _, .list item, values => .list (values.map item.write)
  | _, .record _ fields, values => .object (fields.write values)
  | _, .refine form _ toForm _, value => form.write (toForm value)

/-- Write the fields of a record in the order of declaration. -/
def Fields.write : {β σ : Type} → Fields β σ → β → List (String × Value)
  | _, _, .nil, _ => []
  | _, _, .required field shape rest, (value, values) =>
    (field.name, shape.write value) :: rest.write values
  | _, _, .defaulted field shape _ rest, (value, values) =>
    (field.name, shape.write value) :: rest.write values
  | _, _, .sparse field shape rest, (value, values) =>
    (value.map fun value => (field.name, shape.write value)).toList ++ rest.write values

end

end RunningConfig.Schema
