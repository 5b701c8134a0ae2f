import RunningConfig.Yaml.Token
/-!
# Nodes of a document

A document is a tree of scalars, sequences and mappings. A node may carry a tag and an anchor,
and a reference stands for the node that carries its anchor.
-/

namespace RunningConfig.Yaml

/-- What every node but a reference carries. -/
structure Head where
  /-- Where the node starts, its tag and anchor included. -/
  mark : Mark
  /-- The tag in full, if the node has one. -/
  tag : Option String := none
  /-- The number of its anchor. -/
  anchor : Option Nat := none
  deriving DecidableEq, Repr, Inhabited

/-- A node of a document. -/
inductive Node where
  /-- A text, and how it is written. -/
  | scalar (head : Head) (style : ScalarStyle) (text : String)
  /-- A list of nodes. -/
  | sequence (head : Head) (items : List Node)
  /-- Pairs of a key and a value, both of them nodes. -/
  | mapping (head : Head) (entries : List (Node × Node))
  /-- A node that stands elsewhere, under an anchor. -/
  | reference (mark : Mark) (anchor : Nat)
  deriving Repr, Inhabited

namespace Node

/-- The scalar that stands where nothing is written. -/
def blank (mark : Mark) : Node := scalar { mark } .plain ""

/-- Where a node starts. -/
def mark : Node → Mark
  | scalar head _ _ | sequence head _ | mapping head _ => head.mark
  | reference mark _ => mark

mutual

/-- The anchored nodes at and below a node, in the order they start. -/
def anchored : Node → List (Nat × Node)
  | .scalar head style text => (head.anchor.map (·, .scalar head style text)).toList
  | .sequence head items =>
    (head.anchor.map (·, .sequence head items)).toList ++ anchoredItems items
  | .mapping head entries =>
    (head.anchor.map (·, .mapping head entries)).toList ++ anchoredEntries entries
  | .reference _ _ => []

/-- The anchored nodes of the items of a sequence. -/
def anchoredItems : List Node → List (Nat × Node)
  | [] => []
  | item :: items => item.anchored ++ anchoredItems items

/-- The anchored nodes of the entries of a mapping. -/
def anchoredEntries : List (Node × Node) → List (Nat × Node)
  | [] => []
  | (key, value) :: entries => key.anchored ++ value.anchored ++ anchoredEntries entries

end

end Node

end RunningConfig.Yaml
