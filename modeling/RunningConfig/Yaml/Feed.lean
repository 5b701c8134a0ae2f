import RunningConfig.Yaml.Node
/-!
# Tokens as they are composed

A feed gives the tokens one after the other and keeps the anchors that have been met. In front
of a node may stand a tag and an anchor; the handle of a tag stands for the start of it.
-/

namespace RunningConfig.Yaml

/-- Tokens still to be composed, and the anchors that have been met with their numbers. -/
structure Feed where
  /-- The tokens still to come. -/
  tokens : List Token
  /-- The names met, each with the number it has now. -/
  anchors : List (String × Nat) := []
  deriving Repr

namespace Feed

/-- The next token; after the last one the end of the text. -/
def next (feed : Feed) : Token :=
  feed.tokens.head?.getD { kind := .streamEnd, start := {}, stop := {} }

/-- Go over a token. -/
def advance (feed : Feed) : Feed := { feed with tokens := feed.tokens.tail }

/-- Note an anchor. Its number is the count of names met before; a name met again is
renumbered. -/
def note (feed : Feed) (name : String) : Nat × Feed :=
  let number := feed.anchors.length
  let others := feed.anchors.filter fun entry => entry.1 ≠ name
  (number, { feed with anchors := (name, number) :: others })

end Feed

/-- What the handles of tags stand for. -/
abbrev Handles := List (String × String)

namespace Handles

/-- The handles that need no directive. -/
def standard : Handles := [("!", "!"), ("!!", "tag:yaml.org,2002:")]

/-- A tag of a handle and a suffix; a tag in full has no handle. -/
def tag? (handles : Handles) (handle suffix : String) : Option String :=
  if handle.isEmpty then some suffix else (handles.lookup handle).map (· ++ suffix)

end Handles

/-- What stands in front of a node: a tag and an anchor in either order. -/
structure Properties where
  /-- The handle and the suffix of the tag. -/
  tag : Option (String × String) := none
  /-- The name of the anchor. -/
  anchor : Option String := none

/-- Take the properties of a node. -/
def takeProperties (feed : Feed) : Properties × Feed :=
  match feed.next.kind with
  | .anchor anchor =>
    match feed.advance.next.kind with
    | .tag handle suffix =>
      ({ tag := some (handle, suffix), anchor := some anchor }, feed.advance.advance)
    | _ => ({ anchor := some anchor }, feed.advance)
  | .tag handle suffix =>
    match feed.advance.next.kind with
    | .anchor anchor =>
      ({ tag := some (handle, suffix), anchor := some anchor }, feed.advance.advance)
    | _ => ({ tag := some (handle, suffix) }, feed.advance)
  | _ => ({}, feed)

/-- Take the head of a node. -/
def takeHead (handles : Handles) (feed : Feed) : Parsed (Head × Feed) := do
  let mark := feed.next.start
  let (properties, feed) := takeProperties feed
  let tag ← match properties.tag with
    | some (handle, suffix) =>
      match handles.tag? handle suffix with
      | some tag => pure (some tag)
      | none => refuse .undefinedTagHandle mark
    | none => pure none
  match properties.anchor with
  | some name =>
    let (number, feed) := feed.note name
    return ({ mark, tag, anchor := some number }, feed)
  | none => return ({ mark, tag }, feed)

end RunningConfig.Yaml
