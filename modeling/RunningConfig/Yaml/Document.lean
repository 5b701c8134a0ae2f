import RunningConfig.Yaml.Composition
import RunningConfig.Yaml.TokenStream.OfText
/-!
# The document of a text

A text holds exactly one document, which may have directives in front of it and may be empty.
-/

namespace RunningConfig.Yaml

/-- A document: its root and every anchored node in it. -/
structure Document where
  /-- The outermost node. -/
  root : Node
  /-- The anchored nodes, each with the number of its anchor. -/
  anchored : List (Nat × Node)
  deriving Repr, Inhabited

namespace Document

/-- The document of a root. -/
def ofRoot (root : Node) : Document := { root, anchored := root.anchored }

/-- The node a number of an anchor stands for: the last one that carries it. -/
def find? (document : Document) (anchor : Nat) : Option Node :=
  document.anchored.reverse.lookup anchor

end Document

/-- What the directives of a document give. -/
structure Directives where
  /-- A version has been given. -/
  versioned : Bool := false
  /-- What the handles that have been given stand for. -/
  handles : Handles := []

/-- Take directives. -/
def takeDirectives : List Token → Directives → Parsed (Directives × List Token)
  | [], directives => .ok (directives, [])
  | token :: tokens, directives =>
    match token.kind with
    | .versionDirective major minor =>
      if directives.versioned then refuse .repeatedDirective token.start
      else if major = 1 && (minor = 1 || minor = 2) then
        takeDirectives tokens { directives with versioned := true }
      else refuse .unsupportedVersion token.start
    | .tagDirective handle start =>
      if (directives.handles.lookup handle).isSome then refuse .repeatedDirective token.start
      else takeDirectives tokens { directives with
        handles := directives.handles ++ [(handle, start)] }
    | _ => .ok (directives, token :: tokens)

/-- Compose the root of a document. Between two tokens at most four calls are nested. -/
def composeRoot (handles : Handles) (feed : Feed) : Parsed (Node × Feed) :=
  composeNode handles true false (4 * feed.tokens.length + 4) feed

/-- Compose the root of a document with a start of its own; the root may be left out. -/
def composeStarted (handles : Handles) (feed : Feed) : Parsed (Node × Feed) :=
  match feed.next.kind with
  | .versionDirective _ _ | .tagDirective _ _ | .documentStart | .documentEnd | .streamEnd =>
    .ok (Node.blank feed.next.start, feed)
  | _ => composeRoot handles feed

namespace Document

/-- Nothing but ends of documents follows. -/
def ended (tokens : List Token) : Bool :=
  match tokens.dropWhile fun token => token.kind = .documentEnd with
  | [] => true
  | token :: _ => token.kind = .streamEnd

/-- The document that tokens make up. -/
def ofTokens (tokens : List Token) : Parsed Document := do
  let feed : Feed := { tokens }
  let (root, feed) ← match feed.next.kind with
    | .streamEnd => pure (Node.blank {}, feed)
    | .versionDirective _ _ | .tagDirective _ _ | .documentStart => do
      let (directives, tokens) ← takeDirectives tokens {}
      let feed : Feed := { tokens }
      if feed.next.kind = .documentStart then
        composeStarted (directives.handles ++ Handles.standard) feed.advance
      else refuse .missingDocumentStart feed.next.start
    | _ => composeRoot Handles.standard feed
  if ended feed.tokens then return .ofRoot root
  else refuse .severalDocuments feed.next.start

/-- The document of a text. -/
def ofText (text : String) : Parsed Document := do
  ofTokens (← TokenStream.ofText text.toList)

end Document

end RunningConfig.Yaml
