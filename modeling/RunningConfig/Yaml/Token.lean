import RunningConfig.Yaml.Cursor
/-!
# Tokens of yaml

What yaml text is cut into: the boundaries of documents and collections, the indicators of
entries, keys and values, and scalars with their anchors and tags. `Flaw` names each way in
which a text can fail to be one well formed document.
-/

namespace RunningConfig.Yaml

/-- How a scalar is written. -/
inductive ScalarStyle where
  /-- As it is, without quotes. -/
  | plain
  /-- Between single quotes, which have no escapes. -/
  | singleQuoted
  /-- Between double quotes, with escapes. -/
  | doubleQuoted
  /-- As a block that keeps its breaks. -/
  | literal
  /-- As a block whose breaks become spaces. -/
  | folded
  deriving DecidableEq, Repr, Inhabited

/-- What a token stands for. -/
inductive TokenKind where
  /-- The end of the text. -/
  | streamEnd
  /-- The version that the text says it is written in. -/
  | versionDirective (major minor : Nat)
  /-- What a handle in front of a tag stands for. -/
  | tagDirective (handle start : String)
  /-- The marker in front of a document. -/
  | documentStart
  /-- The marker behind a document. -/
  | documentEnd
  /-- The first item of a block sequence. -/
  | blockSequenceStart
  /-- The first key of a block mapping. -/
  | blockMappingStart
  /-- The end of the indentation of a block. -/
  | blockEnd
  /-- An opening bracket. -/
  | flowSequenceStart
  /-- A closing bracket. -/
  | flowSequenceEnd
  /-- An opening brace. -/
  | flowMappingStart
  /-- A closing brace. -/
  | flowMappingEnd
  /-- The hyphen of an item. -/
  | blockEntry
  /-- The comma between entries. -/
  | flowEntry
  /-- What precedes a key, be it a question mark or nothing. -/
  | key
  /-- The colon in front of a value. -/
  | value
  /-- A reference to an anchored node. -/
  | reference (name : String)
  /-- The name of the node that follows. -/
  | anchor (name : String)
  /-- A tag: its handle, empty for one in full, and what follows the handle. -/
  | tag (handle suffix : String)
  /-- A text, and how it is written. -/
  | scalar (style : ScalarStyle) (text : String)
  deriving DecidableEq, Repr, Inhabited

/-- A token and where it starts and stops. -/
structure Token where
  /-- What the token stands for. -/
  kind : TokenKind
  /-- Where it starts. -/
  start : Mark
  /-- Where it stops. -/
  stop : Mark
  deriving DecidableEq, Repr, Inhabited

/-- A way in which a text is not one well formed document. -/
inductive Flaw where
  /-- The text holds a control character. -/
  | forbiddenCharacter
  /-- No token starts with the character. -/
  | strayCharacter
  /-- A tab stands where spaces have to. -/
  | tabInIndentation
  /-- What has to be a key is not followed by a colon. -/
  | missingColon
  /-- A hyphen stands where no item may. -/
  | misplacedEntry
  /-- A question mark stands where no key may. -/
  | misplacedKey
  /-- A colon stands where no value may. -/
  | misplacedValue
  /-- A directive is not written like one. -/
  | badDirective
  /-- The name of an anchor or a reference is empty or goes on wrongly. -/
  | badAnchor
  /-- A tag is not written like one. -/
  | badTag
  /-- The header of a block scalar is not written like one. -/
  | badBlockHeader
  /-- An escape means nothing. -/
  | badEscape
  /-- The text ends inside quotes. -/
  | unclosedQuote
  /-- A marker of documents starts a line inside quotes. -/
  | markerInQuote
  /-- A colon stands inside a plain scalar of a flow collection. -/
  | strayColon
  /-- A version or a handle is given twice. -/
  | repeatedDirective
  /-- The version is not one that is known. -/
  | unsupportedVersion
  /-- Directives are not followed by the marker of a document. -/
  | missingDocumentStart
  /-- The handle of a tag stands for nothing. -/
  | undefinedTagHandle
  /-- A node has to stand here. -/
  | missingNode
  /-- An item has to start here. -/
  | missingEntry
  /-- A key has to start here. -/
  | missingKey
  /-- A comma or the end of the flow collection has to stand here. -/
  | missingComma
  /-- A reference names no anchor that has been met. -/
  | unknownAnchor
  /-- More than one document is there. -/
  | severalDocuments
  deriving DecidableEq, Repr

/-- The wording of a flaw. -/
def Flaw.message : Flaw → String
  | forbiddenCharacter => "control characters are not allowed"
  | strayCharacter => "found character that cannot start any token"
  | tabInIndentation => "found a tab character where indentation is expected"
  | missingColon => "could not find expected ':'"
  | misplacedEntry => "block sequence entries are not allowed in this context"
  | misplacedKey => "mapping keys are not allowed in this context"
  | misplacedValue => "mapping values are not allowed in this context"
  | badDirective => "found a malformed directive"
  | badAnchor => "did not find expected alphabetic or numeric character"
  | badTag => "found a malformed tag"
  | badBlockHeader => "found a malformed header of a block scalar"
  | badEscape => "found a malformed escape sequence"
  | unclosedQuote => "found unexpected end of stream"
  | markerInQuote => "found unexpected document indicator"
  | strayColon => "found unexpected ':'"
  | repeatedDirective => "found duplicate directive"
  | unsupportedVersion => "found incompatible YAML document"
  | missingDocumentStart => "did not find expected <document start>"
  | undefinedTagHandle => "found undefined tag handle"
  | missingNode => "did not find expected node content"
  | missingEntry => "did not find expected '-' indicator"
  | missingKey => "did not find expected key"
  | missingComma => "did not find expected ',' or closing bracket"
  | unknownAnchor => "unknown anchor"
  | severalDocuments => "deserializing from YAML containing more than one document is not supported"

/-- A flaw and where it was found. -/
structure SyntaxError where
  /-- What is wrong. -/
  flaw : Flaw
  /-- Where it was found. -/
  mark : Mark
  deriving DecidableEq, Repr

/-- The message of an error. -/
def SyntaxError.message (error : SyntaxError) : String :=
  error.flaw.message ++ " at line " ++ toString (error.mark.line + 1) ++ " column "
    ++ toString (error.mark.column + 1)

/-- What cutting up and composing give. -/
abbrev Parsed (α : Type) := Except SyntaxError α

/-- Refuse a text at a mark. -/
def refuse {α : Type} (flaw : Flaw) (mark : Mark) : Parsed α := .error { flaw, mark }

end RunningConfig.Yaml
