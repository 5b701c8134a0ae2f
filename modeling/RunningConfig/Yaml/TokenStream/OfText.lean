import RunningConfig.Yaml.Block
import RunningConfig.Yaml.Plain
import RunningConfig.Yaml.Quoted
import RunningConfig.Yaml.Tag
import RunningConfig.Yaml.TokenStream.Basic
/-!
# The tokens of a text

A text is cut into tokens from left to right; the next characters and the context decide what
the next token is.
-/

namespace RunningConfig.Yaml.TokenStream

/-- Take a directive. -/
def takeDirective (stream : TokenStream) : Parsed TokenStream := do
  let stream ← stream.leaveBlocks
  let (token, after) ← stream.cursor.takeDirective
  return { stream.push token with cursor := after }

/-- Take a marker that starts or ends a document. -/
def takeMarker (stream : TokenStream) (kind : TokenKind) : Parsed TokenStream := do
  let stream ← stream.leaveBlocks
  return stream.takeIndicator kind 3

/-- Take the start of a flow collection. -/
def takeFlowStart (stream : TokenStream) (kind : TokenKind) : Parsed TokenStream := do
  let stream ← stream.saveKey
  let stream := stream.takeIndicator kind 1
  return { stream with
    key := none, outerKeys := stream.key :: stream.outerKeys, keyAllowed := true }

/-- Take the end of a flow collection. -/
def takeFlowEnd (stream : TokenStream) (kind : TokenKind) : Parsed TokenStream := do
  let stream ← stream.dropKey
  let stream := (stream.takeIndicator kind 1).allowKey false
  match stream.outerKeys with
  | key :: outerKeys => return { stream with key, outerKeys }
  | [] => return stream

/-- Take a comma. -/
def takeComma (stream : TokenStream) : Parsed TokenStream := do
  let stream ← stream.dropKey
  return (stream.takeIndicator .flowEntry 1).allowKey true

/-- Take the indicator of an entry of a block sequence. -/
def takeEntry (stream : TokenStream) : Parsed TokenStream :=
  if !stream.inFlow && !stream.keyAllowed then refuse .misplacedEntry stream.mark
  else do
    let stream ← (stream.openBlockHere .blockSequenceStart).dropKey
    return (stream.takeIndicator .blockEntry 1).allowKey true

/-- Take the indicator of a key. -/
def takeKey (stream : TokenStream) : Parsed TokenStream :=
  if !stream.inFlow && !stream.keyAllowed then refuse .misplacedKey stream.mark
  else do
    let stream ← (stream.openBlockHere .blockMappingStart).dropKey
    return (stream.takeIndicator .key 1).allowKey !stream.inFlow

/-- Take the indicator of a value whose key has its own indicator, or is left out. -/
def takeBareValue (stream : TokenStream) : Parsed TokenStream :=
  if !stream.inFlow && !stream.keyAllowed then refuse .misplacedValue stream.mark
  else
    let stream := stream.openBlockHere .blockMappingStart
    .ok ((stream.takeIndicator .value 1).allowKey !stream.inFlow)

/-- Take the indicator of a value whose key is the candidate. -/
def takeKeyedValue (stream : TokenStream) (candidate : KeyCandidate) : TokenStream :=
  let put (kind : TokenKind) (stream : TokenStream) :=
    stream.insert candidate.position { kind, start := candidate.mark, stop := candidate.mark }
  let stream := (put .key { stream with key := none }).openBlock candidate.mark.column
    (put .blockMappingStart)
  (stream.takeIndicator .value 1).allowKey false

/-- Take the indicator of a value. -/
def takeValue (stream : TokenStream) : Parsed TokenStream :=
  match stream.key with
  | some candidate =>
    if candidate.reaches stream.mark then .ok (stream.takeKeyedValue candidate)
    else if candidate.required then refuse .missingColon candidate.mark
    else takeBareValue { stream with key := none }
  | none => stream.takeBareValue

/-- Take a reference or an anchor. -/
def takeName (stream : TokenStream) (kind : String → TokenKind) : Parsed TokenStream := do
  let stream ← stream.saveKey
  let (name, after) ← stream.cursor.takeName
  return (stream.take (kind name) after).allowKey false

/-- Take a tag. -/
def takeTag (stream : TokenStream) : Parsed TokenStream := do
  let stream ← stream.saveKey
  let ((handle, suffix), after) ← stream.cursor.takeTag
  return (stream.take (.tag handle suffix) after).allowKey false

/-- Take a block scalar. -/
def takeBlockScalar (stream : TokenStream) (literal : Bool) : Parsed TokenStream := do
  let stream ← stream.dropKey
  let (text, after) ← Block.take literal stream.indent stream.cursor
  let style := if literal then .literal else .folded
  return (stream.take (.scalar style (String.ofList text)) after).allowKey true

/-- Take a quoted scalar. -/
def takeQuoted (stream : TokenStream) (single : Bool) : Parsed TokenStream := do
  let stream ← stream.saveKey
  let (text, after) ← Quoted.take single stream.cursor
  let style := if single then .singleQuoted else .doubleQuoted
  return (stream.take (.scalar style (String.ofList text)) after).allowKey false

/-- Take a plain scalar. -/
def takePlain (stream : TokenStream) : Parsed TokenStream := do
  let stream ← stream.saveKey
  let taken ← Plain.take stream.inFlow (stream.indent + 1).toNat stream.cursor
  let token : Token :=
    { kind := .scalar .plain (String.ofList taken.text), start := stream.mark, stop := taken.stop }
  return { stream.push token with cursor := taken.cursor, keyAllowed := taken.broken }

/-- A plain scalar starts with a character that is no indicator, with a hyphen and no blank
after it, or in block context with a question mark or colon and no gap after it. -/
def startsPlain (flow : Bool) (char : Char) (rest : List Char) : Bool :=
  !isIndicator char || (char = '-' && !rest.head?.any isBlank)
    || (!flow && (char = '?' || char = ':') && !atGap rest)

/-- Take the token that starts with a character. -/
def takeToken (stream : TokenStream) (char : Char) (rest : List Char) : Parsed TokenStream :=
  if stream.mark.column = 0 && char = '%' then stream.takeDirective
  else if stream.cursor.atMarker '-' then stream.takeMarker .documentStart
  else if stream.cursor.atMarker '.' then stream.takeMarker .documentEnd
  else if char = '[' then stream.takeFlowStart .flowSequenceStart
  else if char = '\x7b' then stream.takeFlowStart .flowMappingStart
  else if char = ']' then stream.takeFlowEnd .flowSequenceEnd
  else if char = '\x7d' then stream.takeFlowEnd .flowMappingEnd
  else if char = ',' then stream.takeComma
  else if char = '-' && atGap rest then stream.takeEntry
  else if char = '?' && (stream.inFlow || atGap rest) then stream.takeKey
  else if char = ':' && (stream.inFlow || atGap rest) then stream.takeValue
  else if char = '*' then stream.takeName .reference
  else if char = '&' then stream.takeName .anchor
  else if char = '!' then stream.takeTag
  else if char = '|' && !stream.inFlow then stream.takeBlockScalar true
  else if char = '>' && !stream.inFlow then stream.takeBlockScalar false
  else if char = '\x27' then stream.takeQuoted true
  else if char = '"' then stream.takeQuoted false
  else if startsPlain stream.inFlow char rest then stream.takePlain
  else refuse .strayCharacter stream.mark

/-- Close what is open at the end of the text. The end counts as the start of a line. -/
def finish (stream : TokenStream) : Parsed (List Token) := do
  let mark := if stream.mark.column = 0 then stream.mark else stream.mark.nextLine 0
  let stream ← ({ stream with cursor := { stream.cursor with mark } }).leaveBlocks
  return (stream.push { kind := .streamEnd, start := mark, stop := mark }).tokens.reverse

/-- Take all further tokens, of which each takes a unit of fuel. -/
def takeAll : Nat → TokenStream → Parsed (List Token)
  | 0, stream => stream.finish
  | fuel + 1, stream =>
    let stream := stream.advance
    match stream.cursor.rest with
    | [] => stream.finish
    | char :: rest => do takeAll fuel (← stream.takeToken char rest)

/-- Where the first token is looked for: a mark of byte order at the very start is skipped. -/
def start (text : List Char) : Cursor :=
  let cursor : Cursor := { rest := text }
  if text.head? = some '\uFEFF' then cursor.skip 1 else cursor

/-- The tokens of a text. -/
def ofText (text : List Char) : Parsed (List Token) :=
  if text.all isAllowed then takeAll (text.length + 1) { cursor := start text }
  else refuse .forbiddenCharacter {}

end RunningConfig.Yaml.TokenStream
