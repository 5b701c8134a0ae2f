import RunningConfig.Yaml.Token
/-!
# Text that is being cut into tokens

In block context the column of a token opens and closes collections. A key shows itself only by
the colon after it, so every token that may start a key is remembered; at the colon, the token
for the key is put in front of it. Such a key stays on one line and holds at most 1024
characters.
-/

namespace RunningConfig.Yaml

/-- A token that may turn out to start a key. -/
structure KeyCandidate where
  /-- A key must stand here: the token starts a line of the current block. -/
  required : Bool
  /-- How many tokens precede it. -/
  position : Nat
  /-- Where the token starts. -/
  mark : Mark
  deriving DecidableEq, Repr

/-- A candidate can still be a key when its colon is met at a mark. -/
def KeyCandidate.reaches (candidate : KeyCandidate) (mark : Mark) : Bool :=
  candidate.mark.line = mark.line && mark.index ≤ candidate.mark.index + 1024

/-- A text of which a part has been cut into tokens. -/
structure TokenStream where
  /-- The text still to be cut. -/
  cursor : Cursor
  /-- The tokens so far, last one first. -/
  tokens : List Token := []
  /-- The column of the current block, negative outside every block. -/
  indent : Int := -1
  /-- The columns of the blocks around it, innermost first. -/
  outerIndents : List Int := []
  /-- The candidate for a key in the current collection. -/
  key : Option KeyCandidate := none
  /-- The candidates of the collections around the current one, if that is a flow collection,
  innermost first. -/
  outerKeys : List (Option KeyCandidate) := []
  /-- A key may start here. -/
  keyAllowed : Bool := true
  deriving Repr

namespace TokenStream

/-- The current collection is a flow collection. -/
def inFlow (stream : TokenStream) : Bool := !stream.outerKeys.isEmpty

/-- Where the next token starts. -/
def mark (stream : TokenStream) : Mark := stream.cursor.mark

/-- Append a token. -/
def push (stream : TokenStream) (token : Token) : TokenStream :=
  { stream with tokens := token :: stream.tokens }

/-- Put a token in front of those from a position on. -/
def insert (stream : TokenStream) (position : Nat) (token : Token) : TokenStream :=
  let later := stream.tokens.length - position
  { stream with tokens := stream.tokens.take later ++ token :: stream.tokens.drop later }

/-- Append a token that ends where a cursor is, and go on there. -/
def take (stream : TokenStream) (kind : TokenKind) (after : Cursor) : TokenStream :=
  { stream.push { kind, start := stream.mark, stop := after.mark } with cursor := after }

/-- Append a token of a number of characters. -/
def takeIndicator (stream : TokenStream) (kind : TokenKind) (count : Nat) : TokenStream :=
  stream.take kind (stream.cursor.skip count)

/-- Allow or forbid a key at the next token. -/
def allowKey (stream : TokenStream) (allowed : Bool) : TokenStream :=
  { stream with keyAllowed := allowed }

/-- Give up the candidate, which must not be required. -/
def dropKey (stream : TokenStream) : Parsed TokenStream :=
  match stream.key with
  | some candidate =>
    if candidate.required then refuse .missingColon candidate.mark
    else .ok { stream with key := none }
  | none => .ok stream

/-- Remember the next token as a candidate, if a key may start there. -/
def saveKey (stream : TokenStream) : Parsed TokenStream :=
  if stream.keyAllowed then do
    let required := !stream.inFlow && stream.indent = stream.mark.column
    let position := stream.tokens.length
    let stream ← stream.dropKey
    return { stream with key := some { required, position, mark := stream.mark } }
  else .ok stream

/-- Open a block collection at a column right of the current one; `insertToken` says where its
token goes. -/
def openBlock (stream : TokenStream) (column : Nat)
    (insertToken : TokenStream → TokenStream) : TokenStream :=
  if !stream.inFlow && stream.indent < column then
    insertToken { stream with
      indent := column, outerIndents := stream.indent :: stream.outerIndents }
  else stream

/-- Open a block collection at the next token. -/
def openBlockHere (stream : TokenStream) (kind : TokenKind) : TokenStream :=
  stream.openBlock stream.mark.column fun opened =>
    opened.push { kind, start := stream.mark, stop := stream.mark }

/-- The blocks to close before a column: how many, the block left open and those around it. -/
def closing (column : Int) (indent : Int) : List Int → Nat × Int × List Int
  | [] => (0, indent, [])
  | outer :: around =>
    if column < indent then
      let (count, rest) := closing column outer around
      (count + 1, rest)
    else (0, indent, outer :: around)

/-- Close the blocks right of a column. -/
def closeBlocks (stream : TokenStream) (column : Int) : TokenStream :=
  if stream.inFlow then stream
  else
    let (count, indent, outerIndents) := closing column stream.indent stream.outerIndents
    let ends := List.replicate count
      { kind := .blockEnd, start := stream.mark, stop := stream.mark }
    { stream with tokens := ends ++ stream.tokens, indent, outerIndents }

/-- Go over blanks, comments and breaks. A break in block context allows a key; a tab where a
key may start stops. -/
def skipGap (flow : Bool) :
    (comment : Bool) → List Char → Mark → (keyAllowed : Bool) → Cursor × Bool
  | _, [], mark, keyAllowed => ({ rest := [], mark }, keyAllowed)
  | _, '\r' :: '\n' :: rest, mark, keyAllowed =>
    skipGap flow false rest (mark.nextLine 2) (keyAllowed || !flow)
  | comment, char :: rest, mark, keyAllowed =>
    if isBreak char then skipGap flow false rest (mark.nextLine 1) (keyAllowed || !flow)
    else if comment || char = ' ' || (char = '\t' && (flow || !keyAllowed)) then
      skipGap flow comment rest (mark.advance 1) keyAllowed
    else if char = '#' then skipGap flow true rest (mark.advance 1) keyAllowed
    else ({ rest := char :: rest, mark }, keyAllowed)

/-- Go to the next token, and close the blocks right of it. -/
def advance (stream : TokenStream) : TokenStream :=
  let (cursor, keyAllowed) :=
    skipGap stream.inFlow false stream.cursor.rest stream.mark stream.keyAllowed
  ({ stream with cursor, keyAllowed }).closeBlocks cursor.mark.column

/-- Close every block and give up the candidate, before what belongs to no block. -/
def leaveBlocks (stream : TokenStream) : Parsed TokenStream := do
  let stream ← (stream.closeBlocks (-1)).dropKey
  return stream.allowKey false

end TokenStream

end RunningConfig.Yaml
